import ClientGen.Dict
import ClientGen.Yaml.Node
import ClientGen.Yaml.Plain

/-!
# Values of YAML documents

A document denotes the same kind of value as a JSON text. Keys are the texts of their scalars.
Tags outside of the core have no value.
-/

namespace ClientGen.Yaml

def coreTag (name : String) : String := "tag:yaml.org,2002:" ++ name

def isOwnTag (tag? : Option String) : Bool :=
  tag?.any fun tag => tag.startsWith "!" && tag ≠ "!"

def scalarValue? (tag? : Option String) (style : Style) (text : String) : Option Json :=
  if isOwnTag tag? then none
  else match tag? with
    | none => if style = .plain then plainValue? text else some (.str text)
    | some tag =>
      if tag = coreTag "bool" then (truthOf? text).map .bool
      else if tag = coreTag "int" then (integerValue? text).join
      else if tag = coreTag "float" then realValue? text
      else if tag = coreTag "null" then (if isNullText text then some .null else none)
      else some (.str text)

def Document.follow (document : Document) (node : Node) : StateT Nat Option Node := do
  match node with
  | .alias number =>
    match ← get with
    | 0 => failure
    | left + 1 =>
      set left
      document.anchored.lookup number
  | node => return node

def Document.key (document : Document) (node : Node) : StateT Nat Option String := do
  match ← document.follow node with
  | .scalar _ _ text => return text
  | _ => failure

def Document.valueOf (document : Document) : Nat → Node → StateT Nat Option Json
  | 0, _ => failure
  | depth + 1, node => do
    match ← document.follow node with
    | .scalar tag? style text => scalarValue? tag? style text
    | .sequence tag? items =>
      if isOwnTag tag? || depth = 0 then failure
      return .arr (← items.mapM (document.valueOf depth))
    | .mapping tag? entries =>
      if isOwnTag tag? || depth = 0 then failure
      let members ← entries.mapM fun (key, value) => do
        return (← document.key key, ← document.valueOf depth value)
      return .obj (Dict.ofList members).entries
    | .alias _ => failure

/-- How deep collections may be nested. -/
def maxDepth : Nat := 128

def Document.aliasLimit (document : Document) : Nat := 100 * document.size

def Document.value? (document : Document) : Option Json :=
  ((document.valueOf (maxDepth + 1) document.root).run document.aliasLimit).map (·.1)

end ClientGen.Yaml

namespace ClientGen

def Json.ofYaml? (text : String) : Option Json :=
  (Yaml.Document.read? text).bind (·.value?)

end ClientGen
