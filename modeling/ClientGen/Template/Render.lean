import ClientGen.Json.Basic
import ClientGen.Json.Pointer
import ClientGen.Template.Basic

/-!
# Rendering templates

A template is rendered with a context. A value that is missing can be tested but not inserted or
looped over; nothing is rendered if that is tried.
-/

namespace ClientGen

structure LoopTurn where
  key? : Option String
  item : String
  keyText : String
  value : Json
  index : Nat
  count : Nat
deriving Inhabited

/-- The turns of the loops around a node, innermost first, and the context. -/
structure RenderScope where
  turns : List LoopTurn
  context : Json
deriving Inhabited

def partAt? (path : List String) (value : Json) : Option Json :=
  path.foldl (fun place name => place.bind (Json.step? name.toList)) (some value)

def LoopTurn.find? (turn : LoopTurn) (path : List String) : Option Json :=
  match path with
  | ["loop", "index"] => some (.ofNat (turn.index + 1))
  | ["loop", "index0"] => some (.ofNat turn.index)
  | ["loop", "first"] => some (.bool (turn.index == 0))
  | ["loop", "last"] => some (.bool (turn.index + 1 == turn.count))
  | [] => none
  | name :: rest =>
    if name = turn.item then partAt? rest turn.value
    else if rest = [] && turn.key? = some name then some (.str turn.keyText)
    else none

/-- The value of a path: that of the innermost loop that has one, else that of the context. -/
def RenderScope.find? (scope : RenderScope) (path : List String) : Option Json :=
  match scope.turns.findSome? (·.find? path) with
  | some value => some value
  | none => partAt? path scope.context

mutual

def insertedText : Json → String
  | .null => ""
  | .bool b => if b then "true" else "false"
  | .num n => n.plainText
  | .str s => s
  | .arr items => "[" ++ String.intercalate ", " (insertedTexts items) ++ "]"
  | .obj _ => "[object]"

def insertedTexts : List Json → List String
  | [] => []
  | item :: items => insertedText item :: insertedTexts items

end

def isTruthy : Json → Bool
  | .null => false
  | .bool b => b
  | .num n => !n.isZero
  | .str s => s ≠ ""
  | .arr items => !items.isEmpty
  | .obj members => !members.isEmpty

def readSeparator : List Char → List Char
  | '\\' :: 'n' :: rest => '\n' :: readSeparator rest
  | '\\' :: 't' :: rest => '\t' :: readSeparator rest
  | c :: rest => c :: readSeparator rest
  | [] => []

/-- Applies a filter: `length` counts, `join` joins the texts of a list. -/
def Filter.apply? (filter : Filter) (value : Json) : Option Json :=
  match filter.name, value with
  | "length", .arr items => some (.ofNat items.length)
  | "length", .obj members => some (.ofNat members.length)
  | "length", .str s => some (.ofNat s.length)
  | "join", .arr items =>
    let separator := (filter.arguments.lookup "sep").getD ""
    some (.str (String.intercalate (String.ofList (readSeparator separator.toList))
      (insertedTexts items)))
  | _, _ => none

def Expression.value? (e : Expression) (scope : RenderScope) : Option Json :=
  e.filters.foldl (fun value filter => value.bind filter.apply?) (scope.find? e.path)

/-- The keys and values that a loop runs over: the items of a list or the characters of a text,
or the members of an object for a loop that names their keys. -/
def loopItems? (hasKey : Bool) : Json → Option (List (String × Json))
  | .arr items => if hasKey then none else some (items.map fun item => ("", item))
  | .str s =>
    if hasKey then none else some (s.toList.map fun c => ("", .str (String.singleton c)))
  | .obj members => if hasKey then some members else none
  | _ => none

def loopTurns (key? : Option String) (item : String) (items : List (String × Json)) :
    List LoopTurn :=
  items.zipIdx.map fun ((keyText, value), index) =>
    { key?, item, keyText, value, index, count := items.length }

mutual

def TemplateNode.render? (scope : RenderScope) : TemplateNode → Option String
  | .text text => some text
  | .insert e => (e.value? scope).map insertedText
  | .branch condition body otherwise =>
    if (condition.value? scope).any isTruthy then renderNodes? scope body
    else renderNodes? scope otherwise
  | .loop key? item container body otherwise => do
    let items ← loopItems? key?.isSome (← container.value? scope)
    if items.isEmpty then renderNodes? scope otherwise
    else
      let texts ← (loopTurns key? item items).mapM fun turn =>
        renderNodes? { scope with turns := turn :: scope.turns } body
      return String.join texts

def renderNodes? (scope : RenderScope) : List TemplateNode → Option String
  | [] => some ""
  | node :: nodes => do
    let first ← node.render? scope
    let rest ← renderNodes? scope nodes
    return first ++ rest

end

def Template.render? (template : Template) (context : Json) : Option String :=
  renderNodes? { turns := [], context } template

end ClientGen
