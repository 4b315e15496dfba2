import ClientGen.Config.Format
import ClientGen.Yaml.Value

/-!
# Settings in YAML

A text is any scalar, however it is written. A switch is a plain scalar. A list or a group of
settings may be left blank.
-/

namespace ClientGen.Yaml

namespace Document

variable (document : Document)

def resolved? (node : Node) : Option Node := ((document.follow node).run 1).map (·.1)

def isBlank : Node → Bool
  | .scalar _ .plain text => text = ""
  | _ => false

def settingText? (node : Node) : Option String :=
  match document.resolved? node with
  | some (.scalar _ _ text) => some text
  | _ => none

def switch? (node : Node) : Option Bool :=
  match document.resolved? node with
  | some (.scalar _ .plain text) => truthOf? text
  | some (.scalar (some tag) .literal text) =>
    if tag = coreTag "bool" then truthOf? text else none
  | _ => none

def optionalText? (node : Node) : Option (Option String) :=
  match document.resolved? node with
  | some (.scalar none .plain text) =>
    some (if text = "" || isNullText text then none else some text)
  | some (.scalar (some tag) .plain text) =>
    if tag ≠ coreTag "null" then some (some text)
    else if isNullText text then some none
    else none
  | some (.scalar _ _ text) => some (some text)
  | _ => none

def items? (node : Node) : Option (List Node) :=
  match document.resolved? node with
  | some (.sequence _ items) => some items
  | some node => if isBlank node then some [] else none
  | none => none

/-- An artifact kind: its name, or a tag of its name with nothing behind it. -/
def kind? (node : Node) : Option ArtifactKind :=
  match document.resolved? node with
  | some (.scalar tag? style text) =>
    if isOwnTag tag? then
      if style = .plain && (text = "" || isNullText text) then
        tag?.bind fun tag => ArtifactKind.ofName? (String.ofList (tag.toList.drop 1))
      else none
    else ArtifactKind.ofName? text
  | _ => none

def plainText? (node : Node) : Option String :=
  match document.resolved? node with
  | some (.scalar tag? style text) => (scalarValue? tag? style text).bind Json.text?
  | _ => none

/-- Commands: one text, a sequence of texts, or null. -/
def commands? (node : Node) : Option (List String) :=
  match document.resolved? node with
  | some (.scalar tag? style text) =>
    match scalarValue? tag? style text with
    | some (.str command) => some [command]
    | some .null => if isNotFinite text then none else some []
    | _ => none
  | some (.sequence tag? items) =>
    if isOwnTag tag? then none else items.mapM document.plainText?
  | _ => none

def settings? (names : List String) (node : Node) : Option (List (String × Node)) :=
  match document.resolved? node with
  | some (.mapping _ entries) => do
    let members ← entries.mapM fun (key, value) => do
      return (← document.settingText? key, value)
    if names.all fun name => (members.map (·.1)).count name ≤ 1 then return members else failure
  | some node => if isBlank node then some [] else none
  | none => none

def settingsReader : SettingsReader Node where
  text? := document.settingText?
  switch? := document.switch?
  optionalText? := document.optionalText?
  items? := document.items?
  kind? := document.kind?
  commands? := document.commands?
  members? := document.settings?

end Document

end ClientGen.Yaml

namespace ClientGen

def Config.ofYaml? (text : String) : Option Config := do
  let document ← Yaml.Document.read? text
  document.settingsReader.config? document.root

end ClientGen
