import ClientGen.Schema.Basic
import ClientGen.Text.Quoted

/-!
# Type expressions

A compiled schema is written as a type of the generated code, such as `ILeadSerializer[]`. Only
the element type of an array is put in parentheses, where it is made of several parts.
-/

namespace ClientGen

def primitiveType (kind : PrimitiveKind) (c : Constraints) : String :=
  match kind with
  | .string =>
    if c.literals ≠ [] then String.intercalate " | " (c.literals.map Text.quoted) else "string"
  | .integer => "number"
  | .number => "number"
  | .boolean => "boolean"
  | .file => "File"

/-- Whether a type is made of several parts, so that `[]` behind it would bind to the last. -/
def isCompound : Schema → Bool
  | .union _ => true
  | .intersection _ => true
  | .nullable _ => true
  | .primitive .string c => c.literals.length > 1
  | _ => false

def arrayType (compound : Bool) (element : String) : String :=
  if compound then "(" ++ element ++ ")[]" else element ++ "[]"

mutual

def typeText : Schema → String
  | .primitive kind c => primitiveType kind c
  | .reference name target => (typeIdent? name target).getD "any"
  | .array element => arrayType (isCompound element) (typeText element)
  | .object fields =>
    match fieldTypes fields with
    | [] => "Record<string, any>"
    | texts => "\x7b " ++ String.intercalate "; " texts ++ " \x7d"
  | .union branches => String.intercalate " | " (typeTexts branches)
  | .intersection members => String.intercalate " & " (typeTexts members)
  | .nullable inner => typeText inner ++ " | null"
  | .unknown => "any"

def typeTexts : List Schema → List String
  | [] => []
  | schema :: schemas => typeText schema :: typeTexts schemas

def fieldTypes : List (FieldOf Schema) → List String
  | [] => []
  | ⟨name, schema, required, _⟩ :: fields =>
    (Text.propertyKey name ++ (if required then "" else "?") ++ ": " ++ typeText schema) ::
      fieldTypes fields

end

end ClientGen
