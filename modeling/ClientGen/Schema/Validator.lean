import ClientGen.Schema.Basic
import ClientGen.Text.Quoted

/-!
# Validator expressions

A compiled schema is written as an expression of the validation library of the generated code,
such as `z.string().max(40)`.
-/

namespace ClientGen

def dateCheck : String := "/^\\d\x7b4\x7d-\\d\x7b2\x7d-\\d\x7b2\x7d$/"

def formatCheck : String → String
  | "date" => ".regex(" ++ dateCheck ++ ")"
  | "date-time" => ".datetime()"
  | "uri" => ".url()"
  | "url" => ".url()"
  | "email" => ".email()"
  | "uuid" => ".uuid()"
  | _ => ""

def checkOf (name : String) : Option String → String
  | some argument => "." ++ name ++ "(" ++ argument ++ ")"
  | none => ""

/-- The expression of a string. Literals stand alone, without the other constraints. -/
def stringValidator (c : Constraints) : String :=
  if c.literals ≠ [] then
    "z.enum([" ++ String.intercalate ", " (c.literals.map Text.quoted) ++ "])"
  else
    "z.string()" ++ formatCheck (c.format.getD "") ++
      checkOf "max" (c.maxLength.map toString) ++ checkOf "min" (c.minLength.map toString) ++
      checkOf "regex" (c.pattern.map fun p => "new RegExp(" ++ Text.quoted p ++ ")")

def boundChecks (c : Constraints) : String :=
  checkOf "max" (c.maximum.map Number.text) ++ checkOf "min" (c.minimum.map Number.text)

def primitiveValidator (kind : PrimitiveKind) (c : Constraints) : String :=
  match kind with
  | .string => stringValidator c
  | .integer => "z.number().int()" ++ boundChecks c
  | .number => "z.number()" ++ boundChecks c
  | .boolean => "z.boolean()"
  | .file => "z.instanceof(File)"

/-- The expression of a reference. Models are reached lazily, so that models that refer to each
other load in any order. -/
def referenceValidator (name : String) : Target → String
  | .model => "z.lazy(() => " ++ schemaIdent name ++ ")"
  | .enum => schemaIdent name
  | .unresolved => "z.any()"

def optionalUnless (required : Bool) (expression : String) : String :=
  if required then expression else expression ++ ".optional()"

def intersectionValidator : List String → String
  | [] => "z.any()"
  | first :: rest => rest.foldl (fun all next => all ++ ".and(" ++ next ++ ")") first

mutual

def validator : Schema → String
  | .primitive kind c => primitiveValidator kind c
  | .reference name target => referenceValidator name target
  | .array element => "z.array(" ++ validator element ++ ")"
  | .object fields =>
    match fieldValidators fields with
    | [] => "z.record(z.string(), z.any())"
    | texts => "z.object(\x7b " ++ String.intercalate ", " texts ++ " \x7d)"
  | .union branches => "z.union([" ++ String.intercalate ", " (validators branches) ++ "])"
  | .intersection members => intersectionValidator (validators members)
  | .nullable inner => validator inner ++ ".nullable()"
  | .unknown => "z.any()"

def validators : List Schema → List String
  | [] => []
  | schema :: schemas => validator schema :: validators schemas

def fieldValidators : List (FieldOf Schema) → List String
  | [] => []
  | ⟨name, schema, required, _⟩ :: fields =>
    (Text.propertyKey name ++ ": " ++ optionalUnless required (validator schema)) ::
      fieldValidators fields

end

def fieldValidator (field : Field) : String :=
  optionalUnless field.required (validator field.schema)

end ClientGen
