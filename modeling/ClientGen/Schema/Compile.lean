import ClientGen.Api.Reference
import ClientGen.Diagnostic
import ClientGen.Json.Printer
import ClientGen.Schema.Basic
import ClientGen.Traced

/-!
# Compiling raw schemas

A raw schema compiles against the declared types of its document. Compiling never fails: what
cannot be compiled becomes unknown, with a warning. The trace has the warnings and the names of
the declared types that were reached, in the order of the schema.
-/

namespace ClientGen

open Api

inductive CompileNote where
  | warning (w : Warning)
  | mention (name : String)
deriving DecidableEq, Repr

abbrev Compiling := Traced CompileNote

namespace Compiling

/-- A safe result in place of something malformed. -/
def malformed {α : Type} (location : String) (problem : Malformation) (value : α) : Compiling α :=
  ⟨value, [.warning (.malformed location problem)]⟩

def warnings {α : Type} (x : Compiling α) : List Warning :=
  x.trace.filterMap fun
    | .warning w => some w
    | .mention _ => none

/-- The declared types among the notes, in increasing order. -/
def mentions {α : Type} (x : Compiling α) : List String :=
  orderedSet <| x.trace.filterMap fun
    | .warning _ => none
    | .mention name => some name

end Compiling

/-- An enumeration is a string with a non-empty list of literals. -/
def isEnumSchema (raw : Json) : Bool :=
  raw.getText? "type" = some "string" && ((raw.getItems? "enum").getD []).length > 0

/-- The declared types and the names of those that are enumerations. -/
structure Scope where
  declared : Dict Json
  enums : List String

/-- The scope of a document's types. Enumerations are known before anything is compiled. -/
def Scope.of (declared : Dict Json) : Scope where
  declared
  enums := (declared.entries.filter fun (_, raw) => isEnumSchema raw).map Prod.fst

def Scope.target (scope : Scope) (name : String) : Target :=
  if scope.enums.contains name then .enum
  else if scope.declared.contains name then .model
  else .unresolved

/-- The literals of a schema: strings as they are, other values as JSON text, nulls left out. -/
def literalValues (raw : Json) : List String :=
  ((raw.getItems? "enum").getD []).filterMap fun
    | .null => none
    | .str s => some s
    | value => some value.compact

/-- Whether a schema admits null only. -/
def isNullSchema (raw : Json) : Bool := raw.getText? "type" = some "null"

def unionBranches? (raw : Json) : Option (List Json) :=
  (match raw.get? "anyOf" with
    | some branches => some branches
    | none => raw.get? "oneOf").bind Json.items?

/-- The type that a schema declares, and whether its list of types has null besides. -/
def declaredType? (raw : Json) : Option String × Bool :=
  match raw.get? "type" with
  | some (.str type) => (some type, false)
  | some (.arr types) =>
    let names := types.filterMap Json.text?
    match names.filter (· ≠ "null") with
    | [type] => (some type, names.contains "null")
    | _ => (none, names.contains "null")
  | _ => (none, false)

def impliedType? (raw : Json) : Option String :=
  if (raw.get? "properties").isSome then some "object"
  else if (raw.get? "items").isSome then some "array"
  else if (raw.get? "enum").isSome then some "string"
  else none

def stringConstraints (raw : Json) : Constraints where
  minLength := (raw.get? "minLength").bind Json.natural?
  maxLength := (raw.get? "maxLength").bind Json.natural?
  pattern := raw.getText? "pattern"
  format := raw.getText? "format"
  literals := literalValues raw

def numberConstraints (raw : Json) : Constraints where
  minimum := (raw.get? "minimum").bind Json.number?
  maximum := (raw.get? "maximum").bind Json.number?

def requiredNames (raw : Json) : List String :=
  ((raw.getItems? "required").getD []).filterMap Json.text?

/-! ### Compiling one level

The functions below compile the parts of a schema through `inner`, which goes one level deeper. -/

def compileReference (scope : Scope) (location name : String) : Compiling Schema :=
  let target := scope.target name
  ⟨.reference name target,
    if target = .unresolved then [.warning (.unresolvable location name)] else [.mention name]⟩

def unionOf (hasNull : Bool) : List Schema → Schema
  | [] => .unknown
  | [schema] => if hasNull then schema.orNull else schema
  | schemas => if hasNull then (Schema.union schemas).orNull else .union schemas

def intersectionOf : List Schema → Schema
  | [] => .unknown
  | [schema] => schema
  | schemas => .intersection schemas

def compileFields (inner : Json → String → Compiling Schema) (location : String)
    (raw properties : Json) : Compiling (List Field) :=
  match properties with
  | .obj members =>
    Traced.each (fun (name, property) => do
      let schema ← inner property (location ++ "." ++ name)
      return {
        name
        schema
        required := (requiredNames raw).contains name
        description := property.getText? "description" }) members
  | _ => .malformed location .propertiesNotObject []

def compileType (inner : Json → String → Compiling Schema) (location : String) (raw : Json) :
    Option String → Compiling Schema
  | none => .clean .unknown
  | some "string" => .clean (.primitive .string (stringConstraints raw))
  | some "integer" => .clean (.primitive .integer (numberConstraints raw))
  | some "number" => .clean (.primitive .number (numberConstraints raw))
  | some "boolean" => .clean (.plain .boolean)
  | some "file" => .clean (.plain .file)
  | some "array" =>
    match raw.get? "items" with
    | some items => do return .array (← inner items location)
    | none => .malformed location .arrayWithoutItems (.array .unknown)
  | some "object" =>
    match raw.get? "properties" with
    | some properties => do return .object (← compileFields inner location raw properties)
    | none => .clean (.object [])
  | some "null" => .clean .unknown
  | some type => .malformed location (.unknownType type) .unknown

def compileTyped (inner : Json → String → Compiling Schema) (location : String) (raw : Json) :
    Compiling Schema := do
  let (declared, hasNull) := declaredType? raw
  let type := match declared with
    | some type => some type
    | none => impliedType? raw
  let schema ← compileType inner location raw type
  return if hasNull then schema.orNull else schema

/-- Compiles a schema that is not empty: a reference, a union, an intersection, or by its type. -/
def compileShape (scope : Scope) (inner : Json → String → Compiling Schema) (location : String)
    (raw : Json) : Compiling Schema :=
  match raw.getText? "$ref" with
  | some reference => compileReference scope location (referenceName reference)
  | none =>
    match unionBranches? raw with
    | some branches => do
      let schemas ← Traced.each (inner · location) (branches.filter fun b => !isNullSchema b)
      return unionOf (branches.any isNullSchema) schemas
    | none =>
      match raw.getItems? "allOf" with
      | some members => do return intersectionOf (← Traced.each (inner · location) members)
      | none => compileTyped inner location raw

/-- How deep inline schemas may nest. -/
def maxDepth : Nat := 32

def compileLevels (scope : Scope) : Nat → Json → String → Compiling Schema
  | 0, _, location => .malformed location (.tooDeep maxDepth) .unknown
  | levels + 1, raw, location =>
    match raw with
    | .obj (_ :: _) => do
      let schema ← compileShape scope (compileLevels scope levels) location raw
      return if raw.flag "nullable" || raw.flag "x-nullable" then schema.orNull else schema
    | _ => .malformed location .emptySchema .unknown

/-- Compiles a schema at a depth below the declared type or operation it belongs to. -/
def compileAt (scope : Scope) (depth : Nat) (raw : Json) (location : String) : Compiling Schema :=
  compileLevels scope (maxDepth + 1 - depth) raw location

/-- Compiles a schema that stands by itself, such as that of a parameter. -/
def compileSchema (scope : Scope) (raw : Json) (location : String) : Compiling Schema :=
  compileAt scope 0 raw location

def compileKind (scope : Scope) (name : String) (raw : Json) : Compiling TypeKind :=
  match raw with
  | .obj (_ :: _) =>
    if isEnumSchema raw then .clean (.enum (literalValues raw))
    else
      match raw.get? "properties" with
      | some properties => do
        return .object (← compileFields (compileAt scope 1) name raw properties)
      | none => do
        if raw.getText? "type" = some "object" && (raw.get? "additionalProperties").isNone then
          Traced.note (.warning (.malformed name .objectWithoutProperties))
        return .alias (← compileAt scope 0 raw name)
  | _ => .malformed name .emptySchema (.alias .unknown)

def compileDeclaration (scope : Scope) (name : String) (raw : Json) :
    DeclaredType × List Warning :=
  let kind := compileKind scope name raw
  ({ name, kind := kind.value, nested := kind.mentions.filter (· ≠ name) }, kind.warnings)

/-- The declared types of a document, compiled. -/
structure Catalog where
  scope : Scope
  types : Dict DeclaredType
  warnings : List Warning

def compile (declared : Dict Json) : Catalog :=
  let scope := Scope.of declared
  let compiled := declared.mapValues (compileDeclaration scope)
  { scope
    types := compiled.mapValues fun _ result => result.1
    warnings := compiled.values.flatMap Prod.snd }

end ClientGen
