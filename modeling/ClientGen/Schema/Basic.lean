import ClientGen.Dict
import ClientGen.Json.Number
import ClientGen.Text.Identifier

/-!
# Compiled schemas

A compiled schema is a tree over primitives and references to declared types. Declared types
compile to an object, to a list of literals, or to a name for some other schema.
-/

namespace ClientGen

/-- The kinds of primitive values. A file is an upload field of the legacy dialect. -/
inductive PrimitiveKind where
  | string | integer | number | boolean | file
deriving DecidableEq, Repr, Inhabited

def PrimitiveKind.name : PrimitiveKind → String
  | .string => "string"
  | .integer => "integer"
  | .number => "number"
  | .boolean => "boolean"
  | .file => "file"

/-- The constraints on a primitive value. Strings use the lengths, the pattern, the format and
the literals, numbers the bounds. -/
structure Constraints where
  minLength : Option Nat := none
  maxLength : Option Nat := none
  pattern : Option String := none
  format : Option String := none
  minimum : Option Number := none
  maximum : Option Number := none
  literals : List String := []
deriving DecidableEq, Repr, Inhabited

/-- What a reference leads to. -/
inductive Target where
  | model | enum | unresolved
deriving DecidableEq, Repr, Inhabited

def Target.name : Target → String
  | .model => "model"
  | .enum => "enum"
  | .unresolved => "unresolved"

abbrev Reference := String × Target

/-- A field of an object over some kind of schema. -/
structure FieldOf (σ : Type) where
  name : String
  schema : σ
  required : Bool
  description : Option String
deriving Repr, Inhabited

/-- A compiled schema. An object without fields is a record with any keys. -/
inductive Schema where
  | primitive (kind : PrimitiveKind) (constraints : Constraints)
  | reference (name : String) (target : Target)
  | array (element : Schema)
  | object (fields : List (FieldOf Schema))
  | union (branches : List Schema)
  | intersection (members : List Schema)
  | nullable (inner : Schema)
  | unknown
deriving Repr, Inhabited

abbrev Field := FieldOf Schema

namespace Schema

def plain (kind : PrimitiveKind) : Schema := .primitive kind {}

/-- The schema that also admits null. Nothing is gained for one that does so already. -/
def orNull : Schema → Schema
  | .nullable inner => .nullable inner
  | .unknown => .unknown
  | schema => .nullable schema

def referencedName? : Schema → Option String
  | .reference name _ => some name
  | .array element => element.referencedName?
  | .nullable inner => inner.referencedName?
  | _ => none

mutual

def size : Schema → Nat
  | .array element => size element + 1
  | .nullable inner => size inner + 1
  | .object fields => fieldsSize fields + 1
  | .union branches => itemsSize branches + 1
  | .intersection members => itemsSize members + 1
  | _ => 1

def fieldsSize : List (FieldOf Schema) → Nat
  | [] => 0
  | ⟨_, schema, _, _⟩ :: fields => size schema + fieldsSize fields

def itemsSize : List Schema → Nat
  | [] => 0
  | schema :: schemas => size schema + itemsSize schemas

end

theorem itemsSize_append (first second : List Schema) :
    itemsSize (first ++ second) = itemsSize first + itemsSize second := by
  induction first with
  | nil => simp [itemsSize]
  | cons schema rest ih => simp [itemsSize, ih, Nat.add_assoc]

def fieldSchemas (fields : List (FieldOf Schema)) : List Schema := fields.map (·.schema)

theorem itemsSize_fieldSchemas (fields : List (FieldOf Schema)) :
    itemsSize (fieldSchemas fields) = fieldsSize fields := by
  induction fields with
  | nil => rfl
  | cons field rest ih =>
    rw [fieldSchemas, List.map_cons, itemsSize, fieldsSize, ← ih]
    rfl

def addReference (found : List Reference) (name : String) (target : Target) : List Reference :=
  if target = .unresolved || found.any (·.1 = name) then found else found ++ [(name, target)]

/-- The references in the schemas that are still to be searched, added to those found. What a
schema is made of is searched before the schemas behind it. -/
def searchReferences (found : List Reference) (pending : List Schema) : List Reference :=
  match pending with
  | [] => found
  | .reference name target :: rest => searchReferences (addReference found name target) rest
  | .array element :: rest => searchReferences found (element :: rest)
  | .nullable inner :: rest => searchReferences found (inner :: rest)
  | .object fields :: rest => searchReferences found (fieldSchemas fields ++ rest)
  | .union branches :: rest => searchReferences found (branches ++ rest)
  | .intersection members :: rest => searchReferences found (members ++ rest)
  | .primitive _ _ :: rest => searchReferences found rest
  | .unknown :: rest => searchReferences found rest
termination_by itemsSize pending
decreasing_by
  all_goals simp [itemsSize, size, itemsSize_append, itemsSize_fieldSchemas]

/-- The referenced types, each name once, by first occurrence. -/
def references (schema : Schema) : List Reference := searchReferences [] [schema]

end Schema

/-- What a declared type compiles to. -/
inductive TypeKind where
  | object (fields : List Field)
  | enum (values : List String)
  | alias (schema : Schema)
deriving Repr, Inhabited

/-- A declared type. `nested` has the names of the other declared types it refers to, in
increasing order. -/
structure DeclaredType where
  name : String
  kind : TypeKind
  nested : List String
deriving Repr, Inhabited

def DeclaredType.isEnum (type : DeclaredType) : Bool :=
  match type.kind with
  | .enum _ => true
  | _ => false

/-- The type of a model in generated code. -/
def serializerIdent (name : String) : String := "I" ++ Text.identifier name ++ "Serializer"

/-- The validator of a model or an enumeration in generated code. -/
def schemaIdent (name : String) : String := Text.identifier name ++ "Schema"

def valuesIdent (name : String) : String := Text.identifier name ++ "Values"

/-- The identifier that stands for a reference where a type is expected. -/
def typeIdent? (name : String) : Target → Option String
  | .model => some (serializerIdent name)
  | .enum => some (Text.identifier name)
  | .unresolved => none

end ClientGen
