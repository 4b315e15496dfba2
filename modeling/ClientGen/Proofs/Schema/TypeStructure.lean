import ClientGen.Proofs.Schema.Proper
import ClientGen.Proofs.Schema.TypeExpr
import ClientGen.Schema.TypeText

/-!
# The types of schemas

Every schema stands for a type: a nullable schema for the union of its type with null, several
literals for the union of them, and what is unknown or leads nowhere for any. A schema is grouped
where no intersection in it has one of the schemas among its members that stand for a union. That
can be told from the type: no intersection in it has a union among its members.
-/

namespace ClientGen
open TypeExpr

def nullType : TypeExpr := .named "null"

def anyType : TypeExpr := .named "any"

def literalsType (literals : List String) : TypeExpr := join .union (literals.map .literal)

def primitiveStructure (kind : PrimitiveKind) (c : Constraints) : TypeExpr :=
  match kind with
  | .string => if c.literals ≠ [] then literalsType c.literals else .named "string"
  | .integer => .named "number"
  | .number => .named "number"
  | .boolean => .named "boolean"
  | .file => .named "File"

/-- The type of an object with some members. Without any it is a record of any keys. -/
def objectType : List (TypeMember TypeExpr) → TypeExpr
  | [] => .generic "Record" [.named "string", anyType]
  | members => .object members

mutual

/-- The type that a schema stands for. -/
def Schema.typeExpr : Schema → TypeExpr
  | .primitive kind c => primitiveStructure kind c
  | .reference name target => ((typeIdent? name target).map .named).getD anyType
  | .array element => .array element.typeExpr
  | .object fields => objectType (fieldMembers fields)
  | .union branches => join .union (itemTypes branches)
  | .intersection members => join .intersection (itemTypes members)
  | .nullable inner => join .union [inner.typeExpr, nullType]
  | .unknown => anyType

def itemTypes : List Schema → List TypeExpr
  | [] => []
  | schema :: schemas => schema.typeExpr :: itemTypes schemas

def fieldMembers : List (FieldOf Schema) → List (TypeMember TypeExpr)
  | [] => []
  | ⟨name, schema, required, _⟩ :: fields =>
    ⟨name, !required, schema.typeExpr⟩ :: fieldMembers fields

end

theorem itemTypes_eq (schemas : List Schema) : itemTypes schemas = schemas.map Schema.typeExpr := by
  induction schemas with
  | nil => rfl
  | cons schema rest ih => rw [itemTypes, ih, List.map_cons]

theorem fieldMembers_eq (fields : List Field) :
    fieldMembers fields =
      fields.map fun field => ⟨field.name, !field.required, field.schema.typeExpr⟩ := by
  induction fields with
  | nil => rfl
  | cons field rest ih => rw [fieldMembers, ih, List.map_cons]

/-- Whether a schema stands for a choice between several types. -/
def Schema.isChoice : Schema → Bool
  | .union _ => true
  | .nullable _ => true
  | .primitive .string c => c.literals.length > 1
  | _ => false

/-- A schema none of whose intersections has a choice among its members. -/
inductive Schema.Grouped : Schema → Prop
  | primitive (kind : PrimitiveKind) (c : Constraints) : Grouped (.primitive kind c)
  | reference (name : String) (target : Target) : Grouped (.reference name target)
  | array {element : Schema} : Grouped element → Grouped (.array element)
  | object {fields : List Field} :
      (∀ field ∈ fields, Grouped field.schema) → Grouped (.object fields)
  | union {branches : List Schema} :
      (∀ branch ∈ branches, Grouped branch) → Grouped (.union branches)
  | intersection {members : List Schema} :
      (∀ member ∈ members, Grouped member) → (∀ member ∈ members, member.isChoice = false) →
      Grouped (.intersection members)
  | nullable {inner : Schema} : Grouped inner → Grouped (.nullable inner)
  | unknown : Grouped .unknown

theorem isOperand_objectType (members : List (TypeMember TypeExpr)) :
    (objectType members).isOperand = true := by
  cases members with
  | nil => rfl
  | cons => rfl

theorem isOperand_reference (name : String) (target : Target) :
    (Schema.reference name target).typeExpr.isOperand = true := by
  rw [Schema.typeExpr]
  cases typeIdent? name target with
  | none => rfl
  | some ident => rfl

theorem flat_of_mem_literals {literals : List String} {type : TypeExpr}
    (h : type ∈ literals.map TypeExpr.literal) : type.Flat := by
  obtain ⟨text, _, rfl⟩ := List.mem_map.1 h
  exact .of_isOperand rfl

theorem isOperand_of_not_isCompound {schema : Schema} (h : isCompound schema = false) :
    schema.typeExpr.isOperand = true := by
  cases schema with
  | primitive kind c =>
    cases kind with
    | string =>
      have hlength : c.literals.length ≤ 1 := Nat.le_of_not_lt (of_decide_eq_false h)
      rw [Schema.typeExpr, primitiveStructure]
      match hliterals : c.literals, hlength with
      | [], _ => rfl
      | [text], _ => rfl
    | _ => rfl
  | reference name target => exact isOperand_reference name target
  | array element => rfl
  | object fields => exact isOperand_objectType _
  | unknown => rfl
  | _ => cases h

theorem two_le_length_pair {α : Type} (a b : α) : 2 ≤ [a, b].length := Nat.le_refl 2

theorem flat_nullable {inner : TypeExpr} (h : inner.Flat) :
    ∀ type ∈ [inner, nullType], type.Flat := by
  intro type htype
  rcases List.mem_pair.1 htype with rfl | rfl
  · exact h
  · exact .of_isOperand rfl

theorem flat_of_mem_itemTypes {schemas : List Schema} {type : TypeExpr}
    (h : ∀ schema ∈ schemas, schema.typeExpr.Flat) (htype : type ∈ itemTypes schemas) :
    type.Flat := by
  rw [itemTypes_eq] at htype
  obtain ⟨schema, hschema, rfl⟩ := List.mem_map.1 htype
  exact h schema hschema

theorem two_le_length_itemTypes {schemas : List Schema} (h : 2 ≤ schemas.length) :
    2 ≤ (itemTypes schemas).length := by
  rw [itemTypes_eq, List.length_map]
  exact h

theorem typeExpr_of_two_le {c : Constraints} (h : 2 ≤ c.literals.length) :
    (Schema.primitive .string c).typeExpr = literalsType c.literals := by
  rw [Schema.typeExpr, primitiveStructure, if_pos (List.ne_nil_of_length_pos (by omega))]

section
variable {literals : List String} (h : 2 ≤ literals.length)
include h

theorem flat_literalsType : (literalsType literals).Flat :=
  .join (by rwa [List.length_map]) fun _ => flat_of_mem_literals

theorem isUnion_literalsType : (literalsType literals).isUnion = true := by
  rw [literalsType, join_eq_joined (by rwa [List.length_map]) fun _ => flat_of_mem_literals]
  rfl

end

/-- A primitive type is written as several operands only where a text has several literals. -/
theorem literals_of_isCompound {kind : PrimitiveKind} {c : Constraints}
    (h : isCompound (.primitive kind c) = true) : kind = .string ∧ 2 ≤ c.literals.length := by
  cases kind with
  | string => exact ⟨rfl, of_decide_eq_true h⟩
  | _ => cases h

theorem flat_typeExpr {schema : Schema} (h : schema.Proper) : schema.typeExpr.Flat := by
  induction h with
  | primitive kind c =>
    by_cases hcompound : isCompound (.primitive kind c) = true
    · obtain ⟨rfl, hlength⟩ := literals_of_isCompound hcompound
      rw [typeExpr_of_two_le hlength]
      exact flat_literalsType hlength
    · exact .of_isOperand (isOperand_of_not_isCompound (eq_false_of_ne_true hcompound))
  | reference name target => exact .of_isOperand (isOperand_reference name target)
  | array helement ih => exact .of_isOperand rfl
  | object hfields ih => exact .of_isOperand (isOperand_objectType _)
  | union hlength hbranches ih =>
    exact .join (two_le_length_itemTypes hlength) fun _ => flat_of_mem_itemTypes ih
  | intersection hlength hmembers ih =>
    exact .join (two_le_length_itemTypes hlength) fun _ => flat_of_mem_itemTypes ih
  | nullable hinner ih => exact .join (two_le_length_pair _ _) (flat_nullable ih)
  | unknown => exact .of_isOperand rfl

theorem flat_itemTypes {schemas : List Schema} (h : ∀ schema ∈ schemas, schema.Proper) :
    ∀ type ∈ itemTypes schemas, type.Flat := fun _ =>
  flat_of_mem_itemTypes fun schema hschema => flat_typeExpr (h schema hschema)

theorem isUnion_typeExpr {schema : Schema} (h : schema.Proper) :
    schema.typeExpr.isUnion = schema.isChoice := by
  cases h with
  | primitive kind c =>
    by_cases hcompound : isCompound (.primitive kind c) = true
    · obtain ⟨rfl, hlength⟩ := literals_of_isCompound hcompound
      rw [typeExpr_of_two_le hlength, isUnion_literalsType hlength]
      exact hcompound.symm
    · have hsingle := eq_false_of_ne_true hcompound
      rw [isUnion_of_isOperand (isOperand_of_not_isCompound hsingle)]
      cases kind with
      | string => exact hsingle.symm
      | _ => rfl
  | reference name target => exact isUnion_of_isOperand (isOperand_reference name target)
  | array => rfl
  | object => exact isUnion_of_isOperand (isOperand_objectType _)
  | union hlength hbranches =>
    rw [Schema.typeExpr,
      join_eq_joined (two_le_length_itemTypes hlength) (flat_itemTypes hbranches)]
    rfl
  | intersection hlength hmembers =>
    rw [Schema.typeExpr,
      join_eq_joined (two_le_length_itemTypes hlength) (flat_itemTypes hmembers)]
    rfl
  | nullable hinner =>
    rw [Schema.typeExpr,
      join_eq_joined (two_le_length_pair _ _) (flat_nullable (flat_typeExpr hinner))]
    rfl
  | unknown => rfl

theorem joinable_of_separated_items {operator : TypeOperator} {schemas : List Schema}
    (hlength : 2 ≤ schemas.length) (hproper : ∀ schema ∈ schemas, schema.Proper)
    (h : (join operator (itemTypes schemas)).Separated) {schema : Schema}
    (hschema : schema ∈ schemas) : Joinable operator schema.typeExpr := by
  have hmem : schema.typeExpr ∈ itemTypes schemas := by
    rw [itemTypes_eq]
    exact List.mem_map_of_mem hschema
  exact joinable_of_separated_join (two_le_length_itemTypes hlength) (flat_itemTypes hproper) h hmem

/-- A schema is grouped where the type that it stands for has no union in an intersection. -/
theorem grouped_of_separated {schema : Schema} (h : schema.Proper)
    (hseparated : schema.typeExpr.Separated) : schema.Grouped := by
  -- on the schema: several parts stay apart in the type, so each of them is seen in it
  induction h with
  | primitive kind c => exact .primitive kind c
  | reference name target => exact .reference name target
  | array helement ih =>
    cases hseparated with
    | array hseparated => exact .array (ih hseparated)
  | @object fields hfields ih =>
    refine .object fun field hfield => ih field hfield ?_
    rw [Schema.typeExpr, fieldMembers_eq] at hseparated
    cases fields with
    | nil => cases hfield
    | cons first rest =>
      cases hseparated with
      | object hmembers => exact hmembers _ (List.mem_map_of_mem hfield)
  | union hlength hbranches ih =>
    refine .union fun branch hbranch => ih branch hbranch ?_
    exact (joinable_of_separated_items hlength hbranches hseparated hbranch).1
  | @intersection members hlength hmembers ih =>
    have hjoinable : ∀ member ∈ members, Joinable .intersection member.typeExpr := fun _ hmember =>
      joinable_of_separated_items hlength hmembers hseparated hmember
    refine .intersection (fun member hmember => ih member hmember (hjoinable member hmember).1) ?_
    intro member hmember
    rw [← isUnion_typeExpr (hmembers member hmember)]
    exact (hjoinable member hmember).2 rfl
  | nullable hinner ih =>
    have hflat := flat_nullable (flat_typeExpr hinner)
    exact .nullable (ih (joinable_of_separated_join (two_le_length_pair _ _) hflat hseparated
      (List.mem_cons_self ..)).1)
  | unknown => exact .unknown

end ClientGen
