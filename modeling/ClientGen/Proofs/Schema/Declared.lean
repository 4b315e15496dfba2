import ClientGen.Schema.Compile
import Mathlib.Data.List.Basic

/-!
# Declared types and inline schemas

The schema of a declared type is first asked whether it is an enumeration and whether it has
properties. An inline schema is first asked for a reference, a union and an intersection, then for
its type, and at last whether it admits null. The two agree where no question that only one of them
asks, or asks first, gets an answer.
-/

namespace ClientGen
open Api

/-- The schema says what the declared type says: an object with the same fields, a string with the
literals of the enumeration whatever else constrains it, or the schema that the type is a name
for. -/
def TypeKind.Reads : TypeKind → Schema → Prop
  | .object fields, schema => schema = .object fields
  | .enum values, schema => ∃ c : Constraints, schema = .primitive .string c ∧ c.literals = values
  | .alias named, schema => schema = named

/-- Whether a declared type is more than a name for some other schema. -/
def TypeKind.isOwn : TypeKind → Bool
  | .alias _ => false
  | _ => true

/-- Whether the schema of a declared type has what makes it more than a name. -/
def isOwnKind (raw : Json) : Bool := isEnumSchema raw || (raw.get? "properties").isSome

def Schema.isSimple : Schema → Bool
  | .object _ => true
  | .primitive _ _ => true
  | _ => false

section
variable {kind : TypeKind} (hkind : kind.isOwn = true)
include hkind

theorem isSimple_of_reads {schema : Schema} (h : kind.Reads schema) : schema.isSimple = true :=
  match kind with
  | .object _ => by
    rw [TypeKind.Reads] at h
    rw [h]
    rfl
  | .enum _ => by
    obtain ⟨c, rfl, _⟩ := h
    rfl
  | .alias _ => nomatch hkind

theorem reads_orNullIf (hasNull : Bool) (schema : Schema) :
    kind.Reads (if hasNull then schema.orNull else schema) ↔
      hasNull = false ∧ kind.Reads schema := by
  cases hasNull with
  | false => simp
  | true =>
    have hnot : ¬ kind.Reads schema.orNull := by
      intro h
      have hsimple := isSimple_of_reads hkind h
      cases schema <;> cases hsimple
    simp [hnot]

theorem reads_unionOf (hasNull : Bool) (schemas : List Schema) :
    kind.Reads (unionOf hasNull schemas) ↔
      hasNull = false ∧ ∃ schema, schemas = [schema] ∧ kind.Reads schema := by
  unfold unionOf
  split
  · have hnot : ¬ kind.Reads .unknown := fun h => nomatch isSimple_of_reads hkind h
    simp [hnot]
  · rw [reads_orNullIf hkind]
    simp
  · rename_i hnil hsingle
    rw [reads_orNullIf hkind]
    have hnot : ¬ kind.Reads (.union schemas) := fun h => nomatch isSimple_of_reads hkind h
    constructor
    · exact fun h => absurd h.2 hnot
    · rintro ⟨_, schema, rfl, _⟩
      exact absurd rfl (hsingle schema)

theorem reads_intersectionOf (schemas : List Schema) :
    kind.Reads (intersectionOf schemas) ↔ ∃ schema, schemas = [schema] ∧ kind.Reads schema := by
  unfold intersectionOf
  split
  · have hnot : ¬ kind.Reads .unknown := fun h => nomatch isSimple_of_reads hkind h
    simp [hnot]
  · simp
  · rename_i hnil hsingle
    have hnot : ¬ kind.Reads (.intersection schemas) :=
      fun h => nomatch isSimple_of_reads hkind h
    constructor
    · exact fun h => absurd h hnot
    · rintro ⟨schema, rfl, _⟩
      exact absurd rfl (hsingle schema)

end

section
variable {scope : Scope} {name : String} {raw : Json}

theorem exists_members {key : String} {value : Json} (h : raw.get? key = some value) :
    ∃ first rest, raw = .obj (first :: rest) :=
  match raw with
  | .obj (first :: rest) => ⟨first, rest, rfl⟩

theorem get?_type_of_isEnumSchema (h : isEnumSchema raw = true) :
    raw.get? "type" = some (.str "string") := by
  rw [isEnumSchema, Bool.and_eq_true, decide_eq_true_eq] at h
  obtain ⟨type, hget, htext⟩ := Option.bind_eq_some_iff.1 h.1
  cases type <;> cases htext
  exact hget

theorem compileKind_enum (h : isEnumSchema raw = true) :
    (compileKind scope name raw).value = .enum (literalValues raw) := by
  obtain ⟨first, rest, rfl⟩ := exists_members (get?_type_of_isEnumSchema h)
  rw [compileKind, if_pos h]
  rfl

theorem compileKind_object {properties : Json} (h : isEnumSchema raw = false)
    (hproperties : raw.get? "properties" = some properties) :
    (compileKind scope name raw).value =
      .object (compileFields (compileAt scope 1) name raw properties).value := by
  obtain ⟨first, rest, rfl⟩ := exists_members hproperties
  rw [compileKind, if_neg (by simp [h]), hproperties]
  rfl

theorem compileKind_alias (h : isOwnKind raw = false) :
    (compileKind scope name raw).value = .alias (compileSchema scope raw name).value := by
  rw [isOwnKind, Bool.or_eq_false_iff, Option.isSome_eq_false_iff, Option.isNone_iff_eq_none] at h
  match raw with
  | .obj (first :: rest) =>
    rw [compileKind, if_neg (by simp [h.1]), h.2]
    dsimp only
    split <;> rfl
  | .obj [] => rfl
  | .null | .bool _ | .num _ | .str _ | .arr _ => rfl

theorem compileSchema_value {first : String × Json} {rest : List (String × Json)}
    (hraw : raw = .obj (first :: rest)) :
    (compileSchema scope raw name).value =
      if raw.flag "nullable" || raw.flag "x-nullable" then
        (compileShape scope (compileAt scope 1) name raw).value.orNull
      else (compileShape scope (compileAt scope 1) name raw).value := by
  subst hraw
  rfl

theorem type_of_compileType_eq_object {inner : Json → String → Compiling Schema}
    {type : Option String} {fields : List Field}
    (h : (compileType inner name raw type).value = .object fields) : type = some "object" := by
  unfold compileType at h
  split at h
  case h_8 => rfl
  case h_7 => split at h <;> cases h
  all_goals cases h

def typeOf? (raw : Json) : Option String :=
  match (declaredType? raw).1 with
  | some type => some type
  | none => impliedType? raw

theorem compileTyped_value (inner : Json → String → Compiling Schema) :
    (compileTyped inner name raw).value =
      if (declaredType? raw).2 then (compileType inner name raw (typeOf? raw)).value.orNull
      else (compileType inner name raw (typeOf? raw)).value := rfl

theorem declaredType?_of_isEnumSchema (h : isEnumSchema raw = true) :
    declaredType? raw = (some "string", false) := by
  rw [declaredType?, get?_type_of_isEnumSchema h]

theorem typeOf?_eq_object_iff (h : (raw.get? "properties").isSome = true) :
    typeOf? raw = some "object" ↔
      (declaredType? raw).1 = some "object" ∨ (declaredType? raw).1 = none := by
  unfold typeOf?
  cases (declaredType? raw).1 with
  | none => simp [impliedType?, h]
  | some type => simp

def LeftByType (raw : Json) : Prop :=
  isEnumSchema raw = true ∨ declaredType? raw = (some "object", false) ∨
    declaredType? raw = (none, false)

theorem reads_compileTyped (h : isOwnKind raw = true) :
    (compileKind scope name raw).value.Reads (compileTyped (compileAt scope 1) name raw).value ↔
      LeftByType raw := by
  rw [compileTyped_value, LeftByType]
  cases henum : isEnumSchema raw with
  | true =>
    have htype := declaredType?_of_isEnumSchema henum
    have hstring : (compileType (compileAt scope 1) name raw (typeOf? raw)).value =
        .primitive .string (stringConstraints raw) := by
      rw [typeOf?, htype]
      rfl
    rw [compileKind_enum henum, htype, if_neg Bool.false_ne_true, hstring]
    simp [TypeKind.Reads, stringConstraints]
  | false =>
    rw [isOwnKind, henum, Bool.false_or] at h
    obtain ⟨properties, hproperties⟩ := Option.isSome_iff_exists.1 h
    have hobject := typeOf?_eq_object_iff h
    rw [compileKind_object henum hproperties, reads_orNullIf rfl]
    have hreads : TypeKind.Reads
        (.object (compileFields (compileAt scope 1) name raw properties).value)
        (compileType (compileAt scope 1) name raw (typeOf? raw)).value ↔
        typeOf? raw = some "object" := by
      constructor
      · exact type_of_compileType_eq_object
      · intro htype
        rw [htype, compileType, hproperties]
        rfl
    rw [hreads, hobject]
    obtain ⟨declared, hasNull⟩ := declaredType? raw
    simp [and_or_left, and_comm]

/-- Nothing takes the place of what the schema is as a declared type: it is neither a reference nor
marked as admitting null, and its one alternative or its one part, or else its type, says the
same. -/
def Uncontested (scope : Scope) (name : String) (raw : Json) : Prop :=
  raw.getText? "$ref" = none ∧ raw.flag "nullable" = false ∧ raw.flag "x-nullable" = false ∧
  match unionBranches? raw with
  | some branches => ∃ branch, branches = [branch] ∧ isNullSchema branch = false ∧
      (compileKind scope name raw).value.Reads (compileAt scope 1 branch name).value
  | none =>
    match raw.getItems? "allOf" with
    | some members => ∃ member, members = [member] ∧
        (compileKind scope name raw).value.Reads (compileAt scope 1 member name).value
    | none => LeftByType raw

theorem isOwn_compileKind (h : isOwnKind raw = true) :
    (compileKind scope name raw).value.isOwn = true := by
  cases henum : isEnumSchema raw with
  | true =>
    rw [compileKind_enum henum]
    rfl
  | false =>
    rw [isOwnKind, henum, Bool.false_or] at h
    obtain ⟨properties, hproperties⟩ := Option.isSome_iff_exists.1 h
    rw [compileKind_object henum hproperties]
    rfl

theorem map_filter_eq_singleton {α β : Type} {p : α → Bool} {f : α → β} {xs : List α} {y : β} :
    xs.any p = false ∧ (xs.filter fun x => !p x).map f = [y] ↔
      ∃ x, xs = [x] ∧ p x = false ∧ f x = y := by
  constructor
  · rintro ⟨hany, hmap⟩
    have hfilter : (xs.filter fun x => !p x) = xs := by
      refine List.filter_eq_self.2 fun x hx => ?_
      rw [List.any_eq_false] at hany
      simpa using hany x hx
    rw [hfilter] at hmap
    obtain ⟨x, rfl, hx⟩ := List.map_eq_singleton_iff.1 hmap
    refine ⟨x, rfl, ?_, hx⟩
    simpa using hany
  · rintro ⟨x, rfl, hx, rfl⟩
    simp [hx]

theorem reads_compileShape (h : isOwnKind raw = true) (hnull : raw.flag "nullable" = false)
    (hxnull : raw.flag "x-nullable" = false) :
    (compileKind scope name raw).value.Reads
        (compileShape scope (compileAt scope 1) name raw).value ↔ Uncontested scope name raw := by
  have hown : (compileKind scope name raw).value.isOwn = true := isOwn_compileKind h
  unfold compileShape Uncontested
  cases raw.getText? "$ref" with
  | some reference =>
    have hnot : ¬ (compileKind scope name raw).value.Reads
        (compileReference scope name (referenceName reference)).value :=
      fun hreads => nomatch isSimple_of_reads hown hreads
    simp [hnot]
  | none =>
    simp only [hnull, hxnull, true_and]
    cases unionBranches? raw with
    | some branches =>
      simp only [Traced.value_bind, Traced.value_pure, Traced.value_each]
      rw [reads_unionOf hown]
      constructor
      · rintro ⟨hany, schema, hmap, hreads⟩
        obtain ⟨branch, hbranches, hbranch, rfl⟩ := map_filter_eq_singleton.1 ⟨hany, hmap⟩
        exact ⟨branch, hbranches, hbranch, hreads⟩
      · rintro ⟨branch, hbranches, hbranch, hreads⟩
        obtain ⟨hany, hmap⟩ := map_filter_eq_singleton.2 ⟨branch, hbranches, hbranch, rfl⟩
        exact ⟨hany, _, hmap, hreads⟩
    | none =>
      cases raw.getItems? "allOf" with
      | some members =>
        simp only [Traced.value_bind, Traced.value_pure, Traced.value_each]
        rw [reads_intersectionOf hown]
        constructor
        · rintro ⟨schema, hmap, hreads⟩
          obtain ⟨member, rfl, rfl⟩ := List.map_eq_singleton_iff.1 hmap
          exact ⟨member, rfl, hreads⟩
        · rintro ⟨member, rfl, hreads⟩
          exact ⟨_, rfl, hreads⟩
      | none => exact reads_compileTyped h

end

/-- What a schema compiles to as a declared type and as an inline schema is the same exactly where
it is a name for some other schema as a declared type, or nothing else takes its place inline. -/
theorem declared_reads_inline_iff (scope : Scope) (name : String) (raw : Json) :
    (compileKind scope name raw).value.Reads (compileSchema scope raw name).value ↔
      (isOwnKind raw = true → Uncontested scope name raw) := by
  cases hown : isOwnKind raw with
  | false =>
    rw [compileKind_alias hown]
    simp [TypeKind.Reads]
  | true =>
    have hraw : ∃ first rest, raw = .obj (first :: rest) := by
      rw [isOwnKind, Bool.or_eq_true] at hown
      rcases hown with henum | hproperties
      · exact exists_members (get?_type_of_isEnumSchema henum)
      · obtain ⟨properties, hget⟩ := Option.isSome_iff_exists.1 hproperties
        exact exists_members hget
    obtain ⟨first, rest, hraw⟩ := hraw
    rw [compileSchema_value hraw, reads_orNullIf (isOwn_compileKind hown), Bool.or_eq_false_iff]
    constructor
    · rintro ⟨⟨hnull, hxnull⟩, hreads⟩ _
      exact (reads_compileShape hown hnull hxnull).1 hreads
    · intro huncontested
      have hall := huncontested rfl
      exact ⟨⟨hall.2.1, hall.2.2.1⟩, (reads_compileShape hown hall.2.1 hall.2.2.1).2 hall⟩

/-- An object that may be null. -/
def remark : Json :=
  .obj [("type", .str "object"), ("nullable", .bool true),
    ("properties", .obj [("text", .obj [("type", .str "string")])])]

/-- An object that extends another one. -/
def lodger : Json :=
  .obj [("allOf", .arr [.obj [("$ref", .str "#/definitions/Person")]]),
    ("properties", .obj [("room", .obj [("type", .str "integer")])])]

def houseScope : Scope :=
  .of (.ofList [("Person", .obj [("properties", .obj [])]), ("Remark", remark),
    ("Lodger", lodger)])

/-- As a declared type the one is not null and the other does not extend anything, inline the one
may be null and the other has no room. -/
theorem house_not_read_inline :
    (compileKind houseScope "Remark" remark).value =
      .object [⟨"text", .plain .string, false, none⟩] ∧
    (compileSchema houseScope remark "Remark").value =
      .nullable (.object [⟨"text", .plain .string, false, none⟩]) ∧
    (compileKind houseScope "Lodger" lodger).value =
      .object [⟨"room", .plain .integer, false, none⟩] ∧
    (compileSchema houseScope lodger "Lodger").value = .reference "Person" .model ∧
    ¬ (compileKind houseScope "Remark" remark).value.Reads
      (compileSchema houseScope remark "Remark").value ∧
    ¬ (compileKind houseScope "Lodger" lodger).value.Reads
      (compileSchema houseScope lodger "Lodger").value := by
  have hremark : (compileSchema houseScope remark "Remark").value =
      .nullable (.object [⟨"text", .plain .string, false, none⟩]) := rfl
  have hlodger : (compileSchema houseScope lodger "Lodger").value =
      .reference "Person" .model := rfl
  refine ⟨rfl, hremark, rfl, hlodger, ?_, ?_⟩
  · rw [hremark]
    exact fun h => nomatch isSimple_of_reads rfl h
  · rw [hlodger]
    exact fun h => nomatch isSimple_of_reads rfl h

end ClientGen
