import ClientGen.Proofs.Json.Place
import ClientGen.Proofs.Schema.Declared
import ClientGen.Proofs.Traced

/-!
# Spellings of null

A schema says in its list of types that it admits null, or by a flag, or it is put into a union with
the schema of null. The three are noticed at different steps of compiling, and several of them may
meet in one schema. They come to the same: null is added to what the schema is without it, and
nothing is warned of that would not be warned of anyway.
-/

namespace ClientGen
open Api

/-! ### Members that are read

Compiling a level looks at a schema through some of its members only. Schemas that agree in these
compile alike, whatever else they have. -/

/-- Two values have the same members of some names. -/
def AgreeOn (keys : List String) (raw other : Json) : Prop :=
  ∀ key ∈ keys, other.get? key = raw.get? key

def typeKeys : List String :=
  ["minLength", "maxLength", "pattern", "format", "enum", "minimum", "maximum", "items",
    "properties", "required"]

def shapeKeys : List String := ["$ref", "anyOf", "oneOf", "allOf", "type"] ++ typeKeys

theorem AgreeOn.mono {keys more : List String} {raw other : Json} (h : AgreeOn more raw other)
    (hkeys : keys ⊆ more) : AgreeOn keys raw other :=
  fun key hkey => h key (hkeys hkey)

theorem agreeOn_setChild {keys : List String} {key : String} (hkey : key ∉ keys)
    (raw value : Json) : AgreeOn keys raw (raw.setChild (.member key) value) := by
  intro other hother
  have hne : other ≠ key := fun h => hkey (h ▸ hother)
  cases raw with
  | obj members => exact (Dict.lookup_replaceOrAppend key other _ members).trans (if_neg hne)
  | _ => rfl

theorem get?_setChild {raw old : Json} {other : String} (h : raw.get? other = some old)
    (key : String) (value : Json) :
    (raw.setChild (.member key) value).get? key = some value := by
  cases raw with
  | obj members => exact (Dict.lookup_replaceOrAppend key key _ members).trans (if_pos rfl)
  | _ => cases h

section
variable {inner : Json → String → Compiling Schema} {location : String} {raw other : Json}

theorem compileType_congr (h : AgreeOn typeKeys raw other) (type : Option String) :
    compileType inner location other type = compileType inner location raw type := by
  have hliterals : literalValues other = literalValues raw := by
    rw [literalValues, literalValues, Json.getItems?, Json.getItems?, h "enum" (by decide)]
  have hstring : stringConstraints other = stringConstraints raw := by
    simp only [stringConstraints, Json.getText?, hliterals, h "minLength" (by decide),
      h "maxLength" (by decide), h "pattern" (by decide), h "format" (by decide)]
  have hnumber : numberConstraints other = numberConstraints raw := by
    simp only [numberConstraints, h "minimum" (by decide), h "maximum" (by decide)]
  have hrequired : requiredNames other = requiredNames raw := by
    rw [requiredNames, requiredNames, Json.getItems?, Json.getItems?, h "required" (by decide)]
  have hitems := h "items" (by decide)
  have hproperties := h "properties" (by decide)
  unfold compileType
  simp only [hstring, hnumber, hitems, hproperties, compileFields, hrequired]

theorem compileTyped_congr (h : AgreeOn ("type" :: typeKeys) raw other) :
    compileTyped inner location other = compileTyped inner location raw := by
  have hdeclared : declaredType? other = declaredType? raw := by
    rw [declaredType?, declaredType?, h "type" (by decide)]
  have himplied : impliedType? other = impliedType? raw := by
    rw [impliedType?, impliedType?, h "properties" (by decide), h "items" (by decide),
      h "enum" (by decide)]
  have hkeys := h.mono (List.subset_cons_self _ typeKeys)
  simp only [compileTyped, hdeclared, himplied, compileType_congr hkeys]

theorem compileShape_congr (scope : Scope) (h : AgreeOn shapeKeys raw other) :
    compileShape scope inner location other = compileShape scope inner location raw := by
  have hreference : other.getText? "$ref" = raw.getText? "$ref" := by
    rw [Json.getText?, Json.getText?, h "$ref" (by decide)]
  have hunion : unionBranches? other = unionBranches? raw := by
    rw [unionBranches?, unionBranches?, h "anyOf" (by decide), h "oneOf" (by decide)]
  have hmembers : other.getItems? "allOf" = raw.getItems? "allOf" := by
    rw [Json.getItems?, Json.getItems?, h "allOf" (by decide)]
  have hkeys : "type" :: typeKeys ⊆ shapeKeys := by decide
  have htyped : compileTyped inner location other = compileTyped inner location raw :=
    compileTyped_congr (h.mono hkeys)
  rw [compileShape, compileShape, hreference, hunion, hmembers, htyped]

end

theorem orNull_orNull (schema : Schema) : schema.orNull.orNull = schema.orNull := by
  cases schema <;> rfl

def orNullIf (hasNull : Bool) (schema : Schema) : Schema :=
  if hasNull then schema.orNull else schema

theorem orNullIf_orNull (hasNull : Bool) (schema : Schema) :
    orNullIf hasNull schema.orNull = schema.orNull := by
  cases hasNull with
  | true => exact orNull_orNull schema
  | false => rfl

theorem orNull_orNullIf (hasNull : Bool) (schema : Schema) :
    (orNullIf hasNull schema).orNull = schema.orNull := by
  cases hasNull with
  | true => exact orNull_orNull schema
  | false => rfl

def hasNullFlag (raw : Json) : Bool := raw.flag "nullable" || raw.flag "x-nullable"

theorem compileTyped_eq {inner : Json → String → Compiling Schema} {location : String}
    {raw : Json} {type : String} {hasNull : Bool} (h : declaredType? raw = (some type, hasNull)) :
    compileTyped inner location raw =
      (compileType inner location raw (some type)).mapValue (orNullIf hasNull) := by
  rw [compileTyped, h]
  exact Traced.bind_pure_eq _ _

theorem compileLevels_succ {scope : Scope} {levels : Nat} {raw value : Json} {key : String}
    (h : raw.get? key = some value) (location : String) :
    compileLevels scope (levels + 1) raw location =
      (compileShape scope (compileLevels scope levels) location raw).mapValue
        (orNullIf (hasNullFlag raw)) := by
  obtain ⟨first, rest, rfl⟩ := exists_members h
  exact Traced.bind_pure_eq _ _

/-- The members by which a schema is something else than a value of its type. -/
def composingKeys : List String := ["$ref", "anyOf", "oneOf", "allOf"]

theorem compileShape_of_free {scope : Scope} {inner : Json → String → Compiling Schema}
    {raw : Json} (hfree : ∀ key ∈ composingKeys, raw.get? key = none) (location : String) :
    compileShape scope inner location raw = compileTyped inner location raw := by
  have hreference : raw.getText? "$ref" = none := by
    rw [Json.getText?, hfree "$ref" (by decide)]
    rfl
  have hunion : unionBranches? raw = none := by
    rw [unionBranches?, hfree "anyOf" (by decide), hfree "oneOf" (by decide)]
    rfl
  have hmembers : raw.getItems? "allOf" = none := by
    rw [Json.getItems?, hfree "allOf" (by decide)]
    rfl
  rw [compileShape, hreference, hunion, hmembers]

section
variable {scope : Scope} {raw : Json} {type : String}
  (htype : raw.get? "type" = some (.str type))
  (hfree : ∀ key ∈ composingKeys, raw.get? key = none)
include htype hfree

theorem compileLevels_of_type (levels : Nat) (location : String) :
    compileLevels scope (levels + 1) raw location =
      (compileType (compileLevels scope levels) location raw (some type)).mapValue
        (orNullIf (hasNullFlag raw)) := by
  have hdeclared : declaredType? raw = (some type, false) := by rw [declaredType?, htype]
  rw [compileLevels_succ htype, compileShape_of_free hfree, compileTyped_eq hdeclared]
  rfl

theorem compileLevels_of_types {types : List Json}
    (htypes : declaredType? (.obj [("type", .arr types)]) = (some type, true))
    (levels : Nat) (location : String) :
    compileLevels scope (levels + 1) (raw.setChild (.member "type") (.arr types)) location =
      (compileLevels scope (levels + 1) raw location).mapValue Schema.orNull := by
  have hset := get?_setChild htype "type" (.arr types)
  have hagree (keys : List String) (hkeys : "type" ∉ keys) :
      AgreeOn keys raw (raw.setChild (.member "type") (.arr types)) :=
    agreeOn_setChild hkeys raw _
  have hdeclared : declaredType? (raw.setChild (.member "type") (.arr types)) =
      (some type, true) := by
    rw [← htypes, declaredType?, declaredType?, hset]
    rfl
  have hfree' : ∀ key ∈ composingKeys,
      (raw.setChild (.member "type") (.arr types)).get? key = none := fun key hkey => by
    rw [hagree composingKeys (by decide) key hkey, hfree key hkey]
  rw [compileLevels_succ hset, compileShape_of_free hfree', compileTyped_eq hdeclared,
    compileType_congr (hagree typeKeys (by decide)), compileLevels_of_type htype hfree,
    Traced.mapValue_mapValue, Traced.mapValue_mapValue]
  congr 1
  funext schema
  exact (orNullIf_orNull _ schema).trans (orNull_orNullIf _ schema).symm

omit hfree in
theorem compileLevels_of_flag {flag : String} (hflag : flag = "nullable" ∨ flag = "x-nullable")
    (levels : Nat) (location : String) :
    compileLevels scope (levels + 1) (raw.setChild (.member flag) (.bool true)) location =
      (compileLevels scope (levels + 1) raw location).mapValue Schema.orNull := by
  have hset := get?_setChild htype flag (.bool true)
  have hkeys : flag ∉ shapeKeys := by
    rcases hflag with rfl | rfl <;> decide
  have hflagged : hasNullFlag (raw.setChild (.member flag) (.bool true)) = true := by
    rw [hasNullFlag, Json.flag, Json.flag]
    rcases hflag with rfl | rfl
    · rw [hset]
      rfl
    · rw [hset]
      exact Bool.or_true _
  rw [compileLevels_succ hset, compileShape_congr scope (agreeOn_setChild hkeys raw _), hflagged,
    compileLevels_succ htype, Traced.mapValue_mapValue]
  congr 1
  funext schema
  exact (orNull_orNullIf _ schema).symm

end

def nullSchema : Json := .obj [("type", .str "null")]

theorem compileLevels_of_union {scope : Scope} {raw : Json} (hraw : isNullSchema raw = false)
    {branches : List Json} (hbranches : branches = [raw, nullSchema] ∨ branches = [nullSchema, raw])
    {key : String} (hkey : key = "anyOf" ∨ key = "oneOf") (levels : Nat) (location : String) :
    compileLevels scope (levels + 1) (.obj [(key, .arr branches)]) location =
      (compileLevels scope levels raw location).mapValue Schema.orNull := by
  have hget : (Json.obj [(key, .arr branches)]).get? key = some (.arr branches) :=
    List.lookup_cons_self
  have hnull : isNullSchema nullSchema = true := by decide
  have hany : branches.any isNullSchema = true := by
    rcases hbranches with rfl | rfl <;> simp [hnull]
  have hleft : (branches.filter fun b => !isNullSchema b) = [raw] := by
    rcases hbranches with rfl | rfl <;> simp [hnull, hraw]
  have hflags : hasNullFlag (.obj [(key, .arr branches)]) = false := by
    rcases hkey with rfl | rfl <;> rfl
  have hshape : compileShape scope (compileLevels scope levels) location
      (.obj [(key, .arr branches)]) =
        (Traced.each (compileLevels scope levels · location)
          (branches.filter fun b => !isNullSchema b)).mapValue
            (unionOf (branches.any isNullSchema)) := by
    rcases hkey with rfl | rfl <;> exact Traced.bind_pure_eq _ _
  rw [compileLevels_succ hget, hshape, hany, hleft, hflags, Traced.mapValue_mapValue,
    Traced.each_singleton, Traced.mapValue_mapValue]
  rfl

/-- The spellings at the level of a schema: in its list of types and by a flag. -/
def nullSpellings (type : String) (raw : Json) : List Json := [
  raw.setChild (.member "type") (.arr [.str type, .str "null"]),
  raw.setChild (.member "type") (.arr [.str "null", .str type]),
  raw.setChild (.member "nullable") (.bool true),
  raw.setChild (.member "x-nullable") (.bool true)]

/-- The spellings a level above a schema: as a branch of a union with the schema of null. -/
def nullUnions (raw : Json) : List Json := [
  .obj [("anyOf", .arr [raw, nullSchema])], .obj [("anyOf", .arr [nullSchema, raw])],
  .obj [("oneOf", .arr [raw, nullSchema])], .obj [("oneOf", .arr [nullSchema, raw])]]

section
variable {scope : Scope} {raw : Json} {type : String}
  (htype : raw.get? "type" = some (.str type)) (hnull : type ≠ "null")
include htype hnull

theorem compileLevels_nullSpellings (hfree : ∀ key ∈ composingKeys, raw.get? key = none)
    {spelled : Json} (h : spelled ∈ nullSpellings type raw) (levels : Nat) (location : String) :
    compileLevels scope levels spelled location =
      (compileLevels scope levels raw location).mapValue Schema.orNull := by
  have htypes : ∀ types, types = [.str type, .str "null"] ∨ types = [.str "null", .str type] →
      declaredType? (.obj [("type", .arr types)]) = (some type, true) := by
    rintro types (rfl | rfl) <;> simp [declaredType?, Json.get?, Json.text?, hnull]
  cases levels with
  | zero => rfl
  | succ levels =>
    simp only [nullSpellings, List.mem_cons, List.not_mem_nil, or_false] at h
    rcases h with rfl | rfl | rfl | rfl
    · exact compileLevels_of_types htype hfree (htypes _ (.inl rfl)) levels location
    · exact compileLevels_of_types htype hfree (htypes _ (.inr rfl)) levels location
    · exact compileLevels_of_flag htype (.inl rfl) levels location
    · exact compileLevels_of_flag htype (.inr rfl) levels location

theorem compileLevels_nullUnions {spelled : Json} (h : spelled ∈ nullUnions raw) (levels : Nat)
    (location : String) : compileLevels scope (levels + 1) spelled location =
      (compileLevels scope levels raw location).mapValue Schema.orNull := by
  have hraw : isNullSchema raw = false := by
    simp [isNullSchema, Json.getText?, htype, Json.text?, hnull]
  simp only [nullUnions, List.mem_cons, List.not_mem_nil, or_false] at h
  rcases h with rfl | rfl | rfl | rfl
  · exact compileLevels_of_union hraw (.inl rfl) (.inl rfl) levels location
  · exact compileLevels_of_union hraw (.inr rfl) (.inl rfl) levels location
  · exact compileLevels_of_union hraw (.inl rfl) (.inr rfl) levels location
  · exact compileLevels_of_union hraw (.inr rfl) (.inr rfl) levels location

end

/-- A schema of a declared type compiles alike in all spellings with null, to what it is without
null with null added, and with the same notes. A union takes a level of its own, so it starts one
level above. -/
theorem null_spellings_agree (scope : Scope) {depth : Nat} (hdepth : 1 ≤ depth) {raw : Json}
    {type : String} (htype : raw.get? "type" = some (.str type)) (hnull : type ≠ "null")
    (hfree : ∀ key ∈ composingKeys, raw.get? key = none) (location : String) :
    (∀ spelled ∈ nullSpellings type raw, compileAt scope depth spelled location =
        (compileAt scope depth raw location).mapValue Schema.orNull) ∧
      ∀ spelled ∈ nullUnions raw, compileAt scope (depth - 1) spelled location =
        (compileAt scope depth raw location).mapValue Schema.orNull := by
  refine ⟨fun spelled h => compileLevels_nullSpellings htype hnull hfree h _ location, ?_⟩
  intro spelled h
  rw [compileAt, compileAt]
  by_cases hlevels : depth ≤ maxDepth + 1
  · have habove : maxDepth + 1 - (depth - 1) = maxDepth + 1 - depth + 1 := by omega
    rw [habove]
    exact compileLevels_nullUnions htype hnull h _ location
  · -- below the last level nothing is looked at any more
    have hnone : maxDepth + 1 - depth = 0 := by omega
    have hnone' : maxDepth + 1 - (depth - 1) = 0 := by omega
    rw [hnone, hnone']
    rfl

/-- A list of references that lead nowhere. It says itself that it does not admit null. -/
def tagList : Json :=
  .obj [("nullable", .bool false), ("type", .str "array"),
    ("items", .obj [("$ref", .str "#/definitions/Tag")])]

theorem tagList_null_spellings :
    compileAt (Scope.of .empty) 1 tagList "Post.tags" =
      ⟨.array (.reference "Tag" .unresolved), [.warning (.unresolvable "Post.tags" "Tag")]⟩ ∧
    (∀ spelled ∈ nullSpellings "array" tagList,
      compileAt (Scope.of .empty) 1 spelled "Post.tags" =
        (compileAt (Scope.of .empty) 1 tagList "Post.tags").mapValue Schema.orNull) ∧
    ∀ spelled ∈ nullUnions tagList, compileAt (Scope.of .empty) 0 spelled "Post.tags" =
      (compileAt (Scope.of .empty) 1 tagList "Post.tags").mapValue Schema.orNull :=
  ⟨rfl, null_spellings_agree (Scope.of .empty) (Nat.le_refl 1) rfl (by decide) (by decide)
    "Post.tags"⟩

end ClientGen
