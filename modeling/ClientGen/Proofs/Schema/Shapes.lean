import ClientGen.Schema.Compile
import Mathlib.Data.List.Basic

/-!
# Shapes of compiled schemas

What compiling makes against a scope has one of few shapes. A reference has the target that the
scope has for its name, unions and intersections have several parts, and only what does not admit
null yet is put under a null. A fact about all compiled schemas is proved by induction on their
shape, whatever raw schemas they come from.
-/

namespace ClientGen
open Api

/-- The schemas that compiling makes against a scope. -/
inductive Schema.Compiled (scope : Scope) : Schema → Prop
  | text (raw : Json) : Compiled scope (.primitive .string (stringConstraints raw))
  | integer (raw : Json) : Compiled scope (.primitive .integer (numberConstraints raw))
  | number (raw : Json) : Compiled scope (.primitive .number (numberConstraints raw))
  | boolean : Compiled scope (.plain .boolean)
  | file : Compiled scope (.plain .file)
  | reference (name : String) : Compiled scope (.reference name (scope.target name))
  | array {element : Schema} : Compiled scope element → Compiled scope (.array element)
  | object {fields : List Field} :
      (∀ field ∈ fields, Compiled scope field.schema) → Compiled scope (.object fields)
  | union {branches : List Schema} : 2 ≤ branches.length →
      (∀ branch ∈ branches, Compiled scope branch) → Compiled scope (.union branches)
  | intersection {members : List Schema} : 2 ≤ members.length →
      (∀ member ∈ members, Compiled scope member) → Compiled scope (.intersection members)
  | nullable {inner : Schema} : inner.orNull = .nullable inner → Compiled scope inner →
      Compiled scope (.nullable inner)
  | unknown : Compiled scope .unknown

theorem two_le_length {α : Type} {xs : List α} (hnil : xs ≠ []) (hsingle : ∀ x, xs ≠ [x]) :
    2 ≤ xs.length := by
  match xs, hnil, hsingle with
  | [], hnil, _ => exact absurd rfl hnil
  | [x], _, hsingle => exact absurd rfl (hsingle x)
  | _ :: _ :: _, _, _ => exact Nat.le_add_left ..

namespace Schema.Compiled

variable {scope : Scope}

theorem orNull {schema : Schema} (h : schema.Compiled scope) : schema.orNull.Compiled scope := by
  cases hshape : schema with
  | nullable inner =>
    rw [hshape] at h
    exact h
  | unknown => exact .unknown
  | _ =>
    rw [hshape] at h
    exact .nullable rfl h

theorem orNullIf {schema : Schema} (h : schema.Compiled scope) (hasNull : Bool) :
    (if hasNull then schema.orNull else schema).Compiled scope := by
  cases hasNull with
  | true => exact h.orNull
  | false => exact h

theorem unionOf {schemas : List Schema} (h : ∀ schema ∈ schemas, schema.Compiled scope)
    (hasNull : Bool) : (ClientGen.unionOf hasNull schemas).Compiled scope := by
  unfold ClientGen.unionOf
  split
  · exact .unknown
  · exact (h _ (List.mem_singleton_self _)).orNullIf hasNull
  · rename_i hnil hsingle
    have hunion : (Schema.union schemas).Compiled scope := .union (two_le_length hnil hsingle) h
    exact hunion.orNullIf hasNull

theorem intersectionOf {schemas : List Schema} (h : ∀ schema ∈ schemas, schema.Compiled scope) :
    (ClientGen.intersectionOf schemas).Compiled scope := by
  unfold ClientGen.intersectionOf
  split
  · exact .unknown
  · exact h _ (List.mem_singleton_self _)
  · rename_i hnil hsingle
    exact .intersection (two_le_length hnil hsingle) h

end Schema.Compiled

/-- What holds of all schemas that are made on the levels below holds of those that are made of a
list. -/
theorem of_mem_each {P : Schema → Prop} {inner : Json → String → Compiling Schema}
    (hinner : ∀ raw location, P (inner raw location).value) {raws : List Json} {location : String}
    {schema : Schema} (h : schema ∈ (Traced.each (inner · location) raws).value) : P schema := by
  rw [Traced.value_each] at h
  obtain ⟨raw, _, rfl⟩ := List.mem_map.1 h
  exact hinner raw location

theorem of_mem_compileFields {P : Schema → Prop} {inner : Json → String → Compiling Schema}
    (hinner : ∀ raw location, P (inner raw location).value) {location : String}
    {raw properties : Json} {field : Field}
    (h : field ∈ (compileFields inner location raw properties).value) : P field.schema := by
  unfold compileFields at h
  split at h
  · rw [Traced.value_each] at h
    obtain ⟨⟨name, property⟩, _, rfl⟩ := List.mem_map.1 h
    exact hinner property _
  · exact absurd h List.not_mem_nil

section
variable {scope : Scope} {inner : Json → String → Compiling Schema}
  (hinner : ∀ raw location, (inner raw location).value.Compiled scope)
include hinner

theorem compiled_compileType (location : String) (raw : Json) (type : Option String) :
    (compileType inner location raw type).value.Compiled scope := by
  unfold compileType
  split
  case h_1 => exact .unknown
  case h_2 => exact .text raw
  case h_3 => exact .integer raw
  case h_4 => exact .number raw
  case h_5 => exact .boolean
  case h_6 => exact .file
  -- only arrays and objects have schemas below them
  case h_7 =>
    split
    · exact .array (hinner _ _)
    · exact .array .unknown
  case h_8 =>
    split
    · exact .object fun _ hfield => of_mem_compileFields hinner hfield
    · exact .object (List.forall_mem_nil _)
  case h_9 => exact .unknown
  case h_10 => exact .unknown

theorem compiled_compileShape (location : String) (raw : Json) :
    (compileShape scope inner location raw).value.Compiled scope := by
  unfold compileShape
  split
  · exact .reference _
  · split
    · exact .unionOf (fun _ hschema => of_mem_each hinner hschema) _
    · split
      · exact .intersectionOf fun _ hschema => of_mem_each hinner hschema
      · exact (compiled_compileType hinner location raw _).orNullIf _

end

theorem compiled_compileLevels (scope : Scope) (levels : Nat) (raw : Json) (location : String) :
    (compileLevels scope levels raw location).value.Compiled scope := by
  -- on the levels that are left: one level makes compiled schemas of those below it
  induction levels generalizing raw location with
  | zero => exact .unknown
  | succ levels ih =>
    unfold compileLevels
    split
    · exact (compiled_compileShape ih location _).orNullIf _
    · exact .unknown

theorem compiled_compileAt (scope : Scope) (depth : Nat) (raw : Json) (location : String) :
    (compileAt scope depth raw location).value.Compiled scope :=
  compiled_compileLevels scope _ raw location

end ClientGen
