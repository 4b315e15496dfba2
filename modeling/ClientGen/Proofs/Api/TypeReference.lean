import ClientGen.Api.Document
import Mathlib.Data.List.Basic
import Mathlib.Data.List.TakeWhile

/-!
# Names of references

A reference names the type behind its last slash, and the types that a value refers to are those
of its references at any depth.
-/

namespace ClientGen.Api

theorem referenceName_below (front name : String) :
    referenceName (front ++ "/" ++ name) = referenceName name := by
  have hslash : ("/".toList : List Char) = ['/'] := rfl
  unfold referenceName
  rw [String.toList_append, String.toList_append, hslash, List.append_assoc, List.reverse_append,
    List.singleton_append, List.reverse_cons, List.append_assoc, List.singleton_append,
    List.takeWhile_append]
  split
  · rename_i hall
    have hlast : ('/' :: front.toList.reverse).takeWhile (fun c => decide (c ≠ '/')) = [] := by
      simp
    rw [hlast, List.append_nil, (List.takeWhile_prefix _).eq_of_length hall]
  · rfl

theorem referenceName_plain {name : String} (h : '/' ∉ name.toList) :
    referenceName name = name := by
  have hall : ∀ c ∈ name.toList.reverse, decide (c ≠ '/') = true := by
    intro c hc
    have hmem : c ∈ name.toList := List.mem_reverse.1 hc
    exact decide_eq_true fun hslash => h (hslash ▸ hmem)
  unfold referenceName
  rw [List.takeWhile_eq_self_iff.2 hall, List.reverse_reverse, String.ofList_toList]

theorem resolve?_plain {entry : Json} (h : entry.getText? "$ref" = none) (document : Json) :
    resolve? document entry = some entry := by
  rw [resolve?, h]

theorem resolve?_local {document entry : Json} {pointer : String}
    (h : entry.getText? "$ref" = some ("#" ++ pointer)) :
    resolve? document entry = document.pointer? pointer := by
  have htext : ("#" ++ pointer).toList = '#' :: pointer.toList := by
    rw [String.toList_append]
    rfl
  unfold resolve?
  rw [h]
  simp only [htext, String.ofList_toList]

/-- A value has a reference with a text at some depth. -/
inductive HasReference (reference : String) : Json → Prop
  | here {members : List (String × Json)} (h : ("$ref", Json.str reference) ∈ members) :
      HasReference reference (.obj members)
  | member {members : List (String × Json)} {key : String} {value : Json}
      (hmem : (key, value) ∈ members) (h : HasReference reference value) :
      HasReference reference (.obj members)
  | item {items : List Json} {value : Json} (hmem : value ∈ items)
      (h : HasReference reference value) : HasReference reference (.arr items)

theorem mem_memberValues {members : List (String × Json)} {value : Json} :
    value ∈ memberValues members ↔ ∃ key, (key, value) ∈ members := by
  induction members with
  | nil => simp [memberValues]
  | cons member rest ih =>
    obtain ⟨key, first⟩ := member
    simp only [memberValues, List.mem_cons, ih, Prod.mk.injEq]
    constructor
    · rintro (rfl | ⟨key', h⟩)
      · exact ⟨key, .inl ⟨rfl, rfl⟩⟩
      · exact ⟨key', .inr h⟩
    · rintro ⟨key', ⟨-, rfl⟩ | h⟩
      · exact .inl rfl
      · exact .inr ⟨key', h⟩

theorem mem_filterMap_memberReference? {members : List (String × Json)} {name : String} :
    name ∈ members.filterMap memberReference? ↔
      ∃ reference, ("$ref", Json.str reference) ∈ members ∧ referenceName reference = name := by
  rw [List.mem_filterMap]
  constructor
  · rintro ⟨⟨key, value⟩, hmem, h⟩
    cases value with
    | str reference =>
      rw [memberReference?] at h
      split at h
      · rename_i hkey
        injection h with h
        exact ⟨reference, hkey ▸ hmem, h⟩
      · cases h
    | _ => cases h
  · rintro ⟨reference, hmem, rfl⟩
    exact ⟨_, hmem, rfl⟩

theorem hasReference_obj_iff {members : List (String × Json)} {reference : String} :
    HasReference reference (.obj members) ↔ ("$ref", Json.str reference) ∈ members ∨
      ∃ value ∈ memberValues members, HasReference reference value := by
  constructor
  · rintro (h | ⟨hmem, h⟩)
    · exact .inl h
    · exact .inr ⟨_, mem_memberValues.2 ⟨_, hmem⟩, h⟩
  · rintro (h | ⟨value, hmem, h⟩)
    · exact .here h
    · obtain ⟨key, hmem⟩ := mem_memberValues.1 hmem
      exact .member hmem h

theorem hasReference_arr_iff {items : List Json} {reference : String} :
    HasReference reference (.arr items) ↔ ∃ value ∈ items, HasReference reference value := by
  constructor
  · rintro (_ | _ | ⟨hmem, h⟩)
    exact ⟨_, hmem, h⟩
  · rintro ⟨value, hmem, h⟩
    exact .item hmem h

/-- A search takes one value after the other and puts what an object or a list holds in its
place. -/
theorem pending_induction {P : List Json → Prop} (done : P [])
    (object : ∀ members rest, P (memberValues members ++ rest) → P (.obj members :: rest))
    (list : ∀ items rest, P (items ++ rest) → P (.arr items :: rest))
    (leaf : ∀ value rest, value.members? = none → value.items? = none → P rest →
      P (value :: rest)) : ∀ pending, P pending
  | [] => done
  | .obj members :: rest => object members rest (pending_induction done object list leaf _)
  | .arr items :: rest => list items rest (pending_induction done object list leaf _)
  | .null :: rest => leaf .null rest rfl rfl (pending_induction done object list leaf rest)
  | .bool b :: rest => leaf (.bool b) rest rfl rfl (pending_induction done object list leaf rest)
  | .num n :: rest => leaf (.num n) rest rfl rfl (pending_induction done object list leaf rest)
  | .str s :: rest => leaf (.str s) rest rfl rfl (pending_induction done object list leaf rest)
termination_by pending => itemWeight pending
decreasing_by
  all_goals simp [itemWeight, weight, itemWeight_append, itemWeight_memberValues]

theorem searchReferences_leaf {value : Json} (hobject : value.members? = none)
    (hlist : value.items? = none) (found : List String) (rest : List Json) :
    searchReferences found (value :: rest) = searchReferences found rest := by
  cases value with
  | obj members => cases hobject
  | arr items => cases hlist
  | _ => rw [searchReferences]

theorem not_hasReference_leaf {value : Json} (hobject : value.members? = none)
    (hlist : value.items? = none) (reference : String) : ¬HasReference reference value := by
  rintro (_ | _ | _)
  · cases hobject
  · cases hobject
  · cases hlist

def RefersTo (name : String) (value : Json) : Prop :=
  ∃ reference, HasReference reference value ∧ referenceName reference = name

theorem refersTo_obj_iff {name : String} {members : List (String × Json)} :
    RefersTo name (.obj members) ↔ name ∈ members.filterMap memberReference? ∨
      ∃ value ∈ memberValues members, RefersTo name value := by
  rw [mem_filterMap_memberReference?]
  constructor
  · rintro ⟨reference, h, hname⟩
    rcases hasReference_obj_iff.1 h with hmem | ⟨value, hmem, h⟩
    · exact .inl ⟨reference, hmem, hname⟩
    · exact .inr ⟨value, hmem, reference, h, hname⟩
  · rintro (⟨reference, hmem, hname⟩ | ⟨value, hmem, reference, h, hname⟩)
    · exact ⟨reference, .here hmem, hname⟩
    · exact ⟨reference, hasReference_obj_iff.2 (.inr ⟨value, hmem, h⟩), hname⟩

theorem refersTo_arr_iff {name : String} {items : List Json} :
    RefersTo name (.arr items) ↔ ∃ value ∈ items, RefersTo name value := by
  constructor
  · rintro ⟨reference, h, hname⟩
    obtain ⟨value, hmem, h⟩ := hasReference_arr_iff.1 h
    exact ⟨value, hmem, reference, h, hname⟩
  · rintro ⟨value, hmem, reference, h, hname⟩
    exact ⟨reference, .item hmem h, hname⟩

/-- A search finds what was found before and what the values refer to that it searches. -/
theorem mem_searchReferences (name : String) (pending : List Json) (found : List String) :
    name ∈ searchReferences found pending ↔
      name ∈ found ∨ ∃ value ∈ pending, RefersTo name value := by
  revert found
  refine pending_induction (P := fun pending => ∀ found, name ∈ searchReferences found pending ↔
    name ∈ found ∨ ∃ value ∈ pending, RefersTo name value) ?_ ?_ ?_ ?_ pending
  · intro found
    simp [searchReferences]
  · intro members rest ih found
    rw [searchReferences, ih, mem_foldl_insertOrdered]
    simp only [List.mem_append, List.exists_mem_cons_iff, refersTo_obj_iff, or_and_right, exists_or]
    constructor
    · rintro ((h | h) | h | h)
      · exact .inr (.inl (.inl h))
      · exact .inl h
      · exact .inr (.inl (.inr h))
      · exact .inr (.inr h)
    · rintro (h | (h | h) | h)
      · exact .inl (.inr h)
      · exact .inl (.inl h)
      · exact .inr (.inl h)
      · exact .inr (.inr h)
  · intro items rest ih found
    rw [searchReferences, ih]
    simp only [List.mem_append, List.exists_mem_cons_iff, refersTo_arr_iff, or_and_right, exists_or]
  · intro value rest hobject hlist ih found
    rw [searchReferences_leaf hobject hlist, ih, List.exists_mem_cons_iff]
    have hnone : ¬RefersTo name value := by
      rintro ⟨reference, h, -⟩
      exact not_hasReference_leaf hobject hlist reference h
    rw [or_iff_right hnone]

theorem mem_collectReferences {name : String} {value : Json} :
    name ∈ collectReferences value ↔ RefersTo name value := by
  rw [collectReferences, mem_searchReferences]
  simp

end ClientGen.Api
