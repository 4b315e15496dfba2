import Mathlib.Data.List.Induction
import Mathlib.Data.List.Nodup

/-!
# First occurrences

Fields, references and slices are collected by one rule: of the elements with one key the first is
kept. The keys of what is kept are distinct, every element has its key among them, and what is kept
of a key is what a search for it finds first.
-/

namespace ClientGen

section
variable {α β κ : Type} [DecidableEq κ]

def keepNew (key : α → κ) (kept : List α) (a : α) : List α :=
  if kept.any (fun b => key b = key a) then kept else kept ++ [a]

/-- The elements whose key no earlier one has. -/
def firstOccurrences (key : α → κ) (xs : List α) : List α := xs.foldl (keepNew key) []

theorem any_key_iff {key : α → κ} {kept : List α} {a : α} :
    kept.any (fun b => key b = key a) ↔ key a ∈ kept.map key := by
  simp [List.any_eq_true]

theorem keepNew_nodup {key : α → κ} {kept : List α} (a : α) (h : (kept.map key).Nodup) :
    ((keepNew key kept a).map key).Nodup := by
  unfold keepNew
  split
  · exact h
  · rename_i hnew
    rw [any_key_iff] at hnew
    rw [List.map_append, List.nodup_append]
    refine ⟨h, List.nodup_singleton _, ?_⟩
    intro k hk k' hk' hsame
    rw [hsame, List.mem_singleton.1 hk'] at hk
    exact hnew hk

theorem mem_keepNew {key : α → κ} {kept : List α} (a : α) {b : α} (h : b ∈ kept) :
    b ∈ keepNew key kept a := by
  unfold keepNew
  split
  · exact h
  · exact List.mem_append_left _ h

theorem key_mem_keepNew (key : α → κ) (kept : List α) (a : α) :
    key a ∈ (keepNew key kept a).map key := by
  unfold keepNew
  split
  · rename_i hold
    exact any_key_iff.1 hold
  · simp

theorem firstOccurrences_nodup (key : α → κ) (xs : List α) :
    ((firstOccurrences key xs).map key).Nodup :=
  List.foldlRecOn (motive := fun kept => (List.map key kept).Nodup) xs _ List.nodup_nil
    fun _ h a _ => keepNew_nodup a h

theorem firstOccurrences_concat (key : α → κ) (xs : List α) (a : α) :
    firstOccurrences key (xs ++ [a]) = keepNew key (firstOccurrences key xs) a := by
  rw [firstOccurrences, List.foldl_append]
  rfl

theorem firstOccurrences_sublist (key : α → κ) (xs : List α) :
    (firstOccurrences key xs).Sublist xs := by
  induction xs using List.reverseRecOn with
  | nil => exact List.Sublist.refl _
  | append_singleton xs a ih =>
    rw [firstOccurrences_concat, keepNew]
    split
    · exact ih.trans (List.sublist_append_left xs [a])
    · exact ih.append (List.Sublist.refl [a])

theorem mem_of_mem_firstOccurrences {key : α → κ} {xs : List α} {a : α}
    (h : a ∈ firstOccurrences key xs) : a ∈ xs :=
  (firstOccurrences_sublist key xs).mem h

theorem mem_foldl_keepNew {key : α → κ} (xs : List α) {kept : List α} {a : α} (h : a ∈ kept) :
    a ∈ xs.foldl (keepNew key) kept :=
  List.foldlRecOn (motive := fun kept => a ∈ kept) xs _ h fun _ h b _ => mem_keepNew b h

theorem prefix_keepNew (key : α → κ) (kept : List α) (a : α) : kept <+: keepNew key kept a := by
  unfold keepNew
  split
  · exact List.prefix_refl kept
  · exact List.prefix_append kept [a]

theorem firstOccurrences_prefix (key : α → κ) (xs ys : List α) :
    firstOccurrences key xs <+: firstOccurrences key (xs ++ ys) := by
  rw [firstOccurrences, firstOccurrences, List.foldl_append]
  exact List.foldlRecOn (motive := fun kept => xs.foldl (keepNew key) [] <+: kept) ys _
    (List.prefix_refl _) fun kept h a _ => h.trans (prefix_keepNew key kept a)

theorem exists_mem_firstOccurrences (key : α → κ) {xs : List α} {a : α} (h : a ∈ xs) :
    ∃ b ∈ firstOccurrences key xs, key b = key a := by
  obtain ⟨before, after, rfl⟩ := List.append_of_mem h
  obtain ⟨b, hb, hkey⟩ :=
    List.mem_map.1 (key_mem_keepNew key (before.foldl (keepNew key) []) a)
  refine ⟨b, ?_, hkey⟩
  rw [firstOccurrences, List.foldl_append, List.foldl_cons]
  exact mem_foldl_keepNew after hb

theorem mem_firstOccurrences_id {ks : List κ} {k : κ} (h : k ∈ ks) :
    k ∈ firstOccurrences id ks := by
  obtain ⟨b, hb, hsame⟩ := exists_mem_firstOccurrences id h
  have hsame : b = k := hsame
  exact hsame ▸ hb

theorem firstOccurrences_eq_nil_iff {key : α → κ} {xs : List α} :
    firstOccurrences key xs = [] ↔ xs = [] := by
  constructor
  · intro h
    refine List.eq_nil_iff_forall_not_mem.2 fun a ha => ?_
    obtain ⟨b, hb, -⟩ := exists_mem_firstOccurrences key ha
    rw [h] at hb
    cases hb
  · rintro rfl
    rfl

theorem map_firstOccurrences (key : α → κ) (xs : List α) :
    (firstOccurrences key xs).map key = (xs.map key).eraseDups := by
  induction xs using List.reverseRecOn with
  | nil => rfl
  | append_singleton xs a ih =>
    have hkept : (firstOccurrences key xs).any (fun b => key b = key a) ↔ key a ∈ xs.map key := by
      rw [any_key_iff, ih, List.mem_eraseDups]
    rw [firstOccurrences_concat, List.map_append, List.eraseDups_append, ← ih, keepNew]
    by_cases hold : key a ∈ xs.map key
    · have hnone : [key a].removeAll (xs.map key) = [] := by
        simp [List.removeAll, -List.mem_map, hold]
      rw [if_pos (hkept.2 hold), List.map_singleton, hnone, List.eraseDups_nil, List.append_nil]
    · have hnew : [key a].removeAll (xs.map key) = [key a] := by
        simp [List.removeAll, -List.mem_map, hold]
      rw [if_neg fun h => hold (hkept.1 h), List.map_append, List.map_singleton, hnew]
      rfl

/-- A search for a key finds the same among the elements and among those kept. -/
theorem find?_firstOccurrences (key : α → κ) (xs : List α) (k : κ) :
    (firstOccurrences key xs).find? (fun a => key a = k) = xs.find? fun a => key a = k := by
  -- on the elements from the last one: it is found only where no earlier one has its key
  induction xs using List.reverseRecOn with
  | nil => rfl
  | append_singleton xs a ih =>
    rw [firstOccurrences_concat, List.find?_append, ← ih, keepNew]
    split
    · rename_i hold
      by_cases hkey : key a = k
      · obtain ⟨b, hb, hsame⟩ := List.mem_map.1 (any_key_iff.1 hold)
        have hfound : ((firstOccurrences key xs).find? fun a => key a = k).isSome = true :=
          List.find?_isSome.2 ⟨b, hb, decide_eq_true (hsame.trans hkey)⟩
        rw [Option.or_of_isSome hfound]
      · have hnone : [a].find? (fun a => key a = k) = none := by simp [hkey]
        rw [hnone, Option.or_none]
    · rw [List.find?_append]

theorem find?_of_mem_firstOccurrences {key : α → κ} {xs : List α} {a : α}
    (h : a ∈ firstOccurrences key xs) :
    (firstOccurrences key xs).find? (fun b => key b = key a) = some a := by
  have hsome : ((firstOccurrences key xs).find? fun b => key b = key a).isSome = true :=
    List.find?_isSome.2 ⟨a, h, decide_eq_true rfl⟩
  obtain ⟨b, hfound⟩ := Option.isSome_iff_exists.1 hsome
  have hkey : key b = key a := by simpa using List.find?_some hfound
  have hb : b ∈ firstOccurrences key xs := List.mem_of_find?_eq_some hfound
  rw [hfound, List.inj_on_of_nodup_map (firstOccurrences_nodup key xs) hb h hkey]

/-- Elements that are taken key by key are all there, in another order. -/
theorem perm_flatMap_filter (key : α → κ) (xs : List α) {keys : List κ} (hkeys : keys.Nodup)
    (h : ∀ a ∈ xs, key a ∈ keys) :
    (keys.flatMap fun k => xs.filter fun a => key a = k).Perm xs := by
  -- on the keys: the elements of the first one come first, the others are among the rest
  induction keys generalizing xs with
  | nil =>
    have hnone : xs = [] := List.eq_nil_iff_forall_not_mem.2 fun a ha => List.not_mem_nil (h a ha)
    rw [hnone]
    exact List.Perm.refl _
  | cons k keys ih =>
    rw [List.nodup_cons] at hkeys
    have hothers : ∀ a ∈ xs.filter (fun a => !decide (key a = k)), key a ∈ keys := by
      intro a ha
      obtain ⟨hmem, hne⟩ := List.mem_filter.1 ha
      exact (List.mem_cons.1 (h a hmem)).resolve_left (by simpa using hne)
    have hrest : (keys.flatMap fun other => xs.filter fun a => key a = other) =
        keys.flatMap fun other =>
          (xs.filter fun a => !decide (key a = k)).filter fun a => key a = other := by
      refine List.flatMap_congr fun other hother => ?_
      have hne : other ≠ k := fun hsame => hkeys.1 (hsame ▸ hother)
      rw [List.filter_filter]
      refine List.filter_congr fun a _ => ?_
      by_cases hkey : key a = other <;> simp [hkey, hne]
    rw [List.flatMap_cons, hrest]
    exact ((ih _ hkeys.2 hothers).append_left _).trans (List.filter_append_perm _ xs)

theorem keepNew_map (key : β → κ) (f : α → β) (kept : List α) (a : α) :
    keepNew key (kept.map f) (f a) = (keepNew (fun a => key (f a)) kept a).map f := by
  rw [keepNew, keepNew, List.any_map, apply_ite (List.map f), List.map_append, List.map_singleton]
  rfl

/-- Elements of equal keys are dropped before or after the elements are changed. -/
theorem firstOccurrences_map (key : β → κ) (f : α → β) (xs : List α) :
    firstOccurrences key (xs.map f) = (firstOccurrences (fun a => key (f a)) xs).map f := by
  induction xs using List.reverseRecOn with
  | nil => rfl
  | append_singleton xs a ih =>
    rw [List.map_append, List.map_singleton, firstOccurrences_concat, firstOccurrences_concat, ih,
      keepNew_map]

end

end ClientGen
