import ClientGen.Dict
import Mathlib.Data.List.Basic
import Mathlib.Data.List.Induction
import Mathlib.Data.List.Perm.Subperm

/-!
# Entries of dictionaries

Elements that are kept by key keep the place of the first with a key, and are all there where no
key is repeated. What is looked up in a dictionary is one of its entries, and inserting adds no
other value than the one inserted. Where steps are folded that each change one key, the value of a
key is decided by its own step, and new keys stand in the order of their steps.
-/

namespace ClientGen

section
variable {α β κ κ' : Type} [DecidableEq κ] [DecidableEq κ'] {key : α → κ} {key' : β → κ'}
  {new : α} {held : List α}

theorem mem_replaceOrAppend {x : α} (h : x ∈ replaceOrAppend key new held) :
    x = new ∨ x ∈ held := by
  induction held with
  | nil => exact .inl (List.mem_singleton.1 h)
  | cons first rest ih =>
    rw [replaceOrAppend] at h
    split at h
    · exact (List.mem_cons.1 h).imp_right (List.mem_cons_of_mem _)
    · rcases List.mem_cons.1 h with h | h
      · exact .inr (by rw [h]; exact List.mem_cons_self ..)
      · exact (ih h).imp_right (List.mem_cons_of_mem _)

theorem replaceOrAppend_append (h : key new ∉ held.map key) (rest : List α) :
    replaceOrAppend key new (held ++ rest) = held ++ replaceOrAppend key new rest := by
  induction held with
  | nil => rfl
  | cons first others ih =>
    rw [List.map_cons, List.mem_cons, not_or] at h
    rw [List.cons_append, replaceOrAppend, if_neg fun hkey => h.1 hkey.symm, ih h.2,
      List.cons_append]

theorem replaceOrAppend_of_not_mem (h : key new ∉ held.map key) :
    replaceOrAppend key new held = held ++ [new] := by
  have hend := replaceOrAppend_append h []
  rwa [List.append_nil] at hend

theorem keys_replaceOrAppend_of_mem (h : key new ∈ held.map key) :
    (replaceOrAppend key new held).map key = held.map key := by
  induction held with
  | nil => exact absurd h List.not_mem_nil
  | cons first rest ih =>
    rw [replaceOrAppend]
    split
    · rename_i hkey
      rw [List.map_cons, List.map_cons, hkey]
    · rename_i hkey
      have hrest : key new ∈ rest.map key := (List.mem_cons.1 h).resolve_left fun h => hkey h.symm
      rw [List.map_cons, List.map_cons, ih hrest]

/-- A change that keeps keys apart or equal can be made before or after. -/
theorem replaceOrAppend_map (key : α → κ) (key' : β → κ') (f : α → β)
    (hkey : ∀ a b, key' (f a) = key' (f b) ↔ key a = key b) (new : α) (held : List α) :
    replaceOrAppend key' (f new) (held.map f) = (replaceOrAppend key new held).map f := by
  induction held with
  | nil => rfl
  | cons first rest ih =>
    rw [List.map_cons, replaceOrAppend, replaceOrAppend, ih]
    simp only [hkey]
    split <;> rfl

theorem filter_replaceOrAppend (p : κ → Bool) (new : α) (held : List α) :
    (replaceOrAppend key new held).filter (fun x => p (key x)) =
      if p (key new) then replaceOrAppend key new (held.filter fun x => p (key x))
      else held.filter fun x => p (key x) := by
  induction held with
  | nil => cases hnew : p (key new) <;> simp [replaceOrAppend, hnew]
  | cons first rest ih =>
    rw [replaceOrAppend]
    split
    · rename_i hkey
      cases hnew : p (key new) <;> simp [replaceOrAppend, hkey, hnew]
    · rename_i hkey
      rw [List.filter_cons, ih]
      cases hfirst : p (key first) <;> cases hnew : p (key new) <;>
        simp [replaceOrAppend, hkey, hfirst]

theorem mergeByKey_concat (held more : List α) (new : α) :
    mergeByKey key held (more ++ [new]) = replaceOrAppend key new (mergeByKey key held more) := by
  rw [mergeByKey, List.foldl_append]
  rfl

theorem keyed_append (elements more : List α) :
    keyed key (elements ++ more) = mergeByKey key (keyed key elements) more :=
  List.foldl_append

theorem keyed_concat (elements : List α) (new : α) :
    keyed key (elements ++ [new]) = replaceOrAppend key new (keyed key elements) :=
  keyed_append elements [new]

theorem mem_keys_keyed {elements : List α} {k : κ} :
    k ∈ (keyed key elements).map key ↔ k ∈ elements.map key := by
  induction elements using List.reverseRecOn with
  | nil => rfl
  | append_singleton elements new ih =>
    rw [keyed_concat, mem_keys_replaceOrAppend, ih, List.map_append, List.map_singleton,
      List.mem_append, List.mem_singleton, or_comm]

theorem mem_of_mem_keyed {elements : List α} {x : α} (h : x ∈ keyed key elements) :
    x ∈ elements := by
  induction elements using List.reverseRecOn with
  | nil => exact h
  | append_singleton elements new ih =>
    rw [keyed_concat] at h
    rcases mem_replaceOrAppend h with rfl | h
    · exact List.mem_append_right _ (List.mem_singleton_self _)
    · exact List.mem_append_left _ (ih h)

theorem keyed_append_of_apart {elements more : List α}
    (h : ∀ x ∈ more, key x ∉ elements.map key) :
    keyed key (elements ++ more) = keyed key elements ++ keyed key more := by
  induction more using List.reverseRecOn with
  | nil => rw [List.append_nil]; exact (List.append_nil _).symm
  | append_singleton more new ih =>
    have hnew : key new ∉ (keyed key elements).map key := by
      rw [mem_keys_keyed]
      exact h new (List.mem_append_right _ (List.mem_singleton_self _))
    rw [← List.append_assoc, keyed_concat, ih fun x hx => h x (List.mem_append_left _ hx),
      replaceOrAppend_append hnew, keyed_concat]

theorem keyed_of_nodup {elements : List α} (h : (elements.map key).Nodup) :
    keyed key elements = elements := by
  induction elements using List.reverseRecOn with
  | nil => rfl
  | append_singleton elements new ih =>
    rw [List.map_append, List.nodup_append] at h
    obtain ⟨helements, -, hapart⟩ := h
    have hnew : key new ∉ (keyed key elements).map key := fun hkey =>
      hapart (key new) (mem_keys_keyed.1 hkey) (key new) (List.mem_singleton_self _) rfl
    rw [keyed_concat, replaceOrAppend_of_not_mem hnew, ih helements]

theorem keyed_map {f : α → β} (hkey : ∀ a b, key' (f a) = key' (f b) ↔ key a = key b)
    (elements : List α) : keyed key' (elements.map f) = (keyed key elements).map f := by
  -- on the elements from the last one: it is put into what those before it make
  induction elements using List.reverseRecOn with
  | nil => rfl
  | append_singleton elements new ih =>
    rw [List.map_append, List.map_singleton, keyed_concat, keyed_concat, ih,
      replaceOrAppend_map key key' f hkey]

theorem filter_mergeByKey (key : α → κ) (p : κ → Bool) (held more : List α) :
    (mergeByKey key held more).filter (fun x => p (key x)) =
      mergeByKey key (held.filter fun x => p (key x)) (more.filter fun x => p (key x)) := by
  induction more using List.reverseRecOn with
  | nil => rfl
  | append_singleton more new ih =>
    rw [mergeByKey_concat, filter_replaceOrAppend, ih, List.filter_append]
    cases hnew : p (key new) with
    | true =>
      have hkept : [new].filter (fun x => p (key x)) = [new] := by simp [hnew]
      rw [if_pos rfl, hkept, mergeByKey_concat]
    | false =>
      have hleft : [new].filter (fun x => p (key x)) = [] := by simp [hnew]
      rw [if_neg Bool.false_ne_true, hleft, List.append_nil]

end

end ClientGen

namespace ClientGen.Dict

variable {α β : Type}

theorem mem_of_lookup [BEq α] [LawfulBEq α] {entries : List (α × β)} {key : α} {value : β}
    (h : entries.lookup key = some value) : (key, value) ∈ entries := by
  obtain ⟨before, after, rfl, -⟩ := List.lookup_eq_some_iff.1 h
  exact List.mem_append_right _ (List.mem_cons_self ..)

theorem mem_of_get? {d : Dict α} {key : String} {value : α} (h : d.get? key = some value) :
    (key, value) ∈ d.entries :=
  mem_of_lookup h

theorem get?_of_mem {d : Dict α} {key : String} {value : α} (h : (key, value) ∈ d.entries) :
    d.get? key = some value := by
  obtain ⟨before, after, hentries⟩ := List.append_of_mem h
  refine List.lookup_eq_some_iff.2 ⟨before, after, hentries, ?_⟩
  have hdistinct := d.distinct
  rw [hentries, List.map_append, List.map_cons, List.nodup_append] at hdistinct
  intro entry hentry
  have hne := hdistinct.2.2 entry.1 (List.mem_map_of_mem hentry) key (List.mem_cons_self ..)
  simpa using fun h => hne h.symm

theorem mem_values_of_get? {d : Dict α} {key : String} {value : α}
    (h : d.get? key = some value) : value ∈ d.values :=
  List.mem_map.2 ⟨(key, value), mem_of_get? h, rfl⟩

theorem contains_iff {d : Dict α} {key : String} : d.contains key ↔ key ∈ d.keys := by
  rw [contains, Option.isSome_iff_exists]
  constructor
  · rintro ⟨value, h⟩
    exact List.mem_map.2 ⟨(key, value), mem_of_get? h, rfl⟩
  · intro h
    obtain ⟨⟨_, value⟩, hentry, rfl⟩ := List.mem_map.1 h
    exact ⟨value, get?_of_mem hentry⟩

def before (d : Dict α) (key : String) : Dict α :=
  ⟨d.entries.takeWhile fun entry => entry.1 ≠ key,
    d.distinct.sublist ((List.takeWhile_sublist _).map _)⟩

theorem mem_values_insert {d : Dict α} {key : String} {value v : α}
    (h : v ∈ (d.insert key value).values) : v = value ∨ v ∈ d.values := by
  obtain ⟨entry, hentry, rfl⟩ := List.mem_map.1 h
  rcases mem_replaceOrAppend hentry with rfl | hentry
  · exact .inl rfl
  · exact .inr (List.mem_map_of_mem hentry)

theorem mem_values_insertNew {d : Dict α} {key : String} {value v : α}
    (h : v ∈ (d.insertNew key value).values) : v = value ∨ v ∈ d.values := by
  unfold insertNew at h
  split at h
  · exact .inr h
  · exact mem_values_insert h

theorem lookup_cons_eq (key other : String) (value : α) (entries : List (String × α)) :
    ((key, value) :: entries).lookup other =
      if other = key then some value else entries.lookup other := by
  by_cases h : other = key
  · rw [h, List.lookup_cons_self, if_pos rfl]
  · rw [List.lookup_cons, beq_false_of_ne h, if_neg h]

theorem lookup_map (f : String → α → β) (entries : List (String × α)) (key : String) :
    (entries.map fun entry => (entry.1, f entry.1 entry.2)).lookup key =
      (entries.lookup key).map (f key) := by
  induction entries with
  | nil => rfl
  | cons entry rest ih =>
    obtain ⟨k, v⟩ := entry
    rw [List.map_cons, lookup_cons_eq, lookup_cons_eq, ih]
    split
    · rename_i hkey
      rw [hkey, Option.map_some]
    · rfl

theorem lookup_replaceOrAppend (key other : String) (value : α) (entries : List (String × α)) :
    (replaceOrAppend Prod.fst (key, value) entries).lookup other =
      if other = key then some value else entries.lookup other := by
  induction entries with
  | nil => rw [replaceOrAppend, lookup_cons_eq]
  | cons entry rest ih =>
    obtain ⟨k, v⟩ := entry
    rw [replaceOrAppend]
    split
    · rename_i hk
      have hk : k = key := hk
      rw [lookup_cons_eq, lookup_cons_eq, hk]
      by_cases h : other = key <;> simp [h]
    · rename_i hk
      rw [lookup_cons_eq, lookup_cons_eq, ih]
      by_cases h : other = k
      · rw [if_pos h, if_pos h, if_neg fun hkey => hk (h.symm.trans hkey)]
      · rw [if_neg h, if_neg h]

theorem get?_insert (d : Dict α) (key other : String) (value : α) :
    (d.insert key value).get? other = if other = key then some value else d.get? other :=
  lookup_replaceOrAppend key other value d.entries

theorem keys_insert_of_not_mem {d : Dict α} {key : String} (h : key ∉ d.keys) (value : α) :
    (d.insert key value).keys = d.keys ++ [key] := by
  have hentries : (d.insert key value).entries = d.entries ++ [(key, value)] :=
    replaceOrAppend_of_not_mem h
  rw [keys, hentries, List.map_append]
  rfl

theorem keys_insert_of_mem {d : Dict α} {key : String} (h : key ∈ d.keys) (value : α) :
    (d.insert key value).keys = d.keys :=
  keys_replaceOrAppend_of_mem h

theorem entries_eq (d : Dict (List α)) :
    d.entries = d.keys.map fun key => (key, (d.get? key).getD []) := by
  rw [keys, List.map_map]
  refine (List.map_id _).symm.trans (List.map_congr_left fun entry hentry => ?_)
  have hget : d.get? entry.1 = some entry.2 := get?_of_mem hentry
  simp [hget]

theorem values_mapValues (f : String → α → β) (d : Dict α) :
    (d.mapValues f).values = d.entries.map fun (key, value) => f key value := by
  simp [values, mapValues, List.map_map, Function.comp_def]

theorem keys_mapValues (f : String → α → β) (d : Dict α) : (d.mapValues f).keys = d.keys := by
  simp [keys, mapValues, List.map_map, Function.comp_def]

theorem get?_mapValues {f : String → α → β} {d : Dict α} {key : String} {value : α}
    (h : d.get? key = some value) : (d.mapValues f).get? key = some (f key value) :=
  get?_of_mem (List.mem_map.2 ⟨(key, value), mem_of_get? h, rfl⟩)

theorem get?_eq_none_iff {d : Dict α} {key : String} : d.get? key = none ↔ key ∉ d.keys := by
  rw [← contains_iff, contains, Bool.not_eq_true, Option.isSome_eq_false_iff,
    Option.isNone_iff_eq_none]

theorem get?_mapValues_eq_map (f : String → α → β) (d : Dict α) (key : String) :
    (d.mapValues f).get? key = (d.get? key).map (f key) :=
  lookup_map f d.entries key

/-- A key has the same value in two dictionaries that differ in the order of their entries only. -/
theorem get?_of_perm {first second : Dict α} (h : first.entries.Perm second.entries)
    (key : String) : first.get? key = second.get? key := by
  cases hget : first.get? key with
  | some value => exact (get?_of_mem (h.mem_iff.1 (mem_of_get? hget))).symm
  | none =>
    have hkey : key ∉ second.keys := fun hkey =>
      get?_eq_none_iff.1 hget ((h.map Prod.fst).mem_iff.2 hkey)
    exact (get?_eq_none_iff.2 hkey).symm

theorem exists_get?_of_mem_keys {d : Dict α} {key : String} (h : key ∈ d.keys) :
    ∃ value, d.get? key = some value :=
  Option.isSome_iff_exists.1 (contains_iff.2 h)

theorem mapValues_insert (f : String → α → β) (d : Dict α) (key : String) (value : α) :
    (d.insert key value).mapValues f = (d.mapValues f).insert key (f key value) := by
  simp only [insert, mapValues]
  congr 1
  exact (replaceOrAppend_map Prod.fst Prod.fst (fun (k, v) => (k, f k v)) (fun _ _ => Iff.rfl)
    (key, value) d.entries).symm

theorem ofList_map (f : α → β) (entries : List (String × α)) :
    ofList (entries.map fun entry => (entry.1, f entry.2)) =
      (ofList entries).mapValues fun _ v => f v := by
  simp only [ofList, mapValues]
  congr 1
  exact keyed_map (fun _ _ => Iff.rfl) entries

theorem mem_keys_ofList {entries : List (String × α)} {key : String} :
    key ∈ (ofList entries).keys ↔ key ∈ entries.map Prod.fst :=
  mem_keys_keyed

theorem entries_ofList {entries : List (String × α)} (h : (entries.map Prod.fst).Nodup) :
    (ofList entries).entries = entries :=
  keyed_of_nodup h

theorem length_ofList_iff {entries : List (String × α)} :
    (ofList entries).entries.length = entries.length ↔ (entries.map Prod.fst).Nodup := by
  constructor
  · intro hlength
    have hkeys : (ofList entries).keys.Subperm (entries.map Prod.fst) :=
      (ofList entries).distinct.subperm fun _ => mem_keys_ofList.1
    have hle : (entries.map Prod.fst).length ≤ (ofList entries).keys.length := by
      simp [keys, hlength]
    exact (hkeys.perm_of_length_le hle).nodup_iff.1 (ofList entries).distinct
  · intro h
    rw [entries_ofList h]

theorem mapValues_mapValues {γ : Type} (f : String → α → β) (g : String → β → γ) (d : Dict α) :
    (d.mapValues f).mapValues g = d.mapValues fun key value => g key (f key value) := by
  simp only [mapValues, List.map_map, Function.comp_def]

theorem mapValues_congr {f g : String → α → β} {d : Dict α}
    (h : ∀ entry ∈ d.entries, f entry.1 entry.2 = g entry.1 entry.2) :
    d.mapValues f = d.mapValues g := by
  have hentries : (d.entries.map fun (key, value) => (key, f key value)) =
      d.entries.map fun (key, value) => (key, g key value) :=
    List.map_congr_left fun entry hentry => congrArg (Prod.mk entry.1) (h entry hentry)
  simp only [mapValues, hentries]

theorem contains_mapValues (f : String → α → β) (d : Dict α) (key : String) :
    (d.mapValues f).contains key = d.contains key :=
  Bool.eq_iff_iff.2 (by rw [contains_iff, contains_iff, keys_mapValues])

theorem mapValues_id (d : Dict α) : (d.mapValues fun _ v => v) = d := by
  obtain ⟨entries, distinct⟩ := d
  simp only [mapValues, List.map_id']

section
variable {ε : Type} {key : ε → String} {step : Dict α → ε → Dict α}

def Local (key : ε → String) (step : Dict α → ε → Dict α) : Prop :=
  ∀ d e other, other ≠ key e → (step d e).get? other = d.get? other

theorem get?_foldl_of_not_mem (hstep : Local key step) {es : List ε} (d : Dict α)
    {other : String} (h : other ∉ es.map key) : (es.foldl step d).get? other = d.get? other := by
  induction es generalizing d with
  | nil => rfl
  | cons e rest ih =>
    rw [List.map_cons, List.mem_cons, not_or] at h
    rw [List.foldl_cons, ih _ h.2, hstep d e other h.1]

theorem get?_foldl_of_split (hstep : Local key step) {before after : List ε} {e : ε}
    (h : ((before ++ e :: after).map key).Nodup) (d : Dict α) :
    ((before ++ e :: after).foldl step d).get? (key e) =
        (step (before.foldl step d) e).get? (key e) ∧
      (before.foldl step d).get? (key e) = d.get? (key e) := by
  rw [List.map_append, List.map_cons, List.nodup_append, List.nodup_cons] at h
  obtain ⟨_, ⟨hafter, _⟩, hapart⟩ := h
  have hbefore : key e ∉ before.map key := fun hmem =>
    hapart (key e) hmem (key e) (List.mem_cons_self ..) rfl
  rw [List.foldl_append, List.foldl_cons]
  exact ⟨get?_foldl_of_not_mem hstep _ hafter, get?_foldl_of_not_mem hstep d hbefore⟩

theorem exists_get?_foldl_entries {step : Dict α → String × β → Dict α}
    (hstep : Local Prod.fst step) {entries : Dict β} {name : String} {value : β}
    (h : entries.get? name = some value) (d : Dict α) :
    ∃ before : Dict α, before.get? name = d.get? name ∧
      (entries.entries.foldl step d).get? name = (step before (name, value)).get? name := by
  obtain ⟨before, after, hentries⟩ := List.append_of_mem (mem_of_get? h)
  have hdistinct := entries.distinct
  rw [hentries] at hdistinct
  obtain ⟨hlast, hfirst⟩ := get?_foldl_of_split hstep hdistinct d
  rw [hentries]
  exact ⟨_, hfirst, hlast⟩

end

end ClientGen.Dict
