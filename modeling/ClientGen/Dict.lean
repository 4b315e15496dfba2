/-!
# Dictionaries in insertion order

A dictionary is a list of entries with pairwise distinct keys. Inserting a present key keeps its
position; `insert` takes the new value, `insertNew` the old one. Lists of other things are kept by
a key of theirs in the same way.
-/

namespace ClientGen

section
variable {α κ : Type} [DecidableEq κ]

/-- Puts an element in the place of the one that has its key, or at the end. -/
def replaceOrAppend (key : α → κ) (new : α) : List α → List α
  | [] => [new]
  | held :: rest =>
    if key held = key new then new :: rest else held :: replaceOrAppend key new rest

def mergeByKey (key : α → κ) (held more : List α) : List α :=
  more.foldl (fun held new => replaceOrAppend key new held) held

/-- The last element of every key, in the place of the first one. -/
def keyed (key : α → κ) (elements : List α) : List α := mergeByKey key [] elements

variable {key : α → κ}

theorem mem_keys_replaceOrAppend {k : κ} {new : α} {held : List α} :
    k ∈ (replaceOrAppend key new held).map key ↔ k = key new ∨ k ∈ held.map key := by
  induction held with
  | nil => simp [replaceOrAppend]
  | cons first rest ih =>
    rw [replaceOrAppend]
    split
    · rename_i hkey
      rw [List.map_cons, List.map_cons, List.mem_cons, List.mem_cons, hkey, or_self_left]
    · rw [List.map_cons, List.mem_cons, ih, List.map_cons, List.mem_cons, or_left_comm]

theorem nodup_keys_replaceOrAppend (new : α) {held : List α} (h : (held.map key).Nodup) :
    ((replaceOrAppend key new held).map key).Nodup := by
  induction held with
  | nil => simp [replaceOrAppend]
  | cons first rest ih =>
    rw [List.map_cons, List.nodup_cons] at h
    rw [replaceOrAppend]
    split
    · rename_i hkey
      rw [List.map_cons, List.nodup_cons, ← hkey]
      exact h
    · rename_i hkey
      rw [List.map_cons, List.nodup_cons]
      exact ⟨fun hm => (mem_keys_replaceOrAppend.1 hm).elim hkey h.1, ih h.2⟩

theorem nodup_keys_mergeByKey {held : List α} (h : (held.map key).Nodup) (more : List α) :
    ((mergeByKey key held more).map key).Nodup :=
  List.foldlRecOn (motive := fun held : List α => (held.map key).Nodup) more _ h
    fun _ hheld new _ => nodup_keys_replaceOrAppend new hheld

theorem nodup_keys_keyed (elements : List α) : ((keyed key elements).map key).Nodup := by
  have hnone : (([] : List α).map key).Nodup := List.nodup_nil
  exact nodup_keys_mergeByKey hnone elements

end

/-- Entries in insertion order, each key once. -/
structure Dict (α : Type) where
  entries : List (String × α)
  distinct : (entries.map Prod.fst).Nodup

namespace Dict

variable {α β : Type}

def empty : Dict α := ⟨[], List.nodup_nil⟩

instance : Inhabited (Dict α) := ⟨empty⟩

instance [Repr α] : Repr (Dict α) := ⟨fun d n => reprPrec d.entries n⟩

instance [DecidableEq α] : DecidableEq (Dict α) := fun a b =>
  if h : a.entries = b.entries then
    isTrue (by cases a; cases b; cases h; rfl)
  else isFalse fun hab => h (congrArg entries hab)

def keys (d : Dict α) : List String := d.entries.map Prod.fst

def values (d : Dict α) : List α := d.entries.map Prod.snd

def get? (d : Dict α) (key : String) : Option α := d.entries.lookup key

def contains (d : Dict α) (key : String) : Bool := (d.get? key).isSome

def insert (d : Dict α) (key : String) (value : α) : Dict α :=
  ⟨replaceOrAppend Prod.fst (key, value) d.entries, nodup_keys_replaceOrAppend _ d.distinct⟩

def insertNew (d : Dict α) (key : String) (value : α) : Dict α :=
  if d.contains key then d else d.insert key value

/-- The dictionary of a list of entries: a repeated key keeps its first position and takes its
last value. -/
def ofList (entries : List (String × α)) : Dict α :=
  ⟨keyed Prod.fst entries, nodup_keys_keyed entries⟩

/-- Changes every value, with its key in view. -/
def mapValues (f : String → α → β) (d : Dict α) : Dict β :=
  ⟨d.entries.map fun (key, value) => (key, f key value), by
    have h : ((d.entries.map fun (key, value) => (key, f key value)).map Prod.fst) =
        d.entries.map Prod.fst := by simp [List.map_map, Function.comp_def]
    rw [h]
    exact d.distinct⟩

end Dict

end ClientGen
