import ClientGen.Proofs.Dict
import ClientGen.Proofs.Files.Following

/-!
# Contents of files

What the files of a tree hold is changed by two kinds of actions only: writing a file changes the
content at one place, and removing a folder takes the files below it. Making folders changes no
file. The place of a path is that of its names, whatever the tree, as there are no links.
-/

namespace ClientGen.Files

/-- Where a piece of a path leads from a place, if the place is a folder. -/
def stepPlace (place : Place) (piece : String) : Place :=
  if piece = "" || piece = "." then place
  else if piece = ".." then place.dropLast
  else place ++ [piece]

/-- Where a path leads, if it leads anywhere. -/
def placeOf (start : Place) (path : String) : Place :=
  (pieces path).foldl stepPlace (if isAbsolute path then [] else start)

namespace Tree

variable {tree : Tree} {start place : Place}

theorem stepPlace_of_follow {next : Place} {piece : String}
    (h : tree.follow place piece = .ok next) : next = stepPlace place piece := by
  rw [follow, isFolder_of_follow h] at h
  unfold stepPlace
  simp only at h
  split at h
  · rename_i hhere
    rw [if_pos hhere]
    exact (Except.ok.inj h).symm
  · rename_i hhere
    rw [if_neg hhere]
    split at h
    · rename_i hup
      rw [if_pos hup]
      exact (Except.ok.inj h).symm
    · rename_i hup
      rw [if_neg hup]
      split at h
      · cases h
      · exact (Except.ok.inj h).symm

theorem foldl_stepPlace_of_foldlM {last : Place} {names : List String}
    (h : names.foldlM tree.follow place = .ok last) : last = names.foldl stepPlace place := by
  induction names generalizing place with
  | nil => exact (Except.ok.inj h).symm
  | cons name rest ih =>
    rw [List.foldlM_cons] at h
    obtain ⟨next, hnext, h⟩ := bind_eq_ok_iff.1 h
    rw [List.foldl_cons, ← stepPlace_of_follow hnext]
    exact ih h

/-- Wherever a path leads in a tree is the place of the path. -/
theorem placeOf_of_locate {path : String} (h : tree.locate start path = .ok place) :
    place = placeOf start path :=
  foldl_stepPlace_of_foldlM (locate_eq_ok_iff.1 h).2.2.2

/-- The content of the file at a place, if there is one. -/
def content? (tree : Tree) (place : Place) : Option String :=
  match tree.at? place with
  | some (.file content) => some content
  | _ => none

def KeepsFiles (before after : Tree) : Prop :=
  ∀ place, after.content? place = before.content? place

theorem KeepsFiles.trans {first second third : Tree} (h : first.KeepsFiles second)
    (h' : second.KeepsFiles third) : first.KeepsFiles third := fun place =>
  (h' place).trans (h place)

theorem content?_nil (tree : Tree) : tree.content? [] = none := rfl

theorem lookup_filter (keep : Place → Bool) (entries : List (Place × Entry)) (place : Place) :
    (entries.filter fun entry => keep entry.1).lookup place =
      if keep place then entries.lookup place else none := by
  induction entries with
  | nil => simp
  | cons entry rest ih =>
    obtain ⟨at_, what⟩ := entry
    by_cases hsame : place = at_
    · subst hsame
      by_cases hkeep : keep place
      · simp [hkeep]
      · simp only [List.filter_cons, hkeep, ih, Bool.false_eq_true, if_false]
    · have hne : (place == at_) = false := beq_false_of_ne hsame
      rw [List.filter_cons, List.lookup_cons, hne]
      split
      · rw [List.lookup_cons, hne, ih]
      · exact ih

theorem at?_put (tree : Tree) (place other : Place) (entry : Entry) (hroot : place ≠ []) :
    (tree.put place entry).at? other = if other = place then some entry else tree.at? other := by
  by_cases hother : other = []
  · rw [if_neg (fun hsame => hroot (hsame.symm.trans hother)), hother]
    rfl
  · rw [at?, if_neg hother, put, List.lookup_cons, at?, if_neg hother]
    by_cases hsame : other = place
    · simp [hsame]
    · rw [beq_false_of_ne hsame, if_neg hsame, lookup_filter (fun at_ => decide (at_ ≠ place))]
      simp [hsame]

theorem isPrefixOf_eq (place other : Place) : place.isPrefixOf other = decide (place <+: other) :=
  Bool.eq_iff_iff.2 (by rw [List.isPrefixOf_iff_prefix, decide_eq_true_iff])

theorem at?_remove (tree : Tree) (place other : Place) (hother : other ≠ []) :
    (tree.remove place).at? other = if place <+: other then none else tree.at? other := by
  rw [at?, if_neg hother, remove, lookup_filter (fun at_ => !place.isPrefixOf at_), at?,
    if_neg hother, isPrefixOf_eq]
  by_cases hbelow : place <+: other
  · simp [hbelow]
  · simp [hbelow]

theorem at?_clear (tree : Tree) (place other : Place) (hother : other ≠ []) :
    (tree.clear place).at? other =
      if place <+: other ∧ other ≠ place then none else tree.at? other := by
  rw [at?, if_neg hother, clear,
    lookup_filter (fun at_ => decide (at_ = place) || !place.isPrefixOf at_), at?, if_neg hother,
    isPrefixOf_eq]
  by_cases hsame : other = place
  · simp [hsame]
  · by_cases hbelow : place <+: other
    · simp [hbelow, hsame]
    · simp [hbelow, hsame]

theorem keepsFiles_makeFolder {before after : Tree} {path : String}
    (h : before.makeFolder start path = .ok after) : before.KeepsFiles after := by
  obtain ⟨place, -, h⟩ := bind_eq_ok_iff.1 h
  split at h
  · cases h
  · rename_i hnone
    obtain rfl : before.put place .folder = after := Except.ok.inj h
    have hroot : place ≠ [] := by
      rintro rfl
      cases hnone
    intro other
    rw [content?, content?, at?_put _ _ _ _ hroot]
    by_cases hsame : other = place
    · rw [if_pos hsame, hsame, hnone]
    · rw [if_neg hsame]

end Tree

theorem eq_of_folderThere {start : Place} {path : String} {e : Failure} {before after : Tree}
    (h : (do if (← get).isFolder start path then return else throw e :
      Action Failure Unit).perform before = (.ok (), after)) : after = before := by
  rw [Action.perform_bind, Action.perform_get] at h
  simp only at h
  split at h <;> cases h
  rfl

theorem keepsFiles_makeFoldersFrom {start : Place} {fuel : Nat} {path : String}
    {before after : Tree}
    (h : (makeFoldersFrom start fuel path).perform before = (.ok (), after)) :
    before.KeepsFiles after := by
  -- on the fuel: what is above the folder is made first
  induction fuel generalizing path before after with
  | zero => cases h
  | succ fuel ih =>
    unfold makeFoldersFrom at h
    split at h
    · cases h
      exact fun _ => rfl
    rw [Action.perform_bind, Action.perform_get] at h
    simp only at h
    split at h
    · cases h
      exact Tree.keepsFiles_makeFolder ‹_›
    · split at h
      · cases h
      rw [Action.perform_bind] at h
      split at h
      · rename_i middle hparent
        have hmiddle := ih hparent
        rw [Action.perform_bind, Action.perform_get] at h
        simp only at h
        split at h
        · cases h
          exact hmiddle.trans (Tree.keepsFiles_makeFolder ‹_›)
        · rw [eq_of_folderThere h]
          exact hmiddle
      · cases h
    · rw [eq_of_folderThere h]
      exact fun _ => rfl

theorem keepsFiles_makeFolders {start : Place} {path : String} {before after : Tree}
    (h : (makeFolders start path).perform before = (.ok (), after)) : before.KeepsFiles after :=
  keepsFiles_makeFoldersFrom h

def Writes (place : Place) (content : String) (before after : Tree) : Prop :=
  ∀ other, after.content? other = if other = place then some content else before.content? other

theorem writes_of_writeFile {start : Place} {path content : String} {before after : Tree}
    (h : (writeFile start path content).perform before = (.ok (), after)) :
    ∃ place, before.locate start (Tree.withoutEndSlashes path) = .ok place ∧
      Writes place content before after := by
  unfold writeFile at h
  rw [Action.perform_bind, Action.perform_get] at h
  simp only at h
  split at h
  · rename_i tree hwrite
    cases h
    obtain ⟨place, hlocate, hwrite⟩ := bind_eq_ok_iff.1 hwrite
    refine ⟨place, hlocate, fun other => ?_⟩
    split at hwrite
    · cases hwrite
    split at hwrite
    · cases hwrite
    · rename_i hfile
      obtain rfl : before.put place (.file content) = after := Except.ok.inj hwrite
      have hroot : place ≠ [] := by
        rintro rfl
        exact hfile rfl
      rw [Tree.content?, Tree.at?_put _ _ _ _ hroot]
      by_cases hsame : other = place
      · rw [if_pos hsame, if_pos hsame]
      · rw [if_neg hsame, if_neg hsame, Tree.content?]
  · cases h

theorem writes_of_writeOutput {start : Place} {path content : String} {before after : Tree}
    (h : (writeOutput start path content).perform before = (.ok (), after)) :
    ∃ (tree : Tree) (place : Place),
      tree.locate start (Tree.withoutEndSlashes path) = .ok place ∧
      Writes place content before after := by
  unfold writeOutput at h
  split at h
  · cases h
  rw [Action.perform_bind] at h
  split at h
  · rename_i middle hfolders
    obtain ⟨place, hlocate, hwrites⟩ := writes_of_writeFile h
    refine ⟨middle, place, hlocate, fun other => ?_⟩
    rw [hwrites other, keepsFiles_makeFolders hfolders other]
  · cases h

def Removes (place : Place) (before after : Tree) : Prop :=
  ∀ other, after.content? other = if place <+: other then none else before.content? other

theorem removes_clear {place : Place} {tree : Tree} (hfolder : tree.at? place = some .folder) :
    Removes place tree (tree.clear place) := by
  intro other
  by_cases hother : other = []
  · rw [hother, Tree.content?_nil, Tree.content?_nil]
    split <;> rfl
  rw [Tree.content?, Tree.at?_clear _ _ _ hother]
  by_cases hsame : other = place
  · simp [hsame, hfolder]
  · by_cases hbelow : place <+: other
    · simp [hbelow, hsame]
    · simp [hbelow, Tree.content?]

theorem removes_remove (place : Place) (tree : Tree) : Removes place tree (tree.remove place) := by
  intro other
  by_cases hother : other = []
  · rw [hother, Tree.content?_nil, Tree.content?_nil]
    split <;> rfl
  rw [Tree.content?, Tree.at?_remove _ _ _ hother]
  by_cases hbelow : place <+: other
  · simp [hbelow]
  · simp [hbelow, Tree.content?]

theorem removes_of_removeFolder {start : Place} {path : String} {before after : Tree}
    (h : (removeFolder start path).perform before = (.ok (), after)) :
    ∃ place, before.locate start path = .ok place ∧ Removes place before after := by
  unfold removeFolder at h
  rw [Action.perform_bind, Action.perform_get] at h
  simp only at h
  split at h
  · cases h
  rename_i place hlocate
  refine ⟨place, hlocate, ?_⟩
  split at h
  · cases h
  · cases h
  · rename_i hfolder
    have hclear : (set (before.clear place) : Action Failure Unit).perform before =
        (.ok (), before.clear place) := rfl
    rw [Action.perform_bind, hclear] at h
    simp only at h
    split at h
    · cases h
    · rw [Action.perform_bind, Action.perform_get] at h
      simp only at h
      split at h <;> cases h
      exact removes_clear hfolder
    · cases h
      exact removes_remove place before

namespace Tree

variable {tree : Tree} {start place : Place}

/-- Everything stands in a folder. -/
def Sound (tree : Tree) : Prop :=
  ∀ place name, tree.at? (place ++ [name]) ≠ none → tree.at? place = some .folder

theorem sound_of_entries (h : ∀ entry ∈ tree.entries, tree.at? entry.1.dropLast = some .folder) :
    tree.Sound := by
  intro place name hthere
  rw [at?, if_neg (List.append_ne_nil_of_right_ne_nil place (List.cons_ne_nil name []))] at hthere
  obtain ⟨entry, hentry⟩ := Option.ne_none_iff_exists'.1 hthere
  have hstands := h (place ++ [name], entry) (Dict.mem_of_lookup hentry)
  rwa [List.dropLast_concat] at hstands

theorem at?_below (hsound : tree.Sound) (h : tree.at? place = none) (names : List String) :
    tree.at? (place ++ names) = none := by
  -- on the names from the last one: it stands in what those before it lead to
  induction names using List.reverseRecOn with
  | nil => rwa [List.append_nil]
  | append_singleton names name ih =>
    by_contra hthere
    rw [← List.append_assoc] at hthere
    rw [hsound _ _ hthere] at ih
    cases ih

theorem exists_missing_of_foldlM {names : List String} (hup : ".." ∉ names)
    (h : names.foldlM tree.follow place = .error .notFound) :
    ∃ reached below, tree.at? reached = none ∧ names.foldl stepPlace place = reached ++ below := by
  have hdown : ∀ (names : List String) (place : Place), ".." ∉ names →
      ∃ below, names.foldl stepPlace place = place ++ below := by
    intro names
    induction names with
    | nil => exact fun place _ => ⟨[], (List.append_nil place).symm⟩
    | cons name rest ih =>
      intro place hup
      rw [List.mem_cons, not_or] at hup
      obtain ⟨below, hbelow⟩ := ih (stepPlace place name) hup.2
      rw [List.foldl_cons, hbelow, stepPlace, if_neg (Ne.symm hup.1)]
      split
      · exact ⟨below, rfl⟩
      · exact ⟨[name] ++ below, List.append_assoc ..⟩
  induction names generalizing place with
  | nil => cases h
  | cons name rest ih =>
    rw [List.foldlM_cons] at h
    rcases bind_eq_error_iff.1 h with h | ⟨next, hnext, h⟩
    · obtain ⟨below, hbelow⟩ := hdown (name :: rest) place hup
      refine ⟨place, below, ?_, hbelow⟩
      unfold follow at h
      split at h
      · assumption
      · cases h
      · repeat' split at h
        all_goals cases h
    · rw [List.mem_cons, not_or] at hup
      rw [List.foldl_cons, ← stepPlace_of_follow hnext]
      exact ih hup.2 h

/-- A path that leads nowhere and never upwards has no files below its place. -/
theorem content?_of_not_there (hsound : tree.Sound) {path : String} (hpath : path ≠ "")
    (hup : ".." ∉ pieces path) (h : tree.isThere start path = .ok false) (names : List String) :
    tree.content? (placeOf start path ++ names) = none := by
  obtain ⟨reached, below, hreached, hplace⟩ : ∃ reached below, tree.at? reached = none ∧
      placeOf start path = reached ++ below := by
    unfold isThere find at h
    cases hlocate : tree.locate start path with
    | ok place =>
      rw [hlocate] at h
      cases hat : tree.at? place with
      | some entry => simp [hat] at h
      | none => exact ⟨place, [], hat, by rw [List.append_nil, placeOf_of_locate hlocate]⟩
    | error e =>
      rw [hlocate] at h
      have hmissing : e = .notFound := by
        cases e <;> first | rfl | cases h
      subst hmissing
      unfold locate at hlocate
      rw [if_neg hpath] at hlocate
      split at hlocate
      · cases hlocate
      split at hlocate
      · cases hlocate
      exact exists_missing_of_foldlM hup hlocate
  rw [hplace, List.append_assoc, content?, at?_below hsound hreached]

end Tree

end ClientGen.Files
