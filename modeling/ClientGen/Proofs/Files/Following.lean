import ClientGen.Proofs.Outcome
import ClientGen.Proofs.Text.Pieces

/-!
# Following joined paths

A path that is joined to another one is followed from the place that the other one leads to. A
name that is no step to where it stands or upwards leads one place down.
-/

namespace ClientGen.Files

theorem pieces_append_slash (base path : String) :
    pieces (base ++ "/" ++ path) = pieces base ++ pieces path := by
  have hslash : ("/".toList : List Char) = ['/'] := rfl
  unfold pieces
  rw [String.toList_append, String.toList_append, hslash, List.append_assoc,
    List.singleton_append, List.splitOn_append_cons_self, List.map_append]

theorem pieces_ne_nil (path : String) : pieces path ≠ [] :=
  List.map_eq_nil_iff.not.2 (List.splitOn_ne_nil _ _)

theorem exists_eq_append_slash {path : String} (h : path.toList.getLast? = some '/') :
    ∃ base, path = base ++ "/" := by
  obtain ⟨chars, hchars⟩ := List.getLast?_eq_some_iff.1 h
  refine ⟨String.ofList chars, ?_⟩
  rw [← String.toList_inj, hchars, String.toList_append, String.toList_ofList]
  rfl

theorem head?_pieces_of_isAbsolute {path : String} (h : isAbsolute path = true) :
    (pieces path).head? = some "" := by
  obtain ⟨rest, hrest⟩ := List.head?_eq_some_iff.1 (of_decide_eq_true h)
  have hsplit : ('/' :: rest).splitOn '/' = [] :: rest.splitOn '/' :=
    List.splitOn_append_cons_self_of_not_mem List.not_mem_nil rest
  simp [pieces, hrest, hsplit]

theorem isAbsolute_append {base : String} (h : base ≠ "") (path : String) :
    isAbsolute (base ++ path) = isAbsolute base := by
  have hchars : base.toList ≠ [] := fun hnil => h (String.toList_eq_nil_iff.1 hnil)
  obtain ⟨c, rest, hbase⟩ := List.exists_cons_of_ne_nil hchars
  simp [isAbsolute, hbase]

namespace Tree

variable {tree : Tree}

theorem isFolder_of_follow {place next : Place} {piece : String}
    (h : tree.follow place piece = .ok next) : tree.at? place = some .folder := by
  unfold follow at h
  split at h
  · cases h
  · cases h
  · assumption

theorem follow_empty {place : Place} (h : tree.at? place = some .folder) :
    tree.follow place "" = .ok place := by
  simp [follow, h]

theorem follow_name {place next : Place} {name : String} (hempty : name ≠ "") (hhere : name ≠ ".")
    (hup : name ≠ "..") (h : tree.follow place name = .ok next) : next = place ++ [name] := by
  rw [follow, isFolder_of_follow h] at h
  simp only [hempty, hhere, hup, decide_false, Bool.or_self, Bool.false_eq_true, if_false] at h
  split at h
  · cases h
  · injection h with h
    exact h.symm

theorem isFolder_of_foldlM {place last : Place} {names : List String} (hne : names ≠ [])
    (h : names.foldlM tree.follow place = .ok last) : tree.at? place = some .folder := by
  obtain ⟨name, rest, rfl⟩ := List.exists_cons_of_ne_nil hne
  rw [List.foldlM_cons] at h
  obtain ⟨next, hnext, -⟩ := bind_eq_ok_iff.1 h
  exact isFolder_of_follow hnext

theorem foldlM_follow_names {place last : Place} {names : List String}
    (hnames : ∀ name ∈ names, name ≠ "" ∧ name ≠ "." ∧ name ≠ "..")
    (h : names.foldlM tree.follow place = .ok last) : last = place ++ names := by
  induction names generalizing place with
  | nil =>
    injection h with h
    rw [List.append_nil, h]
  | cons name rest ih =>
    rw [List.foldlM_cons] at h
    obtain ⟨next, hnext, h⟩ := bind_eq_ok_iff.1 h
    obtain ⟨hempty, hhere, hup⟩ := hnames name (List.mem_cons_self ..)
    have hstep := follow_name hempty hhere hup hnext
    rw [ih (fun other hother => hnames other (List.mem_cons_of_mem _ hother)) h, hstep,
      List.append_assoc, List.singleton_append]

theorem locate_eq_ok_iff {start place : Place} {path : String} :
    tree.locate start path = .ok place ↔
      path ≠ "" ∧ Char.ofNat 0 ∉ path.toList ∧ path.utf8ByteSize ≤ maxPath ∧
        (pieces path).foldlM tree.follow (if isAbsolute path then [] else start) =
          .ok place := by
  unfold locate
  by_cases hempty : path = ""
  · simp [hempty]
  by_cases hzero : Char.ofNat 0 ∈ path.toList
  · simp [hempty, hzero]
  by_cases hlong : path.utf8ByteSize > maxPath
  · simp [hempty, hzero, hlong, Nat.not_le.2 hlong]
  · simp [hempty, hzero, hlong, Nat.not_lt.1 hlong]

theorem exists_between {place last : Place} {front back : List String}
    (h : (front ++ back).foldlM tree.follow place = .ok last) :
    ∃ between, front.foldlM tree.follow place = .ok between ∧
      back.foldlM tree.follow between = .ok last := by
  rw [List.foldlM_append] at h
  exact bind_eq_ok_iff.1 h

theorem locate_front {start place last : Place} {base path : String} (hne : base ≠ "")
    (h : tree.locate start (base ++ path) = .ok last)
    (hbase : (pieces base).foldlM tree.follow (if isAbsolute base then [] else start) =
      .ok place) : tree.locate start base = .ok place := by
  obtain ⟨_, hzero, hlong, _⟩ := locate_eq_ok_iff.1 h
  rw [String.toList_append, List.mem_append, not_or] at hzero
  rw [String.utf8ByteSize_append] at hlong
  exact locate_eq_ok_iff.2 ⟨hne, hzero.1, by omega, hbase⟩

/-- A relative path that has names only, joined to another path, leads below the place that the
other one leads to. An empty path stands for the place that one starts from. -/
theorem locate_join {start last : Place} {base path : String} (hrelative : isAbsolute path = false)
    (hnames : ∀ name ∈ pieces path, name ≠ "" ∧ name ≠ "." ∧ name ≠ "..")
    (h : tree.locate start (join base path) = .ok last) :
    ∃ place, (base = "" ∧ place = start ∨ tree.locate start base = .ok place) ∧
      last = place ++ pieces path := by
  by_cases hbase : base = ""
  · have hjoin : join base path = path := by simp [join, hrelative, hbase]
    rw [hjoin] at h
    obtain ⟨_, _, _, hfold⟩ := locate_eq_ok_iff.1 h
    simp only [hrelative, Bool.false_eq_true, if_false] at hfold
    exact ⟨start, .inl ⟨hbase, rfl⟩, foldlM_follow_names hnames hfold⟩
  by_cases hend : base.toList.getLast? = some '/'
  · -- the slash at the end of the base is followed too, from a place that has to be a folder
    obtain ⟨front, rfl⟩ := exists_eq_append_slash hend
    have hjoin : join (front ++ "/") path = front ++ "/" ++ path := by
      simp [join, hrelative, hbase]
    rw [hjoin] at h
    obtain ⟨_, _, _, hfold⟩ := locate_eq_ok_iff.1 h
    rw [isAbsolute_append hbase, pieces_append_slash] at hfold
    obtain ⟨place, hfront, hpath⟩ := exists_between hfold
    refine ⟨place, .inr (locate_front hbase h ?_), foldlM_follow_names hnames hpath⟩
    have hpieces : pieces (front ++ "/") = pieces front ++ [""] := by
      simpa [pieces_plain] using pieces_append_slash front ""
    have hfolder := isFolder_of_foldlM (pieces_ne_nil path) hpath
    rw [hpieces, List.foldlM_append, hfront]
    show (tree.follow place "" >>= pure) = .ok place
    rw [follow_empty hfolder]
    rfl
  · have hjoin : join base path = base ++ "/" ++ path := by
      simp [join, hrelative, hbase, hend]
    rw [hjoin] at h
    obtain ⟨_, _, _, hfold⟩ := locate_eq_ok_iff.1 h
    rw [String.append_assoc, isAbsolute_append hbase, ← String.append_assoc,
      pieces_append_slash] at hfold
    obtain ⟨place, hfront, hpath⟩ := exists_between hfold
    rw [String.append_assoc] at h
    exact ⟨place, .inr (locate_front hbase h hfront), foldlM_follow_names hnames hpath⟩

end Tree

end ClientGen.Files
