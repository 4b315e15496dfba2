import ClientGen.Api.Path
import ClientGen.Files.Path
import Mathlib.Data.List.Basic

/-!
# Pieces between slashes

A text is cut at its slashes into pieces that have none, and pieces without slashes can be read
back from the text that joins them.
-/

namespace ClientGen

theorem not_mem_of_mem_splitOn {α : Type} [BEq α] [LawfulBEq α] {a : α} {piece xs : List α}
    (h : piece ∈ xs.splitOn a) : a ∉ piece := by
  induction xs generalizing piece with
  | nil =>
    rw [List.splitOn_nil, List.mem_singleton] at h
    simp [h]
  | cons x rest ih =>
    rw [List.splitOn_cons_eq_if_modifyHead] at h
    split at h
    · rcases List.mem_cons.1 h with h | h
      · simp [h]
      · exact ih h
    · rename_i hx
      cases hrest : rest.splitOn a with
      | nil => exact absurd hrest (List.splitOn_ne_nil a rest)
      | cons first others =>
        rw [hrest] at h ih
        rcases List.mem_cons.1 h with h | h
        · rw [h, List.mem_cons, not_or]
          exact ⟨fun hax => hx (by simp [hax]), ih (List.mem_cons_self ..)⟩
        · exact ih (List.mem_cons_of_mem _ h)

namespace Api

theorem slash_not_mem_of_mem_pieces {path piece : String} (h : piece ∈ pieces path) :
    '/' ∉ piece.toList := by
  obtain ⟨chars, hchars, rfl⟩ := List.mem_map.1 h
  rw [String.toList_ofList]
  exact not_mem_of_mem_splitOn hchars

theorem placeholder?_eq_some_iff {segment name : String} :
    placeholder? segment = some name ↔
      name ≠ "" ∧ segment.toList = '\x7b' :: (name.toList ++ ['\x7d']) := by
  rw [placeholder?, Option.map_eq_some_iff]
  constructor
  · rintro ⟨chars, h, rfl⟩
    unfold placeholderChars? at h
    split at h
    · rename_i rest hsegment
      split at h
      · rename_i hrest
        injection h with h
        rw [Bool.and_eq_true, decide_eq_true_eq, decide_eq_true_eq] at hrest
        obtain ⟨hlast, hnonempty⟩ := hrest
        rw [String.toList_ofList, hsegment, ← h, List.dropLast_append_getLast? _ hlast]
        exact ⟨by simpa [← String.toList_inj] using hnonempty, rfl⟩
      · cases h
    · cases h
  · rintro ⟨hne, hsegment⟩
    refine ⟨name.toList, ?_, String.ofList_toList⟩
    rw [hsegment, placeholderChars?, List.getLast?_concat, List.dropLast_concat, if_pos]
    simpa using hne

theorem mem_of_mem_bareSegment {segment : String} {c : Char}
    (h : c ∈ (bareSegment segment).toList) : c ∈ segment.toList := by
  unfold bareSegment at h
  cases hname : placeholder? segment with
  | none => rwa [hname] at h
  | some name =>
    rw [hname] at h
    rw [(placeholder?_eq_some_iff.1 hname).2]
    exact List.mem_cons_of_mem _ (List.mem_append_left _ h)

end Api

theorem flatMap_intercalate {α β : Type} (f : α → List β) (separator : List α)
    (texts : List (List α)) :
    (separator.intercalate texts).flatMap f =
      (separator.flatMap f).intercalate (texts.map (List.flatMap f)) := by
  induction texts with
  | nil => rfl
  | cons first rest ih =>
    cases rest with
    | nil => simp
    | cons second rest =>
      rw [List.intercalate_cons_cons, List.flatMap_append, List.flatMap_append, ih]
      simp only [List.map_cons, List.intercalate_cons_cons]

theorem filterMap_intercalate {α β : Type} {f : α → Option β} {separator : List α}
    (hseparator : separator.filterMap f = []) (texts : List (List α)) :
    (separator.intercalate texts).filterMap f = texts.flatMap (List.filterMap f) := by
  induction texts with
  | nil => rfl
  | cons first rest ih =>
    cases rest with
    | nil => simp
    | cons second rest =>
      rw [List.intercalate_cons_cons, List.filterMap_append, List.filterMap_append, hseparator,
        List.append_nil, ih, ← List.flatMap_cons]

theorem forall_mem_intercalate {α : Type} {P : α → Prop} {separator : List α}
    (hseparator : ∀ a ∈ separator, P a) {texts : List (List α)} :
    (∀ a ∈ separator.intercalate texts, P a) ↔ ∀ text ∈ texts, ∀ a ∈ text, P a := by
  induction texts with
  | nil => simp [List.intercalate_nil]
  | cons first rest ih =>
    cases rest with
    | nil => simp
    | cons second rest =>
      rw [List.intercalate_cons_cons, List.forall_mem_append, List.forall_mem_append, ih,
        and_iff_left hseparator]
      simp only [List.mem_cons, forall_eq_or_imp]

section
variable {separator : String} {c : Char} (hseparator : separator.toList = [c])
include hseparator

theorem intercalate_map_splitOn (text : String) :
    separator.intercalate ((text.toList.splitOn c).map String.ofList) = text := by
  rw [← String.toList_inj, String.toList_intercalate, hseparator, List.map_map]
  simp [Function.comp_def, List.intercalate_splitOn]

theorem map_splitOn_intercalate {pieces : List String} (hne : pieces ≠ [])
    (h : ∀ piece ∈ pieces, c ∉ piece.toList) :
    ((separator.intercalate pieces).toList.splitOn c).map String.ofList = pieces := by
  have hplain : ∀ chars ∈ pieces.map String.toList, c ∉ chars := by
    intro chars hchars
    obtain ⟨piece, hpiece, rfl⟩ := List.mem_map.1 hchars
    exact h piece hpiece
  have hne' : pieces.map String.toList ≠ [] := fun hnil => hne (List.map_eq_nil_iff.1 hnil)
  rw [String.toList_intercalate, hseparator, List.splitOn_intercalate c hplain hne',
    List.map_map]
  simp

end

namespace Api

theorem intercalate_pieces (path : String) :
    ['/'].intercalate ((pieces path).map String.toList) = path.toList := by
  unfold pieces
  rw [List.map_map]
  simp [Function.comp_def, List.intercalate_splitOn]

theorem mem_of_mem_segment {path segment : String} (h : segment ∈ segments path) {c : Char}
    (hc : c ∈ segment.toList) : c ∈ path.toList := by
  have hpiece : segment ∈ pieces path := (List.mem_filter.1 h).1
  have hjoined : ∀ text ∈ (pieces path).map String.toList, ∀ d ∈ text,
      d = '/' ∨ d ∈ path.toList := by
    refine (forall_mem_intercalate fun d hd => .inl (List.mem_singleton.1 hd)).1 fun d hd => ?_
    rw [intercalate_pieces] at hd
    exact .inr hd
  refine (hjoined _ (List.mem_map_of_mem hpiece) c hc).resolve_left ?_
  rintro rfl
  exact slash_not_mem_of_mem_pieces hpiece hc

theorem mem_of_mem_relativeSegments {path base segment : String}
    (h : segment ∈ relativeSegments path base) : segment ∈ segments path := by
  unfold relativeSegments at h
  dsimp only at h
  split at h
  · exact h
  · rename_i first rest _
    cases hstart : (first :: rest).isPrefixOf? (segments path) with
    | none => rwa [hstart] at h
    | some below =>
      rw [hstart, Option.getD_some] at h
      rw [← List.isPrefixOf?_eq_some_iff_append_eq.1 hstart]
      exact List.mem_append_right _ h

end Api

namespace Files

theorem pieces_plain {name : String} (h : '/' ∉ name.toList) : pieces name = [name] := by
  unfold pieces
  rw [List.splitOn_eq_singleton h]
  simp

theorem pieces_below {folder : String} (h : '/' ∉ folder.toList) (path : String) :
    pieces (folder ++ "/" ++ path) = folder :: pieces path := by
  have hslash : ("/".toList : List Char) = ['/'] := rfl
  unfold pieces
  rw [String.toList_append, String.toList_append, hslash, List.append_assoc,
    List.singleton_append, List.splitOn_append_cons_self_of_not_mem h]
  simp

theorem intercalate_pieces (path : String) : String.intercalate "/" (pieces path) = path :=
  intercalate_map_splitOn rfl path

end Files

end ClientGen
