import ClientGen.Proofs.Text.Pieces

/-!
# Placeholders in a path

A placeholder is a name in braces, wherever it is written in a path. Here a path is read into its
placeholders and the characters between them, from left to right, and nothing of it is lost. The
URL template of a path is read in the same way: a dollar sign is put before every opening brace, so
a placeholder of the path is one of the template with a dollar sign before it.
-/

namespace ClientGen.Api

def isBrace (c : Char) : Bool := c == '\x7b' || c == '\x7d'

/-- A name that is not empty and has no braces. -/
def IsPlaceholderName (name : List Char) : Prop := name ≠ [] ∧ ∀ c ∈ name, isBrace c = false

/-- The name of the placeholder that a text starts with, and what stands behind the placeholder. -/
def startPlaceholder? : List Char → Option (List Char × List Char)
  | '\x7b' :: rest =>
    match rest.takeWhile (!isBrace ·), rest.dropWhile (!isBrace ·) with
    | c :: name, '\x7d' :: after => some (c :: name, after)
    | _, _ => none
  | _ => none

theorem startPlaceholder?_eq_some_iff {chars name after : List Char} :
    startPlaceholder? chars = some (name, after) ↔
      IsPlaceholderName name ∧ chars = '\x7b' :: (name ++ '\x7d' :: after) := by
  constructor
  · intro h
    unfold startPlaceholder? at h
    split at h
    · rename_i rest
      split at h
      · rename_i c more after' hname hafter
        injection h with h
        obtain ⟨rfl, rfl⟩ := Prod.mk.inj h
        have hall : (rest.takeWhile (!isBrace ·)).all (!isBrace ·) = true := List.all_takeWhile
        rw [hname, List.all_eq_true] at hall
        refine ⟨⟨nofun, fun d hd => by simpa using hall d hd⟩, ?_⟩
        rw [← hname, ← hafter, List.takeWhile_append_dropWhile]
      · cases h
    · cases h
  · rintro ⟨⟨hne, hname⟩, rfl⟩
    have hall : ∀ c ∈ name, (!isBrace c) = true := fun c hc => by rw [hname c hc]; rfl
    obtain ⟨c, more, rfl⟩ := List.exists_cons_of_ne_nil hne
    rw [startPlaceholder?, List.takeWhile_append_of_pos hall, List.dropWhile_append_of_pos hall,
      List.takeWhile_cons_of_neg (by decide), List.dropWhile_cons_of_neg (by decide),
      List.append_nil]
    rfl

theorem startPlaceholder?_of_ne {c : Char} (hc : c ≠ '\x7b') (rest : List Char) :
    startPlaceholder? (c :: rest) = none := by
  rw [Option.eq_none_iff_forall_ne_some]
  rintro ⟨name, after⟩ h
  exact hc (List.cons_eq_cons.1 (startPlaceholder?_eq_some_iff.1 h).2).1

theorem placeholder?_of_isPlaceholderName {segment : String} {name : List Char}
    (hname : IsPlaceholderName name) (hsegment : segment.toList = '\x7b' :: (name ++ ['\x7d'])) :
    placeholder? segment = some (String.ofList name) :=
  placeholder?_eq_some_iff.2 ⟨by simpa using hname.1, by rw [String.toList_ofList, hsegment]⟩

/-- A part of a path: a placeholder for the parameter of a name, or any other character. -/
inductive PathPart where
  | char (c : Char)
  | placeholder (name : String)
deriving DecidableEq, Repr

def PathPart.text : PathPart → List Char
  | .char c => [c]
  | .placeholder name => '\x7b' :: (name.toList ++ ['\x7d'])

/-- The parts of a path, from left to right. -/
def pathParts (path : List Char) : List PathPart :=
  match path with
  | [] => []
  | c :: rest =>
    match _hstart : startPlaceholder? (c :: rest) with
    | some (name, after) => .placeholder (String.ofList name) :: pathParts after
    | none => .char c :: pathParts rest
termination_by path.length
decreasing_by
  · have hlength := congrArg List.length (startPlaceholder?_eq_some_iff.1 _hstart).2
    simp only [List.length_append, List.length_cons] at hlength ⊢
    omega
  · simp

theorem pathParts_nil : pathParts [] = [] := by rw [pathParts]

theorem pathParts_placeholder {name : List Char} (hname : IsPlaceholderName name)
    (after : List Char) : pathParts ('\x7b' :: (name ++ '\x7d' :: after)) =
      .placeholder (String.ofList name) :: pathParts after := by
  have hstart : startPlaceholder? ('\x7b' :: (name ++ '\x7d' :: after)) = some (name, after) :=
    startPlaceholder?_eq_some_iff.2 ⟨hname, rfl⟩
  rw [pathParts]
  split
  · rename_i name' after' h
    rw [hstart, Option.some_inj] at h
    obtain ⟨rfl, rfl⟩ := Prod.mk.inj h
    rfl
  · rename_i h
    rw [hstart] at h
    cases h

theorem pathParts_char {c : Char} {rest : List Char}
    (hstart : startPlaceholder? (c :: rest) = none) :
    pathParts (c :: rest) = .char c :: pathParts rest := by
  rw [pathParts]
  split
  · rename_i h
    rw [hstart] at h
    cases h
  · rfl

theorem pathParts_append_of_not_mem {plain : List Char} (h : '\x7b' ∉ plain) (rest : List Char) :
    pathParts (plain ++ rest) = plain.map .char ++ pathParts rest := by
  induction plain with
  | nil => rfl
  | cons c plain ih =>
    rw [List.mem_cons, not_or] at h
    rw [List.cons_append, pathParts_char (startPlaceholder?_of_ne (Ne.symm h.1) _), ih h.2,
      List.map_cons, List.cons_append]

/-- Nothing of a path is lost. -/
theorem text_pathParts (path : List Char) : (pathParts path).flatMap PathPart.text = path := by
  fun_induction pathParts path with
  | case1 => rfl
  | case2 c rest name after hstart ih =>
    rw [List.flatMap_cons, ih, (startPlaceholder?_eq_some_iff.1 hstart).2]
    simp [PathPart.text]
  | case3 c rest hstart ih => rw [List.flatMap_cons, ih, PathPart.text, List.singleton_append]

theorem name_of_mem_pathParts {path : List Char} {name : String}
    (h : .placeholder name ∈ pathParts path) : IsPlaceholderName name.toList := by
  fun_induction pathParts path with
  | case1 => cases h
  | case2 c rest name' after hstart ih =>
    rcases List.mem_cons.1 h with hname | h
    · injection hname with hname
      rw [hname, String.toList_ofList]
      exact (startPlaceholder?_eq_some_iff.1 hstart).1
    · exact ih h
  | case3 c rest hstart ih => exact ih ((List.mem_cons.1 h).resolve_left nofun)

def templateChar (c : Char) : List Char := if c == '\x7b' then ['$', c] else [c]

theorem urlTemplate_eq (path : String) :
    (urlTemplate path).toList = path.toList.flatMap templateChar := String.toList_ofList

theorem templateChar_of_ne {c : Char} (hc : c ≠ '\x7b') : templateChar c = [c] := by
  rw [templateChar, if_neg (by simpa using hc)]

theorem ne_of_isBrace_eq_false {c : Char} (hc : isBrace c = false) :
    c ≠ '\x7b' ∧ c ≠ '\x7d' := by
  simpa [isBrace] using hc

theorem flatMap_templateChar {name : List Char} (hname : ∀ c ∈ name, isBrace c = false) :
    name.flatMap templateChar = name := by
  induction name with
  | nil => rfl
  | cons c name ih =>
    rw [List.forall_mem_cons] at hname
    rw [List.flatMap_cons, templateChar_of_ne (ne_of_isBrace_eq_false hname.1).1, ih hname.2,
      List.singleton_append]

theorem exists_of_flatMap_templateChar {name rest after : List Char}
    (hname : ∀ c ∈ name, isBrace c = false)
    (h : rest.flatMap templateChar = name ++ '\x7d' :: after) :
    ∃ after', rest = name ++ '\x7d' :: after' := by
  induction name generalizing rest with
  | nil =>
    cases rest with
    | nil => cases h
    | cons c rest =>
      by_cases hc : c = '\x7b'
      · subst hc
        cases h
      · rw [List.flatMap_cons, templateChar_of_ne hc] at h
        exact ⟨rest, by rw [(List.cons_eq_cons.1 h).1]; rfl⟩
  | cons d name ih =>
    rw [List.forall_mem_cons] at hname
    cases rest with
    | nil => cases h
    | cons c rest =>
      by_cases hc : c = '\x7b'
      · -- the brace stands behind the dollar sign, where the name has none
        subst hc
        have hbrace := (List.cons_eq_cons.1 h).2
        cases name with
        | nil => cases hbrace
        | cons e name =>
          have he := (List.cons_eq_cons.1 hbrace).1
          exact absurd he.symm (ne_of_isBrace_eq_false (hname.2 e (List.mem_cons_self ..))).1
      · rw [List.flatMap_cons, templateChar_of_ne hc] at h
        obtain ⟨hhead, htail⟩ := List.cons_eq_cons.1 h
        obtain ⟨after', hrest⟩ := ih hname.2 htail
        exact ⟨after', by rw [hhead, hrest, List.cons_append]⟩

def PathPart.templated : PathPart → List PathPart
  | .char c => (templateChar c).map .char
  | .placeholder name => [.char '$', .placeholder name]

/-- The parts of the URL template are those of the path, with a dollar sign before every brace. -/
theorem pathParts_template (path : List Char) :
    pathParts (path.flatMap templateChar) = (pathParts path).flatMap PathPart.templated := by
  have hdollar (rest : List Char) : pathParts ('$' :: rest) = .char '$' :: pathParts rest :=
    pathParts_char (startPlaceholder?_of_ne (by decide) rest)
  fun_induction pathParts path with
  | case1 => rw [List.flatMap_nil, List.flatMap_nil, pathParts_nil]
  | case2 c rest name after hstart ih =>
    obtain ⟨hname, hchars⟩ := startPlaceholder?_eq_some_iff.1 hstart
    have htemplate : (c :: rest).flatMap templateChar =
        '$' :: '\x7b' :: (name ++ '\x7d' :: after.flatMap templateChar) := by
      rw [hchars, List.flatMap_cons, List.flatMap_append, flatMap_templateChar hname.2]
      rfl
    rw [htemplate, hdollar, pathParts_placeholder hname, ih, List.flatMap_cons]
    rfl
  | case3 c rest hstart ih =>
    by_cases hc : c = '\x7b'
    · subst hc
      have hnone : startPlaceholder? ('\x7b' :: rest.flatMap templateChar) = none := by
        rw [Option.eq_none_iff_forall_ne_some]
        rintro ⟨name, after⟩ h
        obtain ⟨hname, hchars⟩ := startPlaceholder?_eq_some_iff.1 h
        obtain ⟨after', rfl⟩ :=
          exists_of_flatMap_templateChar hname.2 (List.cons_eq_cons.1 hchars).2
        rw [startPlaceholder?_eq_some_iff.2 ⟨hname, rfl⟩] at hstart
        cases hstart
      have htemplate : ('\x7b' :: rest).flatMap templateChar =
        '$' :: '\x7b' :: rest.flatMap templateChar := rfl
      rw [htemplate, hdollar, pathParts_char hnone, ih, List.flatMap_cons]
      rfl
    · rw [List.flatMap_cons, templateChar_of_ne hc, List.singleton_append,
        pathParts_char (startPlaceholder?_of_ne hc _), ih, List.flatMap_cons, PathPart.templated,
        templateChar_of_ne hc]
      rfl

end ClientGen.Api
