import ClientGen.Proofs.Text.JoinedWords
import ClientGen.Proofs.Text.Leading

/-!
# Words of snake case

Splitting loses nothing: the words of a text are its letters and numbers in lower case. The words of
an ASCII text are made of small letters and digits, in which nothing starts a new word. So
splitting gives them back when they are joined by underscores, and a text has the case forms of its
snake case.
-/

namespace ClientGen.Text
open ClientGen.Unicode

theorem isAlphanumeric_of_isSmall {c : Char} (h : isSmall c = true) : isAlphanumeric c = true := by
  have hsmall : ∀ n < 128, isSmall (Char.ofNat n) = true →
      isAlphanumeric (Char.ofNat n) = true := by decide +kernel
  exact forall_ascii (P := fun c => isSmall c = true → isAlphanumeric c = true) hsmall
    (isAscii_of_isSmall h) h

theorem lowercase_of_isSmall {c : Char} (h : isSmall c = true) : lowercase c = [c] := by
  have hsmall : ∀ n < 128, isSmall (Char.ofNat n) = true →
      lowercase (Char.ofNat n) = [Char.ofNat n] := by decide +kernel
  exact forall_ascii (P := fun c => isSmall c = true → lowercase c = [c]) hsmall
    (isAscii_of_isSmall h) h

theorem startsWord_of_isSmall {c : Char} (h : isSmall c = true) (before after : Option Char) :
    startsWord before c after = false := by
  have hupper : isUppercase c = false := by
    have hlower := not_isUpper_of_isSmall h
    simpa [isUppercase, isAscii_of_isSmall h] using hlower
  cases before with
  | none => rfl
  | some b => simp [startsWord, hupper]

theorem splitFrom_small_cons {c : Char} (h : isSmall c = true) (word : List Char)
    (before : Option Char) (rest : List Char) :
    splitFrom word before (c :: rest) = splitFrom (word ++ [c]) (some c) rest := by
  simp [splitFrom, isAlphanumeric_of_isSmall h, startsWord_of_isSmall h, lowercase_of_isSmall h]

theorem splitFrom_small {letters : List Char} (h : ∀ c ∈ letters, isSmall c = true)
    (word : List Char) (before : Option Char) (rest : List Char) :
    ∃ last, splitFrom word before (letters ++ rest) = splitFrom (word ++ letters) last rest := by
  induction letters generalizing word before with
  | nil => exact ⟨before, by simp⟩
  | cons c letters ih =>
    rw [List.forall_mem_cons] at h
    obtain ⟨last, hlast⟩ := ih h.2 (word ++ [c]) (some c)
    refine ⟨last, ?_⟩
    rw [List.cons_append, splitFrom_small_cons h.1, hlast, List.append_assoc,
      List.singleton_append]

theorem finishWord_of_ne_nil {word : List Char} (h : word ≠ []) (words : List (List Char)) :
    finishWord word words = word :: words := by
  simp [finishWord, h]

theorem splitWords_small {word : List Char} (h : IsSmallWord word) : splitWords word = [word] := by
  obtain ⟨last, hlast⟩ := splitFrom_small h.2 [] none []
  rw [List.append_nil, List.nil_append, splitFrom, finishWord_of_ne_nil h.1] at hlast
  exact hlast

theorem splitWords_small_append {word : List Char} (h : IsSmallWord word) (rest : List Char) :
    splitWords (word ++ '_' :: rest) = word :: splitWords rest := by
  have hseparator : isAlphanumeric '_' = false := by decide
  obtain ⟨last, hlast⟩ := splitFrom_small h.2 [] none ('_' :: rest)
  rw [splitWords, hlast, List.nil_append, splitFrom, if_pos (by simp [hseparator]),
    finishWord_of_ne_nil h.1, splitWords]

theorem splitWords_intercalate {words : List (List Char)} (h : ∀ word ∈ words, IsSmallWord word) :
    splitWords (['_'].intercalate words) = words := by
  induction words with
  | nil => rfl
  | cons word rest ih =>
    rw [List.forall_mem_cons] at h
    have hrest := ih h.2
    cases rest with
    | nil => rw [List.intercalate_singleton, splitWords_small h.1]
    | cons next others =>
      rw [List.intercalate_cons_cons, List.append_assoc, List.singleton_append,
        splitWords_small_append h.1, hrest]

theorem splitWords_snakeCase {text : String} (h : IsAsciiText text) :
    splitWords (snakeCase text).toList = splitWords text.toList := by
  rw [snakeCase, String.toList_ofList]
  exact splitWords_intercalate fun _ => isSmall_of_mem_splitWords h

/-- No word is empty, the words together are the letters and numbers of the text in lower case, and
the words of an ASCII text are small letters and digits that its snake case splits into again. -/
theorem words_kept (text : String) :
    (∀ word ∈ words text, word ≠ "") ∧
    String.join (words text) =
      String.ofList ((text.toList.filter isAlphanumeric).flatMap lowercase) ∧
    (IsAsciiText text →
      (∀ word ∈ words text, IsSmallWord word.toList) ∧
      words (snakeCase text) = words text ∧
      snakeCase (snakeCase text) = snakeCase text ∧
      pascalCase (snakeCase text) = pascalCase text ∧
      camelCase (snakeCase text) = camelCase text) := by
  refine ⟨fun word hword => ?_, ?_, fun hascii => ?_⟩
  · obtain ⟨chars, hchars, rfl⟩ := List.mem_map.1 hword
    simpa [← String.toList_inj] using ne_nil_of_mem_splitWords hchars
  · rw [← String.toList_inj, String.toList_ofList, ← flatten_splitWords, words,
      String.toList_join, List.flatMap_map]
    simp [List.flatMap_id']
  · have hsplit := splitWords_snakeCase hascii
    refine ⟨fun word hword => ?_, ?_, ?_, ?_, ?_⟩
    · obtain ⟨chars, hchars, rfl⟩ := List.mem_map.1 hword
      rw [String.toList_ofList]
      exact isSmall_of_mem_splitWords hascii hchars
    · rw [words, hsplit, words]
    · rw [snakeCase, hsplit, snakeCase]
    · rw [pascalCase, hsplit, pascalCase]
    · rw [camelCase, hsplit, camelCase]

/-- A name with an acronym, a digit before a capital and separators at both ends. -/
theorem responseName_words_kept :
    IsAsciiText "__getHTTPResponse2Page!" ∧
      words "__getHTTPResponse2Page!" = ["get", "http", "response2", "page"] ∧
      words (snakeCase "__getHTTPResponse2Page!") = words "__getHTTPResponse2Page!" := by
  have hascii : IsAsciiText "__getHTTPResponse2Page!" := by decide
  exact ⟨hascii, by decide +kernel, ((words_kept "__getHTTPResponse2Page!").2.2 hascii).2.1⟩

end ClientGen.Text
