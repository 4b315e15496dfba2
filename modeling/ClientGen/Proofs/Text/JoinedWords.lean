import ClientGen.Proofs.Text.Capitals

/-!
# Words that can be read back

A word that starts with a digit has no capital, so where words are run together it cannot be told
from the end of the word before it. When each such word is appended to the word before it, the
capitals show where the words start. So two ASCII texts are one text in camel case exactly if their
words joined in this way are the same.
-/

namespace ClientGen.Text
open ClientGen.Unicode

def runTogether : List (List Char) → List Char
  | [] => []
  | first :: rest => first ++ rest.flatMap capitalizeChars

def startsWithDigit (word : List Char) : Bool := word.head?.any Char.isDigit

/-- Puts a word in front of others, of which it takes in the first if that starts with a digit. -/
def attach (word : List Char) : List (List Char) → List (List Char)
  | [] => [word]
  | next :: rest => if startsWithDigit next then (word ++ next) :: rest else word :: next :: rest

/-- The words of a text, those that start with a digit appended to the words before them. -/
def joinedWords (text : String) : List (List Char) := (splitWords text.toList).foldr attach []

theorem toList_camelCase (text : String) :
    (camelCase text).toList = runTogether (splitWords text.toList) := by
  unfold camelCase
  cases splitWords text.toList with
  | nil => rfl
  | cons first rest => rw [String.toList_ofList, runTogether]

theorem not_isUpper_of_isSmall {c : Char} (h : isSmall c = true) : (!c.isUpper) = true := by
  have hascii : ∀ n < 128, isSmall (Char.ofNat n) = true → (!(Char.ofNat n).isUpper) = true := by
    decide +kernel
  exact forall_ascii (P := fun c => isSmall c = true → (!c.isUpper) = true) hascii
    (isAscii_of_isSmall h) h

def IsSmallWord (word : List Char) : Prop := word ≠ [] ∧ ∀ c ∈ word, isSmall c = true

theorem IsSmallWord.append {word next : List Char} (h : IsSmallWord word)
    (hnext : IsSmallWord next) : IsSmallWord (word ++ next) :=
  ⟨fun hnil => h.1 (List.append_eq_nil_iff.1 hnil).1, List.forall_mem_append.2 ⟨h.2, hnext.2⟩⟩

theorem IsSmallWord.isPlainWord {word : List Char} (h : IsSmallWord word)
    (hdigit : startsWithDigit word = false) : isPlainWord word = true := by
  obtain ⟨hne, hsmall⟩ := h
  obtain ⟨c, rest, rfl⟩ := List.exists_cons_of_ne_nil hne
  rw [List.forall_mem_cons] at hsmall
  have hc : c.isDigit = false := by simpa [startsWithDigit] using hdigit
  have hlower : c.isLower = true := by simpa [isSmall, hc] using hsmall.1
  rw [Text.isPlainWord, hlower, Bool.true_and, List.all_eq_true]
  exact fun d hd => not_isUpper_of_isSmall (hsmall.2 d hd)

theorem capitalizeChars_append {word : List Char} (h : word ≠ []) (next : List Char) :
    capitalizeChars (word ++ next) = capitalizeChars word ++ next := by
  obtain ⟨c, rest, rfl⟩ := List.exists_cons_of_ne_nil h
  rw [List.cons_append, capitalizeChars, capitalizeChars, List.append_assoc]

theorem capitalizeChars_of_digit {word : List Char} (h : startsWithDigit word = true) :
    capitalizeChars word = word := by
  have hdigits : ∀ n < 128, (Char.ofNat n).isDigit = true →
      (Char.ofNat n).toUpper = Char.ofNat n := by
    decide +kernel
  cases word with
  | nil => rfl
  | cons c rest =>
    have hc : c.isDigit = true := by simpa [startsWithDigit] using h
    have hsmall : isSmall c = true := by rw [isSmall, hc, Bool.or_true]
    have hupper : c.toUpper = c :=
      forall_ascii (P := fun c => c.isDigit = true → c.toUpper = c) hdigits
        (isAscii_of_isSmall hsmall) hc
    rw [capitalizeChars, uppercase_of_isSmall hsmall, hupper, List.singleton_append]

section
variable {word : List Char} {words : List (List Char)}

theorem flatMap_attach (h : word ≠ []) :
    (attach word words).flatMap capitalizeChars =
      capitalizeChars word ++ words.flatMap capitalizeChars := by
  cases words with
  | nil => rfl
  | cons next rest =>
    rw [attach]
    split
    · rename_i hdigit
      rw [List.flatMap_cons, List.flatMap_cons, capitalizeChars_append h,
        capitalizeChars_of_digit hdigit, List.append_assoc]
    · rw [List.flatMap_cons]

theorem runTogether_attach :
    runTogether (attach word words) = word ++ words.flatMap capitalizeChars := by
  cases words with
  | nil => rfl
  | cons next rest =>
    rw [attach]
    split
    · rename_i hdigit
      rw [runTogether, List.flatMap_cons, capitalizeChars_of_digit hdigit, List.append_assoc]
    · rw [runTogether]

/-- Small words, all but the first of which have a capital. -/
structure ShowStarts (words : List (List Char)) : Prop where
  small : ∀ word ∈ words, IsSmallWord word
  plain : ∀ word ∈ words.tail, isPlainWord word = true

theorem ShowStarts.attach (h : ShowStarts words) (hword : IsSmallWord word) :
    ShowStarts (attach word words) := by
  cases words with
  | nil => exact ⟨List.forall_mem_singleton.2 hword, List.forall_mem_nil _⟩
  | cons next rest =>
    obtain ⟨hsmall, hplain⟩ := h
    rw [List.forall_mem_cons] at hsmall
    rw [Text.attach]
    split
    · exact ⟨List.forall_mem_cons.2 ⟨hword.append hsmall.1, hsmall.2⟩, hplain⟩
    · rename_i hletter
      have hnext := hsmall.1.isPlainWord (by simpa using hletter)
      exact ⟨List.forall_mem_cons.2 ⟨hword, List.forall_mem_cons.2 hsmall⟩,
        List.forall_mem_cons.2 ⟨hnext, hplain⟩⟩

end

theorem flatMap_joined {words : List (List Char)} (h : ∀ word ∈ words, word ≠ []) :
    (words.foldr attach []).flatMap capitalizeChars = words.flatMap capitalizeChars := by
  induction words with
  | nil => rfl
  | cons word rest ih =>
    rw [List.forall_mem_cons] at h
    rw [List.foldr_cons, flatMap_attach h.1, ih h.2, List.flatMap_cons]

theorem runTogether_joined {words : List (List Char)} (h : ∀ word ∈ words, word ≠ []) :
    runTogether (words.foldr attach []) = runTogether words := by
  cases words with
  | nil => rfl
  | cons word rest =>
    rw [List.forall_mem_cons] at h
    rw [List.foldr_cons, runTogether_attach, flatMap_joined h.2, runTogether]

theorem showStarts_joined {words : List (List Char)} (h : ∀ word ∈ words, IsSmallWord word) :
    ShowStarts (words.foldr attach []) := by
  induction words with
  | nil => exact ⟨List.forall_mem_nil _, List.forall_mem_nil _⟩
  | cons word rest ih =>
    rw [List.forall_mem_cons] at h
    exact (ih h.2).attach h.1

theorem ShowStarts.eq_of_runTogether_eq {words words' : List (List Char)} (h : ShowStarts words)
    (h' : ShowStarts words') (hsame : runTogether words = runTogether words') : words = words' := by
  have hnoCapital {word : List Char} (hword : IsSmallWord word) :
      ∀ c ∈ word, (!c.isUpper) = true := fun c hc => not_isUpper_of_isSmall (hword.2 c hc)
  obtain ⟨hsmall, hplain⟩ := h
  obtain ⟨hsmall', hplain'⟩ := h'
  cases words with
  | nil =>
    cases words' with
    | nil => rfl
    | cons first' rest' =>
      have hnil := List.append_eq_nil_iff.1 hsame.symm
      exact absurd hnil.1 (hsmall' first' (List.mem_cons_self ..)).1
  | cons first rest =>
    cases words' with
    | nil =>
      have hnil := List.append_eq_nil_iff.1 hsame
      exact absurd hnil.1 (hsmall first (List.mem_cons_self ..)).1
    | cons first' rest' =>
      rw [List.tail_cons] at hplain hplain'
      rw [runTogether, runTogether] at hsame
      -- the first word goes up to the first capital
      have hfirst := congrArg (List.takeWhile fun c => !c.isUpper) hsame
      rw [List.takeWhile_append_of_pos (hnoCapital (hsmall first (List.mem_cons_self ..))),
        List.takeWhile_append_of_pos (hnoCapital (hsmall' first' (List.mem_cons_self ..))),
        takeWhile_capitalized hplain, takeWhile_capitalized hplain', List.append_nil,
        List.append_nil] at hfirst
      rw [hfirst, List.append_cancel_left_eq] at hsame
      rw [hfirst, eq_of_capitalized_eq hplain hplain' hsame]

/-- Two ASCII texts are one in camel case exactly if their joined words are the same. -/
theorem camelCase_eq_iff {a b : String} (ha : IsAsciiText a) (hb : IsAsciiText b) :
    camelCase a = camelCase b ↔ joinedWords a = joinedWords b := by
  have hsmall {text : String} (htext : IsAsciiText text) :
      ∀ word ∈ splitWords text.toList, IsSmallWord word := fun _ =>
    isSmall_of_mem_splitWords htext
  have hjoined {text : String} (htext : IsAsciiText text) :
      runTogether (joinedWords text) = (camelCase text).toList := by
    rw [toList_camelCase]
    exact runTogether_joined fun word hword => (hsmall htext word hword).1
  constructor
  · intro hsame
    have hstarts := showStarts_joined (hsmall ha)
    refine hstarts.eq_of_runTogether_eq (showStarts_joined (hsmall hb)) ?_
    show runTogether (joinedWords a) = runTogether (joinedWords b)
    rw [hjoined ha, hjoined hb, hsame]
  · intro hsame
    rw [← String.toList_inj, ← hjoined ha, ← hjoined hb, hsame]

end ClientGen.Text
