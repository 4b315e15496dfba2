import ClientGen.Proofs.Dict
import ClientGen.Proofs.Text.Literals
import ClientGen.Text.Words

/-!
# Words and case forms between single quotes

Words are made of letters and numbers, and the case forms of a character that stands for itself
between single quotes do so as well. The identifiers that are built from words can therefore be
put into a literal as they are.
-/

namespace ClientGen.Text
open ClientGen.Unicode

/-- Whether the character of a code stands for itself between single quotes. -/
def isLiteralCode (n : Nat) : Bool := n != 39 && n != 92 && n != 10 && n != 13

theorem isLiteralChar_eq (c : Char) : isLiteralChar c = isLiteralCode c.toNat := by
  have hcode (d : Char) : (c != d) = (c.toNat != d.toNat) := by
    rw [Bool.eq_iff_iff, bne_iff_ne, bne_iff_ne, ne_eq, ne_eq, Char.toNat_inj]
  rw [isLiteralChar, hcode, hcode, hcode, hcode]
  rfl

theorem isLiteralChar_ofNat {n : Nat} (h : isLiteralCode n = true) :
    isLiteralChar (Char.ofNat n) = true := by
  by_cases hvalid : n.isValidChar
  · rw [isLiteralChar_eq, Char.ofNat, dif_pos hvalid]
    exact h
  · rw [Char.ofNat, dif_neg hvalid]
    decide

theorem forall_ascii {P : Char → Prop} (h : ∀ n < 128, P (Char.ofNat n)) {c : Char}
    (hc : isAscii c = true) : P c := by
  have hcode := h c.toNat (by simpa [isAscii] using hc)
  rwa [Char.ofNat_toNat] at hcode

theorem isLiteralCode_of_le {n : Nat} (h : 93 ≤ n) : isLiteralCode n = true := by
  simp only [isLiteralCode, Bool.and_eq_true, bne_iff_ne]
  omega

theorem isLiteralChar_of_not_isAscii {c : Char} (h : ¬isAscii c = true) :
    isLiteralChar c = true := by
  rw [isLiteralChar_eq]
  apply isLiteralCode_of_le
  simp only [isAscii, decide_eq_true_eq] at h
  omega

theorem isLiteralChar_of_isAlphanum {c : Char} (h : c.isAlphanum = true) :
    isLiteralChar c = true := by
  have hne (d : Char) (hd : d.isAlphanum = false) : c ≠ d := ne_of_isAlphanum h hd
  simp [isLiteralChar, hne '\x27' (by decide), hne '\\' (by decide), hne '\n' (by decide),
    hne '\r' (by decide)]

theorem isLiteralChar_of_isAlphanumeric {c : Char} (h : isAlphanumeric c = true) :
    isLiteralChar c = true := by
  by_cases hascii : isAscii c = true
  · rw [isAlphanumeric, if_pos hascii] at h
    exact isLiteralChar_of_isAlphanum h
  · exact isLiteralChar_of_not_isAscii hascii

/-- What holds from a bound on, and where a run of one code lands below the bound, holds of the
image of a code of which it holds. -/
theorem forall_apply {P : Nat → Prop} {bound : Nat} (hbound : ∀ n, bound ≤ n → P n)
    {shifts : Shifts}
    (hshifts : ∀ run ∈ shifts, bound ≤ run.2.2.2 ∨ run.1 = run.2.1 ∧ P run.2.2.2) {n : Nat}
    (h : P n) : P (shifts.apply n) := by
  unfold Shifts.apply
  split
  · rename_i first last step image hfind
    have hrange := List.find?_some hfind
    simp only [Bool.and_eq_true, decide_eq_true_eq] at hrange
    rcases hshifts _ (List.mem_of_find?_eq_some hfind) with hlarge | ⟨hsingle, himage⟩
    · exact hbound _ (Nat.le_add_right_of_le hlarge)
    · obtain rfl : n = first := by
        simp only at hsingle
        omega
      rwa [Nat.sub_self, Nat.add_zero]
  · exact h

/-- Whether a run of case shifts lands on codes of characters that stand for themselves. -/
def landsLiteral : Nat × Nat × Nat × Nat → Bool
  | (first, last, _, image) => 93 ≤ image || (first == last && isLiteralCode image)

theorem isLiteralCode_apply {shifts : Shifts} (hshifts : shifts.all landsLiteral = true) {n : Nat}
    (h : isLiteralCode n = true) : isLiteralCode (shifts.apply n) = true := by
  refine forall_apply (fun _ => isLiteralCode_of_le) (fun run hrun => ?_) h
  have hlands := List.all_eq_true.1 hshifts run hrun
  simpa only [landsLiteral, Bool.or_eq_true, decide_eq_true_eq, Bool.and_eq_true, beq_iff_eq]
    using hlands

theorem isLiteralChar_form {forms : List (Nat × List Nat)}
    (hforms : forms.all (fun form => form.2.all isLiteralCode) = true) {n : Nat}
    {form : List Nat} (hform : forms.lookup n = some form) {d : Char}
    (hd : d ∈ form.map Char.ofNat) : isLiteralChar d = true := by
  obtain ⟨code, hcode, rfl⟩ := List.mem_map.1 hd
  have hcodes := List.all_eq_true.1 hforms _ (Dict.mem_of_lookup hform)
  exact isLiteralChar_ofNat (List.all_eq_true.1 hcodes code hcode)

def caseForm (ascii : Char → Char) (forms : List (Nat × List Nat)) (shifts : Shifts) (c : Char) :
    List Char :=
  if isAscii c then [ascii c]
  else match forms.lookup c.toNat with
    | some form => form.map Char.ofNat
    | none => [Char.ofNat (shifts.apply c.toNat)]

theorem isLiteralChar_caseForm {ascii : Char → Char} {forms : List (Nat × List Nat)}
    {shifts : Shifts}
    (hascii : ∀ n < 128, isLiteralChar (Char.ofNat n) = true →
      isLiteralChar (ascii (Char.ofNat n)) = true)
    (hforms : forms.all (fun form => form.2.all isLiteralCode) = true)
    (hshifts : shifts.all landsLiteral = true) {c d : Char} (hc : isLiteralChar c = true)
    (hd : d ∈ caseForm ascii forms shifts c) : isLiteralChar d = true := by
  unfold caseForm at hd
  split at hd
  · rw [List.mem_singleton.1 hd]
    exact forall_ascii (P := fun c => isLiteralChar c = true → isLiteralChar (ascii c) = true)
      hascii ‹_› hc
  · split at hd
    · exact isLiteralChar_form hforms ‹_› hd
    · rw [List.mem_singleton.1 hd]
      rw [isLiteralChar_eq] at hc
      exact isLiteralChar_ofNat (isLiteralCode_apply hshifts hc)

theorem isLiteralChar_lowercase {c d : Char} (hc : isLiteralChar c = true)
    (hd : d ∈ lowercase c) : isLiteralChar d = true := by
  have hform : lowercase c = caseForm Char.toLower longLowercase lowercaseShifts c := rfl
  rw [hform] at hd
  exact isLiteralChar_caseForm (by decide +kernel) (by decide) (by decide +kernel) hc hd

theorem isLiteralChar_uppercase {c d : Char} (hc : isLiteralChar c = true)
    (hd : d ∈ uppercase c) : isLiteralChar d = true := by
  have hform : uppercase c = caseForm Char.toUpper longUppercase uppercaseShifts c := rfl
  rw [hform] at hd
  exact isLiteralChar_caseForm (by decide +kernel) (by decide +kernel) (by decide +kernel) hc hd

/-- A text that stands for itself between single quotes. -/
def IsLiteralText (text : String) : Prop := ∀ c ∈ text.toList, isLiteralChar c = true

instance (text : String) : Decidable (IsLiteralText text) :=
  inferInstanceAs (Decidable (∀ c ∈ text.toList, isLiteralChar c = true))

theorem isLiteralText_append_iff {first second : String} :
    IsLiteralText (first ++ second) ↔ IsLiteralText first ∧ IsLiteralText second := by
  simp only [IsLiteralText, String.toList_append, List.forall_mem_append]

theorem IsLiteralText.append {first second : String} (hfirst : IsLiteralText first)
    (hsecond : IsLiteralText second) : IsLiteralText (first ++ second) :=
  isLiteralText_append_iff.2 ⟨hfirst, hsecond⟩

theorem isLiteralText_join {texts : List String} (h : ∀ text ∈ texts, IsLiteralText text) :
    IsLiteralText (String.join texts) := by
  induction texts with
  | nil => exact List.forall_mem_nil _
  | cons first rest ih =>
    rw [List.forall_mem_cons] at h
    rw [String.join_cons]
    exact h.1.append (ih h.2)

theorem isLiteralText_numeral (n : Nat) : IsLiteralText (toString n) := fun _ hc =>
  isLiteralChar_of_isAlphanum (isAlphanum_of_isDigit (isDigit_of_mem_numeral hc))

theorem mem_finishWord {word w : List Char} {words : List (List Char)}
    (h : w ∈ finishWord word words) : (w = word ∧ w ≠ []) ∨ w ∈ words := by
  unfold finishWord at h
  split at h
  · exact .inr h
  · rename_i hword
    refine (List.mem_cons.1 h).imp_left fun hsame => ⟨hsame, ?_⟩
    rw [hsame]
    simpa using hword

theorem forall_mem_splitFrom {P : Char → Prop} {word : List Char} {before : Option Char}
    {text : List Char} (hword : ∀ d ∈ word, P d)
    (htext : ∀ c ∈ text, isAlphanumeric c = true → ∀ d ∈ lowercase c, P d) :
    ∀ w ∈ splitFrom word before text, w ≠ [] ∧ ∀ d ∈ w, P d := by
  -- the word that is being read is one of the words to come
  induction text generalizing word before with
  | nil =>
    intro w hw
    rcases mem_finishWord hw with ⟨rfl, hne⟩ | hw
    · exact ⟨hne, hword⟩
    · cases hw
  | cons c rest ih =>
    have hrest : ∀ c ∈ rest, isAlphanumeric c = true → ∀ d ∈ lowercase c, P d := fun c hc =>
      htext c (List.mem_cons_of_mem _ hc)
    intro w hw
    rw [splitFrom] at hw
    split at hw
    · rcases mem_finishWord hw with ⟨rfl, hne⟩ | hw
      · exact ⟨hne, hword⟩
      · exact ih (List.forall_mem_nil _) hrest w hw
    · rename_i halphanumeric
      have hlower : ∀ d ∈ lowercase c, P d :=
        htext c (List.mem_cons_self ..) (by simpa using halphanumeric)
      split at hw
      · rcases mem_finishWord hw with ⟨rfl, hne⟩ | hw
        · exact ⟨hne, hword⟩
        · exact ih hlower hrest w hw
      · refine ih (fun d hd => ?_) hrest w hw
        exact (List.mem_append.1 hd).elim (hword d) (hlower d)

theorem forall_mem_splitWords {P : Char → Prop} {text word : List Char}
    (htext : ∀ c ∈ text, isAlphanumeric c = true → ∀ d ∈ lowercase c, P d)
    (hword : word ∈ splitWords text) : word ≠ [] ∧ ∀ d ∈ word, P d :=
  forall_mem_splitFrom (List.forall_mem_nil _) htext word hword

theorem ne_nil_of_mem_splitWords {text word : List Char} (h : word ∈ splitWords text) :
    word ≠ [] :=
  (forall_mem_splitWords (P := fun _ => True) (fun _ _ _ _ _ => trivial) h).1

section
variable {P : Char → Prop} {text : String}
  (htext : ∀ c ∈ text.toList, isAlphanumeric c = true → ∀ d ∈ lowercase c, P d)
  (hupper : ∀ c, P c → ∀ d ∈ uppercase c, P d)

include hupper in
theorem forall_mem_capitalizeChars {word : List Char} (h : ∀ c ∈ word, P c) :
    ∀ c ∈ capitalizeChars word, P c := by
  cases word with
  | nil => exact h
  | cons first rest =>
    rw [List.forall_mem_cons] at h
    intro c hc
    rw [capitalizeChars, List.mem_append] at hc
    exact hc.elim (hupper first h.1 c) (h.2 c)

include htext hupper

/-- What holds of the lower case forms of the letters and numbers of a text, and of the upper case
forms of whatever it holds of, holds of the text capitalized. -/
theorem forall_mem_pascalCase : ∀ c ∈ (pascalCase text).toList, P c := by
  intro c hc
  rw [pascalCase, String.toList_ofList, List.mem_flatMap] at hc
  obtain ⟨word, hword, hc⟩ := hc
  exact forall_mem_capitalizeChars hupper (forall_mem_splitWords htext hword).2 c hc

theorem forall_mem_camelCase : ∀ c ∈ (camelCase text).toList, P c := by
  have hwords : ∀ word ∈ splitWords text.toList, ∀ c ∈ word, P c := fun _ hword =>
    (forall_mem_splitWords htext hword).2
  unfold camelCase
  cases hsplit : splitWords text.toList with
  | nil => exact List.forall_mem_nil _
  | cons first rest =>
    rw [hsplit, List.forall_mem_cons] at hwords
    intro c hc
    simp only [String.toList_ofList, List.mem_append, List.mem_flatMap] at hc
    rcases hc with hc | ⟨word, hword, hc⟩
    · exact hwords.1 c hc
    · exact forall_mem_capitalizeChars hupper (hwords.2 word hword) c hc

end

theorem isLiteralText_pascalCase (text : String) : IsLiteralText (pascalCase text) :=
  forall_mem_pascalCase
    (fun _ _ hc _ hd => isLiteralChar_lowercase (isLiteralChar_of_isAlphanumeric hc) hd)
    fun _ hc _ hd => isLiteralChar_uppercase hc hd

theorem isLiteralText_camelCase (text : String) : IsLiteralText (camelCase text) :=
  forall_mem_camelCase
    (fun _ _ hc _ hd => isLiteralChar_lowercase (isLiteralChar_of_isAlphanumeric hc) hd)
    fun _ hc _ hd => isLiteralChar_uppercase hc hd

end ClientGen.Text
