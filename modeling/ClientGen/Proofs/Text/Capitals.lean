import ClientGen.Proofs.Text.CaseForms

/-!
# Capitals where words start

Identifiers are words run together, each with a capital at its start. Where every word starts with
one of the letters a to z, the capitals show where the words start, and the words can be read back.
Beyond these letters different characters share a capital, so there two words may be taken for one
another, and two names that differ in their first characters become one when they are capitalized.
-/

namespace ClientGen.Text
open ClientGen.Unicode

theorem uppercase_ne_nil (c : Char) : uppercase c ≠ [] := by
  have hforms : longUppercase.all (fun form => form.2 != []) = true := by decide +kernel
  unfold uppercase
  split
  · exact List.cons_ne_nil _ _
  · split
    · rename_i form hform
      obtain ⟨before, after, hentries, -⟩ := List.lookup_eq_some_iff.1 hform
      have hmem : (c.toNat, form) ∈ longUppercase := by simp [hentries]
      simpa using List.all_eq_true.1 hforms _ hmem
    · exact List.cons_ne_nil _ _

theorem capitalizeChars_ne_nil {word : List Char} (h : word ≠ []) : capitalizeChars word ≠ [] := by
  cases word with
  | nil => exact absurd rfl h
  | cons c rest =>
    intro hnil
    exact uppercase_ne_nil c (List.append_eq_nil_iff.1 hnil).1

def isSmall (c : Char) : Bool := c.isLower || c.isDigit

theorem isSmall_of_isLower {c : Char} (h : c.isLower = true) : isSmall c = true := by
  rw [isSmall, h, Bool.true_or]

theorem isAscii_of_isSmall {c : Char} (h : isSmall c = true) : isAscii c = true := by
  have hlower : c.isLower = (decide ('a'.val ≤ c.val) && decide (c.val ≤ 'z'.val)) := rfl
  have hdigit : c.isDigit = (decide ('0'.val ≤ c.val) && decide (c.val ≤ '9'.val)) := rfl
  rw [isSmall, hlower, hdigit] at h
  have hcode : c.toNat ≤ 122 := by
    simp only [Bool.or_eq_true, Bool.and_eq_true, decide_eq_true_eq, UInt32.le_iff_toNat_le] at h
    rcases h with h | h
    · exact h.2
    · exact Nat.le_trans h.2 (by decide)
  exact decide_eq_true (by omega)

theorem uppercase_of_isSmall {c : Char} (h : isSmall c = true) : uppercase c = [c.toUpper] := by
  rw [uppercase, if_pos (isAscii_of_isSmall h)]

theorem toUpper_inj {c d : Char} (hc : isSmall c = true) (hd : isSmall d = true)
    (h : c.toUpper = d.toUpper) : c = d := by
  have hascii : ∀ n < 128, isSmall (Char.ofNat n) = true →
      (Char.ofNat n).toUpper.toLower = Char.ofNat n := by decide +kernel
  have hback : ∀ {c : Char}, isSmall c = true → c.toUpper.toLower = c := fun {c} hc =>
    forall_ascii (P := fun c => isSmall c = true → c.toUpper.toLower = c) hascii
      (isAscii_of_isSmall hc) hc
  rw [← hback hc, h, hback hd]

theorem toUpper_toLower {c : Char} (h : isAscii c = true) : c.toLower.toUpper = c.toUpper := by
  have hascii : ∀ n < 128, (Char.ofNat n).toLower.toUpper = (Char.ofNat n).toUpper := by
    decide +kernel
  exact forall_ascii (P := fun c => c.toLower.toUpper = c.toUpper) hascii h

theorem toLower_toUpper {c : Char} (h : isAscii c = true) : c.toUpper.toLower = c.toLower := by
  have hascii : ∀ n < 128, (Char.ofNat n).toUpper.toLower = (Char.ofNat n).toLower := by
    decide +kernel
  exact forall_ascii (P := fun c => c.toUpper.toLower = c.toLower) hascii h

theorem map_toUpper_eq_iff {a b : List Char} (ha : ∀ c ∈ a, isAscii c = true)
    (hb : ∀ c ∈ b, isAscii c = true) :
    a.map Char.toUpper = b.map Char.toUpper ↔ a.map Char.toLower = b.map Char.toLower := by
  have hlower {text : List Char} (h : ∀ c ∈ text, isAscii c = true) :
      (text.map Char.toUpper).map Char.toLower = text.map Char.toLower := by
    rw [List.map_map]
    exact List.map_congr_left fun c hc => toLower_toUpper (h c hc)
  have hupper {text : List Char} (h : ∀ c ∈ text, isAscii c = true) :
      (text.map Char.toLower).map Char.toUpper = text.map Char.toUpper := by
    rw [List.map_map]
    exact List.map_congr_left fun c hc => toUpper_toLower (h c hc)
  constructor
  · intro hsame
    rw [← hlower ha, hsame, hlower hb]
  · intro hsame
    rw [← hupper ha, hsame, hupper hb]

theorem isSmall_of_mem_splitWords {text word : List Char} (htext : ∀ c ∈ text, isAscii c = true)
    (hword : word ∈ splitWords text) : word ≠ [] ∧ ∀ d ∈ word, isSmall d = true := by
  have hascii : ∀ n < 128, isAlphanumeric (Char.ofNat n) = true →
      isSmall (Char.ofNat n).toLower = true := by decide +kernel
  refine forall_mem_splitWords (fun c hc halphanumeric d hd => ?_) hword
  rw [lowercase, if_pos (htext c hc), List.mem_singleton] at hd
  rw [hd]
  exact forall_ascii (P := fun c => isAlphanumeric c = true → isSmall c.toLower = true) hascii
    (htext c hc) halphanumeric

def IsAsciiText (text : String) : Prop := ∀ c ∈ text.toList, isAscii c = true

instance (text : String) : Decidable (IsAsciiText text) :=
  inferInstanceAs (Decidable (∀ c ∈ text.toList, isAscii c = true))

def StartsSmall (name : String) : Prop := ∃ c rest, name.toList = c :: rest ∧ isSmall c = true

theorem StartsSmall.append {name : String} (h : StartsSmall name) (ending : String) :
    StartsSmall (name ++ ending) := by
  obtain ⟨c, rest, hname, hc⟩ := h
  exact ⟨c, rest ++ ending.toList, by rw [String.toList_append, hname, List.cons_append], hc⟩

/-- The words of an ASCII text run together start with a small letter or a digit, if there are
any. -/
theorem startsSmall_camelCase {text : String} (htext : IsAsciiText text)
    (hne : camelCase text ≠ "") : StartsSmall (camelCase text) := by
  unfold camelCase at hne ⊢
  cases hwords : splitWords text.toList with
  | nil => exact absurd (by rw [hwords]) hne
  | cons first others =>
    have hmem : first ∈ splitWords text.toList := hwords ▸ List.mem_cons_self ..
    obtain ⟨hfirst, hsmall⟩ := isSmall_of_mem_splitWords htext hmem
    obtain ⟨c, rest, rfl⟩ := List.exists_cons_of_ne_nil hfirst
    exact ⟨c, rest ++ others.flatMap capitalizeChars, by simp, hsmall c (List.mem_cons_self ..)⟩

/-- Two names that become one when they are capitalized, and so differ in the characters they start
with. -/
def MeetAtStart (a b : String) : Prop :=
  ∃ c rest d rest', a.toList = c :: rest ∧ b.toList = d :: rest' ∧ c ≠ d ∧
    uppercase c ++ rest = uppercase d ++ rest'

theorem capitalize_eq_iff {a b : String} (ha : a ≠ "") (hb : b ≠ "") (hne : a ≠ b) :
    capitalize a = capitalize b ↔ MeetAtStart a b := by
  obtain ⟨c, rest, ha⟩ := List.exists_cons_of_ne_nil (mt String.toList_eq_nil_iff.1 ha)
  obtain ⟨d, rest', hb⟩ := List.exists_cons_of_ne_nil (mt String.toList_eq_nil_iff.1 hb)
  rw [capitalize, capitalize, String.ofList_inj, ha, hb, capitalizeChars, capitalizeChars]
  constructor
  · intro hsame
    refine ⟨c, rest, d, rest', ha, hb, ?_, hsame⟩
    -- names that start alike would be one name
    rintro rfl
    rw [List.append_cancel_left_eq] at hsame
    exact hne (String.toList_inj.1 (by rw [ha, hb, hsame]))
  · rintro ⟨c', _, d', _, ha', hb', -, hsame⟩
    obtain ⟨rfl, rfl⟩ := List.cons_eq_cons.1 (ha.symm.trans ha')
    obtain ⟨rfl, rfl⟩ := List.cons_eq_cons.1 (hb.symm.trans hb')
    exact hsame

theorem StartsSmall.not_meetAtStart {a b : String} (ha : StartsSmall a) (hb : StartsSmall b) :
    ¬ MeetAtStart a b := by
  rintro ⟨c, rest, d, rest', hc, hd, hne, hsame⟩
  obtain ⟨c', _, hc', hsmall⟩ := ha
  obtain ⟨d', _, hd', hsmall'⟩ := hb
  obtain ⟨rfl, -⟩ := List.cons_eq_cons.1 (hc.symm.trans hc')
  obtain ⟨rfl, -⟩ := List.cons_eq_cons.1 (hd.symm.trans hd')
  rw [uppercase_of_isSmall hsmall, uppercase_of_isSmall hsmall'] at hsame
  exact hne (toUpper_inj hsmall hsmall' (List.cons_eq_cons.1 hsame).1)

/-- A word that starts with a letter from a to z and has no capital from A to Z. -/
def isPlainWord : List Char → Bool
  | [] => false
  | c :: rest => c.isLower && rest.all fun d => !d.isUpper

theorem capitalize_of_isPlainWord {word : List Char} (h : isPlainWord word = true) :
    ∃ c rest, word = c :: rest ∧ c.isLower = true ∧ (∀ d ∈ rest, (!d.isUpper) = true) ∧
      capitalizeChars word = c.toUpper :: rest := by
  cases word with
  | nil => cases h
  | cons c rest =>
    rw [isPlainWord, Bool.and_eq_true, List.all_eq_true] at h
    refine ⟨c, rest, rfl, h.1, h.2, ?_⟩
    rw [capitalizeChars, uppercase_of_isSmall (isSmall_of_isLower h.1)]
    rfl

theorem isUpper_toUpper {c : Char} (h : c.isLower = true) : c.toUpper.isUpper = true := by
  have hascii : ∀ n < 128, (Char.ofNat n).isLower = true →
      (Char.ofNat n).toUpper.isUpper = true := by decide +kernel
  exact forall_ascii (P := fun c => c.isLower = true → c.toUpper.isUpper = true) hascii
    (isAscii_of_isSmall (isSmall_of_isLower h)) h

theorem takeWhile_capitalized {words : List (List Char)}
    (h : ∀ word ∈ words, isPlainWord word = true) :
    (words.flatMap capitalizeChars).takeWhile (fun d => !d.isUpper) = [] := by
  cases words with
  | nil => rfl
  | cons word others =>
    rw [List.forall_mem_cons] at h
    obtain ⟨c, rest, -, hlower, -, hword⟩ := capitalize_of_isPlainWord h.1
    rw [List.flatMap_cons, hword, List.cons_append, List.takeWhile_cons_of_neg]
    simp [isUpper_toUpper hlower]

theorem eq_of_capitalized_eq {words words' : List (List Char)}
    (h : ∀ word ∈ words, isPlainWord word = true) (h' : ∀ word ∈ words', isPlainWord word = true)
    (hsame : words.flatMap capitalizeChars = words'.flatMap capitalizeChars) : words = words' := by
  induction words generalizing words' with
  | nil =>
    cases words' with
    | nil => rfl
    | cons word' others' =>
      rw [List.forall_mem_cons] at h'
      obtain ⟨c, rest, -, -, -, hword'⟩ := capitalize_of_isPlainWord h'.1
      rw [List.flatMap_cons, hword'] at hsame
      cases hsame
  | cons word others ih =>
    rw [List.forall_mem_cons] at h
    obtain ⟨c, rest, hsplit, hlower, hrest, hword⟩ := capitalize_of_isPlainWord h.1
    cases words' with
    | nil =>
      rw [List.flatMap_cons, hword] at hsame
      cases hsame
    | cons word' others' =>
      rw [List.forall_mem_cons] at h'
      obtain ⟨c', rest', hsplit', hlower', hrest', hword'⟩ := capitalize_of_isPlainWord h'.1
      rw [List.flatMap_cons, List.flatMap_cons, hword, hword', List.cons_append, List.cons_append,
        List.cons_eq_cons] at hsame
      obtain ⟨hfirst, hbehind⟩ := hsame
      -- the rest of the first word goes up to the next capital
      have hends := congrArg (List.takeWhile fun d => !d.isUpper) hbehind
      rw [List.takeWhile_append_of_pos hrest, List.takeWhile_append_of_pos hrest',
        takeWhile_capitalized h.2, takeWhile_capitalized h'.2, List.append_nil,
        List.append_nil] at hends
      rw [hends, List.append_cancel_left_eq] at hbehind
      have hletter := toUpper_inj (isSmall_of_isLower hlower) (isSmall_of_isLower hlower') hfirst
      rw [hsplit, hsplit', hletter, hends, ih h.2 h'.2 hbehind]

end ClientGen.Text
