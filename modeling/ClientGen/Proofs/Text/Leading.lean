import ClientGen.Proofs.Text.Capitals
import ClientGen.Proofs.Text.Pieces
import ClientGen.Text.Identifier

/-!
# How words run together start

The words of a text are its letters and numbers in lower case, in their order. So the first letter
or digit of an ASCII text is what its words start with when they are run together, and these are an
identifier exactly if it is a letter.
-/

namespace ClientGen.Text
open ClientGen.Unicode

-- What is said of a character that may be there is decided on it, not on all characters there are.
instance decidableForallMemOptionChar {P : Char → Prop} [DecidablePred P] (c? : Option Char) :
    Decidable (∀ c ∈ c?, P c) :=
  Option.decidableForallMem c?

instance decidableExistsMemOptionChar {P : Char → Prop} [DecidablePred P] (c? : Option Char) :
    Decidable (∃ c ∈ c?, P c) :=
  Option.decidableExistsMem c?

/-- A letter or an underscore, then letters, digits and underscores, all of them ASCII. -/
def isIdentifier : List Char → Bool
  | [] => false
  | c :: rest => (c.isAlpha || c == '_') && rest.all isNameChar

theorem isNameChar_of_isAlphanum {c : Char} (h : c.isAlphanum = true) : isNameChar c = true := by
  rw [isNameChar, h, Bool.true_or]

theorem isAscii_of_isAlphanum {c : Char} (h : c.isAlphanum = true) : isAscii c = true := by
  have hclass : c.isAlphanum = (c.isUpper || c.isLower || c.isDigit) := rfl
  have hupper : c.isUpper = decide ('A'.val ≤ c.val ∧ c.val ≤ 'Z'.val) := rfl
  have hlast : 'Z'.val.toNat = 90 := rfl
  have hcode : c.toNat = c.val.toNat := rfl
  rw [hclass, Bool.or_assoc, Bool.or_eq_true] at h
  rcases h with hc | hsmall
  · rw [hupper, decide_eq_true_eq, UInt32.le_iff_toNat_le, UInt32.le_iff_toNat_le] at hc
    exact decide_eq_true (by omega)
  · exact isAscii_of_isSmall hsmall

theorem isAscii_of_isNameChar {c : Char} (h : isNameChar c = true) : isAscii c = true := by
  rw [isNameChar, Bool.or_eq_true, beq_iff_eq] at h
  rcases h with halphanum | rfl
  · exact isAscii_of_isAlphanum halphanum
  · decide

theorem isDigit_eq_false_iff {c : Char} (h : c.isAlphanum = true) :
    c.isDigit = false ↔ c.isAlpha = true := by
  have hascii : ∀ n < 128, (Char.ofNat n).isAlphanum = true →
      ((Char.ofNat n).isDigit = false ↔ (Char.ofNat n).isAlpha = true) := by
    decide +kernel
  exact forall_ascii (P := fun c => c.isAlphanum = true → (c.isDigit = false ↔ c.isAlpha = true))
    hascii (isAscii_of_isAlphanum h) h

theorem isIdentifier_iff {name : List Char} (h : ∀ c ∈ name, c.isAlphanum = true) :
    isIdentifier name = true ↔ ∃ c ∈ name.head?, c.isDigit = false := by
  cases name with
  | nil => simp [isIdentifier]
  | cons c rest =>
    rw [List.forall_mem_cons] at h
    have hrest : rest.all isNameChar = true :=
      List.all_eq_true.2 fun d hd => isNameChar_of_isAlphanum (h.2 d hd)
    have hunderscore : (c == '_') = false := beq_false_of_ne (ne_of_isAlphanum h.1 (by decide))
    simp [isIdentifier, hrest, hunderscore, isDigit_eq_false_iff h.1]

theorem isIdentifier_append {name behind : List Char} (hname : name ≠ [])
    (h : ∀ c ∈ behind, isNameChar c = true) :
    isIdentifier (name ++ behind) = isIdentifier name := by
  cases name with
  | nil => exact absurd rfl hname
  | cons c rest =>
    have hbehind : behind.all isNameChar = true := List.all_eq_true.2 h
    simp only [isIdentifier, List.cons_append, List.all_append, hbehind, Bool.and_true]

theorem flatten_finishWord (word : List Char) (words : List (List Char)) :
    (finishWord word words).flatten = word ++ words.flatten := by
  unfold finishWord
  split
  · rename_i hempty
    rw [List.isEmpty_iff.1 hempty, List.nil_append]
  · rw [List.flatten_cons]

theorem flatten_splitFrom (word : List Char) (before : Option Char) (text : List Char) :
    (splitFrom word before text).flatten =
      word ++ (text.filter isAlphanumeric).flatMap lowercase := by
  induction text generalizing word before with
  | nil => rw [splitFrom, flatten_finishWord]; rfl
  | cons c rest ih =>
    rw [splitFrom]
    by_cases hc : isAlphanumeric c = true
    · rw [if_neg (by simp [hc]), List.filter_cons_of_pos hc, List.flatMap_cons]
      split
      · rw [flatten_finishWord, ih]
      · rw [ih, List.append_assoc]
    · rw [if_pos (by simp [hc]), List.filter_cons_of_neg hc, flatten_finishWord, ih,
        List.nil_append]

theorem flatten_splitWords (text : List Char) :
    (splitWords text).flatten = (text.filter isAlphanumeric).flatMap lowercase := by
  rw [splitWords, flatten_splitFrom, List.nil_append]

theorem flatten_splitWords_of_ascii {text : List Char} (h : ∀ c ∈ text, isAscii c = true) :
    (splitWords text).flatten = (text.filter Char.isAlphanum).map Char.toLower := by
  have hclass : text.filter isAlphanumeric = text.filter Char.isAlphanum :=
    List.filter_congr fun c hc => by rw [isAlphanumeric, if_pos (h c hc)]
  have hlower : ∀ c ∈ text.filter Char.isAlphanum, lowercase c = [c.toLower] := fun c hc => by
    rw [lowercase, if_pos (h c (List.mem_filter.1 hc).1)]
  rw [flatten_splitWords, hclass, List.flatMap_congr hlower]
  exact List.flatMap_pure_eq_map _ _

/-- The first ASCII letter or digit of a text. -/
def leading? (text : String) : Option Char := text.toList.find? Char.isAlphanum

theorem head?_flatten_splitWords {text : String} (h : IsAsciiText text) :
    (splitWords text.toList).flatten.head? = (leading? text).map Char.toLower := by
  rw [flatten_splitWords_of_ascii h, List.head?_map, List.head?_filter, leading?]

theorem head?_camelCase {text : String} (h : IsAsciiText text) :
    (camelCase text).toList.head? = (leading? text).map Char.toLower := by
  rw [← head?_flatten_splitWords h, camelCase]
  cases hwords : splitWords text.toList with
  | nil => rfl
  | cons first others =>
    have hmem : first ∈ splitWords text.toList := hwords ▸ List.mem_cons_self ..
    obtain ⟨c, rest, rfl⟩ := List.exists_cons_of_ne_nil (isSmall_of_mem_splitWords h hmem).1
    simp

theorem head?_pascalCase {text : String} (h : IsAsciiText text) :
    (pascalCase text).toList.head? = (leading? text).map Char.toUpper := by
  have hhead : (pascalCase text).toList.head? =
      ((splitWords text.toList).flatten.head?).map Char.toUpper := by
    rw [pascalCase, String.toList_ofList]
    cases hwords : splitWords text.toList with
    | nil => rfl
    | cons first others =>
      have hmem : first ∈ splitWords text.toList := hwords ▸ List.mem_cons_self ..
      obtain ⟨hne, hsmall⟩ := isSmall_of_mem_splitWords h hmem
      obtain ⟨c, rest, rfl⟩ := List.exists_cons_of_ne_nil hne
      have hc := hsmall c (List.mem_cons_self ..)
      simp [capitalizeChars, uppercase_of_isSmall hc]
  rw [hhead, head?_flatten_splitWords h, Option.map_map]
  exact Option.map_congr fun c hc => toUpper_toLower (h c (List.mem_of_find?_eq_some hc))

theorem isDigit_toLower {c : Char} (h : isAscii c = true) : c.toLower.isDigit = c.isDigit := by
  have hlower : ∀ n < 128, (Char.ofNat n).toLower.isDigit = (Char.ofNat n).isDigit := by
    decide +kernel
  exact forall_ascii (P := fun c => c.toLower.isDigit = c.isDigit) hlower h

theorem isDigit_toUpper {c : Char} (h : isAscii c = true) : c.toUpper.isDigit = c.isDigit := by
  have hupper : ∀ n < 128, (Char.ofNat n).toUpper.isDigit = (Char.ofNat n).isDigit := by
    decide +kernel
  exact forall_ascii (P := fun c => c.toUpper.isDigit = c.isDigit) hupper h

theorem isAscii_of_mem_leading? {text : String} {c : Char} (h : c ∈ leading? text) :
    isAscii c = true :=
  isAscii_of_isAlphanum (List.find?_some h)

theorem exists_letter_iff {c? d? : Option Char} (h : c?.map Char.isDigit = d?.map Char.isDigit) :
    (∃ c ∈ c?, c.isDigit = false) ↔ ∃ d ∈ d?, d.isDigit = false := by
  have hmap (e? : Option Char) : e?.map Char.isDigit = some false ↔ ∃ e ∈ e?, e.isDigit = false :=
    Option.map_eq_some_iff
  rw [← hmap, ← hmap, h]

theorem isDigit_head?_camelCase {text : String} (h : IsAsciiText text) :
    (camelCase text).toList.head?.map Char.isDigit = (leading? text).map Char.isDigit := by
  rw [head?_camelCase h, Option.map_map]
  exact Option.map_congr fun c hc => isDigit_toLower (isAscii_of_mem_leading? hc)

theorem isDigit_head?_pascalCase {text : String} (h : IsAsciiText text) :
    (pascalCase text).toList.head?.map Char.isDigit = (leading? text).map Char.isDigit := by
  rw [head?_pascalCase h, Option.map_map]
  exact Option.map_congr fun c hc => isDigit_toUpper (isAscii_of_mem_leading? hc)

theorem leading?_intercalate {separator : String}
    (hseparator : ∀ c ∈ separator.toList, c.isAlphanum = false) (texts : List String) :
    leading? (String.intercalate separator texts) = texts.findSome? leading? := by
  have hnone : separator.toList.filterMap (Option.guard Char.isAlphanum) = [] :=
    List.filterMap_eq_nil_iff.2 fun c hc => by simp [hseparator c hc]
  have hfilter (chars : List Char) :
      (chars.filterMap (Option.guard Char.isAlphanum)).head? = chars.find? Char.isAlphanum := by
    rw [List.filterMap_eq_filter, List.head?_filter]
  rw [leading?, ← hfilter, String.toList_intercalate, filterMap_intercalate hnone,
    List.head?_flatMap, List.findSome?_map]
  congr 1
  funext text
  exact hfilter text.toList

theorem isAlphanum_lowercase {c : Char} (hascii : isAscii c = true)
    (h : isAlphanumeric c = true) : ∀ d ∈ lowercase c, d.isAlphanum = true := by
  have hlower : ∀ n < 128, isAlphanumeric (Char.ofNat n) = true →
      (Char.ofNat n).toLower.isAlphanum = true := by
    decide +kernel
  rw [lowercase, if_pos hascii, List.forall_mem_singleton]
  exact forall_ascii (P := fun c => isAlphanumeric c = true → c.toLower.isAlphanum = true) hlower
    hascii h

theorem isAlphanum_uppercase {c : Char} (h : c.isAlphanum = true) :
    ∀ d ∈ uppercase c, d.isAlphanum = true := by
  have hupper : ∀ n < 128, (Char.ofNat n).isAlphanum = true →
      (Char.ofNat n).toUpper.isAlphanum = true := by
    decide +kernel
  have hascii := isAscii_of_isAlphanum h
  rw [uppercase, if_pos hascii, List.forall_mem_singleton]
  exact forall_ascii (P := fun c => c.isAlphanum = true → c.toUpper.isAlphanum = true) hupper
    hascii h

theorem isAlphanum_of_mem_pascalCase {text : String} (h : IsAsciiText text) :
    ∀ c ∈ (pascalCase text).toList, c.isAlphanum = true :=
  forall_mem_pascalCase (fun c hc => isAlphanum_lowercase (h c hc)) fun _ => isAlphanum_uppercase

theorem isAlphanum_of_mem_camelCase {text : String} (h : IsAsciiText text) :
    ∀ c ∈ (camelCase text).toList, c.isAlphanum = true :=
  forall_mem_camelCase (fun c hc => isAlphanum_lowercase (h c hc)) fun _ => isAlphanum_uppercase

end ClientGen.Text
