import ClientGen.Text.Tag

/-!
# The form of normalized tags

A normalized tag is empty or is made of runs of lower case letters and digits with one hyphen
between two runs.
-/

namespace ClientGen.Text

def isTagChar (c : Char) : Bool := c.isLower || c.isDigit

/-- Runs of lower case letters and digits joined by single hyphens. No run is empty, and there is
at least one. -/
inductive DashedRuns : List Char → Prop where
  | last {c : Char} : isTagChar c → DashedRuns [c]
  | next {c : Char} {rest : List Char} : isTagChar c → DashedRuns rest → DashedRuns (c :: rest)
  | dash {c : Char} {rest : List Char} : isTagChar c → DashedRuns rest →
      DashedRuns (c :: '-' :: rest)

/-- A text in the form of a tag that is not empty. -/
def IsNormalTag (text : String) : Prop := DashedRuns text.toList

theorem DashedRuns.ne_nil {text : List Char} (h : DashedRuns text) : text ≠ [] := by
  cases h <;> exact List.cons_ne_nil _ _

theorem DashedRuns.of_all {text : List Char} (hne : text ≠ []) (h : text.all isTagChar) :
    DashedRuns text := by
  induction text with
  | nil => exact absurd rfl hne
  | cons c rest ih =>
    rw [List.all_cons, Bool.and_eq_true] at h
    cases rest with
    | nil => exact .last h.1
    | cons d rest => exact .next h.1 (ih (List.cons_ne_nil _ _) h.2)

theorem not_isNormalTag_empty : ¬ IsNormalTag "" := fun h => h.ne_nil rfl

theorem isTagChar_toLower {c : Char} (h : c.isAlphanum) : isTagChar c.toLower := by
  have hclasses : c.isUpper ∨ isTagChar c := by
    delta Char.isAlphanum Char.isAlpha at h
    rw [Bool.or_eq_true, Bool.or_eq_true] at h
    simp only [isTagChar, Bool.or_eq_true]
    rcases h with (hupper | hlower) | hdigit
    · exact .inl hupper
    · exact .inr (.inl hlower)
    · exact .inr (.inr hdigit)
  unfold Char.toLower
  split
  · rename_i hupper
    obtain ⟨hA, hZ⟩ := hupper
    have hval : (c.val + ('a'.val - 'A'.val)).toNat = c.val.toNat + 32 := by
      simp only [ge_iff_le, UInt32.le_iff_toNat_le, Char.reduceVal, UInt32.reduceToNat] at hA hZ
      rw [UInt32.toNat_add]
      simp only [Char.reduceVal, UInt32.reduceSub, UInt32.reduceToNat]
      omega
    simp only [ge_iff_le, UInt32.le_iff_toNat_le, Char.reduceVal, UInt32.reduceToNat] at hA hZ
    delta isTagChar Char.isLower Char.isDigit
    simp only [ge_iff_le, UInt32.le_iff_toNat_le, hval]
    simp only [Bool.or_eq_true, Bool.and_eq_true, decide_eq_true_eq, Char.reduceVal,
      UInt32.reduceToNat]
    omega
  · rename_i hother
    exact hclasses.resolve_left fun hupper => hother (of_decide_eq_true hupper)

/-- What may follow a character of a tag: nothing, more of its run, or a hyphen and more runs. -/
def Follows (text : List Char) : Prop :=
  text = [] ∨ DashedRuns text ∨ ∃ rest, text = '-' :: rest ∧ DashedRuns rest

theorem DashedRuns.cons {c : Char} {text : List Char} (hc : isTagChar c) (h : Follows text) :
    DashedRuns (c :: text) := by
  rcases h with rfl | h | ⟨rest, rfl, h⟩
  · exact .last hc
  · exact .next hc h
  · exact .dash hc h

theorem follows_normalizeFrom (gap : Bool) (text : List Char) :
    Follows (normalizeFrom true gap text) := by
  induction text generalizing gap with
  | nil => exact .inl rfl
  | cons c rest ih =>
    rw [normalizeFrom]
    split
    · rename_i hc
      have hruns : DashedRuns (c.toLower :: normalizeFrom true false rest) :=
        .cons (isTagChar_toLower hc) (ih false)
      -- a hyphen is due exactly where something was left out since the last character
      cases gap with
      | true => exact .inr (.inr ⟨_, rfl, hruns⟩)
      | false => exact .inr (.inl hruns)
    · exact ih true

theorem normalizeFrom_false (gap : Bool) (text : List Char) :
    normalizeFrom false gap text = [] ∨ DashedRuns (normalizeFrom false gap text) := by
  induction text generalizing gap with
  | nil => exact .inl rfl
  | cons c rest ih =>
    rw [normalizeFrom]
    split
    · rename_i hc
      exact .inr (.cons (isTagChar_toLower hc) (follows_normalizeFrom false rest))
    · exact ih true

theorem isNormalTag_normalizeTag {text : String} (h : normalizeTag text ≠ "") :
    IsNormalTag (normalizeTag text) := by
  rw [IsNormalTag, normalizeTag, String.toList_ofList]
  rcases normalizeFrom_false false text.toList with hnil | hruns
  · exact absurd (by rw [normalizeTag, hnil]) h
  · exact hruns

end ClientGen.Text
