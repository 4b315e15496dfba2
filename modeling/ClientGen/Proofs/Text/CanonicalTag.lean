import ClientGen.Proofs.Text.Capitals
import ClientGen.Proofs.Text.TagForm

/-!
# Normalized tags are canonical

Normalizing a tag keeps its letters and digits, in lower case and in their order, and changes
nothing where the tag has the form of a normalized one. So a tag that is normalized twice is
normalized once.
-/

namespace ClientGen.Text
open ClientGen.Unicode

theorem isAscii_of_isTagChar {c : Char} (h : isTagChar c = true) : isAscii c = true :=
  isAscii_of_isSmall h

theorem toLower_of_isTagChar {c : Char} (h : isTagChar c = true) : c.toLower = c := by
  have htag : ∀ n < 128, isTagChar (Char.ofNat n) = true →
      (Char.ofNat n).toLower = Char.ofNat n := by decide +kernel
  exact forall_ascii (P := fun c => isTagChar c = true → c.toLower = c) htag
    (isAscii_of_isTagChar h) h

theorem isAlphanum_of_isTagChar {c : Char} (h : isTagChar c = true) : c.isAlphanum = true := by
  have htag : ∀ n < 128, isTagChar (Char.ofNat n) = true →
      (Char.ofNat n).isAlphanum = true := by decide +kernel
  exact forall_ascii (P := fun c => isTagChar c = true → c.isAlphanum = true) htag
    (isAscii_of_isTagChar h) h

theorem ne_hyphen_of_isTagChar {c : Char} (h : isTagChar c = true) : c ≠ '-' := by
  rintro rfl
  exact absurd h (by decide)

/-- Between the hyphens stand the letters and digits in lower case. -/
theorem filter_normalizeFrom (started gap : Bool) (text : List Char) :
    (normalizeFrom started gap text).filter (· ≠ '-') =
      (text.filter Char.isAlphanum).map Char.toLower := by
  induction text generalizing started gap with
  | nil => rfl
  | cons c rest ih =>
    rw [normalizeFrom]
    by_cases hc : c.isAlphanum = true
    · have hkept : c.toLower ≠ '-' := ne_hyphen_of_isTagChar (isTagChar_toLower hc)
      rw [if_pos hc, List.filter_append, ih, List.filter_cons_of_pos hc, List.map_cons]
      split <;> simp [hkept]
    · rw [if_neg hc, ih, List.filter_cons_of_neg hc]

theorem DashedRuns.filter_ne_nil {text : List Char} (h : DashedRuns text) :
    text.filter (· ≠ '-') ≠ [] := by
  cases h with
  | last hc => simp [ne_hyphen_of_isTagChar hc]
  | next hc _ => simp [ne_hyphen_of_isTagChar hc]
  | dash hc _ => simp [ne_hyphen_of_isTagChar hc]

theorem normalizeTag_eq_empty_iff {tag : String} :
    normalizeTag tag = "" ↔ ∀ c ∈ tag.toList, c.isAlphanum = false := by
  have hkept := filter_normalizeFrom false false tag.toList
  have hempty : normalizeTag tag = "" ↔ normalizeFrom false false tag.toList = [] := by
    simp [normalizeTag, ← String.toList_inj]
  rw [hempty]
  constructor
  · intro hnil
    rw [hnil, List.filter_nil, eq_comm, List.map_eq_nil_iff, List.filter_eq_nil_iff] at hkept
    simpa using hkept
  · intro hnone
    have hfilter : tag.toList.filter Char.isAlphanum = [] :=
      List.filter_eq_nil_iff.2 fun c hc => by simp [hnone c hc]
    rw [hfilter, List.map_nil] at hkept
    exact (normalizeFrom_false false tag.toList).resolve_right fun hruns =>
      hruns.filter_ne_nil hkept

theorem normalizeFrom_tagChar {c : Char} (h : isTagChar c = true) (started gap : Bool)
    (rest : List Char) : normalizeFrom started gap (c :: rest) =
      (if started && gap then ['-', c] else [c]) ++ normalizeFrom true false rest := by
  rw [normalizeFrom, if_pos (isAlphanum_of_isTagChar h), toLower_of_isTagChar h]

theorem normalizeFrom_hyphen (started gap : Bool) (rest : List Char) :
    normalizeFrom started gap ('-' :: rest) = normalizeFrom started true rest := by
  have hhyphen : ('-' : Char).isAlphanum = false := by decide
  rw [normalizeFrom, if_neg (by simp [hhyphen])]

/-- Runs joined by hyphens stay as they are, behind one more hyphen where one is due. -/
theorem normalizeFrom_dashedRuns {text : List Char} (h : DashedRuns text) (started gap : Bool) :
    normalizeFrom started gap text = (if started && gap then ['-'] else []) ++ text := by
  induction h generalizing started gap with
  | last hc =>
    rw [normalizeFrom_tagChar hc]
    split <;> rfl
  | next hc _ ih =>
    have hrest := ih true false
    rw [normalizeFrom_tagChar hc, hrest]
    split <;> rfl
  | dash hc _ ih =>
    have hrest := ih true true
    rw [normalizeFrom_tagChar hc, normalizeFrom_hyphen, hrest]
    split <;> rfl

theorem normalizeTag_of_isNormalTag {tag : String} (h : IsNormalTag tag) :
    normalizeTag tag = tag := by
  have hchars := normalizeFrom_dashedRuns h false false
  rw [normalizeTag, hchars]
  exact String.ofList_toList

theorem eq_empty_or_isNormalTag (tag : String) :
    normalizeTag tag = "" ∨ IsNormalTag (normalizeTag tag) := by
  by_cases h : normalizeTag tag = ""
  · exact .inl h
  · exact .inr (isNormalTag_normalizeTag h)

/-- The normalized form of a tag is empty or has the form of a tag, has the letters and digits of
the tag in lower case between its hyphens, is its own normalized form, and is empty just for a tag
without letters and digits. -/
theorem normalized_tag_canonical (tag : String) :
    (normalizeTag tag = "" ∨ IsNormalTag (normalizeTag tag)) ∧
    (normalizeTag tag).toList.filter (· ≠ '-') =
      (tag.toList.filter Char.isAlphanum).map Char.toLower ∧
    normalizeTag (normalizeTag tag) = normalizeTag tag ∧
    (normalizeTag tag = "" ↔ ∀ c ∈ tag.toList, c.isAlphanum = false) := by
  refine ⟨eq_empty_or_isNormalTag tag, ?_, ?_, normalizeTag_eq_empty_iff⟩
  · rw [normalizeTag, String.toList_ofList]
    exact filter_normalizeFrom false false tag.toList
  · rcases eq_empty_or_isNormalTag tag with hempty | hnormal
    · rw [hempty]
      rfl
    · exact normalizeTag_of_isNormalTag hnormal

end ClientGen.Text
