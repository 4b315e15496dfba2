import ClientGen.Proofs.Text.CaseForms
import ClientGen.Text.MangledName

/-!
# Occurrences up to ASCII case

Folding ASCII case keeps the number of bytes of every character. So an offset at which a text
stands in the folded copy of another is a cut between two characters of the other text itself, and
a search by characters finds what a search by bytes in the folded copies finds.
-/

namespace ClientGen.Text
open ClientGen.Unicode

theorem toLower_of_not_isAscii {c : Char} (h : ¬isAscii c = true) : c.toLower = c := by
  rw [isAscii, decide_eq_true_eq] at h
  unfold Char.toLower
  apply dif_neg
  rintro ⟨-, hle⟩
  have hcode : c.toNat ≤ 90 := UInt32.le_iff_toNat_le.1 hle
  omega

theorem utf8Size_toLower (c : Char) : c.toLower.utf8Size = c.utf8Size := by
  have hascii : ∀ n < 128, (Char.ofNat n).toLower.utf8Size = (Char.ofNat n).utf8Size := by
    decide +kernel
  by_cases h : isAscii c = true
  · exact forall_ascii (P := fun c => c.toLower.utf8Size = c.utf8Size) hascii h
  · rw [toLower_of_not_isAscii h]

theorem toList_toLower (text : String) : text.toLower.toList = text.toList.map Char.toLower :=
  String.toList_map

theorem toLower_append (first second : String) :
    (first ++ second).toLower = first.toLower ++ second.toLower := by
  simp [← String.toList_inj, toList_toLower]

theorem utf8ByteSize_toLower (text : String) : text.toLower.utf8ByteSize = text.utf8ByteSize := by
  have hchars (chars : List Char) :
      (String.ofList (chars.map Char.toLower)).utf8ByteSize =
        (String.ofList chars).utf8ByteSize := by
    induction chars with
    | nil => rfl
    | cons c rest ih => simp [String.ofList_cons, utf8Size_toLower, ih]
  have h := hchars text.toList
  rwa [← toList_toLower, String.ofList_toList, String.ofList_toList] at h

/-- The bytes of `piece` stand in `text` from the offset on. -/
def BytesAt (piece text : String) (offset : Nat) : Prop :=
  text.toByteArray.extract offset (offset + piece.utf8ByteSize) = piece.toByteArray

theorem BytesAt.bounds {piece text : String} {offset : Nat} (h : BytesAt piece text offset)
    (hne : piece ≠ "") :
    offset < offset + piece.utf8ByteSize ∧ offset + piece.utf8ByteSize ≤ text.utf8ByteSize := by
  have hpos : piece.utf8ByteSize ≠ 0 := fun hzero => hne (String.utf8ByteSize_eq_zero_iff.1 hzero)
  have hbytes := congrArg ByteArray.size h
  rw [ByteArray.size_extract, String.size_toByteArray, String.size_toByteArray] at hbytes
  omega

theorem BytesAt.isValid {piece text : String} {offset : Nat} (h : BytesAt piece text offset)
    (hne : piece ≠ "") : (⟨offset⟩ : String.Pos.Raw).IsValid text := by
  obtain ⟨hlt, hend⟩ := h.bounds hne
  have hutf8 : (text.toByteArray.extract offset (offset + piece.utf8ByteSize)).IsValidUTF8 := by
    rw [h]
    exact piece.isValidUTF8
  have hcuts := (String.Pos.Raw.isValidUTF8_extract_iff ⟨offset⟩ ⟨offset + piece.utf8ByteSize⟩
    (String.Pos.Raw.le_iff.2 (Nat.le_of_lt hlt)) (String.Pos.Raw.le_iff.2 hend)).1 hutf8
  rcases hcuts with hsame | ⟨hfirst, -⟩
  · have hoffset : offset = offset + piece.utf8ByteSize := congrArg String.Pos.Raw.byteIdx hsame
    omega
  · exact hfirst

theorem bytesAt_append_left {before piece text : String} :
    BytesAt piece (before ++ text) before.utf8ByteSize ↔ BytesAt piece text 0 := by
  have hshift := ByteArray.extract_append_size_add (a := before.toByteArray)
    (b := text.toByteArray) (i := 0) (j := piece.utf8ByteSize)
  rw [Nat.add_zero, String.size_toByteArray] at hshift
  rw [BytesAt, BytesAt, String.toByteArray_append, hshift, Nat.zero_add]

theorem bytesAt_zero_iff {piece text : String} :
    BytesAt piece text 0 ↔ ∃ after, text = piece ++ after := by
  rw [BytesAt, Nat.zero_add]
  constructor
  · intro h
    have hsize := congrArg ByteArray.size h
    rw [ByteArray.size_extract, String.size_toByteArray, String.size_toByteArray] at hsize
    have htext : text.toByteArray =
        piece.toByteArray ++ text.toByteArray.extract piece.utf8ByteSize text.utf8ByteSize := by
      rw [← h, ← ByteArray.extract_eq_extract_append_extract _ (Nat.zero_le _) (by omega),
        ← String.size_toByteArray, ByteArray.extract_zero_size]
    rw [← String.utf8Encode_toList, ← String.utf8Encode_toList] at htext
    obtain ⟨after, hafter⟩ := List.isPrefix_of_utf8Encode_append_eq_utf8Encode _ htext.symm
    refine ⟨String.ofList after, ?_⟩
    rw [← String.toList_inj, String.toList_append, String.toList_ofList, hafter]
  · rintro ⟨after, rfl⟩
    rw [String.toByteArray_append]
    exact ByteArray.extract_append_eq_left rfl

theorem bytesAt_iff {piece text : String} {offset : Nat} (hne : piece ≠ "") :
    BytesAt piece text offset ↔
      ∃ before after, text = before ++ piece ++ after ∧ before.utf8ByteSize = offset := by
  constructor
  · intro h
    obtain ⟨before, rest, rfl, hoffset⟩ :=
      String.Pos.Raw.isValid_iff_exists_append.1 (h.isValid hne)
    obtain rfl : offset = before.utf8ByteSize := congrArg String.Pos.Raw.byteIdx hoffset
    obtain ⟨after, rfl⟩ := bytesAt_zero_iff.1 (bytesAt_append_left.1 h)
    exact ⟨before, after, String.append_assoc.symm, rfl⟩
  · rintro ⟨before, after, rfl, rfl⟩
    rw [String.append_assoc]
    exact bytesAt_append_left.2 (bytesAt_zero_iff.2 ⟨after, rfl⟩)

/-- A copy of `marker`, in whatever case of its ASCII letters, stands in `text` between `before`
and `after`. -/
def StandsBetween (marker text before after : String) : Prop :=
  ∃ found : String, found.toLower = marker.toLower ∧ text = before ++ found ++ after

theorem toLower_eq_append_iff {text before piece after : String} :
    text.toLower = before ++ piece ++ after ↔
      ∃ first found rest : String, text = first ++ found ++ rest ∧ first.toLower = before ∧
        found.toLower = piece ∧ rest.toLower = after := by
  constructor
  · intro h
    rw [← String.toList_inj, toList_toLower, String.toList_append, String.toList_append,
      List.map_eq_append_iff] at h
    obtain ⟨front, rest, htext, hfront, hrest⟩ := h
    obtain ⟨first, found, rfl, hfirst, hfound⟩ := List.map_eq_append_iff.1 hfront
    refine ⟨String.ofList first, String.ofList found, String.ofList rest, ?_, ?_, ?_, ?_⟩ <;>
      simp [← String.toList_inj, toList_toLower, htext, hfirst, hfound, hrest]
  · rintro ⟨first, found, rest, rfl, rfl, rfl, rfl⟩
    rw [toLower_append, toLower_append]

/-- A copy of `marker`, in whatever case of its ASCII letters, stands in `text`. -/
def Occurs (marker text : String) : Prop :=
  ∃ before after, StandsBetween marker text before after

/-- The bytes of a folded text stand in the folded copy of another exactly where the text stands
in the other up to ASCII case. -/
theorem bytesAt_toLower_iff {marker text : String} {offset : Nat} (hne : marker ≠ "") :
    BytesAt marker.toLower text.toLower offset ↔
      ∃ before after, StandsBetween marker text before after ∧ before.utf8ByteSize = offset := by
  have hfolded : marker.toLower ≠ "" := by
    rwa [ne_eq, ← String.utf8ByteSize_eq_zero_iff, utf8ByteSize_toLower,
      String.utf8ByteSize_eq_zero_iff]
  rw [bytesAt_iff hfolded]
  constructor
  · rintro ⟨before, after, htext, hoffset⟩
    obtain ⟨first, found, rest, rfl, rfl, hfound, -⟩ := toLower_eq_append_iff.1 htext
    rw [utf8ByteSize_toLower] at hoffset
    exact ⟨first, rest, ⟨found, hfound, rfl⟩, hoffset⟩
  · rintro ⟨before, after, ⟨found, hfound, rfl⟩, hoffset⟩
    refine ⟨before.toLower, after.toLower, ?_, (utf8ByteSize_toLower before).trans hoffset⟩
    exact toLower_eq_append_iff.2 ⟨before, found, after, rfl, rfl, hfound, rfl⟩

theorem StandsBetween.slices {marker text before after : String}
    (h : StandsBetween marker text before after) :
    text.toByteArray.extract 0 before.utf8ByteSize = before.toByteArray ∧
      text.toByteArray.extract (before.utf8ByteSize + marker.utf8ByteSize) text.utf8ByteSize =
        after.toByteArray := by
  obtain ⟨found, hfound, rfl⟩ := h
  have hsize : found.utf8ByteSize = marker.utf8ByteSize := by
    rw [← utf8ByteSize_toLower found, hfound, utf8ByteSize_toLower]
  constructor
  · rw [String.append_assoc, String.toByteArray_append]
    exact ByteArray.extract_append_eq_left rfl
  · rw [String.toByteArray_append, ← hsize]
    apply ByteArray.extract_append_eq_right <;> simp

theorem standsBetween_iff {marker text before after : String} :
    StandsBetween marker text before after ↔
      ∃ found, found.map Char.toLower = marker.toLower.toList ∧
        text.toList = before.toList ++ found ++ after.toList := by
  constructor
  · rintro ⟨found, hfound, rfl⟩
    exact ⟨found.toList, by rw [← toList_toLower, hfound], by simp⟩
  · rintro ⟨found, hfound, htext⟩
    refine ⟨String.ofList found, ?_, ?_⟩
    · rw [← String.toList_inj, toList_toLower, String.toList_ofList, hfound]
    · simp [← String.toList_inj, htext]

/-- The first occurrence of `marker` in `text` stands between `before` and `after`. -/
structure FirstBetween (marker text before after : String) : Prop where
  stands : StandsBetween marker text before after
  first : ∀ earlier rest, StandsBetween marker text earlier rest →
    before.utf8ByteSize ≤ earlier.utf8ByteSize

theorem FirstBetween.unique {marker text before after before' after' : String}
    (h : FirstBetween marker text before after) (h' : FirstBetween marker text before' after') :
    before = before' ∧ after = after' := by
  have hsize : before.utf8ByteSize = before'.utf8ByteSize :=
    Nat.le_antisymm (h.first _ _ h'.stands) (h'.first _ _ h.stands)
  obtain ⟨hbefore, hafter⟩ := h.stands.slices
  obtain ⟨hbefore', hafter'⟩ := h'.stands.slices
  rw [hsize] at hbefore hafter
  exact ⟨String.toByteArray_inj.1 (hbefore.symm.trans hbefore'),
    String.toByteArray_inj.1 (hafter.symm.trans hafter')⟩

theorem afterMarker?_eq_some_iff {marker text after : List Char} :
    afterMarker? marker text = some after ↔
      ∃ found, found.map Char.toLower = marker ∧ text = found ++ after := by
  induction marker generalizing text with
  | nil => simp [afterMarker?]
  | cons m marker ih =>
    cases text with
    | nil => simp [afterMarker?]
    | cons c text =>
      rw [afterMarker?, Option.ite_none_right_eq_some, ih, beq_iff_eq]
      constructor
      · rintro ⟨rfl, found, rfl, rfl⟩
        exact ⟨c :: found, rfl, rfl⟩
      · rintro ⟨found, hfound, htext⟩
        obtain ⟨d, found, rfl, rfl, hrest⟩ := List.map_eq_cons_iff.1 hfound
        injection htext with hhead htail
        exact ⟨by rw [hhead], found, hrest, htail⟩

theorem ne_append_of_afterMarker? {marker text found after : List Char}
    (h : afterMarker? marker text = none) (hfound : found.map Char.toLower = marker) :
    text ≠ found ++ after := by
  intro htext
  rw [afterMarker?_eq_some_iff.2 ⟨found, hfound, htext⟩] at h
  cases h

/-- The search stops at the first occurrence: what is before it begins what is before any other. -/
theorem cutAtMarker?_eq_some {marker text before after : List Char}
    (h : cutAtMarker? marker text = some (before, after)) :
    (∃ found, found.map Char.toLower = marker ∧ text = before ++ found ++ after) ∧
      ∀ earlier found rest, found.map Char.toLower = marker →
        text = earlier ++ found ++ rest → before <+: earlier := by
  induction text generalizing before after with
  | nil =>
    obtain ⟨rest, hrest, hcut⟩ := Option.map_eq_some_iff.1 h
    obtain ⟨rfl, rfl⟩ := Prod.mk.inj hcut
    exact ⟨afterMarker?_eq_some_iff.1 hrest, fun _ _ _ _ _ => List.nil_prefix⟩
  | cons c text ih =>
    rw [cutAtMarker?] at h
    split at h
    · rename_i hrest
      obtain ⟨rfl, rfl⟩ := Prod.mk.inj (Option.some.inj h)
      exact ⟨afterMarker?_eq_some_iff.1 hrest, fun _ _ _ _ _ => List.nil_prefix⟩
    · rename_i hnone
      obtain ⟨⟨front, back⟩, hcut, hpair⟩ := Option.map_eq_some_iff.1 h
      obtain ⟨rfl, rfl⟩ := Prod.mk.inj hpair
      obtain ⟨⟨found, hfound, rfl⟩, hfirst⟩ := ih hcut
      refine ⟨⟨found, hfound, rfl⟩, fun earlier other rest hother htext => ?_⟩
      cases earlier with
      | nil => exact absurd htext (ne_append_of_afterMarker? hnone hother)
      | cons d earlier =>
        injection htext with hhead htail
        rw [hhead]
        exact List.cons_prefix_cons.2 ⟨rfl, hfirst earlier other rest hother htail⟩

theorem cutAtMarker?_eq_none {marker text : List Char} (h : cutAtMarker? marker text = none)
    {before found after : List Char} (hfound : found.map Char.toLower = marker) :
    text ≠ before ++ found ++ after := by
  induction text generalizing before with
  | nil =>
    intro htext
    obtain ⟨hbefore, -⟩ := List.append_eq_nil_iff.1 htext.symm
    obtain ⟨rfl, -⟩ := List.append_eq_nil_iff.1 hbefore
    exact ne_append_of_afterMarker? (Option.map_eq_none_iff.1 h) hfound htext
  | cons c text ih =>
    rw [cutAtMarker?] at h
    split at h
    · cases h
    · rename_i hnone
      intro htext
      cases before with
      | nil => exact ne_append_of_afterMarker? hnone hfound htext
      | cons d before =>
        injection htext with hhead htail
        exact ih (Option.map_eq_none_iff.1 h) htail

section
variable {marker text : String}

theorem firstBetween_of_cutAtMarker? {before after : List Char}
    (h : cutAtMarker? marker.toLower.toList text.toList = some (before, after)) :
    FirstBetween marker text (String.ofList before) (String.ofList after) := by
  obtain ⟨hstands, hfirst⟩ := cutAtMarker?_eq_some h
  refine ⟨standsBetween_iff.2 (by simpa using hstands), fun earlier rest hearlier => ?_⟩
  obtain ⟨found, hfound, htext⟩ := standsBetween_iff.1 hearlier
  obtain ⟨more, hmore⟩ := hfirst earlier.toList found rest.toList hfound htext
  have hbefore : String.ofList before ++ String.ofList more = earlier := by
    rw [← String.toList_inj, ← hmore]
    simp
  rw [← hbefore, String.utf8ByteSize_append]
  omega

theorem cutAtMarker?_eq_none_iff :
    cutAtMarker? marker.toLower.toList text.toList = none ↔ ¬Occurs marker text := by
  constructor
  · rintro h ⟨before, after, hstands⟩
    obtain ⟨found, hfound, htext⟩ := standsBetween_iff.1 hstands
    exact cutAtMarker?_eq_none h hfound htext
  · intro h
    cases hcut : cutAtMarker? marker.toLower.toList text.toList with
    | none => rfl
    | some parts => exact absurd ⟨_, _, (firstBetween_of_cutAtMarker? hcut).stands⟩ h

theorem Occurs.exists_firstBetween (h : Occurs marker text) :
    ∃ before after, FirstBetween marker text before after := by
  cases hcut : cutAtMarker? marker.toLower.toList text.toList with
  | none => exact absurd h (cutAtMarker?_eq_none_iff.1 hcut)
  | some parts => exact ⟨_, _, firstBetween_of_cutAtMarker? hcut⟩

/-- The search cuts a text at the first occurrence. -/
theorem cutAtMarker?_eq_some_iff {before after : String} :
    cutAtMarker? marker.toLower.toList text.toList = some (before.toList, after.toList) ↔
      FirstBetween marker text before after := by
  constructor
  · intro h
    simpa using firstBetween_of_cutAtMarker? h
  · intro h
    cases hcut : cutAtMarker? marker.toLower.toList text.toList with
    | none => exact absurd ⟨before, after, h.stands⟩ (cutAtMarker?_eq_none_iff.1 hcut)
    | some parts =>
      obtain ⟨rfl, rfl⟩ := h.unique (firstBetween_of_cutAtMarker? hcut)
      simp

end

end ClientGen.Text
