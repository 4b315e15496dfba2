import ClientGen.Proofs.Text.Capitals
import ClientGen.Proofs.Text.Occurrence
import ClientGen.Proofs.Text.Pieces

/-!
# Mangled names

A name loses the base path, and the pieces up to the last HTTP verb after it, where the base path
stands in it exactly once. What stays is cut out of the name as it is.
-/

namespace ClientGen.Text
open ClientGen.Unicode

/-- An HTTP verb in any case. -/
def IsHttpVerb (piece : String) : Prop := lowercaseText piece ∈ verbs

instance (piece : String) : Decidable (IsHttpVerb piece) :=
  inferInstanceAs (Decidable (lowercaseText piece ∈ verbs))

def isVerbCode (code : Nat) : Bool := verbs.any fun verb => verb.toList.any (·.toNat == code)

theorem isVerbCode_of_mem {verb : String} {c : Char} (hverb : verb ∈ verbs)
    (hc : c ∈ verb.toList) : isVerbCode c.toNat = true :=
  List.any_eq_true.2 ⟨verb, hverb, List.any_eq_true.2 ⟨c, hc, beq_self_eq_true _⟩⟩

theorem isVerbCode_of_le {n : Nat} (h : 123 ≤ n) : isVerbCode n = false := by
  have hletters : ∀ verb ∈ verbs, ∀ c ∈ verb.toList, c.toNat < 123 := by decide +kernel
  simp only [isVerbCode, List.any_eq_false]
  intro verb hverb hany
  obtain ⟨c, hc, hcode⟩ := List.any_eq_true.1 hany
  have hlt := hletters verb hverb c hc
  rw [beq_iff_eq] at hcode
  omega

theorem isVerbCode_toNat_ofNat {n : Nat} (h : isVerbCode n = false) :
    isVerbCode (Char.ofNat n).toNat = false := by
  by_cases hvalid : n.isValidChar
  · rw [Char.ofNat, dif_pos hvalid]
    exact h
  · rw [Char.ofNat, dif_neg hvalid]
    decide +kernel

/-- The lower case form of a character beyond ASCII has no letter of an HTTP verb: of the letters
below, it can only be `k`, the form of the Kelvin sign, or the `i` of `İ`. -/
theorem isVerbCode_of_mem_lowercase {c d : Char} (hc : ¬isAscii c = true)
    (hd : d ∈ lowercase c) : isVerbCode d.toNat = false := by
  have hforms : ∀ form ∈ longLowercase, ∀ code ∈ form.2, isVerbCode code = false := by
    decide +kernel
  have hshifts : ∀ run ∈ lowercaseShifts,
      123 ≤ run.2.2.2 ∨ run.1 = run.2.1 ∧ isVerbCode run.2.2.2 = false := by decide +kernel
  rw [lowercase, if_neg hc] at hd
  split at hd
  · rename_i form hform
    obtain ⟨code, hcode, rfl⟩ := List.mem_map.1 hd
    exact isVerbCode_toNat_ofNat (hforms _ (Dict.mem_of_lookup hform) code hcode)
  · rw [List.mem_singleton.1 hd]
    have hcode : isVerbCode c.toNat = false := by
      rw [isAscii, decide_eq_true_eq] at hc
      exact isVerbCode_of_le (by omega)
    exact isVerbCode_toNat_ofNat (forall_apply (fun _ => isVerbCode_of_le) hshifts hcode)

theorem lowercase_ne_nil (c : Char) : lowercase c ≠ [] := by
  have hforms : ∀ form ∈ longLowercase, form.2 ≠ [] := by decide
  unfold lowercase
  split
  · simp
  · split
    · rename_i form hform
      simpa using hforms _ (Dict.mem_of_lookup hform)
    · simp

theorem exists_mem_lowercaseFrom {c : Char} {chars : List Char} (hmem : c ∈ chars)
    (hc : ¬isAscii c = true) (before : List Char) :
    ∃ d ∈ lowercaseFrom before chars, isVerbCode d.toNat = false := by
  induction chars generalizing before with
  | nil => cases hmem
  | cons head rest ih =>
    rw [lowercaseFrom]
    rcases List.mem_cons.1 hmem with rfl | hmem
    · by_cases hsigma : (c == 'Σ') = true
      · rw [if_pos hsigma]
        split
        · exact ⟨'ς', by simp, by decide +kernel⟩
        · exact ⟨'σ', by simp, by decide +kernel⟩
      · obtain ⟨d, hd⟩ := List.exists_mem_of_ne_nil _ (lowercase_ne_nil c)
        refine ⟨d, ?_, isVerbCode_of_mem_lowercase hc hd⟩
        rw [if_neg hsigma]
        exact List.mem_append_left _ hd
    · obtain ⟨d, hd, hcode⟩ := ih hmem (head :: before)
      exact ⟨d, List.mem_append_right _ hd, hcode⟩

theorem lowercaseFrom_of_isAscii {chars : List Char} (h : ∀ c ∈ chars, isAscii c = true)
    (before : List Char) : lowercaseFrom before chars = chars.map Char.toLower := by
  induction chars generalizing before with
  | nil => rfl
  | cons c rest ih =>
    rw [List.forall_mem_cons] at h
    have hsigma : ¬(c == 'Σ') = true := by
      intro hc
      rw [beq_iff_eq.1 hc] at h
      exact absurd h.1 (by decide)
    rw [lowercaseFrom, if_neg hsigma, lowercase, if_pos h.1, ih h.2]
    rfl

theorem lowercaseText_of_isAsciiText {text : String} (h : IsAsciiText text) :
    lowercaseText text = text.toLower := by
  rw [lowercaseText, lowercaseFrom_of_isAscii h, ← toList_toLower, String.ofList_toList]

theorem IsHttpVerb.isAsciiText {piece : String} (h : IsHttpVerb piece) : IsAsciiText piece := by
  intro c hc
  by_contra hascii
  obtain ⟨d, hd, hcode⟩ := exists_mem_lowercaseFrom hc hascii []
  have hletter := isVerbCode_of_mem (c := d) h (by rwa [lowercaseText, String.toList_ofList])
  rw [hcode] at hletter
  cases hletter

theorem isAsciiText_of_toLower_mem {piece : String} (h : piece.toLower ∈ verbs) :
    IsAsciiText piece := by
  have hverbs : ∀ verb ∈ verbs, IsAsciiText verb := by decide +kernel
  intro c hc
  by_contra hascii
  have hlower : isAscii c.toLower = true := by
    apply hverbs _ h
    rw [toList_toLower]
    exact List.mem_map_of_mem hc
  rw [toLower_of_not_isAscii hascii] at hlower
  exact hascii hlower

theorem isVerb_iff {piece : List Char} :
    isVerb piece = true ↔ IsHttpVerb (String.ofList piece) := by
  have hfolded : String.ofList (piece.map Char.toLower) = (String.ofList piece).toLower := by
    rw [← String.toList_inj, toList_toLower, String.toList_ofList, String.toList_ofList]
  rw [isVerb, List.contains_iff_mem, hfolded]
  constructor
  · intro h
    rwa [IsHttpVerb, lowercaseText_of_isAsciiText (isAsciiText_of_toLower_mem h)]
  · intro h
    rwa [← lowercaseText_of_isAsciiText h.isAsciiText]

def underscorePieces (text : String) : List String := (text.toList.splitOn '_').map String.ofList

/-- What stays of the text after the base path: the part from its last HTTP verb on, where a piece
after the first one is a verb, and all of it otherwise. -/
inductive KeptPart (after : String) : String → Prop
  | fromVerb {skipped kept verb : String} {back : List String}
      (hafter : after = skipped ++ "_" ++ kept) (hkept : underscorePieces kept = verb :: back)
      (hverb : IsHttpVerb verb) (hback : ∀ piece ∈ back, ¬IsHttpVerb piece) : KeptPart after kept
  | whole (hback : ∀ piece ∈ (underscorePieces after).tail, ¬IsHttpVerb piece) :
      KeptPart after after

theorem underscorePieces_ne_nil (text : String) : underscorePieces text ≠ [] := by
  rw [underscorePieces, ne_eq, List.map_eq_nil_iff]
  exact List.splitOn_ne_nil '_' _

theorem underscore_not_mem {text piece : String} (h : piece ∈ underscorePieces text) :
    '_' ∉ piece.toList := by
  obtain ⟨chars, hchars, rfl⟩ := List.mem_map.1 h
  rw [String.toList_ofList]
  exact not_mem_of_mem_splitOn hchars

theorem toList_underscore : "_".toList = ['_'] := rfl

theorem intercalate_underscorePieces (text : String) :
    "_".intercalate (underscorePieces text) = text :=
  intercalate_map_splitOn toList_underscore text

theorem underscorePieces_intercalate {pieces : List String} (hne : pieces ≠ [])
    (h : ∀ piece ∈ pieces, '_' ∉ piece.toList) :
    underscorePieces ("_".intercalate pieces) = pieces :=
  map_splitOn_intercalate toList_underscore hne h

theorem last_verb_cases (pieces : List String) :
    (∀ piece ∈ pieces, ¬IsHttpVerb piece) ∨
      ∃ front verb back, pieces = front ++ verb :: back ∧ IsHttpVerb verb ∧
        ∀ piece ∈ back, ¬IsHttpVerb piece := by
  induction pieces with
  | nil => exact .inl (List.forall_mem_nil _)
  | cons head rest ih =>
    rcases ih with hnone | ⟨front, verb, back, rfl, hverb, hback⟩
    · by_cases hhead : IsHttpVerb head
      · exact .inr ⟨[], head, rest, rfl, hhead, hnone⟩
      · exact .inl (List.forall_mem_cons.2 ⟨hhead, hnone⟩)
    · exact .inr ⟨head :: front, verb, back, rfl, hverb, hback⟩

theorem exists_keptPart (after : String) : ∃ kept, KeptPart after kept := by
  obtain ⟨first, rest, hpieces⟩ := List.exists_cons_of_ne_nil (underscorePieces_ne_nil after)
  rcases last_verb_cases rest with hnone | ⟨front, verb, back, rfl, hverb, hback⟩
  · exact ⟨after, .whole (by rwa [hpieces])⟩
  · have hplain : ∀ piece ∈ verb :: back, '_' ∉ piece.toList := by
      intro piece hpiece
      have hmem : piece ∈ underscorePieces after := by
        rw [hpieces]
        exact List.mem_cons_of_mem _ (List.mem_append_right _ hpiece)
      exact underscore_not_mem hmem
    have hafter : after =
        "_".intercalate (first :: front) ++ "_" ++ "_".intercalate (verb :: back) := by
      rw [← String.intercalate_append_of_ne_nil (List.cons_ne_nil _ _) (List.cons_ne_nil _ _),
        List.cons_append, ← hpieces, intercalate_underscorePieces]
    have hkept := underscorePieces_intercalate (List.cons_ne_nil verb back) hplain
    exact ⟨_, .fromVerb hafter hkept hverb hback⟩

theorem fromLastVerb?_eq_none {pieces : List (List Char)}
    (h : ∀ piece ∈ pieces, ¬isVerb piece = true) : fromLastVerb? pieces = none := by
  induction pieces with
  | nil => rfl
  | cons piece rest ih =>
    rw [List.forall_mem_cons] at h
    rw [fromLastVerb?, ih h.2]
    exact if_neg h.1

theorem fromLastVerb?_append {verb : List Char} {back : List (List Char)}
    (hverb : isVerb verb = true) (hback : ∀ piece ∈ back, ¬isVerb piece = true)
    (front : List (List Char)) : fromLastVerb? (front ++ verb :: back) = some (verb :: back) := by
  induction front with
  | nil =>
    rw [List.nil_append, fromLastVerb?, fromLastVerb?_eq_none hback]
    exact if_pos hverb
  | cons piece front ih => rw [List.cons_append, fromLastVerb?, ih]

theorem keptTail_append {kept verb : List Char} {back : List (List Char)}
    (hkept : kept.splitOn '_' = verb :: back) (hverb : isVerb verb = true)
    (hback : ∀ piece ∈ back, ¬isVerb piece = true) (skipped : List Char) :
    keptTail (skipped ++ '_' :: kept) = kept := by
  rw [keptTail, List.splitOn_append_cons_self, hkept, fromLastVerb?_append hverb hback, ← hkept]
  exact List.intercalate_splitOn '_'

theorem keptTail_of_forall_tail {after : List Char}
    (h : ∀ piece ∈ (after.splitOn '_').tail, ¬isVerb piece = true) : keptTail after = after := by
  obtain ⟨first, rest, hpieces⟩ := List.exists_cons_of_ne_nil (List.splitOn_ne_nil '_' after)
  rw [hpieces, List.tail_cons] at h
  have hjoined : ['_'].intercalate (first :: rest) = after := by
    rw [← hpieces, List.intercalate_splitOn]
  rw [keptTail, hpieces, fromLastVerb?, fromLastVerb?_eq_none h]
  by_cases hfirst : isVerb first = true
  · simpa [hfirst] using hjoined
  · simp [hfirst]

theorem KeptPart.eq_keptTail {after kept : String} (h : KeptPart after kept) :
    kept = String.ofList (keptTail after.toList) := by
  cases h with
  | fromVerb hafter hkept hverb hback =>
    obtain ⟨verb, back, hpieces, rfl, rfl⟩ := List.map_eq_cons_iff.1 hkept
    have hnone : ∀ piece ∈ back, ¬isVerb piece = true := fun piece hpiece hpieceVerb =>
      hback _ (List.mem_map_of_mem hpiece) (isVerb_iff.1 hpieceVerb)
    rw [hafter, String.toList_append, String.toList_append, toList_underscore, List.append_assoc,
      List.singleton_append, keptTail_append hpieces (isVerb_iff.2 hverb) hnone,
      String.ofList_toList]
  | whole hback =>
    rw [keptTail_of_forall_tail, String.ofList_toList]
    intro piece hpiece hverb
    refine hback (String.ofList piece) ?_ (isVerb_iff.1 hverb)
    rw [underscorePieces, ← List.map_tail]
    exact List.mem_map_of_mem hpiece

/-- The base path as it stands in a mangled name: `/api/v1/` gives `_api_v1_`. -/
def pathMarker (base : String) : String :=
  "_" ++ (trimSlashes base).map (fun c => if c == '/' then '_' else c) ++ "_"

theorem pathMarker_ne_empty (base : String) : pathMarker base ≠ "" := by
  simp [pathMarker, ← String.toList_inj]

theorem toList_toLower_pathMarker (base : String) :
    (pathMarker base).toLower.toList = baseMarker (trimSlashes base).toList := by
  have hchar (c : Char) :
      (if c == '/' then '_' else c).toLower = if c == '/' then '_' else c.toLower := by
    split <;> rfl
  have hunderscore : '_'.toLower = '_' := rfl
  simp only [toList_toLower, pathMarker, baseMarker, String.toList_append, toList_underscore,
    String.toList_map, List.map_append, List.map_map, List.map_cons, List.map_nil, hunderscore,
    Function.comp_def, hchar]
  rfl

section
variable {name base : String}

theorem stripBasePath_eq (hbase : trimSlashes base ≠ "") :
    stripBasePath name base =
      match cutAtMarker? (pathMarker base).toLower.toList name.toList with
      | none => name
      | some (before, after) =>
        match cutAtMarker? (pathMarker base).toLower.toList after with
        | some _ => name
        | none => String.ofList (before ++ '_' :: keptTail after) := by
  have htrimmed : ¬(trimWhile (· == '/') base.toList).isEmpty = true := by
    simpa [trimSlashes] using hbase
  rw [toList_toLower_pathMarker, stripBasePath, trimSlashes, String.toList_ofList]
  exact if_neg htrimmed

theorem stripBasePath_of_not_occurs (hbase : trimSlashes base ≠ "")
    (h : ¬Occurs (pathMarker base) name) : stripBasePath name base = name := by
  rw [stripBasePath_eq hbase, cutAtMarker?_eq_none_iff.2 h]

variable {before after : String}

theorem stripBasePath_of_occurs_again (hbase : trimSlashes base ≠ "")
    (hfirst : FirstBetween (pathMarker base) name before after)
    (hagain : Occurs (pathMarker base) after) : stripBasePath name base = name := by
  obtain ⟨before', after', hsecond⟩ := hagain.exists_firstBetween
  simp only [stripBasePath_eq hbase, cutAtMarker?_eq_some_iff.2 hfirst,
    cutAtMarker?_eq_some_iff.2 hsecond]

theorem stripBasePath_of_occurs_once (hbase : trimSlashes base ≠ "")
    (hfirst : FirstBetween (pathMarker base) name before after)
    (honce : ¬Occurs (pathMarker base) after) {kept : String} (hkept : KeptPart after kept) :
    stripBasePath name base = before ++ "_" ++ kept := by
  simp only [stripBasePath_eq hbase, cutAtMarker?_eq_some_iff.2 hfirst,
    cutAtMarker?_eq_none_iff.2 honce]
  rw [hkept.eq_keptTail, ← String.toList_inj]
  simp

end

/-- The base path stands in the folded copy of a name only where a copy of it stands between two
texts that the name is made of. Where it does not, and where it does again after its first
occurrence, the name is left as it is. Otherwise the name keeps what is before the occurrence and,
after an underscore, what is kept of the text after it. -/
theorem base_path_stripped (name base : String) (hbase : trimSlashes base ≠ "") :
    (∀ offset, BytesAt (pathMarker base).toLower name.toLower offset ↔
      ∃ before after, StandsBetween (pathMarker base) name before after ∧
        before.utf8ByteSize = offset) ∧
    (∀ before after, StandsBetween (pathMarker base) name before after →
      name.toByteArray.extract 0 before.utf8ByteSize = before.toByteArray ∧
      name.toByteArray.extract (before.utf8ByteSize + (pathMarker base).utf8ByteSize)
        name.utf8ByteSize = after.toByteArray) ∧
    (¬Occurs (pathMarker base) name → stripBasePath name base = name) ∧
    (Occurs (pathMarker base) name →
      ∃ before after, FirstBetween (pathMarker base) name before after) ∧
    ∀ before after, FirstBetween (pathMarker base) name before after →
      (Occurs (pathMarker base) after → stripBasePath name base = name) ∧
      (¬Occurs (pathMarker base) after →
        (∃ kept, KeptPart after kept) ∧
        ∀ kept, KeptPart after kept → stripBasePath name base = before ++ "_" ++ kept) := by
  refine ⟨fun offset => ?_, fun before after => StandsBetween.slices, ?_, ?_, ?_⟩
  · exact bytesAt_toLower_iff (pathMarker_ne_empty base)
  · exact stripBasePath_of_not_occurs hbase
  · exact Occurs.exists_firstBetween
  · intro before after hfirst
    refine ⟨stripBasePath_of_occurs_again hbase hfirst, fun honce => ?_⟩
    exact ⟨exists_keptPart after, fun kept => stripBasePath_of_occurs_once hbase hfirst honce⟩

/-- A name with the base path in capitals and two verbs after it; its first letter has a lower case
form of another length. -/
theorem infoName_base_path_stripped :
    trimSlashes "/api/v1/" ≠ "" ∧
      FirstBetween (pathMarker "/api/v1/") "İnfo_API_V1_put_photos__Post" "İnfo"
        "put_photos__Post" ∧
      KeptPart "put_photos__Post" "Post" ∧
      stripBasePath "İnfo_API_V1_put_photos__Post" "/api/v1/" = "İnfo_Post" := by
  have hbase : trimSlashes "/api/v1/" ≠ "" := by decide +kernel
  have hfirst : FirstBetween (pathMarker "/api/v1/") "İnfo_API_V1_put_photos__Post" "İnfo"
      "put_photos__Post" := cutAtMarker?_eq_some_iff.1 (by decide +kernel)
  have honce : ¬Occurs (pathMarker "/api/v1/") "put_photos__Post" :=
    cutAtMarker?_eq_none_iff.1 (by decide +kernel)
  have hparts : "put_photos__Post" = "put_photos_" ++ "_" ++ "Post" := by decide
  have hkept : KeptPart "put_photos__Post" "Post" :=
    .fromVerb hparts rfl (by decide +kernel) (by simp)
  have hstripped := base_path_stripped "İnfo_API_V1_put_photos__Post" "/api/v1/" hbase
  exact ⟨hbase, hfirst, hkept, ((hstripped.2.2.2.2 _ _ hfirst).2 honce).2 _ hkept⟩

end ClientGen.Text
