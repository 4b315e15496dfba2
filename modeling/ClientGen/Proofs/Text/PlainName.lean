import ClientGen.Proofs.Text.TagForm
import ClientGen.Text.Identifier

/-!
# Names of files and folders

Identifiers, file stems and tags keep to letters, digits, underscores and hyphens. Each of them
that is not empty can name a file or folder.
-/

namespace ClientGen.Text

-- What is said of the characters of a text is decided on these, not on all characters there are.
instance decidableForallMemChar {P : Char → Prop} [DecidablePred P] (chars : List Char) :
    Decidable (∀ c ∈ chars, P c) :=
  List.decidableBAll P chars

/-- A text that names something inside a folder and is no step to another place. -/
structure PlainName (name : String) : Prop where
  nonempty : name ≠ ""
  noPoint : name.toList.head? ≠ some '.'
  noSlash : '/' ∉ name.toList

instance (name : String) : Decidable (PlainName name) :=
  decidable_of_iff (name ≠ "" ∧ name.toList.head? ≠ some '.' ∧ '/' ∉ name.toList)
    ⟨fun ⟨hne, hpoint, hslash⟩ => ⟨hne, hpoint, hslash⟩,
      fun h => ⟨h.nonempty, h.noPoint, h.noSlash⟩⟩

theorem PlainName.ne_here {name : String} (h : PlainName name) : name ≠ "." := by
  rintro rfl
  exact h.noPoint rfl

theorem PlainName.ne_up {name : String} (h : PlainName name) : name ≠ ".." := by
  rintro rfl
  exact h.noPoint rfl

theorem PlainName.append {name ending : String} (h : PlainName name)
    (hending : '/' ∉ ending.toList) : PlainName (name ++ ending) := by
  have hchars : name.toList ≠ [] := fun h' => h.nonempty (String.toList_eq_nil_iff.1 h')
  refine ⟨?_, ?_, ?_⟩
  · intro hempty
    have hnil := congrArg String.toList hempty
    rw [String.toList_append] at hnil
    exact hchars (List.append_eq_nil_iff.1 hnil).1
  · rw [String.toList_append, List.head?_append]
    cases hname : name.toList with
    | nil => exact absurd hname hchars
    | cons c rest => simpa [hname] using h.noPoint
  · rw [String.toList_append, List.mem_append, not_or]
    exact ⟨h.noSlash, hending⟩

def isStemChar (c : Char) : Bool := isNameChar c || c == '-'

theorem plainName_of_chars {name : String} (hne : name ≠ "")
    (h : ∀ c ∈ name.toList, isStemChar c) : PlainName name := by
  refine ⟨hne, ?_, ?_⟩
  · intro hhead
    have hpoint := h '.' (List.mem_of_mem_head? hhead)
    exact absurd hpoint (by decide)
  · intro hslash
    exact absurd (h '/' hslash) (by decide)

theorem isNameChar_of_mem_maskName {c : Char} {name : List Char} (h : c ∈ maskName name) :
    isNameChar c := by
  obtain ⟨d, _, rfl⟩ := List.mem_map.1 h
  split
  · assumption
  · decide

theorem isNameChar_of_mem_guardStart {c : Char} {name : List Char}
    (hname : ∀ d ∈ name, isNameChar d) (h : c ∈ guardStart name) : isNameChar c := by
  unfold guardStart at h
  split at h
  · rw [List.mem_singleton.1 h]
    decide
  · split at h
    · rcases List.mem_cons.1 h with rfl | h
      · decide
      · exact hname c h
    · exact hname c h

theorem guardStart_ne_nil (name : List Char) : guardStart name ≠ [] := by
  unfold guardStart
  split
  · exact List.cons_ne_nil _ _
  · split <;> exact List.cons_ne_nil _ _

theorem isNameChar_of_mem_identifier {name : String} {c : Char}
    (h : c ∈ (identifier name).toList) : isNameChar c := by
  rw [identifier, String.toList_ofList] at h
  exact isNameChar_of_mem_guardStart (fun _ => isNameChar_of_mem_maskName) h

theorem identifier_ne_empty (name : String) : identifier name ≠ "" := by
  intro h
  have hchars := congrArg String.toList h
  rw [identifier, String.toList_ofList] at hchars
  exact guardStart_ne_nil _ hchars

theorem plainName_identifier (name : String) : PlainName (identifier name) := by
  apply plainName_of_chars (identifier_ne_empty name)
  intro c hc
  simp [isStemChar, isNameChar_of_mem_identifier hc]

theorem isNameChar_of_mem_fileStem {key : String} {c : Char} (h : c ∈ (fileStem key).toList) :
    isNameChar c := by
  rw [fileStem, String.toList_ofList] at h
  exact isNameChar_of_mem_maskName h

theorem slash_not_mem_fileStem (key : String) : '/' ∉ (fileStem key).toList := fun h =>
  absurd (isNameChar_of_mem_fileStem h) (by decide)

theorem fileStem_ne_empty {key : String} (h : key ≠ "") : fileStem key ≠ "" := by
  intro hempty
  have hchars := congrArg String.toList hempty
  rw [fileStem, String.toList_ofList] at hchars
  have hkey : key.toList = [] := List.map_eq_nil_iff.1 hchars
  exact h (String.toList_eq_nil_iff.1 hkey)

theorem plainName_fileStem {key : String} (h : key ≠ "") : PlainName (fileStem key) := by
  apply plainName_of_chars (fileStem_ne_empty h)
  intro c hc
  simp [isStemChar, isNameChar_of_mem_fileStem hc]

def IsTag (text : String) : Prop := ∀ c ∈ text.toList, isStemChar c

theorem IsTag.noSlash {text : String} (h : IsTag text) : '/' ∉ text.toList := fun hslash =>
  absurd (h '/' hslash) (by decide)

theorem isStemChar_of_isTagChar {c : Char} (h : isTagChar c) : isStemChar c := by
  simp only [isTagChar, Bool.or_eq_true] at h
  delta isStemChar isNameChar Char.isAlphanum Char.isAlpha
  simp only [Bool.or_eq_true]
  rcases h with hlower | hdigit
  · exact .inl (.inl (.inl (.inr hlower)))
  · exact .inl (.inl (.inr hdigit))

theorem DashedRuns.isStemChar {text : List Char} (h : DashedRuns text) :
    ∀ c ∈ text, isStemChar c := by
  induction h with
  | last hc =>
    intro c h
    rw [List.mem_singleton.1 h]
    exact isStemChar_of_isTagChar hc
  | next hc _ ih =>
    rintro c (_ | ⟨_, h⟩)
    · exact isStemChar_of_isTagChar hc
    · exact ih c h
  | dash hc _ ih =>
    rintro c (_ | ⟨_, _ | ⟨_, h⟩⟩)
    · exact isStemChar_of_isTagChar hc
    · decide
    · exact ih c h

theorem isTag_normalizeTag (text : String) : IsTag (normalizeTag text) := by
  by_cases hempty : normalizeTag text = ""
  · rw [hempty]
    exact List.forall_mem_nil _
  · exact (isNormalTag_normalizeTag hempty).isStemChar

end ClientGen.Text
