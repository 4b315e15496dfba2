import ClientGen.Proofs.Endpoint.NameParts
import ClientGen.Proofs.Endpoint.UniqueNames
import ClientGen.Proofs.Text.Leading

/-!
# Names of calls as identifiers

A call is declared under its name. The name of a call that is made of ASCII text has nothing but
letters and digits, so it can be declared exactly if it does not start with a digit. Where a
summary, an action or a plain path names the call, the name starts with the first letter or digit of
it, whichever it is.
-/

namespace ClientGen
open Api Text

/-- What a part starts with, as the document has it. -/
def NamePart.leading? : NamePart → Option Char
  | word text => text.toList.head?
  | camel text => Text.leading? text
  | pascal text => Text.leading? text

/-- What the first part of a name that is not empty starts with. -/
def NameBasis.leading? (basis : NameBasis) : Option Char :=
  basis.parts.findSome? NamePart.leading?

/-- A part has letters and digits only, and what it starts with is a digit if its text says so. -/
structure NamePart.IsDeclarable (part : NamePart) : Prop where
  alphanum : ∀ c ∈ part.text.toList, c.isAlphanum = true
  leading : part.text.toList.head?.map Char.isDigit = part.leading?.map Char.isDigit

theorem NamePart.isDeclarable_camel {text : String} (h : IsAsciiText text) :
    (camel text).IsDeclarable where
  alphanum := isAlphanum_of_mem_camelCase h
  leading := isDigit_head?_camelCase h

theorem NamePart.isDeclarable_pascal {text : String} (h : IsAsciiText text) :
    (pascal text).IsDeclarable where
  alphanum := isAlphanum_of_mem_pascalCase h
  leading := isDigit_head?_pascalCase h

theorem NamePart.isDeclarable_word {text : String} (h : text ∈ nameWords) :
    (word text).IsDeclarable where
  alphanum := by
    have hwords : ∀ word ∈ nameWords, ∀ c ∈ word.toList, c.isAlphanum = true := by decide
    exact hwords text h
  leading := rfl

/-- The braces of a placeholder are neither letters nor digits. -/
theorem leading?_bareSegment (segment : String) :
    Text.leading? (bareSegment segment) = Text.leading? segment := by
  unfold bareSegment
  cases hname : placeholder? segment with
  | none => rw [Option.getD_none]
  | some name =>
    have hopen : Char.isAlphanum '\x7b' = false := by decide
    have hclose : Char.isAlphanum '\x7d' = false := by decide
    rw [Option.getD_some, Text.leading?, Text.leading?, (placeholder?_eq_some_iff.1 hname).2,
      List.find?_cons_of_neg (by simp [hopen]), List.find?_append,
      List.find?_singleton, hclose]
    simp

namespace NameBasis

variable {basis : NameBasis}

section
variable (hpath : IsAsciiText basis.path)
  (hsummary : ∀ summary ∈ basis.summary, IsAsciiText summary)

include hpath hsummary

theorem Supplies.isDeclarable {part : NamePart} (h : basis.Supplies part) : part.IsDeclarable := by
  cases h with
  | word h => exact NamePart.isDeclarable_word h
  | summary h => exact NamePart.isDeclarable_camel (hsummary _ h)
  | joined => exact NamePart.isDeclarable_camel (isAsciiText_joined hpath)
  | action h => exact NamePart.isDeclarable_camel (isAsciiText_of_mem_segments hpath h)
  | segment h =>
    exact NamePart.isDeclarable_pascal fun c hc =>
      isAsciiText_of_mem_segments hpath h c (mem_of_mem_bareSegment hc)
  | empty => exact NamePart.isDeclarable_pascal (by decide)

theorem isAlphanum_of_mem_name : ∀ c ∈ basis.name.toList, c.isAlphanum = true := by
  intro c hc
  rw [basis.name_eq, String.toList_join, List.mem_flatMap] at hc
  obtain ⟨text, htext, hc⟩ := hc
  obtain ⟨part, hpart, rfl⟩ := List.mem_map.1 htext
  exact ((supplies_parts part hpart).isDeclarable hpath hsummary).alphanum c hc

/-- A name starts with a digit exactly if its first part that is not empty does. -/
theorem isDigit_head?_name :
    basis.name.toList.head?.map Char.isDigit = basis.leading?.map Char.isDigit := by
  have hparts : ∀ part ∈ basis.parts, part.text.toList.head?.map Char.isDigit =
      part.leading?.map Char.isDigit := fun part hpart =>
    ((supplies_parts part hpart).isDeclarable hpath hsummary).leading
  rw [basis.name_eq, String.toList_join, List.head?_flatMap, List.findSome?_map, leading?,
    List.map_findSome?, List.map_findSome?, ← List.head?_filterMap, ← List.head?_filterMap]
  exact congrArg List.head? (List.filterMap_congr hparts)

theorem isIdentifier_name_iff :
    isIdentifier basis.name.toList = true ↔ ∃ c ∈ basis.leading?, c.isDigit = false := by
  rw [isIdentifier_iff (isAlphanum_of_mem_name hpath hsummary)]
  exact exists_letter_iff (isDigit_head?_name hpath hsummary)

end

/-- Neither the summary nor a segment has a digit for its first letter or digit. -/
structure StartsWithLetters (basis : NameBasis) : Prop where
  summary : ∀ summary ∈ basis.summary, ∀ c ∈ Text.leading? summary, c.isDigit = false
  segment : ∀ segment ∈ basis.segments, ∀ c ∈ Text.leading? segment, c.isDigit = false

instance (basis : NameBasis) : Decidable basis.StartsWithLetters :=
  decidable_of_iff
    ((∀ summary ∈ basis.summary, ∀ c ∈ Text.leading? summary, c.isDigit = false) ∧
      ∀ segment ∈ basis.segments, ∀ c ∈ Text.leading? segment, c.isDigit = false)
    ⟨fun h => ⟨h.1, h.2⟩, fun h => ⟨h.summary, h.segment⟩⟩

theorem Supplies.isDigit_leading? {part : NamePart} (hpart : basis.Supplies part)
    (h : basis.StartsWithLetters) : ∀ c ∈ part.leading?, c.isDigit = false := by
  cases hpart with
  | word hword =>
    have hwords : ∀ word ∈ nameWords, ∀ c ∈ word.toList.head?, c.isDigit = false := by decide
    exact hwords _ hword
  | summary hsummary => exact h.summary _ hsummary
  | joined =>
    intro c hc
    rw [plainPart, NamePart.leading?, leading?_intercalate (by decide)] at hc
    obtain ⟨segment, hsegment, hc⟩ := List.exists_of_findSome?_eq_some hc
    exact h.segment segment (List.mem_filter.1 hsegment).1 c hc
  | action hsegment => exact h.segment _ hsegment
  | segment hsegment =>
    rw [NamePart.leading?, leading?_bareSegment]
    exact h.segment _ hsegment
  | empty =>
    have hnone : (NamePart.pascal "").leading? = none := by decide
    rw [hnone]
    exact fun c hc => absurd hc (Option.not_mem_none c)

theorem exists_leading? (basis : NameBasis) : ∃ c, basis.leading? = some c := by
  have hending : ∃ c, (NamePart.word basis.method.ending).leading? = some c := by
    cases basis.method <;> exact ⟨_, rfl⟩
  obtain ⟨c, hc⟩ := hending
  refine Option.isSome_iff_exists.1 (List.findSome?_isSome_iff.2 ?_)
  exact ⟨_, List.mem_append_right _ (List.mem_singleton_self _), by rw [hc]; rfl⟩

theorem StartsWithLetters.leading (h : basis.StartsWithLetters) :
    ∃ c ∈ basis.leading?, c.isDigit = false := by
  obtain ⟨c, hc⟩ := basis.exists_leading?
  obtain ⟨part, hpart, hleading⟩ := List.exists_of_findSome?_eq_some hc
  exact ⟨c, hc, (supplies_parts part hpart).isDigit_leading? h c hleading⟩

end NameBasis

theorem isIdentifier_numberedName {name : String} (hname : name ≠ "") (n : Nat) :
    isIdentifier (numberedName name n).toList = isIdentifier name.toList := by
  unfold numberedName
  split
  · rfl
  · rw [String.toList_append]
    exact isIdentifier_append (mt String.toList_eq_nil_iff.1 hname) fun c hc =>
      isNameChar_of_isAlphanum (isAlphanum_of_isDigit (isDigit_of_mem_numeral hc))

/-- The name of a call whose path and summary are ASCII text has letters, digits and underscores
only. It is an identifier, with a number behind it or without, exactly if its first part that is not
empty starts with a letter, and so where the summary and all segments start with one. -/
theorem names_identifiers_iff (basis : NameBasis) (hpath : IsAsciiText basis.path)
    (hsummary : ∀ summary ∈ basis.summary, IsAsciiText summary) :
    (∀ c ∈ basis.name.toList, isNameChar c = true) ∧
    (∀ n, isIdentifier (numberedName basis.name n).toList = true ↔
      ∃ c ∈ basis.leading?, c.isDigit = false) ∧
    (basis.StartsWithLetters → isIdentifier basis.name.toList = true) := by
  have hname := NameBasis.isIdentifier_name_iff hpath hsummary
  refine ⟨fun c hc => ?_, fun n => ?_, fun h => hname.2 h.leading⟩
  · exact isNameChar_of_isAlphanum (NameBasis.isAlphanum_of_mem_name hpath hsummary c hc)
  · rw [isIdentifier_numberedName basis.name_ne_empty]
    exact hname

/-- Calls that a summary, an action and a plain path name, each of which starts with a digit. -/
def digitCalls : List NameBasis :=
  [⟨"/api/models", .get, some "3D models", [], [], "api"⟩,
    ⟨"/api/users/-2fa", .post, none, [], [], "api"⟩,
    ⟨"/api/2fa/codes", .get, none, [], [], "api"⟩]

theorem digitCalls_not_identifiers :
    (∀ basis ∈ digitCalls, IsAsciiText basis.path ∧
      ∀ summary ∈ basis.summary, IsAsciiText summary) ∧
    digitCalls.map (·.name) = ["3DModelsGet", "2faUsersPost", "2faCodesGet"] ∧
    ∀ basis ∈ digitCalls, isIdentifier basis.name.toList = false := by
  decide +kernel

/-- A call whose segments are numbered behind their letters, named by its action. -/
def versionedCall : NameBasis :=
  ⟨"/api/v2/orders/\x7bid\x7d/re-open", .post, none, [], ["id"], "api"⟩

theorem versionedCall_identifier :
    versionedCall.name = "reOpenV2IdPost" ∧ versionedCall.StartsWithLetters ∧
    isIdentifier versionedCall.name.toList = true := by
  have hletters : versionedCall.StartsWithLetters := by decide +kernel
  have hname := names_identifiers_iff versionedCall (by decide) (by decide)
  exact ⟨by decide +kernel, hletters, hname.2.2 hletters⟩

end ClientGen
