import ClientGen.Proofs.Endpoint.NameParts
import ClientGen.Proofs.Endpoint.UniqueNames
import ClientGen.Proofs.Text.CaseForms

/-!
# Names of calls between single quotes

The name of a call is made of words of the document, of fixed words and of numbers. None of them
has a quote, a backslash or a line break, whatever the document has.
-/

namespace ClientGen
open Api Text

theorem NamePart.isLiteralText {basis : NameBasis} {part : NamePart} (h : basis.Supplies part) :
    IsLiteralText part.text := by
  have hwords : ∀ text ∈ nameWords, IsLiteralText text := by decide
  cases h with
  | word hword => exact hwords _ hword
  | summary => exact isLiteralText_camelCase _
  | joined => exact isLiteralText_camelCase _
  | action => exact isLiteralText_camelCase _
  | segment => exact isLiteralText_pascalCase _
  | empty => exact isLiteralText_pascalCase _

theorem NameBasis.isLiteralText_name (basis : NameBasis) : IsLiteralText basis.name := by
  rw [basis.name_eq]
  apply isLiteralText_join
  intro text htext
  obtain ⟨part, hpart, rfl⟩ := List.mem_map.1 htext
  exact part.isLiteralText (NameBasis.supplies_parts part hpart)

theorem Group.isLiteralText_names (group : Group) (basePath : String) :
    ∀ name ∈ group.names basePath, IsLiteralText name := by
  intro numbered hnumbered
  rw [group.names_eq] at hnumbered
  obtain ⟨name, hname, n, -, rfl⟩ := mem_numberFrom hnumbered
  obtain ⟨entry, -, rfl⟩ := List.mem_map.1 hname
  unfold numberedName
  split
  · exact NameBasis.isLiteralText_name _
  · exact (NameBasis.isLiteralText_name _).append (isLiteralText_numeral n)

end ClientGen
