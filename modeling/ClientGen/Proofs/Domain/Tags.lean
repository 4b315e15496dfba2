import ClientGen.Proofs.Domain.Provenance
import ClientGen.Proofs.Text.PlainName

/-!
# Domains are tags

Every domain that classification gives a type is the normalized form of a tag or of a pattern's
yield, or the name of the place for whatever belongs nowhere. So no domain leads out of its folder.
-/

namespace ClientGen
open Api Text

theorem exists_normalizeTag_of_directTag? {routes : List Route} {name domain : String}
    (h : directTag? routes name = some domain) : ∃ text, domain = normalizeTag text := by
  obtain ⟨operation, _, htag⟩ := List.exists_of_findSome?_eq_some h
  unfold tagFor? at htag
  split at htag
  · cases htag
  · split at htag
    · injection htag with htag
      exact ⟨_, htag.symm⟩
    · cases htag

theorem exists_normalizeTag_of_domainByName? {rules : List DomainRule} {name domain : String}
    (h : domainByName? rules name = some domain) :
    domain ≠ "" ∧ ∃ text, domain = normalizeTag text := by
  obtain ⟨rule, _, hrule⟩ := List.exists_of_findSome?_eq_some h
  unfold DomainRule.domain? at hrule
  split at hrule
  · cases hrule
  · simp only at hrule
    split at hrule
    · cases hrule
    · rename_i hne
      injection hrule with hrule
      rw [← hrule]
      exact ⟨hne, _, rfl⟩

theorem Grounds.of_normalized {P : String → Prop} (hnowhere : P uncategorized)
    (hnormalized : ∀ text, P (normalizeTag text)) (routes : List Route) (rules : List DomainRule)
    (types : Dict Json) : Grounds routes rules types P where
  nowhere := hnowhere
  tagged _ _ _ h := by
    obtain ⟨text, rfl⟩ := exists_normalizeTag_of_directTag? h
    exact hnormalized text
  named _ _ h := by
    obtain ⟨_, text, rfl⟩ := exists_normalizeTag_of_domainByName? h
    exact hnormalized text

theorem isTag_uncategorized : IsTag uncategorized := by
  intro c hc
  have hchars : uncategorized.toList.all isStemChar := by decide
  exact List.all_eq_true.1 hchars c hc

theorem isTag_typeDomain_classify (types : Dict Json) (routes : List Route)
    (rules : List DomainRule) (basePath name : String) :
    IsTag ((classify types routes rules basePath).value.typeDomain name) :=
  (Grounds.of_normalized isTag_uncategorized isTag_normalizeTag routes rules types).typeDomain
    basePath name

end ClientGen
