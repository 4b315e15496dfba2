import ClientGen.Proofs.Domain.Adoption
import ClientGen.Proofs.Domain.Tags

/-!
# Which domains can name a folder

Classification gives a domain to the declared types and to no others, and warns of those that are
left without one. A domain is in the form of a tag unless it is empty. Patterns never yield an
empty domain, but a tag without letters and digits does: whether all domains are usable depends on
the tags alone.
-/

namespace ClientGen
open Api Text

theorem isNormalTag_uncategorized : IsNormalTag uncategorized :=
  .of_all (by decide) (by decide)

section
variable {types : Dict Json} {routes : List Route} {rules : List DomainRule}

theorem normalTag_grounds (h : ∀ name ∈ types.keys, directTag? routes name ≠ some "") :
    Grounds routes rules types IsNormalTag where
  nowhere := isNormalTag_uncategorized
  tagged name hname domain htag := by
    obtain ⟨text, rfl⟩ := exists_normalizeTag_of_directTag? htag
    refine isNormalTag_normalizeTag fun hempty => h name hname ?_
    rw [htag, hempty]
  named name domain hnamed := by
    obtain ⟨hne, text, rfl⟩ := exists_normalizeTag_of_domainByName? hnamed
    exact isNormalTag_normalizeTag hne

/-- An empty tag is kept like any other, since only the sentinel counts as no domain. -/
theorem empty_mem_values {name : String} (hname : name ∈ types.keys)
    (htag : directTag? routes name = some "") (basePath : String) :
    "" ∈ (classify types routes rules basePath).value.types.values := by
  obtain ⟨schema, hschema⟩ := Dict.exists_get?_of_mem_keys hname
  have hfirst : (firstDomains routes rules types).get? name = some "" :=
    get?_firstDomains_of_tag hname htag
  have hlast : (adoptFor (referenceTable types) adoptionRounds
      (firstDomains routes rules types)).get? name = some "" :=
    get?_adoptFor_of_placed hfirst (by decide) adoptionRounds
  have htypes : (classify types routes rules basePath).value.types.get? name =
      some (((adoptFor (referenceTable types) adoptionRounds
        (firstDomains routes rules types)).get? name).getD uncategorized) :=
    Dict.get?_mapValues hschema
  rw [hlast] at htypes
  exact Dict.mem_values_of_get? htypes

theorem leftover_eq (basePath : String) :
    ((classify types routes rules basePath).value.types.entries.filter fun (_, domain) =>
        domain = uncategorized).map Prod.fst =
      types.keys.filter fun name =>
        (classify types routes rules basePath).value.typeDomain name = uncategorized := by
  have hkeys : types.keys = (classify types routes rules basePath).value.types.keys :=
    (Dict.keys_mapValues _ types).symm
  rw [hkeys, Dict.keys, List.filter_map]
  congr 1
  refine List.filter_congr fun entry hentry => ?_
  have hget := Dict.get?_of_mem hentry
  simp only [Function.comp_apply, DomainMap.typeDomain, hget]

end

/-- Exactly the declared types are given domains, in their order, and a warning lists those that
are left in none. The domains are all in the form of tags exactly if no declared type is placed by
a tag whose normalized form is empty. -/
theorem domains_usable_iff (types : Dict Json) (routes : List Route) (rules : List DomainRule)
    (basePath : String) :
    (classify types routes rules basePath).value.types.keys = types.keys ∧
    (∀ domain ∈ (classify types routes rules basePath).value.types.values,
      domain = "" ∨ IsNormalTag domain) ∧
    ((∀ domain ∈ (classify types routes rules basePath).value.types.values, IsNormalTag domain) ↔
      ∀ name ∈ types.keys, directTag? routes name ≠ some "") ∧
    (classify types routes rules basePath).trace =
      let leftover := types.keys.filter fun name =>
        (classify types routes rules basePath).value.typeDomain name = uncategorized
      if leftover = [] then [] else [.exhausted leftover] := by
  refine ⟨Dict.keys_mapValues _ types, ?_, ⟨?_, ?_⟩, ?_⟩
  · have hform : ∀ text, normalizeTag text = "" ∨ IsNormalTag (normalizeTag text) := fun text =>
      (em (normalizeTag text = "")).imp_right isNormalTag_normalizeTag
    exact (Grounds.of_normalized (.inr isNormalTag_uncategorized) hform routes rules
      types).assignDomains
  · intro h name hname htag
    exact not_isNormalTag_empty (h "" (empty_mem_values hname htag basePath))
  · intro h
    exact (normalTag_grounds h).assignDomains
  · dsimp only
    rw [← leftover_eq]
    simp only [classify, List.isEmpty_iff]

/-- A type in an operation whose tag has no ASCII letter or digit. -/
def userTag : Json :=
  .obj [
    ("definitions", .obj [("User", .obj [("type", .str "object"), ("properties", .obj [])])]),
    ("paths", .obj [("/api/users", .obj [("get", .obj [
      ("tags", .arr [.str "用户"]),
      ("responses", .obj [("200", .obj [
        ("schema", .obj [("$ref", .str "#/definitions/User")])])])])])])]

/-- Such a tag gives an empty domain, and no warning says so. -/
theorem userTag_domain_empty :
    (classify (normalize userTag).value.types (normalize userTag).value.routes []
      "api").value.types.entries = [("User", "")] ∧
    (classify (normalize userTag).value.types (normalize userTag).value.routes [] "api").trace =
      [] ∧
    ¬ ∀ domain ∈ (classify (normalize userTag).value.types (normalize userTag).value.routes []
      "api").value.types.values, IsNormalTag domain := by
  have hentries : (classify (normalize userTag).value.types (normalize userTag).value.routes []
      "api").value.types.entries = [("User", "")] := by decide +kernel
  refine ⟨hentries, by decide +kernel, fun h => not_isNormalTag_empty (h "" ?_)⟩
  rw [Dict.values, hentries]
  exact List.mem_singleton_self _

end ClientGen
