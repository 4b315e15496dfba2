import ClientGen.Api.Document
import ClientGen.Proofs.Domain.Passes
import ClientGen.Proofs.FirstOccurrence

/-!
# Aliases of declared types

A type is also found under its cleaned name, unless that is the name of a declared type. Of the
types with one cleaned name the first owns it: the alias has its domain, and the aliases are the
first occurrences of all cleaned names that are free.
-/

namespace ClientGen
open Api

theorem Dict.entries_insertNew {α : Type} (d : Dict α) (entry : String × α) :
    (d.insertNew entry.1 entry.2).entries = keepNew Prod.fst d.entries entry := by
  have hkey : d.contains entry.1 ↔ d.entries.any (fun other => other.1 = entry.1) := by
    rw [any_key_iff]
    exact Dict.contains_iff
  unfold Dict.insertNew keepNew
  by_cases hcontains : d.contains entry.1
  · rw [if_pos hcontains, if_pos (hkey.1 hcontains)]
  · rw [if_neg hcontains, if_neg (mt hkey.2 hcontains)]
    exact replaceOrAppend_of_not_mem (mt Dict.contains_iff.2 hcontains)

theorem Dict.entries_foldl_insertNew {α : Type} (entries : List (String × α)) :
    (entries.foldl (fun d entry => d.insertNew entry.1 entry.2) Dict.empty).entries =
      firstOccurrences Prod.fst entries :=
  (List.foldl_hom Dict.entries fun d entry => (Dict.entries_insertNew d entry).symm).symm

def IsFree (declared : List String) (cleaned : String) : Prop :=
  cleaned ≠ "" ∧ cleaned ∉ declared

instance (declared : List String) (cleaned : String) : Decidable (IsFree declared cleaned) :=
  inferInstanceAs (Decidable (_ ∧ _))

theorem not_isFree_iff {types : Dict String} {name : String} (hname : name ∈ types.keys)
    (cleaned : String) :
    (cleaned = "" || cleaned = name || types.contains cleaned) = true ↔
      ¬ IsFree types.keys cleaned := by
  have hcontains : types.contains cleaned ↔ cleaned ∈ types.keys := Dict.contains_iff
  simp only [Bool.or_eq_true, decide_eq_true_eq, IsFree, not_and_or, not_not, hcontains]
  constructor
  · rintro ((hempty | rfl) | hdeclared)
    · exact .inl hempty
    · exact .inr hname
    · exact .inr hdeclared
  · rintro (hempty | hdeclared)
    · exact .inl (.inl hempty)
    · exact .inr hdeclared

section
variable (basePath : String) (types : Dict String)

def cleanedEntries : List (String × String) :=
  types.entries.map fun entry => (cleanedName basePath entry.1, entry.2)

theorem entries_cleanedAliases : (cleanedAliases basePath types).entries =
    firstOccurrences Prod.fst
      ((cleanedEntries basePath types).filter fun entry => IsFree types.keys entry.1) := by
  rw [← Dict.entries_foldl_insertNew, List.foldl_filter, cleanedEntries, List.foldl_map,
    cleanedAliases]
  refine congrArg Dict.entries (List.foldl_ext _ _ _ fun aliases entry hentry => ?_)
  have htaken := not_isFree_iff (List.mem_map_of_mem hentry) (cleanedName basePath entry.1)
  by_cases hfree : IsFree types.keys (cleanedName basePath entry.1)
  · rw [if_pos (decide_eq_true hfree)]
    exact if_neg fun h => htaken.1 h hfree
  · rw [if_neg (by rwa [decide_eq_true_eq])]
    exact if_pos (htaken.2 hfree)

theorem mem_keys_cleanedAliases {cleaned : String} :
    cleaned ∈ (cleanedAliases basePath types).keys ↔ cleaned ≠ "" ∧ cleaned ∉ types.keys ∧
      ∃ name ∈ types.keys, cleanedName basePath name = cleaned := by
  rw [Dict.keys, entries_cleanedAliases]
  constructor
  · intro h
    obtain ⟨entry, hentry, rfl⟩ := List.mem_map.1 h
    obtain ⟨hmem, hfree⟩ := List.mem_filter.1 (mem_of_mem_firstOccurrences hentry)
    obtain ⟨source, hsource, rfl⟩ := List.mem_map.1 hmem
    have hspare : IsFree types.keys (cleanedName basePath source.1) := of_decide_eq_true hfree
    exact ⟨hspare.1, hspare.2, source.1, List.mem_map_of_mem hsource, rfl⟩
  · rintro ⟨hne, hfree, name, hname, rfl⟩
    obtain ⟨source, hsource, rfl⟩ := List.mem_map.1 hname
    have hmem : (cleanedName basePath source.1, source.2) ∈
        (cleanedEntries basePath types).filter fun entry => IsFree types.keys entry.1 :=
      List.mem_filter.2 ⟨List.mem_map_of_mem hsource, decide_eq_true ⟨hne, hfree⟩⟩
    obtain ⟨entry, hentry, hkey⟩ := exists_mem_firstOccurrences Prod.fst hmem
    exact List.mem_map.2 ⟨entry, hentry, hkey⟩

theorem exists_owner_of_mem_cleanedAliases {cleaned : String}
    (h : cleaned ∈ (cleanedAliases basePath types).keys) :
    ∃ owner domain, types.keys.find? (fun name => cleanedName basePath name = cleaned) =
        some owner ∧ types.get? owner = some domain ∧
      (cleanedAliases basePath types).get? cleaned = some domain := by
  obtain ⟨hne, hfree, -⟩ := (mem_keys_cleanedAliases basePath types).1 h
  obtain ⟨domain, hget⟩ := Dict.exists_get?_of_mem_keys h
  have hentry := Dict.mem_of_get? hget
  rw [entries_cleanedAliases] at hentry
  have hfound := find?_of_mem_firstOccurrences hentry
  rw [find?_firstOccurrences, List.find?_filter, cleanedEntries, List.find?_map] at hfound
  obtain ⟨source, hsource, hsame⟩ := Option.map_eq_some_iff.1 hfound
  -- whether a cleaned name is free depends on nothing but the name
  have hcleaned : ∀ entry : String × String,
      (IsFree types.keys (cleanedName basePath entry.1) ∧
        cleanedName basePath entry.1 = cleaned) ↔ cleanedName basePath entry.1 = cleaned :=
    fun entry => and_iff_right_of_imp fun hentry => hentry ▸ ⟨hne, hfree⟩
  simp only [Function.comp_def, decide_eq_true_eq, hcleaned] at hsource
  refine ⟨source.1, domain, ?_, ?_, hget⟩
  · rw [Dict.keys, List.find?_map]
    simp only [Function.comp_def, hsource, Option.map_some]
  · have hdomain : source.2 = domain := congrArg Prod.snd hsame
    rw [← hdomain]
    exact Dict.get?_of_mem (List.mem_of_find?_eq_some hsource)

end

/-- The aliases of a map are the free cleaned names of the declared types, each with the domain of
the first type that has it. -/
structure DomainMap.AliasesOwned (map : DomainMap) (declared : List String) (basePath : String) :
    Prop where
  members : ∀ cleaned, cleaned ∈ map.aliases.keys ↔ cleaned ≠ "" ∧ cleaned ∉ declared ∧
    ∃ name ∈ declared, cleanedName basePath name = cleaned
  once : map.aliases.keys.Nodup
  domains : ∀ cleaned ∈ map.aliases.keys, ∃ owner,
    declared.find? (fun name => cleanedName basePath name = cleaned) = some owner ∧
    map.aliases.get? cleaned = some (map.typeDomain owner) ∧
    map.typeDomain cleaned = map.typeDomain owner

/-- A declared type is looked up under its own name, whatever cleaned names there are, and every
alias leads to the domain of its first owner. -/
theorem aliases_owned (types : Dict Json) (routes : List Route) (rules : List DomainRule)
    (basePath : String) :
    (∀ name ∈ types.keys, (assignDomains routes rules types).get? name =
      some ((classify types routes rules basePath).value.typeDomain name)) ∧
    (classify types routes rules basePath).value.AliasesOwned types.keys basePath := by
  have hkeys : (assignDomains routes rules types).keys = types.keys := Dict.keys_mapValues _ _
  have hdeclared : ∀ {name domain : String},
      (assignDomains routes rules types).get? name = some domain →
        (classify types routes rules basePath).value.typeDomain name = domain := by
    intro name domain hget
    have htypes : (classify types routes rules basePath).value.types.get? name = some domain := hget
    rw [DomainMap.typeDomain, htypes]
  refine ⟨fun name hname => ?_, ⟨fun cleaned => ?_, Dict.distinct _, fun cleaned hcleaned => ?_⟩⟩
  · rw [← hkeys] at hname
    obtain ⟨domain, hget⟩ := Dict.exists_get?_of_mem_keys hname
    rw [hget, hdeclared hget]
  · rw [← hkeys]
    exact mem_keys_cleanedAliases basePath (assignDomains routes rules types)
  · obtain ⟨owner, domain, hfirst, hget, halias⟩ :=
      exists_owner_of_mem_cleanedAliases basePath (assignDomains routes rules types) hcleaned
    rw [hkeys] at hfirst
    have hfree := (mem_keys_cleanedAliases basePath _).1 hcleaned
    have hnone : (classify types routes rules basePath).value.types.get? cleaned = none :=
      Dict.get?_eq_none_iff.2 hfree.2.1
    have hsome : (classify types routes rules basePath).value.aliases.get? cleaned = some domain :=
      halias
    refine ⟨owner, hfirst, ?_, ?_⟩
    · rw [hsome, hdeclared hget]
    · rw [hdeclared hget, DomainMap.typeDomain, hnone, hsome]
      rfl

/-- Two types with one cleaned name, and one whose cleaned name is declared. -/
def photoTypes : Json :=
  .obj [("paths", .obj [
      ("/api/projects/photos", .obj [("post", .obj [("tags", .arr [.str "Projects"]),
        ("responses", .obj [("200", .obj [("schema", .obj [("$ref",
          .str "#/definitions/Body_upload_photo_api_projects_photos_post")])])])])]),
      ("/api/leads", .obj [("get", .obj [("tags", .arr [.str "Leads"]), ("responses", .obj [("200",
        .obj [("schema", .obj [("$ref", .str "#/definitions/LeadOut")])])])])])]),
    ("definitions", .obj [
      ("Body_upload_photo_api_projects_photos_post", .obj [("type", .str "object")]),
      ("body_upload_photo_post", .obj [("type", .str "object")]),
      ("lead_out", .obj [("type", .str "object")]), ("LeadOut", .obj [("type", .str "object")])])]

/-- The classification of these types, without name patterns. -/
def photoDomains : DomainMap :=
  (classify (normalize photoTypes).value.types (normalize photoTypes).value.routes [] "api").value

theorem photoTypes_aliases_owned :
    photoDomains.types.entries = [("Body_upload_photo_api_projects_photos_post", "projects"),
      ("body_upload_photo_post", "uncategorized"), ("lead_out", "uncategorized"),
      ("LeadOut", "leads")] ∧
    photoDomains.aliases.entries = [("BodyUploadPhotoPost", "projects")] ∧
    photoDomains.typeDomain "LeadOut" = "leads" ∧
    photoDomains.AliasesOwned (normalize photoTypes).value.types.keys "api" := by
  have htypes : photoDomains.types.entries =
      [("Body_upload_photo_api_projects_photos_post", "projects"),
        ("body_upload_photo_post", "uncategorized"), ("lead_out", "uncategorized"),
        ("LeadOut", "leads")] := by
    decide +kernel
  have haliases : photoDomains.aliases.entries = [("BodyUploadPhotoPost", "projects")] := by
    show (cleanedAliases "api" photoDomains.types).entries = _
    simp only [cleanedAliases, Dict.contains, Dict.get?, htypes]
    decide +kernel
  have hdomain : photoDomains.typeDomain "LeadOut" = "leads" := by
    simp only [DomainMap.typeDomain, Dict.get?, htypes]
    rfl
  exact ⟨htypes, haliases, hdomain, (aliases_owned _ _ [] "api").2⟩

end ClientGen
