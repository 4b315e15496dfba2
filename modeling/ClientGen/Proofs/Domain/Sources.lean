import ClientGen.Proofs.Domain.Evidence
import Mathlib.Logic.Relation

/-!
# Sources of domains

The passes hand domains on in two ways only: a type that refers to another gives it its domain, and
a type gives it to the wrappers of its name or of a name that its own ends in. Behind the domain of
every type there is a chain of such steps, and at its start a declared type that an operation or a
pattern gives the domain.
-/

namespace ClientGen
open Api Text

/-- The first tag of some operation that mentions the type, or the name patterns, give the type the
domain. -/
def Evident (routes : List Route) (rules : List DomainRule) (name domain : String) : Prop :=
  (∃ route ∈ routes, ∃ entry ∈ route.operations, Places entry.2 name ∧
    entry.2.tags.head?.map normalizeTag = some domain) ∨
  domainByName? rules name = some domain

/-- A declared type may give its domain to another one: it refers to it, or the other is a wrapper
of its name or of an ending of its name. -/
inductive HandsOn (types : Dict Json) (giver taker : String) : Prop where
  | refers {schema : Json} : types.get? giver = some schema →
      taker ∈ collectReferences schema → taker ∈ types.keys → HandsOn types giver taker
  | wraps {schema : Json} {wrapped : String} : giver ∈ types.keys →
      types.get? taker = some schema → wrappedType? schema = some wrapped →
      giver = wrapped ∨ wrapped.toList <:+ giver.toList → HandsOn types giver taker

def HasSource (types : Dict Json) (routes : List Route) (rules : List DomainRule)
    (name domain : String) : Prop :=
  ∃ source ∈ types.keys, Evident routes rules source domain ∧
    Relation.ReflTransGen (HandsOn types) source name

def Sourced (types : Dict Json) (routes : List Route) (rules : List DomainRule)
    (assigned : Dict String) : Prop :=
  ∀ name domain, assigned.get? name = some domain → domain ≠ uncategorized →
    HasSource types routes rules name domain

section
variable {types : Dict Json} {routes : List Route} {rules : List DomainRule}
  {assigned : Dict String} {name domain : String}

theorem HandsOn.taker_mem {giver taker : String} (h : HandsOn types giver taker) :
    taker ∈ types.keys := by
  cases h with
  | refers _ _ htaker => exact htaker
  | wraps _ hget _ _ => exact List.mem_map_of_mem (f := Prod.fst) (Dict.mem_of_get? hget)

theorem HasSource.of_evident (hname : name ∈ types.keys) (h : Evident routes rules name domain) :
    HasSource types routes rules name domain :=
  ⟨name, hname, h, .refl⟩

theorem HasSource.handOn {taker : String} (h : HasSource types routes rules name domain)
    (hstep : HandsOn types name taker) : HasSource types routes rules taker domain := by
  obtain ⟨source, hsource, hevident, hchain⟩ := h
  exact ⟨source, hsource, hevident, hchain.tail hstep⟩

theorem HasSource.mem_keys (h : HasSource types routes rules name domain) :
    name ∈ types.keys := by
  obtain ⟨source, hsource, _, hchain⟩ := h
  cases hchain with
  | refl => exact hsource
  | tail _ hstep => exact hstep.taker_mem

theorem evident_of_directTag? (h : directTag? routes name = some domain) :
    Evident routes rules name domain := by
  obtain ⟨operation, hoperation, htag⟩ := List.exists_of_findSome?_eq_some h
  obtain ⟨route, hroute, hmapped⟩ := List.mem_flatMap.1 hoperation
  obtain ⟨entry, hentry, rfl⟩ := List.mem_map.1 hmapped
  have hplaces : Places entry.2 name := by
    by_contra hnot
    rw [tagFor?_of_not_places hnot] at htag
    cases htag
  obtain ⟨tag, htags⟩ := Option.isSome_iff_exists.1 (List.isSome_head?.2 hplaces.1)
  refine .inl ⟨route, hroute, entry, hentry, hplaces, ?_⟩
  rw [htags, ← htag, tagFor?_of_places hplaces htags, Option.map_some]

/-- Evidence is a source, and a step leads on from the source of the type that hands its domain
on. -/
theorem inherited_hasSource : Inherited routes rules types fun name domain =>
    domain ≠ uncategorized → HasSource types routes rules name domain where
  nowhere _ hne := absurd rfl hne
  tagged _ hname _ htag _ := .of_evident hname (evident_of_directTag? htag)
  named _ hname _ hnamed _ := .of_evident hname (.inr hnamed)
  wrapped giver taker domain wrapped schema hgiver hne hget hwraps hends _ := by
    have hsource := hgiver hne
    exact hsource.handOn (.wraps hsource.mem_keys hget hwraps hends)
  referred giver taker domain schema hgiver hne hget href htaker _ :=
    (hgiver hne).handOn (.refers hget href htaker)

theorem sourced_firstDomains : Sourced types routes rules (firstDomains routes rules types) :=
  inherited_hasSource.firstDomains

theorem Sourced.adoptFor (h : Sourced types routes rules assigned) (rounds : Nat) :
    Sourced types routes rules (adoptFor (referenceTable types) rounds assigned) :=
  Assigned.adoptFor h inherited_hasSource.referred rounds

end

/-- No domain is made up: behind the domain of every declared type there is a chain of references
and wrappers, from a declared type that a tagged operation or a pattern gives the domain. -/
theorem domains_have_sources (types : Dict Json) (routes : List Route) (rules : List DomainRule)
    (basePath : String) {name : String} (hname : name ∈ types.keys)
    (hplaced : (classify types routes rules basePath).value.typeDomain name ≠ uncategorized) :
    ∃ source ∈ types.keys,
      Evident routes rules source
        ((classify types routes rules basePath).value.typeDomain name) ∧
      Relation.ReflTransGen (HandsOn types) source name := by
  have hsourced : Sourced types routes rules
      (adoptFor (referenceTable types) adoptionRounds (firstDomains routes rules types)) :=
    sourced_firstDomains.adoptFor adoptionRounds
  rw [typeDomain_classify types routes rules basePath hname] at hplaced ⊢
  obtain ⟨domain, hget, hne⟩ := placed_getD.1 hplaced
  rw [hget, Option.getD_some]
  exact hsourced name domain hget hne

/-- A page whose name wraps that of a lead, which is declared with more in front of its name. -/
def leadPages : Json :=
  .obj [
    ("definitions", .obj [
      ("Cursor", .obj [("properties", .obj [])]),
      ("LeadPage", .obj [("properties", .obj [
        ("results", .obj [("items", .obj [("$ref", .str "#/definitions/Lead")])]),
        ("next", .obj [("$ref", .str "#/definitions/Cursor")])])]),
      ("CrmLead", .obj [("properties", .obj [])])]),
    ("paths", .obj [("/api/leads", .obj [("get", .obj [
      ("tags", .arr [.str "Lead Management"]),
      ("responses", .obj [("200", .obj [
        ("schema", .obj [("$ref", .str "#/definitions/CrmLead")])])])])])])]

def leadPagesRead : Normalized := (normalize leadPages).value

/-- The domain goes from the lead to the page by its name, and from there to the cursor. -/
theorem leadPages_have_sources :
    "Cursor" ∈ leadPagesRead.types.keys ∧
    (classify leadPagesRead.types leadPagesRead.routes [] "api").value.typeDomain "Cursor" =
      "lead-management" ∧
    ∃ source ∈ leadPagesRead.types.keys,
      Evident leadPagesRead.routes [] source "lead-management" ∧
      Relation.ReflTransGen (HandsOn leadPagesRead.types) source "Cursor" := by
  have hcursor : "Cursor" ∈ leadPagesRead.types.keys := by decide +kernel
  have hdomain : (classify leadPagesRead.types leadPagesRead.routes [] "api").value.typeDomain
      "Cursor" = "lead-management" := by decide +kernel
  have hsource := domains_have_sources leadPagesRead.types leadPagesRead.routes [] "api" hcursor
  rw [hdomain] at hsource
  exact ⟨hcursor, hdomain, hsource (by decide)⟩

end ClientGen
