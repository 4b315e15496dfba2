import ClientGen.Proofs.Api.Methods
import ClientGen.Proofs.Domain.Adoption

/-!
# Direct evidence decides

A tagged operation that mentions a type places it, and of several such operations the first one
counts. What it says stands whatever else the passes find. Where there is no such operation, a name
pattern decides for a type that wraps nothing.
-/

namespace ClientGen
open Api Text

/-- An operation that places a type has a tag and a schema that mentions the type. -/
def Places (operation : Operation) (name : String) : Prop :=
  operation.tags ≠ [] ∧ ∃ schema ∈ operation.schemas, mentions schema name

instance (operation : Operation) (name : String) : Decidable (Places operation name) :=
  inferInstanceAs (Decidable (operation.tags ≠ [] ∧
    ∃ schema ∈ operation.schemas, mentions schema name))

/-- The operation places the type, and none of an earlier path or an earlier method of its own path
does. -/
def PlacesFirst (routes : List Route) (operation : Operation) (name : String) : Prop :=
  ∃ earlier route later before method after,
    routes = earlier ++ route :: later ∧
    route.operations = before ++ (method, operation) :: after ∧
    Places operation name ∧
    (∀ other ∈ earlier, ∀ entry ∈ other.operations, ¬ Places entry.2 name) ∧
    ∀ entry ∈ before, ¬ Places entry.2 name

theorem tagFor?_of_places {operation : Operation} {name tag : String}
    (h : Places operation name) (htag : operation.tags.head? = some tag) :
    tagFor? name operation = some (normalizeTag tag) := by
  obtain ⟨_, schema, hschema, hmentions⟩ := h
  have hany : operation.schemas.any fun schema => mentions schema name :=
    List.any_eq_true.2 ⟨schema, hschema, hmentions⟩
  obtain ⟨rest, htags⟩ := List.head?_eq_some_iff.1 htag
  rw [tagFor?, htags]
  dsimp only
  rw [if_pos hany]

theorem tagFor?_of_not_places {operation : Operation} {name : String}
    (h : ¬ Places operation name) : tagFor? name operation = none := by
  unfold tagFor?
  split
  · rfl
  · rename_i tag rest htags
    split
    · rename_i hany
      obtain ⟨schema, hschema, hmentions⟩ := List.any_eq_true.1 hany
      refine absurd ⟨?_, schema, hschema, hmentions⟩ h
      rw [htags]
      exact List.cons_ne_nil _ _
    · rfl

theorem directTag?_of_placesFirst {routes : List Route} {operation : Operation}
    {name tag : String} (h : PlacesFirst routes operation name)
    (htag : operation.tags.head? = some tag) :
    directTag? routes name = some (normalizeTag tag) := by
  obtain ⟨earlier, route, later, before, method, after, hroutes, hoperations, hplaces, hearlier,
    hbefore⟩ := h
  refine List.findSome?_eq_some_iff.2 ⟨allOperations earlier ++ before.map Prod.snd, operation,
    after.map Prod.snd ++ allOperations later, ?_, tagFor?_of_places hplaces htag, ?_⟩
  · simp [allOperations, hroutes, hoperations]
  · intro other hother
    apply tagFor?_of_not_places
    rcases List.mem_append.1 hother with hother | hother
    · obtain ⟨otherRoute, hroute, hoperation⟩ := List.mem_flatMap.1 hother
      obtain ⟨entry, hentry, rfl⟩ := List.mem_map.1 hoperation
      exact hearlier otherRoute hroute entry hentry
    · obtain ⟨entry, hentry, rfl⟩ := List.mem_map.1 hother
      exact hbefore entry hentry

theorem directTag?_eq_none {routes : List Route} {name : String}
    (h : ∀ route ∈ routes, ∀ entry ∈ route.operations, ¬ Places entry.2 name) :
    directTag? routes name = none := by
  refine List.findSome?_eq_none_iff.2 fun operation hoperation => tagFor?_of_not_places ?_
  obtain ⟨route, hroute, hmapped⟩ := List.mem_flatMap.1 hoperation
  obtain ⟨entry, hentry, rfl⟩ := List.mem_map.1 hmapped
  exact h route hroute entry hentry

/-- A domain from the first two passes stands to the end. -/
theorem typeDomain_of_firstDomain {types : Dict Json} {routes : List Route}
    {rules : List DomainRule} (basePath : String) {name domain : String}
    (hname : name ∈ types.keys) (h : (firstDomains routes rules types).get? name = some domain)
    (hne : domain ≠ uncategorized) :
    (classify types routes rules basePath).value.typeDomain name = domain := by
  rw [typeDomain_classify types routes rules basePath hname,
    get?_adoptFor_of_placed h hne adoptionRounds]
  rfl

/-- The first tagged operation that mentions a declared type decides on its domain, whether or not
the type is a wrapper. Where there is none, the name patterns decide on a type that wraps nothing.
The operations of every path of a document are in the order of the methods. -/
theorem direct_evidence_decides (types : Dict Json) (routes : List Route)
    (rules : List DomainRule) (basePath : String) {name : String} (hname : name ∈ types.keys) :
    (∀ operation tag, PlacesFirst routes operation name → operation.tags.head? = some tag →
      normalizeTag tag ≠ uncategorized →
      (classify types routes rules basePath).value.typeDomain name = normalizeTag tag) ∧
    ((∀ route ∈ routes, ∀ entry ∈ route.operations, ¬ Places entry.2 name) →
      ∀ schema domain, types.get? name = some schema → wrappedType? schema = none →
      domainByName? rules name = some domain → domain ≠ uncategorized →
      (classify types routes rules basePath).value.typeDomain name = domain) ∧
    ∀ document, ∀ route ∈ (normalize document).value.routes,
      (route.operations.map Prod.fst).Sublist [.get, .post, .put, .patch, .delete] := by
  refine ⟨?_, ?_, fun document route hroute => operations_in_order hroute⟩
  · intro operation tag hfirst htag hne
    have hdirect := directTag?_of_placesFirst hfirst htag
    exact typeDomain_of_firstDomain basePath hname (get?_firstDomains_of_tag hname hdirect) hne
  · intro hnone schema domain hschema hplain hdomain hne
    have hfirst : (firstDomains routes rules types).get? name = some domain := by
      rw [get?_firstDomains_of_plain hschema hplain, directDomain, directTag?_eq_none hnone,
        hdomain]
      rfl
    exact typeDomain_of_firstDomain basePath hname hfirst hne

/-- A page that is mentioned by an operation without tags and then by one with a tag of its own, and
a plan that only its name places. -/
def memberPages : Json :=
  .obj [
    ("definitions", .obj [
      ("MemberPage", .obj [("properties", .obj [("data", .obj [
        ("items", .obj [("$ref", .str "#/definitions/Member")])])])]),
      ("Member", .obj [("properties", .obj [])]),
      ("BillingPlan", .obj [("properties", .obj [])])]),
    ("paths", .obj [
      ("/api/pages", .obj [("get", .obj [("responses", .obj [
        ("200", .obj [("schema", .obj [("$ref", .str "#/definitions/MemberPage")])])])])]),
      ("/api/members", .obj [("get", .obj [
        ("tags", .arr [.str "Reports"]),
        ("responses", .obj [
          ("200", .obj [("schema", .obj [("$ref", .str "#/definitions/MemberPage")])])])])])])]

def memberPagesRead : Normalized := (normalize memberPages).value

/-- A pattern for the names that start with `Billing`. -/
def billingRules : List DomainRule :=
  ((readDomainPatterns [⟨"^Billing", "Billing Ops"⟩]).toOption).getD []

def memberReport : Operation where
  operationId := none
  summary := none
  tags := ["Reports"]
  parameters := []
  body := none
  responses := .ofList [("200", some (.obj [("$ref", .str "#/definitions/MemberPage")]))]

theorem memberReport_placesFirst :
    PlacesFirst memberPagesRead.routes memberReport "MemberPage" := by
  have hearlier : ∀ other ∈ memberPagesRead.routes.take 1, ∀ entry ∈ other.operations,
      ¬ Places entry.2 "MemberPage" := by decide +kernel
  exact ⟨memberPagesRead.routes.take 1, ⟨"/api/members", [(.get, memberReport)]⟩, [], [], .get, [],
    rfl, rfl, by decide +kernel, hearlier, List.forall_mem_nil _⟩

theorem memberPages_decided :
    "MemberPage" ∈ memberPagesRead.types.keys ∧ "BillingPlan" ∈ memberPagesRead.types.keys ∧
    PlacesFirst memberPagesRead.routes memberReport "MemberPage" ∧
    (classify memberPagesRead.types memberPagesRead.routes billingRules
      "api").value.typeDomain "MemberPage" = "reports" ∧
    (classify memberPagesRead.types memberPagesRead.routes billingRules
      "api").value.typeDomain "BillingPlan" = "billing-ops" := by
  have hpage : "MemberPage" ∈ memberPagesRead.types.keys := by decide +kernel
  have hplan : "BillingPlan" ∈ memberPagesRead.types.keys := by decide +kernel
  have hnone : ∀ route ∈ memberPagesRead.routes, ∀ entry ∈ route.operations,
      ¬ Places entry.2 "BillingPlan" := by decide +kernel
  have hnormalized : normalizeTag "Reports" = "reports" := by decide +kernel
  refine ⟨hpage, hplan, memberReport_placesFirst, ?_, ?_⟩
  · have hdecided := (direct_evidence_decides memberPagesRead.types memberPagesRead.routes
      billingRules "api" hpage).1 memberReport "Reports" memberReport_placesFirst rfl
    rw [hnormalized] at hdecided
    exact hdecided (by decide)
  · exact (direct_evidence_decides memberPagesRead.types memberPagesRead.routes
      billingRules "api" hplan).2.1 hnone _ "billing-ops" rfl (by decide +kernel)
      (by decide +kernel) (by decide)

end ClientGen
