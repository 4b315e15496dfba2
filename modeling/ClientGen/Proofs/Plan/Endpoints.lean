import ClientGen.Proofs.Dict
import ClientGen.Proofs.Endpoint.UniqueNames
import ClientGen.Proofs.Outcome
import ClientGen.Proofs.Plan.Groups
import ClientGen.Proofs.Related

/-!
# The endpoints of a plan

A plan has one endpoint for every operation of its document. Grouping takes the operations out of
their order, but loses none and adds none, and each is planned under a name of its group.
-/

namespace ClientGen
open Api

/-- The operations of a document as they are read: the methods of its paths. -/
def readEntries (document : Json) : List Entry :=
  (normalize document).value.routes.flatMap Route.entries

/-- The endpoints that a document declares, one for each method on each path. -/
def sourceEntries (document : Json) : List Entry := callEntries (normalize document).value.routes

theorem mem_readEntries_of_mem {document : Json} {entry : Entry}
    (h : entry ∈ sourceEntries document) : entry ∈ readEntries document :=
  mem_of_mem_keyed h

theorem perm_sourceGroups (document : Json) (config : Config) :
    ((sourceGroups document config).flatMap (·.entries)).Perm (sourceEntries document) :=
  perm_groupRoutes _ _

theorem map_planned_endpoints {scope : Scope} {domains : DomainMap} {basePath : String}
    {source : Group} {α : Type} {read : Endpoint → α} {readEntry : Entry → α}
    (h : ∀ tag name entry,
      read (planEndpoint scope basePath tag name entry).value = readEntry entry) :
    (planGroup scope domains basePath source).value.endpoints.map read =
      source.entries.map readEntry := by
  have hlength : source.entries.length ≤ (source.names basePath).length :=
    Nat.le_of_eq (source.length_names basePath).symm
  have hzip := List.map_fst_zip hlength
  rw [planGroup_value, List.map_map]
  conv_rhs => rw [← hzip, List.map_map]
  exact List.map_congr_left fun entry _ => h _ _ _

/-- An endpoint serves an entry: it is what the entry is planned as, under some name and tag. -/
def Plan.Serves (planned : Plan) (config : Config) (entry : Entry) (endpoint : Endpoint) : Prop :=
  ∃ tag name,
    endpoint = (planEndpoint planned.catalog.scope config.trimmedBase tag name entry).value

/-- The endpoints of a plan serve the operations of the document, one each, and every one stands
to its operation as a relation says. -/
def Plan.ServesEach (planned : Plan) (document : Json) (config : Config)
    (R : Entry → Endpoint → Prop) : Prop :=
  ∃ entries, entries.Perm (sourceEntries document) ∧
    List.Forall₂ (fun entry endpoint => planned.Serves config entry endpoint ∧ R entry endpoint)
      entries planned.endpoints

theorem Plan.ServesEach.exists_endpoint {planned : Plan} {document : Json} {config : Config}
    {R : Entry → Endpoint → Prop} (h : planned.ServesEach document config R) {entry : Entry}
    (hentry : entry ∈ sourceEntries document) :
    ∃ endpoint ∈ planned.endpoints, planned.Serves config entry endpoint ∧ R entry endpoint := by
  obtain ⟨entries, hperm, hall⟩ := h
  exact exists_right_of_mem hall (hperm.mem_iff.2 hentry)

theorem Plan.ServesEach.exists_entry {planned : Plan} {document : Json} {config : Config}
    {R : Entry → Endpoint → Prop} (h : planned.ServesEach document config R) {endpoint : Endpoint}
    (hendpoint : endpoint ∈ planned.endpoints) :
    ∃ entry ∈ sourceEntries document, planned.Serves config entry endpoint ∧ R entry endpoint := by
  obtain ⟨entries, hperm, hall⟩ := h
  obtain ⟨entry, hentry, hserves⟩ := exists_left_of_mem hall hendpoint
  exact ⟨entry, hperm.mem_iff.1 hentry, hserves⟩

theorem forall₂_planGroup (scope : Scope) (domains : DomainMap) (basePath : String)
    (group : Group) :
    List.Forall₂ (fun entry endpoint => ∃ tag name,
        endpoint = (planEndpoint scope basePath tag name entry).value)
      group.entries (planGroup scope domains basePath group).value.endpoints := by
  have hlength : group.entries.length ≤ (group.names basePath).length :=
    Nat.le_of_eq (group.length_names basePath).symm
  rw [planGroup_value]
  nth_rewrite 1 [← List.map_fst_zip hlength]
  rw [List.forall₂_map_left_iff, List.forall₂_map_right_iff, List.forall₂_same]
  exact fun entry _ => ⟨_, entry.2, rfl⟩

/-- What relates every entry to what it is planned as, relates the operations of a document to the
endpoints of its plan. -/
theorem servesEach {document : Json} {config : Config} {planned : Plan}
    (hplan : plan document config = .ok planned) {R : Entry → Endpoint → Prop}
    (hR : ∀ entry endpoint, planned.Serves config entry endpoint → R entry endpoint) :
    planned.ServesEach document config R := by
  refine ⟨_, perm_sourceGroups document config, ?_⟩
  rw [Plan.endpoints, plan_groups hplan, List.flatMap_map]
  refine forall₂_flatMap fun group _ => ?_
  refine (forall₂_planGroup _ planned.domains config.trimmedBase group).imp ?_
  exact fun entry endpoint hserves => ⟨hserves, hR entry endpoint hserves⟩

end ClientGen
