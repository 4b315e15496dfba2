import ClientGen.Proofs.Endpoint.UniqueNames
import ClientGen.Proofs.Plan.Types
import ClientGen.Proofs.Schema.Nodes

/-!
# References of a plan

The references of an endpoint are those of its compiled response, and those of an interface are
the ones of the compiled schemas behind its fields. Nothing is lost where repeated references are
dropped, and every reference leads where the scope says.
-/

namespace ClientGen
open Api

/-- The resolved reference nodes of the compiled response of an endpoint. -/
def Entry.responseNodes (scope : Scope) (entry : Entry) : List Reference :=
  match entry.operation.successSchema? with
  | none => []
  | some raw =>
    (compileSchema scope raw (site entry.method entry.path ++ " response")).value.resolvedNodes

theorem mem_response_references {scope : Scope} {basePath tag name : String} {entry : Entry}
    {reference : Reference} :
    reference ∈ (planEndpoint scope basePath tag name entry).value.references ↔
      reference ∈ entry.responseNodes scope := by
  have hreferences : (planEndpoint scope basePath tag name entry).value.references =
      (compileResponse scope entry).value.2 := by
    simp [planEndpoint]
  rw [hreferences]
  unfold compileResponse Entry.responseNodes
  cases entry.operation.successSchema? with
  | none => rfl
  | some raw => exact ⟨mem_resolvedNodes_of_mem_references, mem_references_of_mem_resolvedNodes⟩

theorem inScope_of_mem_responseNodes {scope : Scope} {entry : Entry} {node : Reference}
    (h : node ∈ entry.responseNodes scope) : InScope scope node := by
  unfold Entry.responseNodes at h
  split at h
  · exact absurd h List.not_mem_nil
  · exact inScope_of_mem_resolvedNodes h

/-- The candidates behind the fields of an endpoint's interface. -/
def fieldCandidates (scope : Scope) (entry : Entry) : List Candidate :=
  let place := site entry.method entry.path
  keepFirst ((Traced.each (compileParameter scope place) (orderedParameters entry.operation)).value
    ++ (compileBody scope place entry.operation).value)

/-- The resolved reference nodes of the schemas behind the fields of an endpoint's interface. -/
def Entry.fieldNodes (scope : Scope) (entry : Entry) : List Reference :=
  (fieldCandidates scope entry).flatMap fun c => c.schema.resolvedNodes

theorem synthesize_value (scope : Scope) (basePath : String) (entry : Entry) :
    (synthesize scope basePath entry).value =
      if (fieldCandidates scope entry).isEmpty then none
      else some {
        name := interfaceName entry.path entry.method basePath
        fields := (fieldCandidates scope entry).map Candidate.field
        references := distinctReferences
          ((fieldCandidates scope entry).flatMap fun c => c.schema.references) } := rfl

theorem keepFirst_eq (candidates : List Candidate) :
    keepFirst candidates = firstOccurrences (·.name) candidates := rfl

theorem exists_compiled_of_mem_fieldCandidates {scope : Scope} {entry : Entry} {c : Candidate}
    (h : c ∈ fieldCandidates scope entry) :
    ∃ raw location, c.schema = (compileSchema scope raw location).value := by
  unfold fieldCandidates at h
  rw [keepFirst_eq] at h
  rcases List.mem_append.1 (mem_of_mem_firstOccurrences h) with h | h
  · rw [Traced.value_each] at h
    obtain ⟨p, _, rfl⟩ := List.mem_map.1 h
    exact ⟨p.schema, _, rfl⟩
  · unfold compileBody at h
    split at h
    · exact absurd h List.not_mem_nil
    · split at h
      · exact absurd h List.not_mem_nil
      · split at h
        · exact absurd h List.not_mem_nil
        · rename_i raw _ _
          refine ⟨raw, site entry.method entry.path ++ " body", ?_⟩
          rw [List.mem_singleton.1 h]

theorem distinctReferences_eq (references : List Reference) :
    distinctReferences references = firstOccurrences id references := by
  have hstep : (fun (found : List Reference) r =>
      if found.contains r then found else found ++ [r]) = keepNew id := by
    funext found r
    exact if_congr (by simp) rfl rfl
  rw [distinctReferences, hstep, firstOccurrences]

theorem mem_distinctReferences {references : List Reference} {reference : Reference} :
    reference ∈ distinctReferences references ↔ reference ∈ references := by
  rw [distinctReferences_eq]
  constructor
  · exact mem_of_mem_firstOccurrences
  · intro h
    have hfirst : ∃ first ∈ firstOccurrences id references, first = reference :=
      exists_mem_firstOccurrences id h
    obtain ⟨first, hfirst, rfl⟩ := hfirst
    exact hfirst

theorem mem_fieldNodes {scope : Scope} {entry : Entry} {reference : Reference} :
    reference ∈ (fieldCandidates scope entry).flatMap (fun c => c.schema.references) ↔
      reference ∈ entry.fieldNodes scope := by
  rw [Entry.fieldNodes, List.mem_flatMap, List.mem_flatMap]
  constructor
  · rintro ⟨c, hc, h⟩
    exact ⟨c, hc, mem_resolvedNodes_of_mem_references h⟩
  · rintro ⟨c, hc, h⟩
    obtain ⟨raw, location, hschema⟩ := exists_compiled_of_mem_fieldCandidates hc
    rw [hschema] at h
    exact ⟨c, hc, hschema ▸ mem_references_of_mem_resolvedNodes h⟩

theorem inScope_of_mem_fieldNodes {scope : Scope} {entry : Entry} {node : Reference}
    (h : node ∈ entry.fieldNodes scope) : InScope scope node := by
  obtain ⟨c, hc, hnode⟩ := List.mem_flatMap.1 h
  obtain ⟨raw, location, hschema⟩ := exists_compiled_of_mem_fieldCandidates hc
  rw [hschema] at hnode
  exact inScope_of_mem_resolvedNodes hnode

theorem mem_interface_references {scope : Scope} {basePath : String} {entry : Entry}
    {reference : Reference} :
    (∃ interface, (synthesize scope basePath entry).value = some interface ∧
      reference ∈ interface.references) ↔ reference ∈ entry.fieldNodes scope := by
  rw [synthesize_value]
  split
  · rename_i hempty
    simp [Entry.fieldNodes, List.isEmpty_iff.1 hempty]
  · simp [mem_distinctReferences, ← mem_fieldNodes]

def Group.responseNodes (scope : Scope) (group : Group) : List Reference :=
  group.entries.flatMap (Entry.responseNodes scope)

/-- The resolved reference nodes of the schemas behind the parameters of a group. -/
def Group.fieldNodes (scope : Scope) (group : Group) : List Reference :=
  group.entries.flatMap (Entry.fieldNodes scope)

section
variable {scope : Scope} {domains : DomainMap} {basePath : String} {group : Group}

theorem mem_planned_endpoints {endpoint : Endpoint} :
    endpoint ∈ (planGroup scope domains basePath group).value.endpoints ↔
      ∃ entry name, (entry, name) ∈ group.entries.zip (group.names basePath) ∧
        endpoint = (planEndpoint scope basePath (cacheTag group.key) name entry).value := by
  rw [planGroup_value]
  simp only [List.mem_map, Prod.exists]
  constructor
  · rintro ⟨entry, name, hentry, rfl⟩
    exact ⟨entry, name, hentry, rfl⟩
  · rintro ⟨entry, name, hentry, rfl⟩
    exact ⟨entry, name, hentry, rfl⟩

theorem exists_name_of_mem_entries {entry : Entry} (h : entry ∈ group.entries) :
    ∃ name, (entry, name) ∈ group.entries.zip (group.names basePath) := by
  have hlength : group.entries.length ≤ (group.names basePath).length :=
    Nat.le_of_eq (group.length_names basePath).symm
  rw [← List.map_fst_zip hlength] at h
  obtain ⟨⟨_, name⟩, hentry, rfl⟩ := List.mem_map.1 h
  exact ⟨name, hentry⟩

theorem mem_responseReferences {reference : Reference} :
    reference ∈ (planGroup scope domains basePath group).value.responseReferences ↔
      reference ∈ group.responseNodes scope := by
  rw [PlannedGroup.responseReferences, Group.responseNodes, List.mem_flatMap, List.mem_flatMap]
  constructor
  · rintro ⟨endpoint, hendpoint, h⟩
    obtain ⟨entry, name, hentry, rfl⟩ := mem_planned_endpoints.1 hendpoint
    exact ⟨entry, (List.of_mem_zip hentry).1, mem_response_references.1 h⟩
  · rintro ⟨entry, hentry, h⟩
    obtain ⟨name, hname⟩ := exists_name_of_mem_entries hentry
    exact ⟨_, mem_planned_endpoints.2 ⟨entry, name, hname, rfl⟩, mem_response_references.2 h⟩

theorem planEndpoint_interface (tag name : String) (entry : Entry) :
    (planEndpoint scope basePath tag name entry).value.interface =
      (synthesize scope basePath entry).value := by
  simp [planEndpoint]

theorem mem_parameterReferences {reference : Reference} :
    reference ∈ (planGroup scope domains basePath group).value.parameterReferences ↔
      reference ∈ group.fieldNodes scope := by
  rw [PlannedGroup.parameterReferences, mem_distinctReferences, Group.fieldNodes,
    List.mem_flatMap, List.mem_flatMap]
  constructor
  · rintro ⟨interface, hinterface, h⟩
    obtain ⟨endpoint, hendpoint, hsome⟩ := List.mem_filterMap.1 hinterface
    obtain ⟨entry, name, hentry, rfl⟩ := mem_planned_endpoints.1 hendpoint
    rw [planEndpoint_interface] at hsome
    exact ⟨entry, (List.of_mem_zip hentry).1, mem_interface_references.1 ⟨interface, hsome, h⟩⟩
  · rintro ⟨entry, hentry, h⟩
    obtain ⟨name, hname⟩ := exists_name_of_mem_entries hentry
    obtain ⟨interface, hsome, hreference⟩ := mem_interface_references.2 h
    refine ⟨interface, List.mem_filterMap.2 ⟨_, mem_planned_endpoints.2
      ⟨entry, name, hname, rfl⟩, ?_⟩, hreference⟩
    rw [planEndpoint_interface]
    exact hsome

theorem inScope_of_mem_responseReferences {reference : Reference}
    (h : reference ∈ (planGroup scope domains basePath group).value.responseReferences) :
    InScope scope reference := by
  obtain ⟨entry, _, hnode⟩ := List.mem_flatMap.1 (mem_responseReferences.1 h)
  exact inScope_of_mem_responseNodes hnode

theorem inScope_of_mem_parameterReferences {reference : Reference}
    (h : reference ∈ (planGroup scope domains basePath group).value.parameterReferences) :
    InScope scope reference := by
  obtain ⟨entry, _, hnode⟩ := List.mem_flatMap.1 (mem_parameterReferences.1 h)
  exact inScope_of_mem_fieldNodes hnode

end

end ClientGen
