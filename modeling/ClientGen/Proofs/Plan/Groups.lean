import ClientGen.Plan.Basic
import ClientGen.Proofs.Endpoint.Grouping
import ClientGen.Proofs.Text.Pieces

/-!
# The groups of a plan

The groups of a plan are the groups of the document's routes, planned one by one. Their keys are
pairwise distinct, and no key has a slash.
-/

namespace ClientGen
open Api

theorem groupRoutes_keys_nodup (depth : Nat) (routes : List Route) :
    ((groupRoutes depth routes).map (·.key)).Nodup := by
  rw [keys_groupRoutes]
  simpa using firstOccurrences_nodup id (routes.map (routeKey depth))

theorem slash_not_mem_groupKey (path : String) (depth : Nat) :
    '/' ∉ (groupKey path depth).toList := by
  have hfallback : '/' ∉ fallbackGroup.toList := by decide
  unfold groupKey
  split
  · exact hfallback
  · rename_i piece hpiece
    split
    · exact hfallback
    · have hmem : piece ∈ pieces path := List.mem_of_getElem? hpiece
      exact fun h => slash_not_mem_of_mem_pieces hmem (mem_of_mem_bareSegment h)

theorem groupKey_ne_empty (path : String) (depth : Nat) : groupKey path depth ≠ "" := by
  have hfallback : fallbackGroup ≠ "" := by decide
  unfold groupKey
  split
  · exact hfallback
  · split
    · exact hfallback
    · assumption

theorem groupRoutes_key (depth : Nat) (routes : List Route) (P : String → Prop)
    (hroute : ∀ route : Route, P (groupKey route.path depth)) :
    ∀ group ∈ groupRoutes depth routes, P group.key := by
  intro group hgroup
  have hkey : group.key ∈ (groupRoutes depth routes).map (·.key) := List.mem_map_of_mem hgroup
  rw [keys_groupRoutes] at hkey
  obtain ⟨route, _, hsame⟩ := List.mem_map.1 (mem_of_mem_firstOccurrences hkey)
  rw [← hsame]
  exact hroute route

/-- The routes of a document in the groups of a configuration. -/
def sourceGroups (document : Json) (config : Config) : List Group :=
  groupRoutes config.groupingDepth (normalize document).value.routes

theorem planGroup_value (scope : Scope) (domains : DomainMap) (basePath : String)
    (group : Group) :
    (planGroup scope domains basePath group).value =
      { key := group.key
        domain := groupDomain domains group
        endpoints := (group.entries.zip (group.names basePath)).map fun entry =>
          (planEndpoint scope basePath (cacheTag group.key) entry.2 entry.1).value } := by
  simp [planGroup, Traced.value_each]

theorem planWith_groups (rules : List DomainRule) (document : Json) (config : Config) :
    (planWith rules document config).groups = (sourceGroups document config).map fun group =>
      (planGroup (planWith rules document config).catalog.scope
        (planWith rules document config).domains config.trimmedBase group).value := by
  simp only [planWith, Traced.value_each]
  rfl

section
variable {document : Json} {config : Config} {planned : Plan}
  {rule? : DomainPattern → Option DomainRule} (h : plan document config rule? = .ok planned)
include h

theorem plan_ok : ∃ rules, planned = planWith rules document config := by
  unfold plan at h
  split at h
  · cases h
  · rename_i rules _
    injection h with h
    exact ⟨rules, h.symm⟩

theorem plan_groups :
    planned.groups = (sourceGroups document config).map fun group =>
      (planGroup planned.catalog.scope planned.domains config.trimmedBase group).value := by
  obtain ⟨rules, rfl⟩ := plan_ok h
  exact planWith_groups rules document config

theorem plan_keys : planned.groups.map (·.key) = (sourceGroups document config).map (·.key) := by
  rw [plan_groups h, List.map_map]
  exact List.map_congr_left fun group _ => by simp [planGroup_value]

theorem plan_keys_nodup : (planned.groups.map (·.key)).Nodup := by
  rw [plan_keys h]
  exact groupRoutes_keys_nodup _ _

theorem plan_key (P : String → Prop) (hP : ∀ path depth, P (groupKey path depth))
    {group : PlannedGroup} (hg : group ∈ planned.groups) : P group.key := by
  have hkey : group.key ∈ planned.groups.map (·.key) := List.mem_map.2 ⟨group, hg, rfl⟩
  rw [plan_keys h] at hkey
  obtain ⟨source, hsource, hsame⟩ := List.mem_map.1 hkey
  rw [← hsame]
  exact groupRoutes_key _ _ P (fun route => hP route.path _) source hsource

theorem slash_not_mem_plan_key {group : PlannedGroup} (hg : group ∈ planned.groups) :
    '/' ∉ group.key.toList :=
  plan_key h (fun key => '/' ∉ key.toList) slash_not_mem_groupKey hg

theorem plan_key_ne_empty {group : PlannedGroup} (hg : group ∈ planned.groups) :
    group.key ≠ "" :=
  plan_key h (· ≠ "") groupKey_ne_empty hg

end

end ClientGen
