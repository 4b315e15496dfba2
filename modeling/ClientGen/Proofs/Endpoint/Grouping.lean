import ClientGen.Endpoint.Group
import ClientGen.Proofs.Dict
import ClientGen.Proofs.FirstOccurrence

/-!
# Grouping routes

Routes are put into their groups one by one. What comes out is said without the steps: there is one
group for each key, in the order of the first routes of the keys, and it has the endpoints with that
key out of all endpoints. These are kept by path and method, and are simply those of the routes one
after the other where no route repeats a path and a method.
-/

namespace ClientGen
open Api

def routeKey (depth : Nat) (route : Route) : String := groupKey route.path depth

/-- The endpoints of some routes. One that repeats the method and the path of another replaces it
in its place. -/
def callEntries (routes : List Route) : List Entry :=
  keyed Entry.call (routes.flatMap Route.entries)

def entriesOf (depth : Nat) (routes : List Route) (key : String) : List Entry :=
  (callEntries routes).filter fun entry => groupKey entry.path depth = key

theorem path_of_mem_entries {route : Route} {entry : Entry} (h : entry ∈ route.entries) :
    entry.path = route.path := by
  obtain ⟨_, -, rfl⟩ := List.mem_map.1 h
  rfl

theorem exists_route_of_mem_callEntries {routes : List Route} {entry : Entry}
    (h : entry ∈ callEntries routes) : ∃ route ∈ routes, entry ∈ route.entries :=
  List.mem_flatMap.1 (mem_of_mem_keyed h)

theorem nodup_calls_callEntries (routes : List Route) :
    ((callEntries routes).map Entry.call).Nodup :=
  nodup_keys_keyed _

theorem callEntries_of_nodup {routes : List Route}
    (h : ((routes.flatMap Route.entries).map Entry.call).Nodup) :
    callEntries routes = routes.flatMap Route.entries :=
  keyed_of_nodup h

theorem keys_insert_eq (groups : Dict (List Entry)) (key : String) (entries : List Entry) :
    (groups.insert key entries).keys = keepNew id groups.keys key := by
  unfold keepNew
  split
  · rename_i hold
    have hkey : key ∈ groups.keys := by simpa using any_key_iff.1 hold
    exact Dict.keys_insert_of_mem hkey entries
  · rename_i hnew
    have hkey : key ∉ groups.keys := fun hkey => hnew (any_key_iff.2 (by simpa using hkey))
    exact Dict.keys_insert_of_not_mem hkey entries

theorem keys_grouped (depth : Nat) (routes : List Route) :
    (routes.foldl (addRoute depth) .empty).keys =
      firstOccurrences id (routes.map (routeKey depth)) := by
  -- on the routes from the last one: it adds its key unless an earlier one has
  induction routes using List.reverseRecOn with
  | nil => rfl
  | append_singleton routes route ih =>
    rw [List.foldl_append, List.map_append, List.map_singleton, firstOccurrences_concat, ← ih]
    exact keys_insert_eq _ _ _

theorem entriesOf_concat (depth : Nat) (routes : List Route) (route : Route) (key : String) :
    entriesOf depth (routes ++ [route]) key =
      if key = routeKey depth route then
        mergeByKey Entry.call (entriesOf depth routes key) route.entries
      else entriesOf depth routes key := by
  have hmerged : callEntries (routes ++ [route]) =
      mergeByKey Entry.call (callEntries routes) route.entries := by
    rw [callEntries, List.flatMap_append, keyed_append, List.flatMap_singleton, callEntries]
  have hfilter := filter_mergeByKey Entry.call
    (fun call => decide (groupKey call.1 depth = key)) (callEntries routes) route.entries
  have hkey : ∀ entry ∈ route.entries, groupKey entry.path depth = routeKey depth route :=
    fun entry hentry => by rw [path_of_mem_entries hentry, routeKey]
  rw [entriesOf, hmerged]
  refine hfilter.trans ?_
  by_cases hsame : key = routeKey depth route
  · have hall : (route.entries.filter fun entry => groupKey entry.call.1 depth = key) =
        route.entries :=
      List.filter_eq_self.2 fun entry hentry =>
        decide_eq_true ((hkey entry hentry).trans hsame.symm)
    rw [if_pos hsame, hall]
    rfl
  · have hnone : (route.entries.filter fun entry => groupKey entry.call.1 depth = key) = [] :=
      List.filter_eq_nil_iff.2 fun entry hentry hother =>
        hsame ((of_decide_eq_true hother).symm.trans (hkey entry hentry))
    rw [if_neg hsame, hnone]
    rfl

theorem get?_grouped (depth : Nat) (routes : List Route) (key : String) :
    ((routes.foldl (addRoute depth) .empty).get? key).getD [] = entriesOf depth routes key := by
  -- on the routes from the last one: it puts its endpoints among those of its key
  induction routes using List.reverseRecOn with
  | nil => rfl
  | append_singleton routes route ih =>
    rw [entriesOf_concat, ← ih, List.foldl_append, List.foldl_cons, List.foldl_nil, addRoute,
      Dict.get?_insert, routeKey]
    by_cases hkey : key = groupKey route.path depth
    · rw [if_pos hkey, if_pos hkey, Option.getD_some, hkey]
    · rw [if_neg hkey, if_neg hkey]

theorem groupRoutes_eq (depth : Nat) (routes : List Route) :
    groupRoutes depth routes = (firstOccurrences id (routes.map (routeKey depth))).map fun key =>
      { key, entries := entriesOf depth routes key } := by
  rw [groupRoutes, Dict.entries_eq, keys_grouped, List.map_map]
  refine List.map_congr_left fun key _ => ?_
  simp only [Function.comp_apply, get?_grouped]

theorem keys_groupRoutes (depth : Nat) (routes : List Route) :
    (groupRoutes depth routes).map (·.key) =
      firstOccurrences id (routes.map (routeKey depth)) := by
  rw [groupRoutes_eq, List.map_map]
  exact List.map_id _

/-- Where routes keep their keys and calls stay apart or equal, the groups are those before, with
the endpoints changed. -/
theorem groupRoutes_map {depth depth' : Nat} {change : Route → Route} {changeEntry : Entry → Entry}
    {routes : List Route}
    (hkey : ∀ route ∈ routes, routeKey depth' (change route) = routeKey depth route)
    (hentries : ∀ route, (change route).entries = route.entries.map changeEntry)
    (hcall : ∀ a b, (changeEntry a).call = (changeEntry b).call ↔ a.call = b.call) :
    groupRoutes depth' (routes.map change) = (groupRoutes depth routes).map fun group =>
      { group with entries := group.entries.map changeEntry } := by
  have hkeys : (routes.map change).map (routeKey depth') = routes.map (routeKey depth) := by
    rw [List.map_map]
    exact List.map_congr_left hkey
  have hall : callEntries (routes.map change) = (callEntries routes).map changeEntry := by
    have hflat : (routes.map change).flatMap Route.entries =
        (routes.flatMap Route.entries).map changeEntry := by
      rw [List.flatMap_map, List.map_flatMap]
      exact List.flatMap_congr fun route _ => hentries route
    rw [callEntries, hflat, keyed_map hcall, callEntries]
  have hentryKey : ∀ entry ∈ callEntries routes,
      groupKey (changeEntry entry).path depth' = groupKey entry.path depth := by
    intro entry hentry
    obtain ⟨route, hroute, hentry⟩ := exists_route_of_mem_callEntries hentry
    have hchanged : changeEntry entry ∈ (change route).entries := by
      rw [hentries]
      exact List.mem_map_of_mem hentry
    rw [path_of_mem_entries hchanged, path_of_mem_entries hentry]
    exact hkey route hroute
  have hkept : ∀ key, entriesOf depth' (routes.map change) key =
      (entriesOf depth routes key).map changeEntry := by
    intro key
    have hfilter : (callEntries routes).filter
        ((fun entry => decide (groupKey entry.path depth' = key)) ∘ changeEntry) =
          (callEntries routes).filter fun entry => groupKey entry.path depth = key :=
      List.filter_congr fun entry hentry => by rw [Function.comp_apply, hentryKey entry hentry]
    rw [entriesOf, entriesOf, hall, List.filter_map, hfilter]
  rw [groupRoutes_eq, groupRoutes_eq, hkeys, List.map_map]
  refine List.map_congr_left fun key _ => ?_
  rw [hkept]
  rfl

theorem entries_of_mem_groupRoutes {depth : Nat} {routes : List Route} {group : Group}
    (h : group ∈ groupRoutes depth routes) : group.entries = entriesOf depth routes group.key := by
  rw [groupRoutes_eq] at h
  obtain ⟨key, _, rfl⟩ := List.mem_map.1 h
  rfl

theorem nodup_calls_of_mem_groupRoutes {depth : Nat} {routes : List Route} {group : Group}
    (h : group ∈ groupRoutes depth routes) : (group.entries.map Entry.call).Nodup := by
  rw [entries_of_mem_groupRoutes h]
  exact (nodup_calls_callEntries routes).sublist (List.filter_sublist.map _)

theorem key_of_mem_groupRoutes {depth : Nat} {routes : List Route} {group : Group}
    (hgroup : group ∈ groupRoutes depth routes) {entry : Entry} (hentry : entry ∈ group.entries) :
    group.key = groupKey entry.path depth := by
  rw [entries_of_mem_groupRoutes hgroup] at hentry
  exact (of_decide_eq_true (List.mem_filter.1 hentry).2).symm

theorem exists_route_of_mem_entries {depth : Nat} {routes : List Route} {group : Group}
    (hgroup : group ∈ groupRoutes depth routes) {entry : Entry} (hentry : entry ∈ group.entries) :
    ∃ route ∈ routes, entry ∈ route.entries := by
  rw [entries_of_mem_groupRoutes hgroup] at hentry
  exact exists_route_of_mem_callEntries (List.mem_filter.1 hentry).1

/-- Grouping takes the endpoints out of their order, but loses none and adds none. -/
theorem perm_groupRoutes (depth : Nat) (routes : List Route) :
    ((groupRoutes depth routes).flatMap (·.entries)).Perm (callEntries routes) := by
  have hkeys : (firstOccurrences id (routes.map (routeKey depth))).Nodup := by
    simpa only [List.map_id] using firstOccurrences_nodup id (routes.map (routeKey depth))
  have hcovered : ∀ entry ∈ callEntries routes,
      groupKey entry.path depth ∈ firstOccurrences id (routes.map (routeKey depth)) := by
    intro entry hentry
    obtain ⟨route, hroute, hentry⟩ := exists_route_of_mem_callEntries hentry
    rw [path_of_mem_entries hentry]
    exact mem_firstOccurrences_id (List.mem_map_of_mem hroute)
  rw [groupRoutes_eq, List.flatMap_map]
  exact perm_flatMap_filter (fun entry : Entry => groupKey entry.path depth) _ hkeys hcovered

end ClientGen
