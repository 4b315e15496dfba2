import ClientGen.Proofs.Endpoint.Grouping
import ClientGen.Proofs.Json.Distinct
import ClientGen.Proofs.Plan.Endpoints

/-!
# The calls of a plan

A call is a method on a path. A document declares the calls whose path item is an object with an
object under the name of the method, and its plan has exactly these, each once. They are in the
group of their path, and a group has them in the order in which the document declares them.
-/

namespace ClientGen
open Api

def Endpoint.call (endpoint : Endpoint) : Call := (endpoint.path, endpoint.method)

def Plan.calls (planned : Plan) : List Call := planned.endpoints.map Endpoint.call

/-- A document has an object for a method in the object of a path. -/
def DeclaresCall (document : Json) (path : String) (method : Method) : Prop :=
  ∃ paths item operation, document.get? "paths" = some (.obj paths) ∧ (path, .obj item) ∈ paths ∧
    item.lookup method.name = some (.obj operation)

def pathItems (document : Json) : List (String × Json) :=
  ((document.get? "paths").bind Json.members?).getD []

def declaredPaths (document : Json) : List String :=
  ((pathItems document).filter fun item => item.2.members?.isSome).map Prod.fst

/-- Whether a path item has an object for a method. -/
def hasMethod (item : Json) (method : Method) : Bool :=
  ((item.get? method.name).bind Json.members?).isSome

/-- The calls of a path item in the order of the methods. -/
def callsOfItem (item : String × Json) : List Call :=
  (Method.all.filter (hasMethod item.2)).map fun method => (item.1, method)

def declaredCalls (document : Json) : List Call := (pathItems document).flatMap callsOfItem

theorem mem_callsOfItem {item : String × Json} {call : Call} :
    call ∈ callsOfItem item ↔ call.1 = item.1 ∧ hasMethod item.2 call.2 := by
  unfold callsOfItem
  rw [List.mem_map]
  constructor
  · rintro ⟨method, hmethod, rfl⟩
    exact ⟨rfl, (List.mem_filter.1 hmethod).2⟩
  · rintro ⟨hpath, hmethod⟩
    have hall : call.2 ∈ Method.all := by cases call.2 <;> decide
    exact ⟨call.2, List.mem_filter.2 ⟨hall, hmethod⟩, by rw [← hpath]⟩

theorem hasMethod_iff {item : Json} {method : Method} :
    hasMethod item method ↔
      ∃ members operation, item = .obj members ∧
        members.lookup method.name = some (.obj operation) := by
  constructor
  · intro h
    obtain ⟨operation, hoperation⟩ := Option.isSome_iff_exists.1 h
    obtain ⟨value, hvalue, hmembers⟩ := Option.bind_eq_some_iff.1 hoperation
    cases item with
    | obj members =>
      cases value with
      | obj operation => exact ⟨members, operation, rfl, hvalue⟩
      | _ => cases hmembers
    | _ => cases hvalue
  · rintro ⟨members, operation, rfl, hlookup⟩
    rw [hasMethod, Json.get?, hlookup]
    rfl

theorem mem_pathItems {document : Json} {item : String × Json} :
    item ∈ pathItems document ↔
      ∃ paths, document.get? "paths" = some (.obj paths) ∧ item ∈ paths := by
  constructor
  · intro h
    cases hpaths : document.get? "paths" with
    | none => simp [pathItems, hpaths] at h
    | some value =>
      cases value with
      | obj paths => exact ⟨paths, rfl, by simpa [pathItems, hpaths, Json.members?] using h⟩
      | _ => simp [pathItems, hpaths, Json.members?] at h
  · rintro ⟨paths, hpaths, hitem⟩
    simpa [pathItems, hpaths, Json.members?] using hitem

theorem mem_declaredCalls {document : Json} {path : String} {method : Method} :
    (path, method) ∈ declaredCalls document ↔ DeclaresCall document path method := by
  rw [declaredCalls, List.mem_flatMap]
  constructor
  · rintro ⟨⟨path', value⟩, hitem, hcall⟩
    obtain ⟨rfl, hmethod⟩ := mem_callsOfItem.1 hcall
    obtain ⟨item, operation, rfl, hlookup⟩ := hasMethod_iff.1 hmethod
    obtain ⟨paths, hpaths, hmem⟩ := mem_pathItems.1 hitem
    exact ⟨paths, item, operation, hpaths, hmem, hlookup⟩
  · rintro ⟨paths, item, operation, hpaths, hmem, hlookup⟩
    refine ⟨(path, .obj item), mem_pathItems.2 ⟨paths, hpaths, hmem⟩, mem_callsOfItem.2 ⟨rfl, ?_⟩⟩
    exact hasMethod_iff.2 ⟨item, operation, rfl, hlookup⟩

theorem nodup_callsOfItem (item : String × Json) : (callsOfItem item).Nodup := by
  have hall : Method.all.Nodup := by decide
  exact (hall.filter _).map fun _ _ h => (Prod.mk.inj h).2

theorem nodup_pathItems {document : Json} (h : document.Distinct) :
    ((pathItems document).map Prod.fst).Nodup := by
  unfold pathItems
  cases hitems : (document.get? "paths").bind Json.members? with
  | none => exact List.nodup_nil
  | some items =>
    obtain ⟨paths, hpaths, hmembers⟩ := Option.bind_eq_some_iff.1 hitems
    exact (h.of_get? hpaths).nodup_members hmembers

theorem nodup_declaredCalls {document : Json} (h : document.Distinct) :
    (declaredCalls document).Nodup := by
  refine List.nodup_flatMap.2 ⟨fun item _ => nodup_callsOfItem item, ?_⟩
  refine (List.pairwise_map.1 (nodup_pathItems h)).imp ?_
  intro item other hne call hcall hother
  exact hne ((mem_callsOfItem.1 hcall).1.symm.trans (mem_callsOfItem.1 hother).1)

def routeOf? (document : Json) (item : String × Json) : Option Route :=
  (readRoute document item.1 item.2).value

theorem routes_normalize (document : Json) :
    (normalize document).value.routes =
      (pathItems document).filterMap (routeOf? document) := by
  cases document with
  | obj members =>
    simp only [Api.normalize, Traced.value_bind, Traced.value_pure, Traced.value_each]
    rw [List.filterMap_map]
    rfl
  | _ => rfl

theorem method_of_readMethod (document : Json) (path : String) (shared : List Parameter)
    (item : Json) (method : Method) :
    ((readMethod document path shared item method).value.map Prod.fst) =
      if hasMethod item method then some method else none := by
  unfold readMethod hasMethod
  cases item.get? method.name with
  | none => rfl
  | some operation => cases operation <;> rfl

theorem methods_of_readMethods (document : Json) (path : String) (shared : List Parameter)
    (item : Json) :
    ((Method.all.map fun method =>
        (readMethod document path shared item method).value).filterMap id).map Prod.fst =
      Method.all.filter (hasMethod item) := by
  rw [List.filterMap_map, List.map_filterMap, ← List.filterMap_eq_filter]
  refine List.filterMap_congr fun method _ => ?_
  simpa [Option.guard] using method_of_readMethod document path shared item method

theorem of_routeOf?_eq_none {document : Json} {item : String × Json}
    (h : routeOf? document item = none) :
    item.2.members? = none ∧ callsOfItem item = [] := by
  obtain ⟨path, value⟩ := item
  cases value with
  | obj members => cases h
  | _ => exact ⟨rfl, rfl⟩

theorem of_routeOf?_eq_some {document : Json} {item : String × Json} {route : Route}
    (h : routeOf? document item = some route) :
    item.2.members?.isSome ∧ route.path = item.1 ∧
      route.entries.map Entry.call = callsOfItem item := by
  obtain ⟨path, value⟩ := item
  cases value with
  | obj members =>
    simp only [routeOf?, readRoute, Traced.value_bind, Traced.value_pure, Traced.value_each] at h
    injection h with h
    subst h
    refine ⟨rfl, rfl, ?_⟩
    rw [callsOfItem, ← methods_of_readMethods document path
      (readParameters document path ((Json.obj members).get? "parameters")).value, List.map_map,
      Route.entries, List.map_map]
    rfl
  | _ => cases h

theorem calls_readEntries (document : Json) :
    (readEntries document).map Entry.call = declaredCalls document := by
  rw [readEntries, routes_normalize, declaredCalls]
  induction pathItems document with
  | nil => rfl
  | cons item rest ih =>
    rw [List.flatMap_cons]
    cases hroute : routeOf? document item with
    | none =>
      rw [List.filterMap_cons_none hroute, (of_routeOf?_eq_none hroute).2]
      exact ih
    | some route =>
      rw [List.filterMap_cons_some hroute, List.flatMap_cons, List.map_append, ih,
        (of_routeOf?_eq_some hroute).2.2]

theorem sourceEntries_of_distinct {document : Json} (h : document.Distinct) :
    sourceEntries document = readEntries document := by
  refine callEntries_of_nodup ?_
  have hcalls := nodup_declaredCalls h
  rwa [← calls_readEntries] at hcalls

theorem paths_normalize (document : Json) :
    (normalize document).value.routes.map (·.path) = declaredPaths document := by
  rw [routes_normalize, declaredPaths, List.map_filterMap, ← List.filterMap_eq_filter,
    List.map_filterMap]
  refine List.filterMap_congr fun item _ => ?_
  cases hroute : routeOf? document item with
  | none => simp [Option.guard, (of_routeOf?_eq_none hroute).1]
  | some route =>
    obtain ⟨hobject, hpath, -⟩ := of_routeOf?_eq_some hroute
    simp [Option.guard, hobject, hpath]

theorem calls_of_mem_sourceGroups {document : Json} (hdistinct : document.Distinct)
    {config : Config} {group : Group} (h : group ∈ sourceGroups document config) :
    group.entries.map Entry.call = (declaredCalls document).filter fun call =>
      groupKey call.1 config.groupingDepth = group.key := by
  have hentries : callEntries (normalize document).value.routes = readEntries document :=
    sourceEntries_of_distinct hdistinct
  rw [entries_of_mem_groupRoutes h, entriesOf, hentries, ← calls_readEntries, List.filter_map]
  rfl

theorem keys_sourceGroups (document : Json) (config : Config) :
    (sourceGroups document config).map (·.key) = firstOccurrences id
      ((declaredPaths document).map fun path => groupKey path config.groupingDepth) := by
  rw [sourceGroups, keys_groupRoutes, ← paths_normalize, List.map_map]
  rfl

/-- A plan has the calls of a document, each once, in groups in the order of the document. -/
structure Plan.CallsOnce (planned : Plan) (document : Json) (config : Config) : Prop where
  declared : ∀ path method, (path, method) ∈ planned.calls ↔ DeclaresCall document path method
  once : planned.calls.Nodup
  grouped : ∀ group ∈ planned.groups, ∀ endpoint ∈ group.endpoints,
    group.key = groupKey endpoint.path config.groupingDepth
  distinctKeys : (planned.groups.map (·.key)).Nodup
  orderedKeys : planned.groups.map (·.key) = firstOccurrences id
    ((declaredPaths document).map fun path => groupKey path config.groupingDepth)
  orderedCalls : ∀ group ∈ planned.groups, group.endpoints.map Endpoint.call =
    (declaredCalls document).filter fun call =>
      groupKey call.1 config.groupingDepth = group.key

section
variable {document : Json} {config : Config} {planned : Plan}

theorem call_planEndpoint {scope : Scope} {basePath : String} (tag name : String)
    (entry : Entry) : (planEndpoint scope basePath tag name entry).value.call = entry.call := by
  simp [planEndpoint, Endpoint.call, Entry.call]

theorem exists_source_of_mem_groups (hplan : plan document config = .ok planned)
    {group : PlannedGroup} (hgroup : group ∈ planned.groups) :
    ∃ source ∈ sourceGroups document config, source.key = group.key ∧
      group.endpoints.map Endpoint.call = source.entries.map Entry.call := by
  rw [plan_groups hplan] at hgroup
  obtain ⟨source, hsource, rfl⟩ := List.mem_map.1 hgroup
  exact ⟨source, hsource, by rw [planGroup_value], map_planned_endpoints call_planEndpoint⟩

theorem perm_calls (hdistinct : document.Distinct) (hplan : plan document config = .ok planned) :
    planned.calls.Perm (declaredCalls document) := by
  have hcalls : planned.calls =
      ((sourceGroups document config).flatMap (·.entries)).map Entry.call := by
    rw [Plan.calls, Plan.endpoints, plan_groups hplan, List.flatMap_map, List.map_flatMap,
      List.map_flatMap]
    exact List.flatMap_congr fun _ _ => map_planned_endpoints call_planEndpoint
  rw [hcalls, ← calls_readEntries, ← sourceEntries_of_distinct hdistinct]
  exact (perm_sourceGroups document config).map Entry.call

theorem callsOnce (hdistinct : document.Distinct) (hplan : plan document config = .ok planned) :
    planned.CallsOnce document config where
  declared path method := by rw [(perm_calls hdistinct hplan).mem_iff, mem_declaredCalls]
  once := (perm_calls hdistinct hplan).nodup_iff.2 (nodup_declaredCalls hdistinct)
  grouped group hgroup endpoint hendpoint := by
    obtain ⟨source, hsource, hkey, hcalls⟩ := exists_source_of_mem_groups hplan hgroup
    have hcall : endpoint.call ∈ source.entries.map Entry.call := by
      rw [← hcalls]
      exact List.mem_map_of_mem hendpoint
    obtain ⟨entry, hentry, hsame⟩ := List.mem_map.1 hcall
    have hpath : entry.path = endpoint.path := congrArg Prod.fst hsame
    rw [← hkey, key_of_mem_groupRoutes hsource hentry, hpath]
  distinctKeys := plan_keys_nodup hplan
  orderedKeys := by rw [plan_keys hplan, keys_sourceGroups]
  orderedCalls group hgroup := by
    obtain ⟨source, hsource, hkey, hcalls⟩ := exists_source_of_mem_groups hplan hgroup
    rw [hcalls, calls_of_mem_sourceGroups hdistinct hsource, hkey]

end

/-- Every operation of a document is planned, and planned once. -/
theorem operations_planned_once {document : Json} (hdistinct : document.Distinct)
    {config : Config} {rules : List DomainRule}
    (hrules : readDomainPatterns config.domainPatterns = .ok rules) :
    ∃ planned, plan document config = .ok planned ∧ planned.CallsOnce document config := by
  have hplan : plan document config = .ok (planWith rules document config) := by
    rw [plan, hrules]
  exact ⟨_, hplan, callsOnce hdistinct hplan⟩

/-- A document that returns to its first group and has a member that declares no call. -/
def shopText : String :=
  "\x7b\"paths\": \x7b\"/a\": \x7b\"put\": \x7b\x7d, \"get\": \x7b\x7d\x7d, " ++
    "\"/b\": \x7b\"get\": 1\x7d, \"/a/c\": \x7b\"post\": \x7b\x7d\x7d\x7d\x7d"

/-- Groups by the first segment of a path. -/
def rootConfig : Config := { basePath := "", domainPatterns := [] }

theorem shopText_planned_once :
    ∃ document planned, readDocument? shopText = some document ∧
      plan document rootConfig = .ok planned ∧
      planned.calls = [("/a", .get), ("/a", .put), ("/a/c", .post)] ∧
      planned.CallsOnce document rootConfig := by
  have hread : ((readDocument? shopText).map fun document =>
      (planWith [] document rootConfig).calls) =
        some [("/a", .get), ("/a", .put), ("/a/c", .post)] := by decide +kernel
  obtain ⟨document, hread, hcalls⟩ := Option.map_eq_some_iff.1 hread
  have hrules : readDomainPatterns rootConfig.domainPatterns = .ok [] := rfl
  obtain ⟨planned, hplan, honce⟩ :=
    operations_planned_once (distinct_readDocument? hread) hrules
  obtain rfl : planWith [] document rootConfig = planned := by
    rw [plan, hrules] at hplan
    exact Except.ok.inj hplan
  exact ⟨document, _, hread, hplan, hcalls, honce⟩

end ClientGen
