import ClientGen.Proofs.Endpoint.Grouping
import ClientGen.Proofs.Plan.References
import ClientGen.Proofs.Schema.Locations
import ClientGen.Proofs.Text.Pieces
import Mathlib.Data.List.DropRight
import Mathlib.Data.List.TakeWhile

/-!
# Mounting an API

An API is mounted by putting the segments of a base path in front of all its paths. A plan that
knows the base path looks at what is below it only: the groups, the names of the calls and the
names of the interfaces are those of the API before it was mounted.
-/

namespace ClientGen
open Api

/-- A path below some segments. -/
def mountPath : List String → String → String
  | [], path => path
  | segment :: base, path => "/" ++ segment ++ mountPath base path

def IsSegment (segment : String) : Prop := segment ≠ "" ∧ '/' ∉ segment.toList

/-- A path that starts with a slash and has a segment. -/
def Mountable (path : String) : Prop := (∃ below, path = "/" ++ below) ∧ segments path ≠ []

theorem pieces_slash (below : String) : pieces ("/" ++ below) = "" :: pieces below := by
  have hempty : '/' ∉ "".toList := by decide
  exact Files.pieces_below hempty below

theorem exists_mountPath_eq (base : List String) {path : String}
    (h : ∃ below, path = "/" ++ below) : ∃ below, mountPath base path = "/" ++ below := by
  cases base with
  | nil => exact h
  | cons segment base => exact ⟨_, String.append_assoc⟩

theorem pieces_mountPath {base : List String} (hbase : ∀ segment ∈ base, IsSegment segment)
    (below : String) : pieces (mountPath base ("/" ++ below)) = "" :: (base ++ pieces below) := by
  induction base with
  | nil => exact pieces_slash below
  | cons segment base ih =>
    have hsegment : '/' ∉ segment.toList := (hbase segment (List.mem_cons_self ..)).2
    have hrest := ih fun s hs => hbase s (List.mem_cons_of_mem _ hs)
    obtain ⟨inner, hinner⟩ := exists_mountPath_eq base ⟨below, rfl⟩
    rw [hinner, pieces_slash, List.cons.injEq] at hrest
    have hcut : mountPath (segment :: base) ("/" ++ below) = "/" ++ (segment ++ "/" ++ inner) := by
      rw [mountPath, hinner]
      simp only [String.append_assoc]
    have hbelow : pieces (segment ++ "/" ++ inner) = segment :: pieces inner :=
      Files.pieces_below hsegment inner
    rw [hcut, pieces_slash, hbelow, hrest.2, List.cons_append]

theorem mountPath_injective (base : List String) : Function.Injective (mountPath base) := by
  induction base with
  | nil => exact fun _ _ h => h
  | cons segment base ih => exact fun a b h => ih ((String.append_right_inj _).1 h)

theorem segments_mountPath {base : List String} (hbase : ∀ segment ∈ base, IsSegment segment)
    {path : String} (hpath : ∃ below, path = "/" ++ below) :
    segments (mountPath base path) = base ++ segments path := by
  obtain ⟨below, rfl⟩ := hpath
  have hkept : base.filter (· ≠ "") = base :=
    List.filter_eq_self.2 fun segment h => decide_eq_true (hbase segment h).1
  rw [segments, segments, pieces_mountPath hbase, pieces_slash, List.filter_cons_of_neg (by decide),
    List.filter_cons_of_neg (by decide), List.filter_append, hkept]

theorem groupKey_mountPath {base : List String} (hbase : ∀ segment ∈ base, IsSegment segment)
    {path : String} (hpath : ∃ below, path = "/" ++ below) :
    groupKey (mountPath base path) base.length = groupKey path 0 := by
  obtain ⟨below, rfl⟩ := hpath
  have hpiece : (pieces (mountPath base ("/" ++ below)))[1 + base.length]? =
      (pieces ("/" ++ below))[1 + 0]? := by
    rw [pieces_mountPath hbase, pieces_slash, Nat.add_comm 1, Nat.add_comm 1,
      List.getElem?_cons_succ, List.getElem?_cons_succ, List.getElem?_append_right (Nat.le_refl _),
      Nat.sub_self]
  rw [groupKey, groupKey, hpiece]

/-- The configuration with the base path of some segments. -/
def Config.mountedAt (config : Config) (base : List String) : Config :=
  { config with basePath := String.intercalate "/" base }

theorem pieces_intercalate {base : List String} (hbase : ∀ segment ∈ base, IsSegment segment)
    (hne : base ≠ []) : pieces (String.intercalate "/" base) = base :=
  map_splitOn_intercalate rfl hne fun segment hsegment => (hbase segment hsegment).2

theorem segments_intercalate {base : List String} (hbase : ∀ segment ∈ base, IsSegment segment) :
    segments (String.intercalate "/" base) = base := by
  by_cases hne : base = []
  · subst hne
    rfl
  · rw [segments, pieces_intercalate hbase hne]
    exact List.filter_eq_self.2 fun segment h => decide_eq_true (hbase segment h).1

theorem trimSlashes_eq_self {text : String} (h : "" ∉ pieces text) :
    Text.trimSlashes text = text := by
  have hstart : text.toList.dropWhile (· == '/') = text.toList := by
    rw [List.dropWhile_eq_self_iff]
    intro hpos hslash
    obtain ⟨c, rest, htext⟩ := List.exists_cons_of_length_pos hpos
    have hc : c = '/' := by simpa [htext] using hslash
    apply h
    rw [pieces, htext, hc, ← List.nil_append ('/' :: rest), List.splitOn_append_cons_self]
    simp
  have hend : text.toList.rdropWhile (· == '/') = text.toList := by
    rw [List.rdropWhile_eq_self_iff]
    intro hne hslash
    have hlast : text.toList.getLast hne = '/' := by simpa using hslash
    apply h
    rw [pieces, ← List.dropLast_append_getLast hne, hlast, List.splitOn_append_cons_self]
    simp
  have htrim : Text.trimSlashes text =
      String.ofList ((text.toList.dropWhile (· == '/')).rdropWhile (· == '/')) := rfl
  rw [htrim, hstart, hend, String.ofList_toList]

section
variable (config : Config) {base : List String} (hbase : ∀ segment ∈ base, IsSegment segment)
include hbase

theorem trimmedBase_mountedAt :
    (config.mountedAt base).trimmedBase = String.intercalate "/" base := by
  by_cases hne : base = []
  · subst hne
    rfl
  · have hpieces : "" ∉ pieces (String.intercalate "/" base) := by
      rw [pieces_intercalate hbase hne]
      exact fun hempty => (hbase "" hempty).1 rfl
    exact trimSlashes_eq_self hpieces

theorem groupingDepth_mountedAt : (config.mountedAt base).groupingDepth = base.length := by
  have hcount : (config.mountedAt base).groupingDepth =
      (segments (config.mountedAt base).trimmedBase).length := by
    rw [Config.groupingDepth, segments, pieces, List.filter_map, List.length_map]
    congr 2
    funext chars
    simp
  rw [hcount, trimmedBase_mountedAt config hbase, segments_intercalate hbase]

end

theorem relativeSegments_mountPath {base : List String}
    (hbase : ∀ segment ∈ base, IsSegment segment) {path : String}
    (hpath : ∃ below, path = "/" ++ below) :
    relativeSegments (mountPath base path) (String.intercalate "/" base) = segments path := by
  rw [relativeSegments, segments_intercalate hbase, segments_mountPath hbase hpath]
  cases base with
  | nil => rfl
  | cons first rest =>
    have hstripped : (first :: rest).isPrefixOf? (first :: rest ++ segments path) =
        some (segments path) := List.isPrefixOf?_eq_some_iff_append_eq.2 rfl
    simp only [hstripped, Option.getD_some]

/-- What names of calls depend on agrees, though the paths may differ. -/
structure NameBasis.Agrees (a b : NameBasis) : Prop where
  segments : a.segments = b.segments
  method : a.method = b.method
  summary : a.summary = b.summary
  queryParameters : a.queryParameters = b.queryParameters
  pathParameters : a.pathParameters = b.pathParameters

namespace NameBasis.Agrees
variable {a b : NameBasis} (h : a.Agrees b)
include h

theorem literals : a.literals = b.literals := by rw [NameBasis.literals, h.segments]; rfl

theorem isList : a.isList = b.isList := by
  rw [NameBasis.isList, h.method, h.queryParameters, h.segments]
  rfl

theorem resource : a.resource = b.resource := by rw [NameBasis.resource, h.literals]; rfl

theorem plainName : a.plainName = b.plainName := by rw [NameBasis.plainName, h.literals]; rfl

theorem mutationName : a.mutationName = b.mutationName := by
  have hplaceholders : a.placeholders = b.placeholders := by
    rw [NameBasis.placeholders, h.segments]
    rfl
  have haction : a.action? = b.action? := by
    rw [NameBasis.action?, h.literals]
    rfl
  rw [NameBasis.mutationName, hplaceholders, haction, h.method, h.literals, h.resource, h.plainName]
  rfl

theorem shapeName : a.shapeName = b.shapeName := by
  have hparameters : a.hasPathParameters = b.hasPathParameters := by
    rw [NameBasis.hasPathParameters, h.segments, h.pathParameters]
    rfl
  have hsingle : a.singleName = b.singleName := by
    rw [NameBasis.singleName, h.segments]
    rfl
  rw [NameBasis.shapeName, h.isList, h.resource, h.method, hparameters, hsingle, h.mutationName,
    h.plainName]
  rfl

theorem name : a.name = b.name := by
  have hsummary : a.summaryName = b.summaryName := by
    rw [NameBasis.summaryName, h.summary]
    rfl
  rw [NameBasis.name, NameBasis.stem, hsummary, h.shapeName, h.method]
  rfl

end NameBasis.Agrees

/-- The same operation below some segments. -/
def Entry.mount (base : List String) (entry : Entry) : Entry :=
  { entry with path := mountPath base entry.path }

def Endpoint.mount (base : List String) (endpoint : Endpoint) : Endpoint :=
  { endpoint with path := mountPath base endpoint.path }

theorem fieldCandidates_mount (scope : Scope) (base : List String) (entry : Entry) :
    fieldCandidates scope (entry.mount base) = fieldCandidates scope entry := by
  -- the path stands in the locations of warnings only
  have hparameter : ∀ place other p,
      (compileParameter scope place p).value = (compileParameter scope other p).value := by
    intro place other p
    simp only [compileParameter, Traced.value_bind, Traced.value_pure]
    rw [compileSchema_value_location scope p.schema _ (other ++ " param " ++ p.name)]
  have hbody : ∀ place other,
      (compileBody scope place entry.operation).value =
        (compileBody scope other entry.operation).value := by
    intro place other
    unfold compileBody
    split
    · rfl
    · split
      · rfl
      · rename_i raw _
        split
        · rfl
        · simp only [Traced.value_bind, Traced.value_pure]
          rw [compileSchema_value_location scope raw _ (other ++ " body")]
  unfold fieldCandidates
  simp only [Traced.value_each, Entry.mount]
  rw [hbody _ (site entry.method entry.path)]
  congr 2
  exact List.map_congr_left fun p _ => hparameter _ _ p

theorem compileResponse_mount (scope : Scope) (base : List String) (entry : Entry) :
    (compileResponse scope (entry.mount base)).value = (compileResponse scope entry).value := by
  simp only [compileResponse, Entry.mount]
  split
  · rfl
  · rename_i raw _
    simp only [Traced.value_bind, Traced.value_pure]
    rw [compileSchema_value_location scope raw _ (site entry.method entry.path ++ " response")]

section
variable {base : List String} (hbase : ∀ segment ∈ base, IsSegment segment) {entry : Entry}
  (hentry : Mountable entry.path)
include hbase hentry

theorem nameBasis_mount :
    ((entry.mount base).nameBasis (String.intercalate "/" base)).Agrees (entry.nameBasis "") where
  segments := relativeSegments_mountPath hbase hentry.1
  method := rfl
  summary := rfl
  queryParameters := rfl
  pathParameters := rfl

theorem interfaceName_mount :
    interfaceName (mountPath base entry.path) entry.method (String.intercalate "/" base) =
      interfaceName entry.path entry.method "" := by
  have hroot : relativeSegments entry.path "" = segments entry.path := rfl
  have hbelow : (segments entry.path).isEmpty = false := by
    simpa using hentry.2
  simp only [interfaceName, relativeSegments_mountPath hbase hentry.1, hroot, hbelow]
  rfl

theorem planEndpoint_mount (scope : Scope) (tag name : String) :
    (planEndpoint scope (String.intercalate "/" base) tag name (entry.mount base)).value =
      ((planEndpoint scope "" tag name entry).value).mount base := by
  have hinterface : (synthesize scope (String.intercalate "/" base) (entry.mount base)).value =
      (synthesize scope "" entry).value := by
    rw [synthesize_value, synthesize_value, fieldCandidates_mount]
    have hname := interfaceName_mount hbase hentry
    simp only [Entry.mount, hname]
  simp only [planEndpoint, Traced.value_bind, Traced.value_pure]
  rw [hinterface, compileResponse_mount, (nameBasis_mount hbase hentry).isList]
  rfl

end

def Api.Route.mount (base : List String) (route : Route) : Route :=
  { route with path := mountPath base route.path }

def Group.mount (base : List String) (group : Group) : Group :=
  { group with entries := group.entries.map (Entry.mount base) }

/-- Mounted calls are the same exactly if they were. -/
theorem call_mount_eq_iff (base : List String) (a b : Entry) :
    (a.mount base).call = (b.mount base).call ↔ a.call = b.call := by
  simp only [Entry.call, Entry.mount, Prod.mk.injEq, (mountPath_injective base).eq_iff]

theorem entries_mount (base : List String) (route : Route) :
    (route.mount base).entries = route.entries.map (Entry.mount base) := by
  rw [Route.entries, Route.entries, List.map_map]
  rfl

section
variable {base : List String} (hbase : ∀ segment ∈ base, IsSegment segment) {routes : List Route}
  (hroutes : ∀ route ∈ routes, Mountable route.path)
include hbase hroutes

theorem routeKey_mount {route : Route} (hroute : route ∈ routes) :
    routeKey base.length (route.mount base) = routeKey 0 route :=
  groupKey_mountPath hbase (hroutes route hroute).1

theorem groupRoutes_mount :
    groupRoutes base.length (routes.map (Route.mount base)) =
      (groupRoutes 0 routes).map (Group.mount base) :=
  groupRoutes_map (fun _ hroute => routeKey_mount hbase hroutes hroute) (entries_mount base)
    (call_mount_eq_iff base)

end

theorem mountable_of_mem_groupRoutes {depth : Nat} {routes : List Route}
    (hroutes : ∀ route ∈ routes, Mountable route.path) {group : Group}
    (hgroup : group ∈ groupRoutes depth routes) :
    ∀ entry ∈ group.entries, Mountable entry.path := by
  intro entry hentry
  obtain ⟨route, hroute, hentry⟩ := exists_route_of_mem_entries hgroup hentry
  rw [path_of_mem_entries hentry]
  exact hroutes route hroute

def plannedGroups (scope : Scope) (domains : DomainMap) (config : Config) (routes : List Route) :
    List PlannedGroup :=
  (groupRoutes config.groupingDepth routes).map fun group =>
    (planGroup scope domains config.trimmedBase group).value

/-- Two lists of groups have the same keys, and their endpoints the same names. -/
structure SameNames (a b : List PlannedGroup) : Prop where
  keys : a.map (·.key) = b.map (·.key)
  names : a.map (·.endpoints.map (·.name)) = b.map (·.endpoints.map (·.name))
  lists : a.map (·.endpoints.map (·.isList)) = b.map (·.endpoints.map (·.isList))
  interfaces : a.map (·.endpoints.map (·.interface.map (·.name))) =
    b.map (·.endpoints.map (·.interface.map (·.name)))

section
variable {base : List String} (hbase : ∀ segment ∈ base, IsSegment segment)
include hbase

theorem names_mount {group : Group} (hgroup : ∀ entry ∈ group.entries, Mountable entry.path) :
    (group.mount base).names (String.intercalate "/" base) = group.names "" := by
  have hplain : (group.mount base).plainNames (String.intercalate "/" base) =
      group.plainNames "" := by
    rw [Group.plainNames, Group.plainNames, Group.mount, List.map_map]
    exact List.map_congr_left fun entry hentry => (nameBasis_mount hbase (hgroup entry hentry)).name
  rw [Group.names_eq, Group.names_eq, hplain]

theorem endpoints_mount {group : Group} (hgroup : ∀ entry ∈ group.entries, Mountable entry.path)
    (scope : Scope) (domains mountedDomains : DomainMap) :
    (planGroup scope mountedDomains (String.intercalate "/" base)
        (group.mount base)).value.endpoints =
      (planGroup scope domains "" group).value.endpoints.map (Endpoint.mount base) := by
  rw [planGroup_value, planGroup_value, names_mount hbase hgroup, List.map_map]
  simp only [Group.mount, List.zip_map_left, List.map_map]
  refine List.map_congr_left fun entry hentry => ?_
  exact planEndpoint_mount hbase (hgroup entry.1 (List.of_mem_zip hentry).1) scope _ _

/-- An API below a base path is planned as it was, but for the paths of its endpoints. -/
theorem plannedGroups_mount (config : Config) (scope : Scope)
    (domains mountedDomains : DomainMap) {routes : List Route}
    (hroutes : ∀ route ∈ routes, Mountable route.path) :
    (plannedGroups scope mountedDomains (config.mountedAt base)
        (routes.map (Route.mount base))).map (fun group => (group.key, group.endpoints)) =
      (plannedGroups scope domains (config.mountedAt []) routes).map fun group =>
        (group.key, group.endpoints.map (Endpoint.mount base)) := by
  have hroot : (config.mountedAt []).groupingDepth = 0 := groupingDepth_mountedAt config nofun
  have hrootBase : (config.mountedAt []).trimmedBase = "" := trimmedBase_mountedAt config nofun
  rw [plannedGroups, plannedGroups, trimmedBase_mountedAt config hbase,
    groupingDepth_mountedAt config hbase, groupRoutes_mount hbase hroutes, hroot, hrootBase,
    List.map_map, List.map_map, List.map_map]
  refine List.map_congr_left fun group hgroup => ?_
  have hentries := mountable_of_mem_groupRoutes hroutes hgroup
  simp only [Function.comp_apply, endpoints_mount hbase hentries scope domains mountedDomains]
  rfl

variable {routes : List Route} (hroutes : ∀ route ∈ routes, Mountable route.path)
  (config : Config) (scope : Scope) (domains mountedDomains : DomainMap)
include hroutes

theorem keys_mount :
    (plannedGroups scope mountedDomains (config.mountedAt base)
        (routes.map (Route.mount base))).map (·.key) =
      (plannedGroups scope domains (config.mountedAt []) routes).map (·.key) := by
  have hkeys := congrArg (List.map Prod.fst)
    (plannedGroups_mount hbase config scope domains mountedDomains hroutes)
  simpa only [List.map_map, Function.comp_def] using hkeys

theorem map_endpoints_mount {α : Type} (read : Endpoint → α)
    (hread : ∀ endpoint, read (endpoint.mount base) = read endpoint) :
    (plannedGroups scope mountedDomains (config.mountedAt base)
        (routes.map (Route.mount base))).map (fun group => group.endpoints.map read) =
      (plannedGroups scope domains (config.mountedAt []) routes).map fun group =>
        group.endpoints.map read := by
  have hendpoints := congrArg (List.map fun group => group.2.map read)
    (plannedGroups_mount hbase config scope domains mountedDomains hroutes)
  simpa only [List.map_map, Function.comp_def, hread] using hendpoints

end

/-- Mounting an API under a base path changes no generated name. -/
theorem mounting_keeps_names {base : List String} (hbase : ∀ segment ∈ base, IsSegment segment)
    {routes : List Route} (hroutes : ∀ route ∈ routes, Mountable route.path) (config : Config)
    (scope : Scope) (domains mountedDomains : DomainMap) :
    SameNames
      (plannedGroups scope mountedDomains (config.mountedAt base) (routes.map (Route.mount base)))
      (plannedGroups scope domains (config.mountedAt []) routes) where
  keys := keys_mount hbase hroutes config scope domains mountedDomains
  names := map_endpoints_mount hbase hroutes config scope domains mountedDomains
    (·.name) fun _ => rfl
  lists := map_endpoints_mount hbase hroutes config scope domains mountedDomains
    (·.isList) fun _ => rfl
  interfaces := map_endpoints_mount hbase hroutes config scope domains mountedDomains
    (·.interface.map (·.name)) fun _ => rfl

/-- Paths that have the base path again, a doubled slash and a slash at the end. The last route
repeats one of them, and its call replaces the earlier one. -/
def mountedRoutes : List Route :=
  [{ path := "/api/v1/{id}"
     operations := [(.get, { (default : Operation) with parameters := [assumedParameter "id"] })] },
    { path := "/leads//list/", operations := [(.get, default), (.post, default)] },
    { path := "/leads//list/"
      operations := [(.get, { (default : Operation) with summary := some "Find leads" })] }]

theorem mountedRoutes_same_names :
    (plannedGroups (.of .empty) default (({} : Config).mountedAt ["api", "v1"])
        (mountedRoutes.map (Route.mount ["api", "v1"]))).map (fun group =>
          (group.key, group.endpoints.map fun endpoint => (endpoint.path, endpoint.name))) =
      [("api", [("/api/v1/api/v1/{id}", "getApiV1IdGet")]),
        ("leads", [("/api/v1/leads//list/", "findLeadsGet"),
          ("/api/v1/leads//list/", "listLeadsPost")])] ∧
    SameNames
      (plannedGroups (.of .empty) default (({} : Config).mountedAt ["api", "v1"])
        (mountedRoutes.map (Route.mount ["api", "v1"])))
      (plannedGroups (.of .empty) default (({} : Config).mountedAt []) mountedRoutes) := by
  have hbase : ∀ segment ∈ ["api", "v1"], IsSegment segment := by
    simp [IsSegment]
  have hroutes : ∀ route ∈ mountedRoutes, Mountable route.path := by
    simp only [mountedRoutes, List.forall_mem_cons, Mountable]
    exact ⟨⟨⟨"api/v1/{id}", by decide +kernel⟩, by decide +kernel⟩,
      ⟨⟨"leads//list/", by decide +kernel⟩, by decide +kernel⟩,
      ⟨⟨"leads//list/", by decide +kernel⟩, by decide +kernel⟩, nofun⟩
  exact ⟨by decide +kernel, mounting_keeps_names hbase hroutes {} (.of .empty) default default⟩

end ClientGen
