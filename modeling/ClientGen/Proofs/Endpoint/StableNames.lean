import ClientGen.Proofs.Plan.Calls

/-!
# Names stay when routes are added

A number counts the earlier calls of the same name only, and a route that comes last is grouped
behind what is there. So a document that grows at its end keeps its groups, their order and the
names of its calls; what is new stands behind them.
-/

namespace ClientGen
open Api

theorem numberFrom_append (before names more : List String) :
    numberFrom before (names ++ more) =
      numberFrom before names ++ numberFrom (before ++ names) more := by
  induction names generalizing before with
  | nil => rw [List.nil_append, List.append_nil]; rfl
  | cons name rest ih =>
    have hbefore : before ++ name :: rest = (before ++ [name]) ++ rest := by simp
    rw [hbefore, List.cons_append, numberFrom, numberFrom, ih, List.cons_append]

def Group.namedCalls (group : Group) (basePath : String) : List (Call × String) :=
  (group.entries.map Entry.call).zip (group.names basePath)

def Group.nameOf? (group : Group) (basePath : String) (call : Call) : Option String :=
  (group.namedCalls basePath).lookup call

theorem Group.length_calls (group : Group) (basePath : String) :
    (group.entries.map Entry.call).length = (group.names basePath).length := by
  rw [List.length_map, Group.length_names]

theorem Group.namedCalls_prefix (group : Group) (basePath : String) (more : List Entry) :
    group.namedCalls basePath <+:
      Group.namedCalls ⟨group.key, group.entries ++ more⟩ basePath := by
  have hnames : Group.names ⟨group.key, group.entries ++ more⟩ basePath =
      group.names basePath ++ numberFrom (group.plainNames basePath)
        (Group.plainNames ⟨group.key, more⟩ basePath) := by
    rw [Group.names_eq, Group.names_eq, Group.plainNames, List.map_append, numberFrom_append]
    rfl
  rw [Group.namedCalls, Group.namedCalls, hnames, List.map_append,
    List.zip_append (group.length_calls basePath)]
  exact List.prefix_append _ _

theorem Group.exists_nameOf? (group : Group) (basePath : String) {entry : Entry}
    (h : entry ∈ group.entries) : ∃ name, group.nameOf? basePath entry.call = some name := by
  have hlength := Nat.le_of_eq (group.length_calls basePath)
  have hcalls : (group.namedCalls basePath).map Prod.fst = group.entries.map Entry.call :=
    List.map_fst_zip hlength
  have hmem : entry.call ∈ (group.namedCalls basePath).map Prod.fst := by
    rw [hcalls]
    exact List.mem_map_of_mem h
  cases hname : group.nameOf? basePath entry.call with
  | some name => exact ⟨name, rfl⟩
  | none =>
    obtain ⟨named, hnamed, hcall⟩ := List.mem_map.1 hmem
    have hother := List.lookup_eq_none_iff.1 hname named hnamed
    simp [hcall] at hother

/-- A later group has the entries of an earlier one, then more, and the names of the earlier. -/
structure Group.GoesOn (group later : Group) (basePath : String) (more : List Entry) : Prop where
  key : later.key = group.key
  entries : later.entries = group.entries ++ more
  names : ∀ entry ∈ group.entries, ∃ name, group.nameOf? basePath entry.call = some name ∧
    later.nameOf? basePath entry.call = some name

theorem Group.goesOn_append (group : Group) (basePath : String) (more : List Entry) :
    group.GoesOn ⟨group.key, group.entries ++ more⟩ basePath more := by
  refine ⟨rfl, rfl, fun entry hentry => ?_⟩
  obtain ⟨name, hname⟩ := group.exists_nameOf? basePath hentry
  obtain ⟨named, hnamed⟩ := group.namedCalls_prefix basePath more
  refine ⟨name, hname, ?_⟩
  rw [Group.nameOf?] at hname ⊢
  rw [← hnamed, List.lookup_append, hname, Option.some_or]

theorem callEntries_append {routes added : List Route}
    (hpaths : ((routes ++ added).map (·.path)).Nodup) :
    callEntries (routes ++ added) = callEntries routes ++ callEntries added := by
  rw [List.map_append, List.nodup_append] at hpaths
  rw [callEntries, List.flatMap_append]
  refine keyed_append_of_apart fun entry hentry hcall => ?_
  obtain ⟨later, hlater, hmore⟩ := List.mem_flatMap.1 hentry
  obtain ⟨other, hother, hsame⟩ := List.mem_map.1 hcall
  obtain ⟨route, hroute, hheld⟩ := List.mem_flatMap.1 hother
  have hpath : route.path = later.path := by
    rw [← path_of_mem_entries hheld, ← path_of_mem_entries hmore]
    exact congrArg Prod.fst hsame
  exact hpaths.2.2 _ (List.mem_map_of_mem hroute) _ (List.mem_map_of_mem hlater) hpath

theorem entriesOf_append (depth : Nat) {routes added : List Route}
    (hpaths : ((routes ++ added).map (·.path)).Nodup) (key : String) :
    entriesOf depth (routes ++ added) key =
      entriesOf depth routes key ++ entriesOf depth added key := by
  rw [entriesOf, callEntries_append hpaths, List.filter_append, entriesOf, entriesOf]

theorem keys_groupRoutes_prefix (depth : Nat) (routes added : List Route) :
    (groupRoutes depth routes).map (·.key) <+:
      (groupRoutes depth (routes ++ added)).map (·.key) := by
  rw [keys_groupRoutes, keys_groupRoutes, List.map_append]
  exact firstOccurrences_prefix id _ _

/-- Routes that are added behind others, on paths of their own, leave the groups of the others in
their places and every call of them under its name; their own calls stand behind. -/
theorem added_routes_keep_names (depth : Nat) (basePath : String) {routes added : List Route}
    (hpaths : ((routes ++ added).map (·.path)).Nodup) :
    (groupRoutes depth routes).map (·.key) <+:
        (groupRoutes depth (routes ++ added)).map (·.key) ∧
      (∀ group ∈ groupRoutes depth routes, ∃ later ∈ groupRoutes depth (routes ++ added),
        group.GoesOn later basePath (entriesOf depth added group.key)) ∧
      ∀ later ∈ groupRoutes depth (routes ++ added), (later.entries.map Entry.call).Nodup := by
  have hkeys := keys_groupRoutes_prefix depth routes added
  refine ⟨hkeys, fun group hgroup => ?_, fun _ => nodup_calls_of_mem_groupRoutes⟩
  have hkey : group.key ∈ (groupRoutes depth (routes ++ added)).map (·.key) :=
    hkeys.mem (List.mem_map_of_mem hgroup)
  obtain ⟨later, hlater, hsame⟩ := List.mem_map.1 hkey
  have hentries : later.entries = group.entries ++ entriesOf depth added group.key := by
    rw [entries_of_mem_groupRoutes hlater, hsame, entriesOf_append depth hpaths,
      entries_of_mem_groupRoutes hgroup]
  have hlaterEq : later = ⟨group.key, group.entries ++ entriesOf depth added group.key⟩ := by
    rw [← hentries, ← hsame]
  exact ⟨later, hlater, hlaterEq ▸ group.goesOn_append basePath _⟩

def reportRoutes (paths : List String) : List Route :=
  paths.map fun path =>
    { path, operations := [(.get, { (default : Operation) with summary := some "Run report" })] }

/-- Two routes are added, one of them to the group of the first. Its call takes the number. -/
theorem reportRoutes_keep_names :
    ((reportRoutes ["/api/reports/a"] ++ reportRoutes ["/api/jobs/c", "/api/reports/b"]).map
      (·.path)).Nodup ∧
    (groupRoutes 1 (reportRoutes ["/api/reports/a"])).map (·.namedCalls "api") =
      [[(("/api/reports/a", .get), "runReportGet")]] ∧
    (groupRoutes 1 (reportRoutes ["/api/reports/a"] ++
        reportRoutes ["/api/jobs/c", "/api/reports/b"])).map (·.namedCalls "api") =
      [[(("/api/reports/a", .get), "runReportGet"), (("/api/reports/b", .get), "runReportGet2")],
        [(("/api/jobs/c", .get), "runReportGet")]] ∧
    (∀ group ∈ groupRoutes 1 (reportRoutes ["/api/reports/a"]),
      ∃ later ∈ groupRoutes 1 (reportRoutes ["/api/reports/a"] ++
          reportRoutes ["/api/jobs/c", "/api/reports/b"]),
        group.GoesOn later "api"
          (entriesOf 1 (reportRoutes ["/api/jobs/c", "/api/reports/b"]) group.key)) := by
  have hpaths : ((reportRoutes ["/api/reports/a"] ++
      reportRoutes ["/api/jobs/c", "/api/reports/b"]).map (·.path)).Nodup := by
    decide +kernel
  refine ⟨hpaths, by decide +kernel, by decide +kernel, ?_⟩
  exact (added_routes_keep_names 1 "api" hpaths).2.1

end ClientGen
