import ClientGen.Proofs.Plan.Groups
import ClientGen.Proofs.Text.Numeral
import Mathlib.Data.List.Nodup

/-!
# Names of calls are unique

Every name that the shape or the summary of a call gives ends in the name of its method, hence in
a letter. A number behind such a name can therefore be told from the name, and numbering the
repeated names of a group makes all of them distinct. Group keys have no slash, so the action
types `<key>/<name>` of a whole plan are distinct as well.
-/

namespace ClientGen
open Api

theorem endsPlain_ending (method : Method) : Text.EndsPlain method.ending := by
  cases method with
  | get => exact ⟨['G', 'e'], 't', rfl, rfl⟩
  | post => exact ⟨['P', 'o', 's'], 't', rfl, rfl⟩
  | put => exact ⟨['P', 'u'], 't', rfl, rfl⟩
  | patch => exact ⟨['P', 'a', 't', 'c'], 'h', rfl, rfl⟩
  | delete => exact ⟨['D', 'e', 'l', 'e', 't'], 'e', rfl, rfl⟩

theorem NameBasis.endsPlain_name (basis : NameBasis) : Text.EndsPlain basis.name :=
  Text.endsPlain_append basis.stem (endsPlain_ending basis.method)

theorem NameBasis.name_ne_empty (basis : NameBasis) : basis.name ≠ "" := by
  obtain ⟨stem, c, hname, -⟩ := basis.endsPlain_name
  intro hempty
  rw [hempty] at hname
  simp at hname

theorem numberedName_ne_empty {name : String} (hname : name ≠ "") (n : Nat) :
    numberedName name n ≠ "" := by
  unfold numberedName
  split
  · exact hname
  · exact fun hempty => hname (String.append_eq_empty_iff.1 hempty).1

theorem numberedName_inj {a b : String} (ha : Text.EndsPlain a) (hb : Text.EndsPlain b)
    {m n : Nat} (h : numberedName a m = numberedName b n) : a = b ∧ m = n := by
  unfold numberedName at h
  split at h
  · rename_i hm
    split at h
    · rename_i hn
      exact ⟨h, hm.trans hn.symm⟩
    · exact absurd h.symm (Text.numbered_ne_plain b hb ha n)
  · split at h
    · exact absurd h (Text.numbered_ne_plain a ha hb m)
    · exact Text.numbered_inj ha hb h

theorem getElem?_numberFrom (before names : List String) (i : Nat) :
    (numberFrom before names)[i]? =
      names[i]?.map fun name =>
        numberedName name ((before ++ names.take i).count name + 1) := by
  induction names generalizing before i with
  | nil => simp [numberFrom]
  | cons name rest ih =>
    cases i with
    | zero => simp [numberFrom]
    | succ i => simp [numberFrom, ih]

theorem length_numberFrom (before names : List String) :
    (numberFrom before names).length = names.length := by
  induction names generalizing before with
  | nil => rfl
  | cons name rest ih => simp [numberFrom, ih]

theorem mem_numberFrom {before names : List String} {numbered : String}
    (h : numbered ∈ numberFrom before names) :
    ∃ name ∈ names, ∃ n, before.count name < n ∧ numbered = numberedName name n := by
  obtain ⟨i, hi⟩ := List.mem_iff_getElem?.1 h
  rw [getElem?_numberFrom] at hi
  obtain ⟨name, hname, hnumbered⟩ := Option.map_eq_some_iff.1 hi
  refine ⟨name, List.mem_of_getElem? hname, _, ?_, hnumbered.symm⟩
  rw [List.count_append]
  omega

theorem numberFrom_nodup (before names : List String)
    (hplain : ∀ name ∈ names, Text.EndsPlain name) : (numberFrom before names).Nodup := by
  induction names generalizing before with
  | nil => exact List.nodup_nil
  | cons name rest ih =>
    have hname : Text.EndsPlain name := hplain name (List.mem_cons_self ..)
    have hrest : ∀ other ∈ rest, Text.EndsPlain other := fun other hother =>
      hplain other (List.mem_cons_of_mem _ hother)
    refine List.nodup_cons.2 ⟨?_, ih _ hrest⟩
    -- a later occurrence of the same name counts this one too
    intro hmem
    obtain ⟨other, hother, n, hn, hsame⟩ := mem_numberFrom hmem
    obtain ⟨rfl, hcount⟩ := numberedName_inj hname (hrest other hother) hsame
    rw [List.count_append, List.count_singleton_self] at hn
    omega

/-- The names of the endpoints of a group before they are numbered. -/
def Group.plainNames (group : Group) (basePath : String) : List String :=
  group.entries.map fun entry => (entry.nameBasis basePath).name

theorem Group.endsPlain_plainNames (group : Group) (basePath : String) :
    ∀ name ∈ group.plainNames basePath, Text.EndsPlain name := by
  intro name hname
  obtain ⟨entry, _, rfl⟩ := List.mem_map.1 hname
  exact NameBasis.endsPlain_name _

theorem Group.names_eq (group : Group) (basePath : String) :
    group.names basePath = numberFrom [] (group.plainNames basePath) := rfl

theorem Group.length_names (group : Group) (basePath : String) :
    (group.names basePath).length = group.entries.length := by
  rw [group.names_eq, length_numberFrom, Group.plainNames, List.length_map]

/-- The first endpoint of a name has the name itself, every other one its number behind it. -/
theorem Group.getElem?_names (group : Group) (basePath : String) (i : Nat) (name : String)
    (h : (group.plainNames basePath)[i]? = some name) :
    (group.names basePath)[i]? =
      some (if name ∈ (group.plainNames basePath).take i then
        name ++ toString (((group.plainNames basePath).take i).count name + 1) else name) := by
  rw [group.names_eq, getElem?_numberFrom, h, Option.map_some, List.nil_append]
  congr 1
  by_cases hmem : name ∈ (group.plainNames basePath).take i
  · have hpos := List.count_pos_iff.2 hmem
    rw [if_pos hmem, numberedName, if_neg (by omega)]
  · have hzero := List.count_eq_zero.2 hmem
    rw [if_neg hmem, numberedName, if_pos (by omega)]

theorem planned_endpoint_names {scope : Scope} {domains : DomainMap} {basePath : String}
    (group : Group) :
    (planGroup scope domains basePath group).value.endpoints.map (·.name) =
      group.names basePath := by
  rw [planGroup_value, List.map_map]
  have hname : ∀ entry : Entry × String,
      (planEndpoint scope basePath (cacheTag group.key) entry.2 entry.1).value.name = entry.2 :=
    fun entry => by simp [planEndpoint]
  simp only [Function.comp_def, hname]
  have hlength : (group.names basePath).length ≤ group.entries.length :=
    Nat.le_of_eq (group.length_names basePath)
  exact List.map_snd_zip hlength

theorem endpoint_names_nodup {document : Json} {config : Config} {planned : Plan}
    (h : plan document config = .ok planned) {group : PlannedGroup}
    (hgroup : group ∈ planned.groups) : (group.endpoints.map (·.name)).Nodup := by
  rw [plan_groups h] at hgroup
  obtain ⟨source, _, rfl⟩ := List.mem_map.1 hgroup
  rw [planned_endpoint_names, source.names_eq]
  exact numberFrom_nodup [] _ (source.endsPlain_plainNames _)

/-- The action types of a group's thunks: its key and the name of the call. -/
def PlannedGroup.actionTypes (group : PlannedGroup) : List String :=
  group.endpoints.map fun endpoint => group.key ++ "/" ++ endpoint.name

/-- The action types of all thunks. -/
def Plan.actionTypes (plan : Plan) : List String := plan.groups.flatMap (·.actionTypes)

theorem actionType_inj {key key' name name' : String} (hkey : '/' ∉ key.toList)
    (hkey' : '/' ∉ key'.toList) (h : key ++ "/" ++ name = key' ++ "/" ++ name') :
    key = key' ∧ name = name' := by
  have hchars := congrArg String.toList h
  have hslash : ("/".toList : List Char) = ['/'] := rfl
  simp only [String.toList_append, hslash, List.append_assoc, List.singleton_append] at hchars
  have hpieces := congrArg (List.splitOn '/') hchars
  rw [List.splitOn_append_cons_self_of_not_mem hkey,
    List.splitOn_append_cons_self_of_not_mem hkey'] at hpieces
  have hsame : key = key' := String.toList_inj.1 (List.cons_eq_cons.1 hpieces).1
  subst hsame
  exact ⟨rfl, (String.append_right_inj _).1 h⟩

theorem PlannedGroup.actionTypes_nodup {group : PlannedGroup} (hkey : '/' ∉ group.key.toList)
    (hnames : (group.endpoints.map (·.name)).Nodup) : group.actionTypes.Nodup := by
  have hmap : group.actionTypes =
      (group.endpoints.map (·.name)).map fun name => group.key ++ "/" ++ name := by
    simp [PlannedGroup.actionTypes, List.map_map, Function.comp_def]
  rw [hmap]
  exact hnames.map fun _ _ h => (actionType_inj hkey hkey h).2

theorem plan_actionTypes_nodup {document : Json} {config : Config} {planned : Plan}
    (h : plan document config = .ok planned) : planned.actionTypes.Nodup := by
  have hslash : ∀ group ∈ planned.groups, '/' ∉ group.key.toList := fun group hgroup =>
    slash_not_mem_plan_key h hgroup
  refine List.nodup_flatMap.2 ⟨?_, ?_⟩
  · intro group hgroup
    exact PlannedGroup.actionTypes_nodup (hslash group hgroup) (endpoint_names_nodup h hgroup)
  · refine (List.pairwise_map.1 (plan_keys_nodup h)).imp_of_mem ?_
    intro a b ha hb hkeys action hactionA hactionB
    obtain ⟨first, _, rfl⟩ := List.mem_map.1 hactionA
    obtain ⟨second, _, hsame⟩ := List.mem_map.1 hactionB
    exact hkeys (actionType_inj (hslash b hb) (hslash a ha) hsame).1.symm

/-- Names are unique in every group, and action types in every plan: the first endpoint of a name
keeps it, the others carry their number, and no numbered name is another endpoint's name with or
without a number. -/
theorem endpoint_names_unique :
    (∀ (group : Group) (basePath : String),
      (group.names basePath).length = group.entries.length ∧
      (group.names basePath).Nodup ∧
      (∀ i name, (group.plainNames basePath)[i]? = some name →
        (group.names basePath)[i]? =
          some (if name ∈ (group.plainNames basePath).take i then
            name ++ toString (((group.plainNames basePath).take i).count name + 1) else name)) ∧
      (∀ name ∈ group.plainNames basePath, ∀ other ∈ group.plainNames basePath,
        ∀ n : Nat, name ++ toString n ≠ other)) ∧
    ∀ (document : Json) (config : Config) (planned : Plan),
      plan document config = .ok planned → planned.actionTypes.Nodup := by
  refine ⟨fun group basePath => ⟨group.length_names basePath, ?_, ?_, ?_⟩, ?_⟩
  · rw [group.names_eq]
    exact numberFrom_nodup [] _ (group.endsPlain_plainNames basePath)
  · exact group.getElem?_names basePath
  · intro name hname other hother n
    exact Text.numbered_ne_plain name (group.endsPlain_plainNames basePath name hname)
      (group.endsPlain_plainNames basePath other hother) n
  · intro document config planned hplan
    exact plan_actionTypes_nodup hplan

/-- Three calls with one summary, two of them in one group. -/
def reportCalls : Json :=
  .obj [("paths", .obj [
    ("/api/reports/daily", .obj [("get", .obj [("summary", .str "Run report")])]),
    ("/api/reports/weekly", .obj [("get", .obj [("summary", .str "Run report")])]),
    ("/api/jobs/report", .obj [("get", .obj [("summary", .str "Run report")])])])]

def reportGroup : Group where
  key := "reports"
  entries := ["/api/reports/daily", "/api/reports/weekly"].map fun path =>
    ⟨path, .get, { (default : Operation) with summary := some "Run report" }⟩

theorem reportCalls_names_unique :
    plan reportCalls { domainPatterns := [] } =
      .ok (planWith [] reportCalls { domainPatterns := [] }) ∧
    (planWith [] reportCalls { domainPatterns := [] }).actionTypes =
      ["reports/runReportGet", "reports/runReportGet2", "jobs/runReportGet"] ∧
    (planWith [] reportCalls { domainPatterns := [] }).actionTypes.Nodup ∧
    (reportGroup.plainNames "api")[1]? = some "runReportGet" ∧
    (reportGroup.names "api")[1]? = some "runReportGet2" ∧
    "runReportGet" ++ toString 2 ≠ "runReportGet" := by
  have hplain : reportGroup.plainNames "api" = ["runReportGet", "runReportGet"] := by
    decide +kernel
  have hmem : "runReportGet" ∈ reportGroup.plainNames "api" := by simp [hplain]
  have hunique := endpoint_names_unique.1 reportGroup "api"
  refine ⟨rfl, by decide +kernel,
    endpoint_names_unique.2 reportCalls { domainPatterns := [] } _ rfl,
    by rw [hplain]; rfl, ?_, ?_⟩
  · rw [hunique.2.2.1 1 "runReportGet" (by rw [hplain]; rfl)]
    rw [hplain]
    decide +kernel
  · exact hunique.2.2.2 _ hmem _ hmem 2

end ClientGen
