import ClientGen.Proofs.Plan.Calls

/-!
# Path parameters of operations

The parameters of an operation are those that it declares and those of its path item, and a string
parameter for every placeholder segment of the path that none of them is for. So whatever a document
declares, each placeholder segment has a path parameter, and every path parameter is required.
-/

namespace ClientGen
open Api

namespace Api

def declaresPath (parameters : List Parameter) (name : String) : Bool :=
  parameters.any fun p => p.location = .path && p.name = name

theorem declaresPath_iff {parameters : List Parameter} {name : String} :
    declaresPath parameters name ↔ ∃ p ∈ parameters, p.location = .path ∧ p.name = name := by
  simp [declaresPath]

theorem declaresPath_concat (parameters : List Parameter) (other name : String) :
    declaresPath (parameters ++ [assumedParameter other]) name =
      (declaresPath parameters name || other == name) := by
  rw [declaresPath, List.any_append, List.any_cons, List.any_nil, Bool.or_false]
  rfl

/-- The names in placeholders among the segments that none of the parameters is for, each at its
first place. -/
def undeclared (parameters : List Parameter) (segments : List String) : List String :=
  ((segments.filterMap placeholder?).filter fun name => !declaresPath parameters name).eraseDups

section
variable {parameters : List Parameter} {segment name : String}

theorem undeclared_cons_none (h : placeholder? segment = none) (rest : List String) :
    undeclared parameters (segment :: rest) = undeclared parameters rest := by
  rw [undeclared, List.filterMap_cons_none h]
  rfl

theorem undeclared_cons_declared (h : placeholder? segment = some name)
    (hold : declaresPath parameters name = true) (rest : List String) :
    undeclared parameters (segment :: rest) = undeclared parameters rest := by
  rw [undeclared, List.filterMap_cons_some h, List.filter_cons_of_neg (by simp [hold])]
  rfl

theorem undeclared_cons_new (h : placeholder? segment = some name)
    (hnew : declaresPath parameters name = false) (rest : List String) :
    undeclared parameters (segment :: rest) =
      name :: undeclared (parameters ++ [assumedParameter name]) rest := by
  have hrest : ((rest.filterMap placeholder?).filter fun other =>
      !declaresPath parameters other).filter (fun other => !other == name) =
        (rest.filterMap placeholder?).filter fun other =>
          !declaresPath (parameters ++ [assumedParameter name]) other := by
    rw [List.filter_filter]
    refine List.filter_congr fun other _ => ?_
    rw [declaresPath_concat, Bool.not_or, Bool.and_comm, BEq.comm]
  rw [undeclared, List.filterMap_cons_some h, List.filter_cons_of_pos (by simp [hnew]),
    List.eraseDups_cons, hrest]
  rfl

theorem mem_undeclared {segments : List String} :
    name ∈ undeclared parameters segments ↔
      (∃ segment ∈ segments, placeholder? segment = some name) ∧
        ¬ ∃ p ∈ parameters, p.location = .path ∧ p.name = name := by
  rw [undeclared, List.mem_eraseDups, List.mem_filter, List.mem_filterMap, ← declaresPath_iff]
  simp

end

theorem nodup_undeclared (parameters : List Parameter) (segments : List String) :
    (undeclared parameters segments).Nodup := by
  have h := firstOccurrences_nodup id
    ((segments.filterMap placeholder?).filter fun name => !declaresPath parameters name)
  rwa [map_firstOccurrences, List.map_id] at h

/-- A parameter is added, with a warning, for each placeholder that no parameter is for. -/
theorem addAssumed_eq (location : String) (segments : List String) (parameters : List Parameter) :
    addAssumed location segments parameters =
      ⟨parameters ++ (undeclared parameters segments).map assumedParameter,
        (undeclared parameters segments).map fun name =>
          .malformed location (.undeclaredPathParameter name)⟩ := by
  -- segment by segment: what is assumed on the way is declared for the rest
  induction segments generalizing parameters with
  | nil => simp [addAssumed, undeclared, Traced.clean]
  | cons segment rest ih =>
    rw [addAssumed]
    cases hname : placeholder? segment with
    | none =>
      rw [undeclared_cons_none hname]
      exact ih parameters
    | some name =>
      show (if declaresPath parameters name then _ else _) = _
      by_cases hold : declaresPath parameters name
      · rw [if_pos hold, undeclared_cons_declared hname hold]
        exact ih parameters
      · rw [if_neg hold, undeclared_cons_new hname (eq_false_of_ne_true hold), ih,
          List.append_assoc]
        rfl

theorem exists_of_placeholder {segments : List String} {segment name : String}
    (hsegment : segment ∈ segments) (hname : placeholder? segment = some name)
    (parameters : List Parameter) :
    ∃ p ∈ parameters ++ (undeclared parameters segments).map assumedParameter,
      p.location = .path ∧ p.name = name := by
  by_cases hdeclared : ∃ p ∈ parameters, p.location = .path ∧ p.name = name
  · obtain ⟨p, hp, hpath⟩ := hdeclared
    exact ⟨p, List.mem_append_left _ hp, hpath⟩
  · have hmem : name ∈ undeclared parameters segments :=
      mem_undeclared.2 ⟨⟨segment, hsegment, hname⟩, hdeclared⟩
    exact ⟨_, List.mem_append_right _ (List.mem_map_of_mem hmem), rfl, rfl⟩

def PathRequired (parameters : List Parameter) : Prop :=
  ∀ p ∈ parameters, p.location = .path → p.required = true

theorem required_of_readParameter {document entry : Json} {location : String} {p : Parameter}
    (h : (readParameter document location entry).value = some p) (hpath : p.location = .path) :
    p.required = true := by
  unfold readParameter at h
  split at h
  · cases h
  · split at h
    · cases h
    · split at h
      · cases h
      · rw [Traced.value_clean, Option.some_inj] at h
        subst h
        dsimp only at hpath
        rw [hpath]
        rfl

theorem pathRequired_readParameters (document : Json) (location : String) (raw : Option Json) :
    PathRequired (readParameters document location raw).value := by
  intro p hp hpath
  simp only [readParameters, Traced.value_bind, Traced.value_pure, Traced.value_each,
    List.filterMap_map, List.mem_filterMap] at hp
  obtain ⟨entry, _, hentry⟩ := hp
  exact required_of_readParameter hentry hpath

theorem PathRequired.mergeParameters {shared own : List Parameter} (hshared : PathRequired shared)
    (hown : PathRequired own) : PathRequired (mergeParameters shared own) := by
  intro p hp
  rcases List.mem_append.1 hp with hp | hp
  · exact hshared p (List.mem_filter.1 hp).1
  · exact hown p hp

theorem PathRequired.append_assumed {parameters : List Parameter} (h : PathRequired parameters)
    (names : List String) : PathRequired (parameters ++ names.map assumedParameter) := by
  intro p hp
  rcases List.mem_append.1 hp with hp | hp
  · exact h p hp
  · obtain ⟨name, _, rfl⟩ := List.mem_map.1 hp
    exact fun _ => rfl

end Api

/-- An operation of a document, with the path item that it is in. -/
structure OperationSource where
  path : String
  item : Json
  method : Method
  operation : Json

def sourceOf? (item : String × Json) (method : Method) : Option OperationSource :=
  match item.2.get? method.name with
  | some (.obj members) => some ⟨item.1, item.2, method, .obj members⟩
  | _ => none

def operationSources (document : Json) : List OperationSource :=
  (pathItems document).flatMap fun item => Method.all.filterMap (sourceOf? item)

def OperationSource.entry (document : Json) (source : OperationSource) : Entry where
  path := source.path
  method := source.method
  operation := (readOperation document source.path (site source.method source.path)
    (readParameters document source.path (source.item.get? "parameters")).value
    source.operation).value

theorem value_readMethod (document : Json) (item : String × Json) (method : Method) :
    (readMethod document item.1
        (readParameters document item.1 (item.2.get? "parameters")).value item.2 method).value =
      (sourceOf? item method).map fun source =>
        (method, (source.entry document).operation) := by
  unfold readMethod sourceOf?
  cases item.2.get? method.name with
  | none => rfl
  | some operation => cases operation <;> rfl

theorem sourceOf?_eq_some {item : String × Json} {method : Method} {source : OperationSource}
    (h : sourceOf? item method = some source) :
    source.path = item.1 ∧ source.item = item.2 ∧ source.method = method ∧
      item.2.get? method.name = some source.operation := by
  unfold sourceOf? at h
  split at h
  · rename_i members hmembers
    injection h with h
    subst h
    exact ⟨rfl, rfl, rfl, hmembers⟩
  · cases h

theorem entries_routeOf? (document : Json) (item : String × Json) :
    (routeOf? document item).toList.flatMap Route.entries =
      (Method.all.filterMap (sourceOf? item)).map (OperationSource.entry document) := by
  obtain ⟨path, item⟩ := item
  cases item with
  | obj members =>
    show List.flatMap Route.entries [_] = _
    rw [List.flatMap_singleton, Route.entries, Traced.value_each, List.filterMap_map,
      List.map_filterMap, List.map_filterMap]
    refine List.filterMap_congr fun method _ => ?_
    rw [Function.comp_apply, id, value_readMethod document (path, .obj members) method,
      Option.map_map]
    cases hsource : sourceOf? (path, .obj members) method with
    | none => rfl
    | some source =>
      obtain ⟨hpath, -, hmethod, -⟩ := sourceOf?_eq_some hsource
      subst hpath hmethod
      rfl
  | _ => rfl

theorem readEntries_eq (document : Json) :
    readEntries document = (operationSources document).map (OperationSource.entry document) := by
  rw [readEntries, routes_normalize, List.filterMap_eq_flatMap_toList, List.flatMap_assoc,
    operationSources, List.map_flatMap]
  exact List.flatMap_congr fun item _ => entries_routeOf? document item

def OperationSource.merged (document : Json) (source : OperationSource) : List Parameter :=
  mergeParameters
    (readParameters document source.path (source.item.get? "parameters")).value
    (readParameters document (site source.method source.path)
      (source.operation.get? "parameters")).value

theorem OperationSource.parameters_entry (document : Json) (source : OperationSource) :
    (source.entry document).operation.parameters =
      source.merged document ++ (undeclared (source.merged document) (segments source.path)).map
        assumedParameter := by
  show (addAssumed _ _ (source.merged document)).value = _
  rw [addAssumed_eq]

theorem OperationSource.pathRequired (document : Json) (source : OperationSource) :
    PathRequired (source.entry document).operation.parameters := by
  rw [parameters_entry]
  refine (PathRequired.mergeParameters ?_ ?_).append_assumed _
  · exact pathRequired_readParameters document source.path _
  · exact pathRequired_readParameters document (site source.method source.path) _

section
variable {document : Json} {entry : Entry} (hentry : entry ∈ sourceEntries document)
include hentry

theorem exists_source_of_mem_sourceEntries :
    ∃ source ∈ operationSources document, source.entry document = entry := by
  have hread := mem_readEntries_of_mem hentry
  rw [readEntries_eq] at hread
  exact List.mem_map.1 hread

theorem pathRequired_of_mem_sourceEntries : PathRequired entry.operation.parameters := by
  obtain ⟨source, -, rfl⟩ := exists_source_of_mem_sourceEntries hentry
  exact source.pathRequired document

theorem mem_parameterNames_of_placeholder {piece name : String} (hpiece : piece ∈ pieces entry.path)
    (hname : placeholder? piece = some name) : name ∈ parameterNames entry.operation .path := by
  have hsegment : piece ∈ segments entry.path := by
    refine List.mem_filter.2 ⟨hpiece, decide_eq_true ?_⟩
    rintro rfl
    cases hname
  obtain ⟨source, -, rfl⟩ := exists_source_of_mem_sourceEntries hentry
  obtain ⟨p, hp, hpath, rfl⟩ := exists_of_placeholder hsegment hname (source.merged document)
  rw [OperationSource.entry, ← source.parameters_entry] at hp
  exact List.mem_map_of_mem (List.mem_filter.2 ⟨hp, decide_eq_true hpath⟩)

end

end ClientGen
