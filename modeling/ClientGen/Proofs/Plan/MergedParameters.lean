import ClientGen.Proofs.Api.Entries
import ClientGen.Proofs.Plan.PathParameters

/-!
# Whose parameters an operation has

A parameter can be declared by a path item, for all its operations, or by an operation, and an
operation that declares one of the same name at the same location replaces that of its item. What a
document declares is said here without the reading of it, and an operation is read with just these
parameters, behind which only those stand that its path asks for and nothing declares. Each of them
leaves its own warning, and no other reading leaves one.
-/

namespace ClientGen
open Api

namespace Api

/-- The parameter that an entry declares, if it leads to something with a name that travels where
parameters are sent. -/
def declared? (document entry : Json) : Option Parameter := do
  let raw ← resolve? document entry
  let name ← raw.getText? "name"
  let location ← (raw.getText? "in").bind Location.ofKeyword?
  return {
    name
    location
    required := location = .path || raw.flag "required"
    schema := parameterSchema raw
    description := raw.getText? "description" }

/-- The parameters that a path item or an operation declares. -/
def declaredParameters (document object : Json) : List Parameter :=
  (listed (object.get? "parameters")).filterMap (declared? document)

theorem value_readParameter (document : Json) (location : String) (entry : Json) :
    (readParameter document location entry).value = declared? document entry := by
  simp only [readParameter, declared?, Option.bind_eq_bind, Option.pure_def]
  cases resolve? document entry with
  | none => rfl
  | some raw =>
    dsimp only [Option.bind_some]
    cases raw.getText? "name" with
    | none => rfl
    | some name =>
      dsimp only [Option.bind_some]
      cases raw.getText? "in" with
      | none => rfl
      | some keyword =>
        dsimp only [Option.bind_some, Option.getD_some]
        cases Location.ofKeyword? keyword <;> rfl

theorem value_readParameters (document : Json) (location : String) (object : Json) :
    (readParameters document location (object.get? "parameters")).value =
      declaredParameters document object := by
  simp only [readParameters, Traced.value_bind, Traced.value_pure, Traced.value_each,
    List.filterMap_map]
  exact List.filterMap_congr fun entry _ => value_readParameter document location entry

end Api

namespace OperationSource
variable (document : Json) (source : OperationSource)

def shared : List Parameter := declaredParameters document source.item

def own : List Parameter := declaredParameters document source.operation

/-- The shared parameters without those that the operation declares anew. -/
def inherited : List Parameter :=
  (source.shared document).filter fun p =>
    (p.name, p.location) ∉ (source.own document).map fun o => (o.name, o.location)

/-- The placeholders of the path that no parameter is declared for. -/
def assumed : List String :=
  undeclared (source.inherited document ++ source.own document) (segments source.path)

theorem merged_eq : source.merged document = source.inherited document ++ source.own document := by
  rw [merged, value_readParameters, value_readParameters, mergeParameters]
  congr 1
  refine List.filter_congr fun p _ => ?_
  rw [Bool.eq_iff_iff]
  simp [own]

variable {document source}

theorem exists_same_of_mem_shared {p : Parameter} (h : p ∈ source.shared document) :
    ∃ q ∈ source.inherited document ++ source.own document,
      q.name = p.name ∧ q.location = p.location := by
  by_cases hnew : (p.name, p.location) ∈ (source.own document).map fun o => (o.name, o.location)
  · obtain ⟨q, hq, hsame⟩ := List.mem_map.1 hnew
    exact ⟨q, List.mem_append_right _ hq, Prod.mk.inj hsame⟩
  · exact ⟨p, List.mem_append_left _ (List.mem_filter.2 ⟨h, decide_eq_true hnew⟩), rfl, rfl⟩

theorem not_declared_of_mem_assumed {name : String} (hname : name ∈ source.assumed document)
    {p : Parameter} (hp : p ∈ source.shared document ++ source.own document) :
    ¬ (p.location = .path ∧ p.name = name) := by
  rintro ⟨hpath, rfl⟩
  refine (mem_undeclared.1 hname).2 ?_
  rcases List.mem_append.1 hp with hp | hp
  · obtain ⟨q, hq, hsame, hplace⟩ := exists_same_of_mem_shared hp
    exact ⟨q, hq, hplace.trans hpath, hsame⟩
  · exact ⟨p, List.mem_append_right _ hp, hpath, rfl⟩

end OperationSource

/-- Whether a warning says that a parameter is assumed. -/
def Warning.isAssumption : Warning → Bool
  | .malformed _ (.undeclaredPathParameter _) => true
  | _ => false

/-- The warnings about the parameters that are assumed for an operation. -/
def OperationSource.assumptions (document : Json) (source : OperationSource) : List Warning :=
  (source.assumed document).map fun name =>
    .malformed (site source.method source.path) (.undeclaredPathParameter name)

def AssumesNone {α : Type} (x : Traced Warning α) : Prop :=
  x.trace.filter Warning.isAssumption = []

theorem assumesNone_readParameters (document : Json) (location : String) (raw : Option Json) :
    AssumesNone (readParameters document location raw) := by
  have hentry : ∀ entry,
      (readParameter document location entry).trace.filter Warning.isAssumption = [] := by
    intro entry
    unfold readParameter
    repeat' split
    all_goals rfl
  simp only [AssumesNone, readParameters, Traced.trace_bind, Traced.trace_pure, Traced.trace_each,
    List.append_nil, List.filter_flatMap, hentry, List.flatMap_eq_nil_iff, implies_true]

theorem assumesNone_readBody (document : Json) (location : String) (raw : Option Json) :
    AssumesNone (readBody document location raw) := by
  unfold readBody
  repeat' split
  all_goals rfl

theorem assumesNone_readResponses (document : Json) (location : String) (raw : Option Json) :
    AssumesNone (readResponses document location raw) := by
  unfold readResponses
  split <;> rfl

theorem assumesNone_readTypes (document : Json) : AssumesNone (readTypes document) := by
  have hsection : ∀ types raw,
      (addSection types raw).trace.filter Warning.isAssumption = [] := by
    intro types raw
    unfold addSection addTypes
    repeat' split
    all_goals rfl
  rw [AssumesNone, readTypes, Traced.trace_bind, List.filter_append, hsection, hsection]
  rfl

theorem assumptions_readOperation (document : Json) (source : OperationSource) :
    (readOperation document source.path (site source.method source.path)
        (readParameters document source.path (source.item.get? "parameters")).value
        source.operation).trace.filter Warning.isAssumption =
      source.assumptions document := by
  have hassumed : (addAssumed (site source.method source.path) (segments source.path)
      (source.merged document)).trace.filter Warning.isAssumption =
        source.assumptions document := by
    rw [addAssumed_eq, source.merged_eq]
    exact List.filter_eq_self.2 (by simp [Warning.isAssumption])
  simp only [readOperation, Traced.trace_bind, Traced.trace_pure, List.append_nil,
    List.filter_append]
  rw [assumesNone_readParameters, assumesNone_readBody, assumesNone_readResponses, List.nil_append,
    List.nil_append, List.append_nil]
  exact hassumed

theorem assumptions_readMethod (document : Json) (item : String × Json) (method : Method) :
    (readMethod document item.1 (readParameters document item.1 (item.2.get? "parameters")).value
        item.2 method).trace.filter Warning.isAssumption =
      (sourceOf? item method).toList.flatMap (OperationSource.assumptions document) := by
  unfold readMethod sourceOf?
  cases item.2.get? method.name with
  | none => rfl
  | some operation =>
    cases operation with
    | obj members =>
      rw [Option.toList_some, List.flatMap_singleton, ← assumptions_readOperation,
        Traced.trace_bind, Traced.trace_pure, List.append_nil]
    | _ => rfl

theorem assumptions_readRoute (document : Json) (item : String × Json) :
    (readRoute document item.1 item.2).trace.filter Warning.isAssumption =
      (Method.all.filterMap (sourceOf? item)).flatMap (OperationSource.assumptions document) := by
  obtain ⟨path, item⟩ := item
  cases item with
  | obj members =>
    rw [List.filterMap_eq_flatMap_toList, List.flatMap_assoc]
    simp only [readRoute, Traced.trace_bind, Traced.trace_pure, Traced.trace_each, List.append_nil,
      List.filter_append, List.filter_flatMap, ← assumptions_readMethod]
    rw [assumesNone_readParameters, List.nil_append]
  | _ => rfl

theorem assumptions_normalize (document : Json) :
    (normalize document).trace.filter Warning.isAssumption =
      (operationSources document).flatMap (OperationSource.assumptions document) := by
  by_cases hobject : document.members?.isSome
  · rw [normalize_eq hobject, List.filter_append, assumesNone_readTypes, List.nil_append]
    simp only [readRoutes, Traced.trace_bind, Traced.trace_pure, Traced.trace_each,
      List.append_nil, List.filter_flatMap, operationSources, List.flatMap_assoc]
    exact List.flatMap_congr fun item _ => assumptions_readRoute document item
  · cases document with
    | obj members => exact absurd rfl hobject
    | _ => rfl

/-- An operation is read as it stands in the document: the parameters of its path item that it does
not declare anew, then its own, then one for each placeholder that none of them is for. -/
structure OperationSource.ReadAs (document : Json) (source : OperationSource) (entry : Entry) :
    Prop where
  path : entry.path = source.path
  method : entry.method = source.method
  parameters : entry.operation.parameters =
    source.inherited document ++ source.own document ++
      (source.assumed document).map assumedParameter
  covered : ∀ segment ∈ segments entry.path, ∀ name ∈ placeholder? segment,
    ∃ p ∈ entry.operation.parameters, p.location = .path ∧ p.name = name
  required : PathRequired entry.operation.parameters
  apart : ∀ name ∈ source.assumed document, ∀ p ∈ source.shared document ++ source.own document,
    ¬ (p.location = .path ∧ p.name = name)
  once : (source.assumed document).Nodup

theorem OperationSource.readAs_entry (document : Json) (source : OperationSource) :
    source.ReadAs document (source.entry document) where
  path := rfl
  method := rfl
  parameters := by rw [parameters_entry, merged_eq, assumed]
  covered := by
    intro segment hsegment name hname
    rw [parameters_entry]
    exact exists_of_placeholder hsegment hname _
  required := source.pathRequired document
  apart := fun _ hname _ hp => not_declared_of_mem_assumed hname hp
  once := nodup_undeclared _ _

/-- Every operation of a document is read with the parameters that are its own or its path item's
and those that its path asks for, and each of the latter leaves one warning. -/
theorem parameters_merged (document : Json) :
    List.Forall₂ (OperationSource.ReadAs document) (operationSources document)
        (readEntries document) ∧
      (normalize document).trace.filter Warning.isAssumption =
        (operationSources document).flatMap (OperationSource.assumptions document) := by
  refine ⟨?_, assumptions_normalize document⟩
  rw [readEntries_eq, List.forall₂_map_right_iff, List.forall₂_same]
  exact fun source _ => source.readAs_entry document

end ClientGen
