import ClientGen.Proofs.Endpoint.Fields

/-!
# What an interface exposes

An operation exposes its parameters location by location, and behind them its request body. The
interface of a call has one field for each name that is exposed, made of what is exposed first under
that name, and it refers to exactly the declared types that these fields refer to.
-/

namespace ClientGen
open Api

/-- A parameter or a request body under the name that it is passed by. -/
structure Exposed where
  name : String
  location : Location
  required : Bool
  schema : Json
  description : Option String

namespace Api

/-- A parameter is passed by its name, a body parameter by the name of bodies. -/
def Parameter.exposed (p : Parameter) : Exposed where
  name := if p.location = .body then bodyField else p.name
  location := p.location
  required := p.required
  schema := p.schema
  description := p.description

/-- The request body, which gives way to body and form parameters. -/
def Operation.exposedBody? (operation : Operation) : Option Exposed :=
  if hasBodyParameters operation then none
  else operation.body.bind fun body => body.schema?.map fun schema => {
    name := bodyField
    location := .body
    required := body.required
    schema
    description := none }

/-- All that an operation exposes, in the order in which names are given away. -/
def Operation.exposed (operation : Operation) : List Exposed :=
  (fieldOrder.flatMap operation.parametersAt).map Parameter.exposed ++
    operation.exposedBody?.toList

end Api

namespace Exposed

/-- The compiled schema. It does not depend on the place that it is compiled under. -/
def compiled (scope : Scope) (e : Exposed) : Schema := (compileSchema scope e.schema e.name).value

def field (scope : Scope) (e : Exposed) : ParameterField where
  name := e.name
  location := e.location
  required := e.required
  type := typeText (e.compiled scope)
  description := e.description

def candidate (scope : Scope) (e : Exposed) : Candidate where
  name := e.name
  location := e.location
  required := e.required
  schema := e.compiled scope
  description := e.description

end Exposed

theorem value_compileParameter (scope : Scope) (place : String) (p : Parameter) :
    (compileParameter scope place p).value = p.exposed.candidate scope := by
  have hschema := compileSchema_value_location scope p.schema (place ++ " param " ++ p.name)
    p.exposed.name
  simp only [compileParameter, Traced.value_bind, Traced.value_pure, hschema]
  rfl

theorem value_compileBody (scope : Scope) (place : String) (operation : Operation) :
    (compileBody scope place operation).value =
      operation.exposedBody?.toList.map (Exposed.candidate scope) := by
  unfold compileBody Operation.exposedBody?
  cases operation.body with
  | none => simp
  | some body =>
    cases hschema : body.schema? with
    | none => simp [Compiling.malformed, hschema]
    | some raw =>
      have hplace := compileSchema_value_location scope raw (place ++ " body") bodyField
      cases hasBodyParameters operation
      · simp [hschema, hplace, Exposed.candidate, Exposed.compiled]
      · simp [hschema]

theorem fieldCandidates_eq_map (scope : Scope) (entry : Entry) :
    fieldCandidates scope entry =
      (firstOccurrences (·.name) entry.operation.exposed).map (Exposed.candidate scope) := by
  have hparameters : ∀ place,
      (Traced.each (compileParameter scope place) (orderedParameters entry.operation)).value =
        ((fieldOrder.flatMap entry.operation.parametersAt).map Parameter.exposed).map
          (Exposed.candidate scope) := by
    intro place
    rw [Traced.value_each, List.map_map]
    exact List.map_congr_left fun p _ => value_compileParameter scope place p
  rw [fieldCandidates, keepFirst_eq, hparameters, value_compileBody, ← List.map_append,
    firstOccurrences_map]
  rfl

/-- The turn of a location when names are given away. -/
def Api.Location.turn (location : Location) : Nat := fieldOrder.idxOf location

theorem mem_fieldOrder (location : Location) : location ∈ fieldOrder := by
  cases location <;> decide

theorem turn_le_body (location : Location) : location.turn ≤ Location.body.turn := by
  cases location <;> decide

theorem location_of_mem_parametersAt {operation : Operation} {location : Location} {p : Parameter}
    (hp : p ∈ operation.parametersAt location) : p.location = location :=
  of_decide_eq_true (List.mem_filter.1 hp).2

theorem parameters_in_turn (operation : Operation) :
    (fieldOrder.flatMap operation.parametersAt).Pairwise
      fun p q => p.location.turn ≤ q.location.turn := by
  have horder : fieldOrder.Pairwise fun first second => first.turn ≤ second.turn := by decide
  rw [List.pairwise_flatMap]
  constructor
  · intro location _
    refine List.pairwise_of_forall_mem_list fun p hp q hq => Nat.le_of_eq ?_
    rw [location_of_mem_parametersAt hp, location_of_mem_parametersAt hq]
  · refine horder.imp fun {first second} hturn p hp q hq => ?_
    rwa [location_of_mem_parametersAt hp, location_of_mem_parametersAt hq]

namespace Api.Operation

theorem location_of_exposedBody? {operation : Operation} {e : Exposed}
    (h : operation.exposedBody? = some e) : e.location = .body := by
  unfold exposedBody? at h
  split at h
  · cases h
  · obtain ⟨body, _, hschema⟩ := Option.bind_eq_some_iff.1 h
    obtain ⟨raw, _, rfl⟩ := Option.map_eq_some_iff.1 hschema
    rfl

theorem exposed_in_turn (operation : Operation) :
    operation.exposed.Pairwise fun first second => first.location.turn ≤ second.location.turn := by
  have hbody : ∀ e ∈ operation.exposedBody?.toList, e.location = .body := fun e he =>
    location_of_exposedBody? (Option.mem_toList.1 he)
  refine List.pairwise_append.2 ⟨?_, ?_, ?_⟩
  · rw [List.pairwise_map]
    exact parameters_in_turn operation
  · refine List.pairwise_of_forall_mem_list fun first hfirst second hsecond => Nat.le_of_eq ?_
    rw [hbody first hfirst, hbody second hsecond]
  · intro first _ second hsecond
    rw [hbody second hsecond]
    exact turn_le_body first.location

theorem exposed_eq_nil_iff (operation : Operation) :
    operation.exposed = [] ↔
      operation.parameters = [] ∧ operation.body.bind RequestBody.schema? = none := by
  rw [exposed, List.append_eq_nil_iff, List.map_eq_nil_iff, Option.toList_eq_nil_iff]
  have hparameters : fieldOrder.flatMap operation.parametersAt = [] ↔
      operation.parameters = [] := by
    constructor
    · intro h
      refine List.eq_nil_iff_forall_not_mem.2 fun p hp => ?_
      have hplace : p ∈ operation.parametersAt p.location :=
        List.mem_filter.2 ⟨hp, decide_eq_true rfl⟩
      have hmem := List.mem_flatMap.2 ⟨p.location, mem_fieldOrder p.location, hplace⟩
      rw [h] at hmem
      cases hmem
    · intro h
      simp [parametersAt, h]
  rw [hparameters]
  refine and_congr_right fun hnone => ?_
  have hfree : hasBodyParameters operation = false := by rw [hasBodyParameters, hnone]; rfl
  rw [exposedBody?, hfree]
  cases operation.body with
  | none => simp
  | some body => simp

end Api.Operation

def Api.Operation.keptExposed (operation : Operation) : List Exposed :=
  firstOccurrences (·.name) operation.exposed

theorem find?_of_mem_keptExposed {operation : Operation} {e : Exposed}
    (he : e ∈ operation.keptExposed) : operation.exposed.find? (·.name = e.name) = some e := by
  rw [← find?_firstOccurrences]
  exact find?_of_mem_firstOccurrences he

section
variable {scope : Scope} {basePath : String} {entry : Entry} {interface : Interface}

theorem synthesize_eq_none_iff :
    (synthesize scope basePath entry).value = none ↔
      entry.operation.parameters = [] ∧
        entry.operation.body.bind RequestBody.schema? = none := by
  rw [← Operation.exposed_eq_nil_iff, synthesize_value, fieldCandidates_eq_map]
  simp [firstOccurrences_eq_nil_iff]

variable (h : (synthesize scope basePath entry).value = some interface)
include h

theorem fields_of_synthesize :
    interface.fields = entry.operation.keptExposed.map (Exposed.field scope) := by
  rw [synthesize_value] at h
  split at h
  · cases h
  · rw [← Option.some.inj h, fieldCandidates_eq_map, List.map_map]
    rfl

theorem references_of_synthesize :
    interface.references =
      distinctReferences (entry.operation.keptExposed.flatMap fun e =>
        (e.compiled scope).references) := by
  rw [synthesize_value] at h
  split at h
  · cases h
  · rw [← Option.some.inj h, fieldCandidates_eq_map, List.flatMap_map]
    rfl

theorem exists_field_iff (name : String) :
    name ∈ interface.fields.map (·.name) ↔ ∃ location, entry.operation.Asks location name := by
  have hfields : interface.fields.map (·.name) = (fieldCandidates scope entry).map (·.name) := by
    rw [fields_of_synthesize h, fieldCandidates_eq_map, List.map_map, List.map_map]
    rfl
  rw [hfields, fieldCandidates_eq, List.mem_map]
  constructor
  · rintro ⟨c, hc, hname⟩
    obtain ⟨location, _, hc⟩ := List.mem_flatMap.1 (mem_of_mem_firstOccurrences hc)
    exact ⟨location, (exists_mem_candidatesAt_iff scope).1 ⟨c, hc, hname⟩⟩
  · rintro ⟨location, hasks⟩
    obtain ⟨c, hc, hname⟩ := (exists_mem_candidatesAt_iff scope).2 hasks
    obtain ⟨kept, hkept, hsame⟩ := exists_mem_firstOccurrences (·.name)
      (List.mem_flatMap.2 ⟨location, mem_fieldOrder location, hc⟩)
    exact ⟨kept, hkept, hsame.trans hname⟩

theorem fields_in_turn :
    interface.fields.Pairwise fun first second => first.location.turn ≤ second.location.turn := by
  rw [fields_of_synthesize h, List.pairwise_map]
  exact entry.operation.exposed_in_turn.sublist (firstOccurrences_sublist _ _)

theorem mem_references_iff (reference : Reference) :
    reference ∈ interface.references ↔
      ∃ e ∈ entry.operation.keptExposed, reference ∈ (e.compiled scope).resolvedNodes := by
  rw [references_of_synthesize h, mem_distinctReferences, List.mem_flatMap]
  constructor
  · rintro ⟨e, he, hreference⟩
    exact ⟨e, he, mem_resolvedNodes_of_mem_references hreference⟩
  · rintro ⟨e, he, hnode⟩
    exact ⟨e, he, mem_references_of_mem_resolvedNodes hnode⟩

theorem references_nodup : interface.references.Nodup := by
  rw [references_of_synthesize h, distinctReferences_eq]
  simpa using firstOccurrences_nodup id _

end

/-- The interface of an operation: its fields have distinct names, those that the operation asks
for, stand in the order of the locations and are what is exposed first under their names, and its
references are the ones of its fields, each once. -/
structure Interface.WellFormed (scope : Scope) (operation : Operation) (interface : Interface) :
    Prop where
  distinct : (interface.fields.map (·.name)).Nodup
  asked : ∀ name, name ∈ interface.fields.map (·.name) ↔ ∃ location, operation.Asks location name
  ordered : interface.fields.Pairwise fun first second =>
    first.location.turn ≤ second.location.turn
  first : ∀ field ∈ interface.fields, ∃ e,
    operation.exposed.find? (·.name = field.name) = some e ∧ field = e.field scope
  references : ∀ reference, reference ∈ interface.references ↔
    ∃ field ∈ interface.fields, ∃ e, operation.exposed.find? (·.name = field.name) = some e ∧
      reference ∈ (e.compiled scope).resolvedNodes
  once : interface.references.Nodup

/-- A call takes no parameters exactly where its operation has none and no request body with a
schema, and otherwise an interface that is well formed. -/
theorem interfaces_well_formed (scope : Scope) (basePath : String) (entry : Entry) :
    ((synthesize scope basePath entry).value = none ↔
      entry.operation.parameters = [] ∧
        entry.operation.body.bind RequestBody.schema? = none) ∧
    ∀ interface, (synthesize scope basePath entry).value = some interface →
      interface.WellFormed scope entry.operation := by
  refine ⟨synthesize_eq_none_iff, fun interface h => ?_⟩
  have hfields := fields_of_synthesize h
  constructor
  case distinct =>
    rw [hfields, List.map_map]
    exact firstOccurrences_nodup _ _
  case asked => exact exists_field_iff h
  case ordered => exact fields_in_turn h
  case first =>
    intro field hfield
    rw [hfields] at hfield
    obtain ⟨e, he, rfl⟩ := List.mem_map.1 hfield
    exact ⟨e, find?_of_mem_keptExposed he, rfl⟩
  case references =>
    intro reference
    rw [mem_references_iff h, hfields]
    constructor
    · rintro ⟨e, he, hnode⟩
      exact ⟨e.field scope, List.mem_map_of_mem he, e, find?_of_mem_keptExposed he, hnode⟩
    · rintro ⟨field, hfield, e, hfind, hnode⟩
      obtain ⟨kept, hkept, rfl⟩ := List.mem_map.1 hfield
      have hsame := (find?_of_mem_keptExposed hkept).symm.trans hfind
      obtain rfl := Option.some.inj hsame
      exact ⟨kept, hkept, hnode⟩
  case once => exact references_nodup h

/-- A call whose names clash between locations, and whose query parameters share a type. -/
def transferCall : Entry where
  path := "/api/transfers/{id}"
  method := .post
  operation := { (default : Operation) with
    parameters := [
      ⟨"status", .query, false, .obj [("$ref", .str "#/definitions/Status")], none⟩,
      ⟨"id", .query, false, .obj [("type", .str "integer")], some "as a number"⟩,
      ⟨"before", .query, true, .obj [("$ref", .str "#/definitions/Status")], none⟩,
      ⟨"id", .path, true, .obj [("type", .str "string")], some "as a text"⟩,
      ⟨"status", .query, true, .obj [("$ref", .str "#/definitions/Lost")], none⟩]
    body := some ⟨.ofList [("application/json", some (.obj [("type", .str "array"),
      ("items", .obj [("$ref", .str "#/definitions/Transfer")])]))], true⟩ }

def transferScope : Scope := .of <| .ofList [
  ("Transfer", .obj [("type", .str "object")]),
  ("Status", .obj [("type", .str "string"), ("enum", .arr [.str "open", .str "done"])])]

def transferInterface : Interface where
  name := "ITransfersIdPostParams"
  fields := [
    ⟨"id", .path, true, "string", some "as a text"⟩,
    ⟨"status", .query, false, "Status", none⟩,
    ⟨"before", .query, true, "Status", none⟩,
    ⟨"body", .body, true, "ITransferSerializer[]", none⟩]
  references := [("Status", .enum), ("Transfer", .model)]

theorem transferCall_well_formed :
    (synthesize transferScope "api" transferCall).value = some transferInterface ∧
      transferInterface.WellFormed transferScope transferCall.operation := by
  have hvalue : (synthesize transferScope "api" transferCall).value = some transferInterface := by
    decide +kernel
  exact ⟨hvalue, (interfaces_well_formed transferScope "api" transferCall).2 _ hvalue⟩

end ClientGen
