import ClientGen.Api.Document
import ClientGen.Proofs.Dict
import ClientGen.Proofs.Related
import ClientGen.Proofs.Traced

/-!
# Entries of a document

The entries of a document are the parts of its paths that may be references: parameters, request
bodies and responses. All that its routes are read from besides is the frame around them. Where two
documents have one frame and their entries read alike, one by one, their routes are the same and so
are the warnings, but for what happens to the schemas on the way.
-/

namespace ClientGen

theorem filterMap_id_map {α β : Type} (f : α → β) (xs : List (Option α)) :
    (xs.map (Option.map f)).filterMap id = (xs.filterMap id).map f := by
  rw [List.filterMap_map, List.map_filterMap]
  rfl

namespace Api

def listed (raw : Option Json) : List Json := (raw.bind Json.items?).getD []

def membersOf (raw : Option Json) : List (String × Json) := (raw.bind Json.members?).getD []

/-- The own parameters, the request body and the responses of an operation. -/
def operationEntries (operation : Json) : List Json :=
  listed (operation.get? "parameters") ++ (operation.get? "requestBody").toList ++
    (membersOf (operation.get? "responses")).map Prod.snd

/-- The shared parameters of a path item and the entries of its operations. -/
def itemEntries (item : Json) : List Json :=
  listed (item.get? "parameters") ++
    Method.all.flatMap fun method => (item.get? method.name).toList.flatMap operationEntries

def documentEntries (document : Json) : List Json :=
  (membersOf (document.get? "paths")).flatMap fun member => itemEntries member.2

section
variable (R : Json → Json → Prop)

/-- The same names in the same order, with related values. -/
def MembersAlike : List (String × Json) → List (String × Json) → Prop :=
  List.Forall₂ fun first second => second.1 = first.1 ∧ R first.2 second.2

/-- Two operations with related entries that agree in all else that is read of them. -/
structure OperationsAlike (first second : Json) : Prop where
  object : second.members?.isSome = first.members?.isSome
  parameters : List.Forall₂ R (listed (first.get? "parameters")) (listed (second.get? "parameters"))
  body : Option.Rel R (first.get? "requestBody") (second.get? "requestBody")
  declared : (second.get? "responses").isSome = (first.get? "responses").isSome
  responses : MembersAlike R (membersOf (first.get? "responses"))
    (membersOf (second.get? "responses"))
  operationId : second.getText? "operationId" = first.getText? "operationId"
  summary : second.getText? "summary" = first.getText? "summary"
  tags : ((second.getItems? "tags").getD []).filterMap Json.text? =
    ((first.getItems? "tags").getD []).filterMap Json.text?

structure ItemsAlike (first second : Json) : Prop where
  object : second.members?.isSome = first.members?.isSome
  parameters : List.Forall₂ R (listed (first.get? "parameters")) (listed (second.get? "parameters"))
  operations : ∀ method : Method,
    Option.Rel (OperationsAlike R) (first.get? method.name) (second.get? method.name)

def PathsAlike (first second : Json) : Prop :=
  MembersAlike (ItemsAlike R) (membersOf (first.get? "paths")) (membersOf (second.get? "paths"))

end

section
variable {R S : Json → Json → Prop}

theorem mem_operationEntries {operation entry : Json} :
    entry ∈ operationEntries operation ↔ entry ∈ listed (operation.get? "parameters") ∨
      operation.get? "requestBody" = some entry ∨
        ∃ member ∈ membersOf (operation.get? "responses"), member.2 = entry := by
  simp only [operationEntries, List.mem_append, List.mem_map, Option.mem_toList, or_assoc]

theorem Method.mem_all (method : Method) : method ∈ Method.all := by cases method <;> decide

theorem mem_itemEntries {item entry : Json} :
    entry ∈ itemEntries item ↔ entry ∈ listed (item.get? "parameters") ∨
      ∃ method : Method, ∃ operation, item.get? method.name = some operation ∧
        entry ∈ operationEntries operation := by
  simp only [itemEntries, List.mem_append, List.mem_flatMap, Option.mem_toList,
    Method.mem_all, true_and]

theorem OperationsAlike.imp_mem {first second : Json} (h : OperationsAlike R first second)
    (himp : ∀ e ∈ operationEntries first, ∀ e' ∈ operationEntries second, R e e' → S e e') :
    OperationsAlike S first second where
  object := h.object
  parameters := forall₂_imp_mem h.parameters fun e he e' he' =>
    himp e (mem_operationEntries.2 (.inl he)) e' (mem_operationEntries.2 (.inl he'))
  body := rel_imp_mem h.body fun e he e' he' =>
    himp e (mem_operationEntries.2 (.inr (.inl he))) e' (mem_operationEntries.2 (.inr (.inl he')))
  declared := h.declared
  responses := forall₂_imp_mem h.responses fun m hm m' hm' halike =>
    ⟨halike.1, himp m.2 (mem_operationEntries.2 (.inr (.inr ⟨m, hm, rfl⟩))) m'.2
      (mem_operationEntries.2 (.inr (.inr ⟨m', hm', rfl⟩))) halike.2⟩
  operationId := h.operationId
  summary := h.summary
  tags := h.tags

theorem ItemsAlike.imp_mem {first second : Json} (h : ItemsAlike R first second)
    (himp : ∀ e ∈ itemEntries first, ∀ e' ∈ itemEntries second, R e e' → S e e') :
    ItemsAlike S first second where
  object := h.object
  parameters := forall₂_imp_mem h.parameters fun e he e' he' =>
    himp e (mem_itemEntries.2 (.inl he)) e' (mem_itemEntries.2 (.inl he'))
  operations method := rel_imp_mem (h.operations method) fun op hop op' hop' halike =>
    halike.imp_mem fun e he e' he' => himp e (mem_itemEntries.2 (.inr ⟨method, op, hop, he⟩)) e'
      (mem_itemEntries.2 (.inr ⟨method, op', hop', he'⟩))

theorem PathsAlike.imp_mem {first second : Json} (h : PathsAlike R first second)
    (himp : ∀ e ∈ documentEntries first, ∀ e' ∈ documentEntries second, R e e' → S e e') :
    PathsAlike S first second :=
  forall₂_imp_mem h fun m hm m' hm' halike =>
    ⟨halike.1, halike.2.imp_mem fun e he e' he' =>
      himp e (List.mem_flatMap.2 ⟨m, hm, he⟩) e' (List.mem_flatMap.2 ⟨m', hm', he'⟩)⟩

end

section
variable (change : Json → Json)

def Parameter.mapSchema (p : Parameter) : Parameter := { p with schema := change p.schema }

def RequestBody.mapSchemas (body : RequestBody) : RequestBody :=
  { body with content := body.content.mapValues fun _ schema => schema.map change }

def Operation.mapSchemas (operation : Operation) : Operation :=
  { operation with
    parameters := operation.parameters.map (Parameter.mapSchema change)
    body := operation.body.map (RequestBody.mapSchemas change)
    responses := operation.responses.mapValues fun _ schema => schema.map change }

def Route.mapSchemas (route : Route) : Route :=
  { route with operations := route.operations.map fun (method, operation) =>
      (method, operation.mapSchemas change) }

end

theorem RequestBody.mapSchemas_id (body : RequestBody) :
    body.mapSchemas (fun schema => schema) = body := by
  simp only [mapSchemas, Option.map_id', Dict.mapValues_id]

theorem Operation.mapSchemas_id (operation : Operation) :
    operation.mapSchemas (fun schema => schema) = operation := by
  have hbody : operation.body.map (RequestBody.mapSchemas fun schema => schema) =
      operation.body := by
    cases operation.body with
    | none => rfl
    | some body => rw [Option.map_some, body.mapSchemas_id]
  have hparameters : operation.parameters.map (Parameter.mapSchema fun schema => schema) =
      operation.parameters := List.map_id' _
  simp only [mapSchemas, hbody, hparameters, Option.map_id', Dict.mapValues_id]

theorem Route.mapSchemas_id (route : Route) : route.mapSchemas (fun schema => schema) = route := by
  simp only [mapSchemas, Operation.mapSchemas_id, List.map_id']

def readResponse? (document entry : Json) : Option Json :=
  (resolve? document entry).bind responseSchema?

/-- An entry reads in one document as another does in another, with changed schemas. -/
structure ReadAlike (change : Json → Json) (document other entry entry' : Json) : Prop where
  parameter : ∀ location, readParameter other location entry' =
    (readParameter document location entry).mapValue (Option.map (Parameter.mapSchema change))
  body : ∀ location, readBody other location (some entry') =
    (readBody document location (some entry)).mapValue (Option.map (RequestBody.mapSchemas change))
  response : readResponse? other entry' = (readResponse? document entry).map change

section
variable {change : Json → Json} {document other : Json}

theorem readParameters_alike {raw raw' : Option Json} (location : String)
    (h : List.Forall₂ (ReadAlike change document other) (listed raw) (listed raw')) :
    readParameters other location raw' = (readParameters document location raw).mapValue
      (List.map (Parameter.mapSchema change)) := by
  have heach := Traced.each_of_forall₂ (h.imp fun _ _ halike => halike.parameter location)
  show (do let ps ← Traced.each _ (listed raw'); return ps.filterMap id) = _
  rw [heach, Traced.bind_mapValue]
  simp only [filterMap_id_map]
  rfl

theorem readBody_alike {raw raw' : Option Json} (location : String)
    (h : Option.Rel (ReadAlike change document other) raw raw') :
    readBody other location raw' = (readBody document location raw).mapValue
      (Option.map (RequestBody.mapSchemas change)) := by
  cases h with
  | none => rfl
  | some halike => exact halike.body location

theorem readResponses_alike {raw raw' : Option Json} (location : String)
    (hdeclared : raw'.isSome = raw.isSome)
    (h : MembersAlike (ReadAlike change document other) (membersOf raw) (membersOf raw')) :
    readResponses other location raw' = (readResponses document location raw).mapValue
      fun responses => responses.mapValues fun _ schema => schema.map change := by
  have hentries : ∀ {ms ms' : List (String × Json)},
      MembersAlike (ReadAlike change document other) ms ms' →
      ms'.map (fun m => (m.1, readResponse? other m.2)) =
        (ms.map fun m => (m.1, readResponse? document m.2)).map fun entry =>
          (entry.1, entry.2.map change) := by
    intro ms ms' h
    induction h with
    | nil => rfl
    | cons hfirst _ ih =>
      rw [List.map_cons, List.map_cons, List.map_cons, ih, hfirst.1, hfirst.2.response]
  cases raw with
  | none =>
    cases raw' with
    | none => rfl
    | some _ => cases hdeclared
  | some responses =>
    cases raw' with
    | none => cases hdeclared
    | some responses' =>
      show Traced.clean (Dict.ofList ((membersOf (some responses')).map
        fun m => (m.1, readResponse? other m.2))) = _
      rw [hentries h, Dict.ofList_map]
      rfl

theorem mergeParameters_map (shared own : List Parameter) :
    mergeParameters (shared.map (Parameter.mapSchema change))
        (own.map (Parameter.mapSchema change)) =
      (mergeParameters shared own).map (Parameter.mapSchema change) := by
  rw [mergeParameters, mergeParameters, List.map_append, List.filter_map]
  simp only [List.any_map]
  rfl

variable (hassumed : ∀ name, (assumedParameter name).mapSchema change = assumedParameter name)
include hassumed

theorem addAssumed_map (location : String) (segments : List String) (ps : List Parameter) :
    addAssumed location segments (ps.map (Parameter.mapSchema change)) =
      (addAssumed location segments ps).mapValue (List.map (Parameter.mapSchema change)) := by
  induction segments generalizing ps with
  | nil => rfl
  | cons segment rest ih =>
    have hany : ∀ name, (ps.map (Parameter.mapSchema change)).any
        (fun p => p.location = .path && p.name = name) =
          ps.any fun p => p.location = .path && p.name = name := by
      intro name
      rw [List.any_map]
      rfl
    rw [addAssumed, addAssumed]
    split
    · exact ih ps
    · rename_i name _
      rw [hany]
      split
      · exact ih ps
      · have hmore := ih (ps ++ [assumedParameter name])
        rw [List.map_append, List.map_singleton, hassumed] at hmore
        rw [hmore]
        rfl

theorem readOperation_alike (path location : String) (shared : List Parameter)
    {operation operation' : Json}
    (h : OperationsAlike (ReadAlike change document other) operation operation') :
    readOperation other path location (shared.map (Parameter.mapSchema change)) operation' =
      (readOperation document path location shared operation).mapValue
        (Operation.mapSchemas change) := by
  unfold readOperation
  rw [readParameters_alike location h.parameters, readBody_alike location h.body,
    readResponses_alike location h.declared h.responses, h.operationId, h.tags]
  have hsummary : readSummary? operation' = readSummary? operation := by
    rw [readSummary?, h.summary]
    rfl
  simp only [Traced.bind_mapValue, mergeParameters_map, addAssumed_map hassumed, hsummary]
  rfl

theorem readMethod_alike (path : String) (shared : List Parameter) {item item' : Json}
    (h : ItemsAlike (ReadAlike change document other) item item') (method : Method) :
    readMethod other path (shared.map (Parameter.mapSchema change)) item' method =
      (readMethod document path shared item method).mapValue
        (Option.map fun entry => (entry.1, entry.2.mapSchemas change)) := by
  have hoperation := h.operations method
  unfold readMethod
  generalize item.get? method.name = raw at hoperation ⊢
  generalize item'.get? method.name = raw' at hoperation ⊢
  cases hoperation with
  | none => rfl
  | some halike =>
    rename_i operation operation'
    have hread := readOperation_alike hassumed path (site method path) shared halike
    have hobject := halike.object
    -- both are objects or neither is
    cases operation with
    | obj members =>
      cases operation' with
      | obj members' =>
        show (do return some (method, ← readOperation other path _ _ (.obj members'))) = _
        rw [hread]
        rfl
      | _ => cases hobject
    | _ =>
      cases operation' with
      | obj members' => cases hobject
      | _ => rfl

theorem readRoute_alike (path : String) {item item' : Json}
    (h : ItemsAlike (ReadAlike change document other) item item') :
    readRoute other path item' =
      (readRoute document path item).mapValue (Option.map (Route.mapSchemas change)) := by
  have hshared := readParameters_alike path h.parameters
  have hmethods : ∀ shared : List Parameter,
      Traced.each (readMethod other path (shared.map (Parameter.mapSchema change)) item')
          Method.all =
        (Traced.each (readMethod document path shared item) Method.all).mapValue
          (List.map (Option.map fun entry => (entry.1, entry.2.mapSchemas change))) := by
    intro shared
    refine Traced.each_of_forall₂ (List.forall₂_same.2 fun method _ => ?_)
    exact readMethod_alike hassumed path shared h method
  have hobject := h.object
  cases item with
  | obj members =>
    cases item' with
    | obj members' =>
      dsimp only [readRoute]
      rw [hshared, Traced.bind_mapValue]
      simp only [hmethods]
      simp only [Traced.bind_mapValue, filterMap_id_map]
      rfl
    | _ => cases hobject
  | _ =>
    cases item' with
    | obj members' => cases hobject
    | _ => rfl

end

def readRoutes (document : Json) : Traced Warning (List Route) := do
  let routes ← Traced.each (fun (path, item) => readRoute document path item)
    (membersOf (document.get? "paths"))
  return routes.filterMap id

def readTypes (document : Json) : Traced Warning (Dict Json) := do
  let types ← addSection .empty (document.pointer? "/components/schemas")
  addSection types (document.get? "definitions")

/-- An object is folded into the types and the routes that are read of it. -/
theorem normalize_eq {document : Json} (h : document.members?.isSome) :
    normalize document =
      ⟨⟨(readTypes document).value, (readRoutes document).value⟩,
        (readTypes document).trace ++ (readRoutes document).trace⟩ := by
  cases document with
  | obj members =>
    simp only [normalize, readTypes, readRoutes]
    show Traced.mk _ _ = _
    simp [membersOf]
  | _ => cases h

theorem readRoutes_alike {change : Json → Json} {document other : Json}
    (hassumed : ∀ name, (assumedParameter name).mapSchema change = assumedParameter name)
    (h : PathsAlike (ReadAlike change document other) document other) :
    readRoutes other = (readRoutes document).mapValue (List.map (Route.mapSchemas change)) := by
  have heach : List.Forall₂ (fun m m' : String × Json => readRoute other m'.1 m'.2 =
      (readRoute document m.1 m.2).mapValue (Option.map (Route.mapSchemas change)))
      (membersOf (document.get? "paths")) (membersOf (other.get? "paths")) :=
    h.imp fun m m' halike => by
      rw [halike.1]
      exact readRoute_alike hassumed m.1 halike.2
  have hroutes := Traced.each_of_forall₂ heach
  unfold readRoutes
  rw [hroutes, Traced.bind_mapValue]
  simp only [filterMap_id_map]
  rfl

end Api
end ClientGen
