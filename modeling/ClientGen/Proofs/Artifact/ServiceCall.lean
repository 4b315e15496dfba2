import ClientGen.Artifact.ServiceCall
import ClientGen.Proofs.Endpoint.Fields
import ClientGen.Proofs.Plan.Endpoints
import ClientGen.Proofs.Schema.TypeToken

/-!
# What a service call sends

A call passes the fields of its interface, each at the location that got it. So a parameter is
sent where no location before its own asks for its name, and the body is sent as the field `body`
only where no other parameter takes that name.
-/

namespace ClientGen
open Api

/-- The key that a member of an object literal starts with. -/
def memberKey? (member : String) : Option String :=
  match typeTokens member.toList with
  | .word key :: .mark ':' :: _ => some key
  | .literal key :: .mark ':' :: _ => some key
  | _ => none

theorem memberKey?_passedMember (field : ParameterField) :
    memberKey? (passedMember field) = some field.name := by
  have hchars : (passedMember field).toList = (Text.propertyKey field.name).toList ++
      ':' :: ' ' :: (Text.paramAccess field.name).toList := by
    simp [passedMember]
  rw [memberKey?, hchars, typeTokens_propertyKey _ (endsWord_cons (by decide)),
    typeTokens_mark (by decide), keyToken]
  cases Text.isPlainKey field.name.toList <;> rfl

namespace Endpoint

def sentKeys (endpoint : Endpoint) (location : Location) : List String :=
  (endpoint.passedMembers location).filterMap memberKey?

/-- An object literal of the members that are passed as a form. -/
def formObject (endpoint : Endpoint) : String :=
  "\x7b " ++ String.intercalate ", " (endpoint.passedMembers .form) ++ " \x7d"

theorem sentKeys_eq (endpoint : Endpoint) (location : Location) :
    endpoint.sentKeys location =
      (endpoint.interface.toList.flatMap (·.fieldsAt location)).map (·.name) := by
  rw [sentKeys, passedMembers, List.filterMap_map, ← List.filterMap_eq_map]
  exact List.filterMap_congr fun field _ => memberKey?_passedMember field

theorem sentBody?_of_mem_form {endpoint : Endpoint} {name : String}
    (h : name ∈ endpoint.sentKeys .form) : endpoint.sentBody? = some endpoint.formObject := by
  unfold sentBody?
  split
  · rename_i hnone
    rw [sentKeys, hnone] at h
    cases h
  · rfl

theorem sentBody?_of_no_form {endpoint : Endpoint} (h : endpoint.sentKeys .form = []) :
    endpoint.sentBody? =
      (endpoint.interface.bind (·.field? bodyField)).map fun _ => Text.paramAccess bodyField := by
  rw [sentKeys_eq, List.map_eq_nil_iff] at h
  rw [sentBody?, passedMembers, h]
  rfl

theorem formObject_ne (endpoint : Endpoint) :
    endpoint.formObject ≠ Text.paramAccess bodyField := by
  intro h
  have hchars := congrArg (·.toList.head?) h
  have haccess : (Text.paramAccess bodyField).toList.head? = some 'p' := by decide
  rw [haccess] at hchars
  simp [formObject] at hchars

end Endpoint

section
variable {planned : Plan} {config : Config} {entry : Entry} {endpoint : Endpoint}
  (hserves : planned.Serves config entry endpoint)
include hserves

theorem interface_of_serves :
    endpoint.interface = (synthesize planned.catalog.scope config.trimmedBase entry).value := by
  obtain ⟨tag, name, rfl⟩ := hserves
  exact planEndpoint_interface tag name entry

theorem field?_of_serves (name : String) :
    endpoint.interface.bind (·.field? name) =
      ((fieldCandidates planned.catalog.scope entry).find? (·.name = name)).map
        Candidate.field := by
  rw [interface_of_serves hserves]
  exact field?_synthesize _ _ entry name

theorem mem_sentKeys {location : Location} {name : String} :
    name ∈ endpoint.sentKeys location ↔ entry.operation.Gets location name := by
  rw [Endpoint.sentKeys_eq, interface_of_serves hserves, List.mem_map]
  exact exists_fieldsAt_iff _ _

theorem sentBody?_of_serves (hnone : endpoint.sentKeys .form = []) :
    endpoint.sentBody? = ((fieldCandidates planned.catalog.scope entry).find?
      (·.name = bodyField)).map fun _ => Text.paramAccess bodyField := by
  rw [Endpoint.sentBody?_of_no_form hnone, field?_of_serves hserves, Option.map_map]
  rfl

end

/-- Every query parameter is a key of the query, and every form parameter is a key of the object
that is sent as the body. -/
structure Endpoint.SendsParameters (endpoint : Endpoint) (operation : Operation) : Prop where
  query : ∀ name ∈ parameterNames operation .query, name ∈ endpoint.query.filterMap memberKey?
  form : ∀ name ∈ parameterNames operation .form,
    endpoint.sentBody? = some endpoint.formObject ∧
      name ∈ (endpoint.passedMembers .form).filterMap memberKey?

/-- No query parameter has the name of a path parameter, and no form parameter that of a path or
query parameter. -/
structure Api.Operation.NamesApart (operation : Operation) : Prop where
  query : ∀ name ∈ parameterNames operation .query, name ∉ parameterNames operation .path
  form : ∀ name ∈ parameterNames operation .form,
    name ∉ parameterNames operation .path ∧ name ∉ parameterNames operation .query

theorem gets_query_iff {operation : Operation} {name : String} :
    operation.Gets .query name ↔
      name ∈ parameterNames operation .query ∧ name ∉ parameterNames operation .path := by
  simp [Operation.Gets, Location.before, Operation.Asks]

theorem gets_form_iff {operation : Operation} {name : String} :
    operation.Gets .form name ↔ name ∈ parameterNames operation .form ∧
      name ∉ parameterNames operation .path ∧ name ∉ parameterNames operation .query := by
  simp [Operation.Gets, Location.before, Operation.Asks]

theorem sendsParameters_iff {planned : Plan} {config : Config} {entry : Entry}
    {endpoint : Endpoint} (hserves : planned.Serves config entry endpoint) :
    endpoint.SendsParameters entry.operation ↔ entry.operation.NamesApart := by
  constructor
  · intro h
    constructor
    · intro name hname
      exact (gets_query_iff.1 ((mem_sentKeys hserves).1 (h.query name hname))).2
    · intro name hname
      exact (gets_form_iff.1 ((mem_sentKeys hserves).1 (h.form name hname).2)).2
  · intro h
    constructor
    · intro name hname
      exact (mem_sentKeys hserves).2 (gets_query_iff.2 ⟨hname, h.query name hname⟩)
    · intro name hname
      have hkey : name ∈ endpoint.sentKeys .form :=
        (mem_sentKeys hserves).2 (gets_form_iff.2 ⟨hname, h.form name hname⟩)
      exact ⟨Endpoint.sentBody?_of_mem_form hkey, hkey⟩

/-- The endpoint of an operation sends all its query and form parameters exactly where their names
are not taken by a location before theirs. -/
theorem parameters_sent_iff {document : Json} {config : Config} {planned : Plan}
    (hplan : plan document config = .ok planned) :
    planned.ServesEach document config fun entry endpoint =>
      (endpoint.SendsParameters entry.operation ↔ entry.operation.NamesApart) :=
  servesEach hplan fun _ _ hserves => sendsParameters_iff hserves

/-- A form with an upload whose names are all different. -/
def uploadCalls : Json :=
  .obj [("paths", .obj [("/api/files/{id}", .obj [("post", .obj [("parameters", .arr [
    .obj [("name", .str "id"), ("in", .str "path"), ("type", .str "integer")],
    .obj [("name", .str "notify-all"), ("in", .str "query"), ("type", .str "boolean")],
    .obj [("name", .str "file"), ("in", .str "formData"), ("type", .str "file")],
    .obj [("name", .str "note"), ("in", .str "formData"), ("type", .str "string")]])])])])]

theorem uploadCalls_parameters_sent :
    plan uploadCalls { domainPatterns := [] } =
      .ok (planWith [] uploadCalls { domainPatterns := [] }) ∧
    (planWith [] uploadCalls { domainPatterns := [] }).endpoints.map
        (fun endpoint => (endpoint.query, endpoint.sentBody?)) =
      [(["\x27notify-all\x27: params[\x27notify-all\x27]"],
        some "\x7b file: params.file, note: params.note \x7d")] ∧
    (planWith [] uploadCalls { domainPatterns := [] }).ServesEach uploadCalls
      { domainPatterns := [] } fun entry endpoint =>
        (endpoint.SendsParameters entry.operation ↔ entry.operation.NamesApart) :=
  ⟨rfl, by decide +kernel, parameters_sent_iff rfl⟩

/-- A query parameter with the name of a path parameter, and a form parameter with the name of a
query parameter. -/
def itemCalls : Json :=
  .obj [("paths", .obj [
    ("/api/items/{id}", .obj [("get", .obj [
      ("parameters", .arr [
        .obj [("name", .str "id"), ("in", .str "path"), ("type", .str "string")],
        .obj [("name", .str "id"), ("in", .str "query"), ("type", .str "string")]]),
      ("responses", .obj [("204", .obj [])])])]),
    ("/api/items", .obj [("post", .obj [
      ("parameters", .arr [
        .obj [("name", .str "note"), ("in", .str "query"), ("type", .str "string")],
        .obj [("name", .str "note"), ("in", .str "formData"), ("type", .str "string")]]),
      ("responses", .obj [("204", .obj [])])])])])]

/-- Neither of the two is sent. -/
theorem itemCalls_parameters_not_sent :
    plan itemCalls { domainPatterns := [] } =
      .ok (planWith [] itemCalls { domainPatterns := [] }) ∧
    (sourceEntries itemCalls).map (fun entry =>
        (parameterNames entry.operation .query, parameterNames entry.operation .form)) =
      [(["id"], []), (["note"], ["note"])] ∧
    (planWith [] itemCalls { domainPatterns := [] }).endpoints.map
        (fun endpoint => (endpoint.query, endpoint.sentBody?)) =
      [([], none), (["note: params.note"], none)] ∧
    ¬ (planWith [] itemCalls { domainPatterns := [] }).ServesEach itemCalls
      { domainPatterns := [] } fun entry endpoint =>
        endpoint.SendsParameters entry.operation := by
  refine ⟨rfl, by decide +kernel, by decide +kernel, fun h => ?_⟩
  have hdeclared : (sourceEntries itemCalls).any fun entry =>
      "id" ∈ parameterNames entry.operation .query := by decide +kernel
  have hlost : (planWith [] itemCalls { domainPatterns := [] }).endpoints.all fun endpoint =>
      "id" ∉ endpoint.query.filterMap memberKey? := by decide +kernel
  obtain ⟨entry, hentry, hname⟩ := List.any_eq_true.1 hdeclared
  obtain ⟨endpoint, hendpoint, _, hsends⟩ := h.exists_endpoint hentry
  have hnot := List.all_eq_true.1 hlost endpoint hendpoint
  exact of_decide_eq_true hnot (hsends.query "id" (of_decide_eq_true hname))

/-- Whether an operation has a body to send: form parameters, a body parameter, or a request body
with a schema for its preferred content type. -/
def Api.Operation.HasBody (operation : Operation) : Prop :=
  operation.parametersAt .form ≠ [] ∨ operation.parametersAt .body ≠ [] ∨
    ∃ body raw, operation.body = some body ∧ body.schema? = some raw

/-- A body is sent where the operation has one, and where it is the field `body`, that field is the
body of the interface and has the type of what is sent. -/
structure Endpoint.SendsBody (endpoint : Endpoint) (scope : Scope) (operation : Operation) :
    Prop where
  present : endpoint.sentBody?.isSome ↔ operation.HasBody
  typed : endpoint.sentBody? = some (Text.paramAccess bodyField) →
    ∃ interface field raw, endpoint.interface = some interface ∧
      interface.field? bodyField = some field ∧ field.location = .body ∧
      requestSchema? operation = some raw ∧
      ∀ place, field.type = typeText (compileSchema scope raw place).value

/-- Some form parameter keeps its name, or else nothing but the body is called `body` and no form
parameter keeps a request body from being the body. -/
def Api.Operation.BodyApart (operation : Operation) : Prop :=
  (∃ name ∈ parameterNames operation .form,
    name ∉ parameterNames operation .path ∧ name ∉ parameterNames operation .query) ∨
  bodyField ∉ parameterNames operation .path ∧ bodyField ∉ parameterNames operation .query ∧
    (parameterNames operation .form = [] ∨ operation.parametersAt .body ≠ [])

theorem hasBodyParameters_eq_false_iff {operation : Operation} :
    hasBodyParameters operation = false ↔
      operation.parametersAt .body = [] ∧ operation.parametersAt .form = [] := by
  simp only [hasBodyParameters, Operation.parametersAt, List.any_eq_false, Bool.or_eq_true,
    decide_eq_true_eq, not_or, List.filter_eq_nil_iff]
  exact forall₂_and

theorem parameterNames_eq_nil_iff {operation : Operation} {location : Location} :
    parameterNames operation location = [] ↔ operation.parametersAt location = [] :=
  List.map_eq_nil_iff

theorem isSome_schema_iff {operation : Operation} :
    (operation.body.bind RequestBody.schema?).isSome ↔
      ∃ body raw, operation.body = some body ∧ body.schema? = some raw := by
  cases operation.body <;> simp [Option.isSome_iff_exists]

theorem not_hasBody_iff {operation : Operation} (hasks : ¬ operation.Asks .body bodyField) :
    ¬ operation.HasBody ↔
      parameterNames operation .form = [] ∨ operation.parametersAt .body ≠ [] := by
  have hbody : operation.parametersAt .body = [] := by
    by_contra hparameter
    exact hasks ⟨rfl, .inl hparameter⟩
  rw [parameterNames_eq_nil_iff, or_iff_left (absurd hbody)]
  constructor
  · intro hhas
    by_contra hparameter
    exact hhas (.inl hparameter)
  · rintro hform (hparameter | hparameter | hschema)
    · exact hparameter hform
    · exact hparameter hbody
    · have hno := hasBodyParameters_eq_false_iff.2 ⟨hbody, hform⟩
      exact hasks ⟨rfl, .inr ⟨hno, isSome_schema_iff.2 hschema⟩⟩

section
variable {planned : Plan} {config : Config} {entry : Entry} {endpoint : Endpoint}
  (hserves : planned.Serves config entry endpoint)
include hserves

theorem sendsBody_of_form {name : String} (hgets : entry.operation.Gets .form name) :
    endpoint.SendsBody planned.catalog.scope entry.operation := by
  have hbody := Endpoint.sentBody?_of_mem_form ((mem_sentKeys hserves).2 hgets)
  have hform : entry.operation.parametersAt .form ≠ [] := by
    intro hnone
    have hname := (gets_form_iff.1 hgets).1
    rw [parameterNames, hnone] at hname
    cases hname
  constructor
  · rw [hbody]
    exact iff_of_true rfl (.inl hform)
  · intro haccess
    rw [hbody, Option.some_inj] at haccess
    exact absurd haccess endpoint.formObject_ne

section
variable (hnone : endpoint.sentKeys .form = [])
include hnone

theorem not_sendsBody_of_taken {location : Location}
    (hgets : entry.operation.Gets location bodyField) (hlocation : location ≠ .body) :
    ¬ endpoint.SendsBody planned.catalog.scope entry.operation := by
  intro h
  obtain ⟨c, hfind, hplace⟩ := (exists_find?_iff planned.catalog.scope).2 hgets
  have hbody : endpoint.sentBody? = some (Text.paramAccess bodyField) := by
    rw [sentBody?_of_serves hserves hnone, hfind]
    rfl
  obtain ⟨interface, field, _, hinterface, hfield, hfieldBody, _⟩ := h.typed hbody
  have hsame := field?_of_serves hserves bodyField
  rw [hinterface, Option.bind_some, hfield, hfind, Option.map_some, Option.some_inj] at hsame
  rw [hsame] at hfieldBody
  exact hlocation (hplace.symm.trans hfieldBody)

theorem sendsBody_of_body (hgets : entry.operation.Gets .body bodyField) :
    endpoint.SendsBody planned.catalog.scope entry.operation := by
  obtain ⟨hfind, hsome⟩ := find?_fieldCandidates planned.catalog.scope hgets
  obtain ⟨c, hc⟩ := Option.isSome_iff_exists.1 hsome
  rw [hc] at hfind
  have hbody : endpoint.sentBody? = some (Text.paramAccess bodyField) := by
    rw [sentBody?_of_serves hserves hnone, hfind]
    rfl
  constructor
  · rw [hbody]
    refine iff_of_true rfl (.inr ?_)
    exact hgets.1.2.imp_right fun h => isSome_schema_iff.1 h.2
  · intro _
    have hfield := field?_of_serves hserves bodyField
    rw [hfind, Option.map_some] at hfield
    obtain ⟨interface, hinterface, hfield⟩ := Option.bind_eq_some_iff.1 hfield
    obtain ⟨raw, hraw, hschema⟩ := schema_of_find?_body hc
    refine ⟨interface, c.field, raw, hinterface, hfield,
      location_of_mem_candidatesAt (List.mem_of_find?_eq_some hc), hraw, fun place => ?_⟩
    exact congrArg typeText (hschema place)

theorem sendsBody_iff_of_free (hfree : ∀ location, ¬ entry.operation.Gets location bodyField) :
    endpoint.SendsBody planned.catalog.scope entry.operation ↔ ¬ entry.operation.HasBody := by
  have hfind : (fieldCandidates planned.catalog.scope entry).find? (·.name = bodyField) =
      none := by
    refine Option.eq_none_iff_forall_ne_some.2 fun c hc => ?_
    exact hfree c.location ((exists_find?_iff planned.catalog.scope).1 ⟨c, hc, rfl⟩)
  have hbody : endpoint.sentBody? = none := by
    rw [sentBody?_of_serves hserves hnone, hfind]
    rfl
  constructor
  · intro h hhas
    have hsome := h.present.2 hhas
    rw [hbody] at hsome
    cases hsome
  · intro hhas
    constructor
    · rw [hbody]
      exact iff_of_false Bool.false_ne_true hhas
    · rw [hbody]
      exact nofun

end

theorem sendsBody_iff :
    endpoint.SendsBody planned.catalog.scope entry.operation ↔ entry.operation.BodyApart := by
  by_cases hform : ∃ name, entry.operation.Gets .form name
  · obtain ⟨name, hgets⟩ := hform
    exact iff_of_true (sendsBody_of_form hserves hgets) (.inl ⟨name, gets_form_iff.1 hgets⟩)
  have hnone : endpoint.sentKeys .form = [] :=
    List.eq_nil_iff_forall_not_mem.2 fun name hname =>
      hform ⟨name, (mem_sentKeys hserves).1 hname⟩
  have hapart : entry.operation.BodyApart ↔
      bodyField ∉ parameterNames entry.operation .path ∧
        bodyField ∉ parameterNames entry.operation .query ∧
          (parameterNames entry.operation .form = [] ∨ entry.operation.parametersAt .body ≠ []) :=
    or_iff_right fun ⟨name, hname⟩ => hform ⟨name, gets_form_iff.2 hname⟩
  rw [hapart]
  by_cases hpath : bodyField ∈ parameterNames entry.operation .path
  · have hgets : entry.operation.Gets .path bodyField := ⟨hpath, nofun⟩
    exact iff_of_false (not_sendsBody_of_taken hserves hnone hgets (by decide)) fun h => h.1 hpath
  by_cases hquery : bodyField ∈ parameterNames entry.operation .query
  · have hgets := gets_query_iff.2 ⟨hquery, hpath⟩
    exact iff_of_false (not_sendsBody_of_taken hserves hnone hgets (by decide))
      fun h => h.2.1 hquery
  have hformBody : bodyField ∉ parameterNames entry.operation .form := fun h =>
    hform ⟨bodyField, gets_form_iff.2 ⟨h, hpath, hquery⟩⟩
  by_cases hasks : entry.operation.Asks .body bodyField
  · have hgets : entry.operation.Gets .body bodyField := by
      refine ⟨hasks, ?_⟩
      simp [Location.before, Operation.Asks, hpath, hquery, hformBody]
    refine iff_of_true (sendsBody_of_body hserves hnone hgets) ⟨hpath, hquery, ?_⟩
    rcases hasks.2 with hparameter | ⟨hno, _⟩
    · exact .inr hparameter
    · exact .inl (parameterNames_eq_nil_iff.2 (hasBodyParameters_eq_false_iff.1 hno).2)
  · have hfree : ∀ location, ¬ entry.operation.Gets location bodyField := by
      intro location hgets
      cases location with
      | path => exact hpath hgets.1
      | query => exact hquery hgets.1
      | form => exact hformBody hgets.1
      | body => exact hasks hgets.1
    rw [sendsBody_iff_of_free hserves hnone hfree, not_hasBody_iff hasks]
    simp only [hpath, hquery, not_false_eq_true, true_and]
end

/-- The endpoint of an operation sends a body exactly as it should where a form parameter keeps its
name, or where the name of the body is free and no form parameter keeps a request body away. -/
theorem body_sent_iff {document : Json} {config : Config} {planned : Plan}
    (hplan : plan document config = .ok planned) :
    planned.ServesEach document config fun entry endpoint =>
      (endpoint.SendsBody planned.catalog.scope entry.operation ↔ entry.operation.BodyApart) :=
  servesEach hplan fun _ _ hserves => sendsBody_iff hserves

/-- A body that is a declared type, next to a query parameter. -/
def reviewCalls : Json :=
  .obj [
    ("components", .obj [("schemas", .obj [("Review", .obj [("type", .str "object"),
      ("properties", .obj [])])])]),
    ("paths", .obj [("/api/reviews", .obj [("post", .obj [
      ("parameters", .arr [
        .obj [("name", .str "draft"), ("in", .str "query"), ("schema", .obj [
          ("type", .str "boolean")])]]),
      ("requestBody", .obj [("content", .obj [("application/json", .obj [("schema",
        .obj [("$ref", .str "#/components/schemas/Review")])])])])])])])]

theorem reviewCalls_body_sent :
    plan reviewCalls { domainPatterns := [] } =
      .ok (planWith [] reviewCalls { domainPatterns := [] }) ∧
    (planWith [] reviewCalls { domainPatterns := [] }).endpoints.map
        (fun endpoint => (endpoint.sentBody?, (endpoint.interface.bind (·.field? bodyField)).map
          fun field => (field.location, field.type))) =
      [(some "params.body", some (.body, "IReviewSerializer"))] ∧
    (planWith [] reviewCalls { domainPatterns := [] }).ServesEach reviewCalls
      { domainPatterns := [] } fun entry endpoint =>
        (endpoint.SendsBody (planWith [] reviewCalls { domainPatterns := [] }).catalog.scope
          entry.operation ↔ entry.operation.BodyApart) :=
  ⟨rfl, by decide +kernel, body_sent_iff rfl⟩

/-- A query parameter that is called `body`, of a call without a body. -/
def searchCalls : Json :=
  .obj [("paths", .obj [("/api/notes", .obj [("get", .obj [
    ("parameters", .arr [
      .obj [("name", .str "body"), ("in", .str "query"), ("type", .str "string")]]),
    ("responses", .obj [("204", .obj [])])])])])]

/-- The query parameter is sent as a body as well. -/
theorem searchCalls_body_not_due :
    plan searchCalls { domainPatterns := [] } =
      .ok (planWith [] searchCalls { domainPatterns := [] }) ∧
    (planWith [] searchCalls { domainPatterns := [] }).endpoints.map
        (fun endpoint => (endpoint.query, endpoint.sentBody?, endpoint.hasBody)) =
      [(["body: params.body"], some "params.body", false)] ∧
    ¬ (planWith [] searchCalls { domainPatterns := [] }).ServesEach searchCalls
      { domainPatterns := [] } fun entry endpoint =>
        endpoint.SendsBody (planWith [] searchCalls { domainPatterns := [] }).catalog.scope
          entry.operation := by
  refine ⟨rfl, by decide +kernel, fun h => ?_⟩
  have hdeclared : (sourceEntries searchCalls).any fun entry =>
      (entry.operation.parametersAt .form).isEmpty && (entry.operation.parametersAt .body).isEmpty
        && entry.operation.body.isNone := by decide +kernel
  have hsent : (planWith [] searchCalls { domainPatterns := [] }).endpoints.all fun endpoint =>
      endpoint.sentBody?.isSome := by decide +kernel
  obtain ⟨entry, hentry, hnone⟩ := List.any_eq_true.1 hdeclared
  obtain ⟨endpoint, hendpoint, _, hsends⟩ := h.exists_endpoint hentry
  rw [Bool.and_eq_true, Bool.and_eq_true, List.isEmpty_iff, List.isEmpty_iff,
    Option.isNone_iff_eq_none] at hnone
  obtain ⟨⟨hform, hbody⟩, hrequest⟩ := hnone
  rcases hsends.present.1 (List.all_eq_true.1 hsent endpoint hendpoint) with
    hsome | hsome | ⟨body, _, hsome, _⟩
  · exact hsome hform
  · exact hsome hbody
  · rw [hrequest] at hsome
    cases hsome

end ClientGen
