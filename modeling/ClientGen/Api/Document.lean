import ClientGen.Api.Operation
import ClientGen.Api.Path
import ClientGen.Api.Reference
import ClientGen.Diagnostic
import ClientGen.Traced

/-!
# API documents

A document describes an API in one of two dialects. The legacy one declares its types under
`definitions` and its bodies as parameters, the modern one its types under `components/schemas`
and its bodies as request bodies. Normalizing a document folds both into declared types and
routes. It never fails: what is missing is empty, and what is malformed is left out with a
warning.
-/

namespace ClientGen.Api

inductive Dialect where
  | legacy | modern
deriving DecidableEq, Repr

def Dialect.name : Dialect → String
  | .legacy => "legacy"
  | .modern => "modern"

def title? (document : Json) : Option String := (document.get? "info").bind (·.getText? "title")

def version? (document : Json) : Option String :=
  (document.get? "info").bind (·.getText? "version")

def dialect (document : Json) : Dialect :=
  if (document.get? "swagger").isSome || (document.get? "definitions").isSome then .legacy
  else .modern

/-- The entry itself, or the part of the document that its reference leads to. -/
def resolve? (document entry : Json) : Option Json :=
  match entry.getText? "$ref" with
  | none => some entry
  | some reference =>
    match reference.toList with
    | '#' :: pointer => document.pointer? (String.ofList pointer)
    | _ => none

def danglingName (entry : Json) : String := referenceName ((entry.getText? "$ref").getD "")

def parameterKeys : List String := ["name", "in", "required", "description"]

/-- The schema of a parameter: its own, or the type that a legacy parameter carries inline. -/
def parameterSchema (parameter : Json) : Json :=
  match parameter.get? "schema" with
  | some schema => schema
  | none =>
    .obj ((parameter.members?.getD []).filter fun (key, _) => !parameterKeys.contains key)

/-- Reads one entry of a parameter list. An entry that names no known location is left out. -/
def readParameter (document : Json) (location : String) (entry : Json) :
    Traced Warning (Option Parameter) :=
  match resolve? document entry with
  | none => ⟨none, [.unresolvable location (danglingName entry)]⟩
  | some parameter =>
    match parameter.getText? "name" with
    | none => ⟨none, [.malformed location .namelessParameter]⟩
    | some name =>
      match Location.ofKeyword? ((parameter.getText? "in").getD "") with
      | none => .clean none
      | some place =>
        .clean <| some {
          name
          location := place
          required := place = .path || parameter.flag "required"
          schema := parameterSchema parameter
          description := parameter.getText? "description" }

/-- Reads a parameter list. Anything but a list is read as an empty one. -/
def readParameters (document : Json) (location : String) (raw : Option Json) :
    Traced Warning (List Parameter) := do
  let entries := (raw.bind Json.items?).getD []
  let parameters ← Traced.each (readParameter document location) entries
  return parameters.filterMap id

def mergeParameters (shared own : List Parameter) : List Parameter :=
  (shared.filter fun p => !own.any fun o => o.name = p.name && o.location = p.location) ++ own

/-- A path parameter that the path mentions and nothing declares. -/
def assumedParameter (name : String) : Parameter where
  name
  location := .path
  required := true
  schema := .obj [("type", .str "string")]
  description := none

def addAssumed (location : String) : List String → List Parameter →
    Traced Warning (List Parameter)
  | [], parameters => .clean parameters
  | segment :: rest, parameters =>
    match placeholder? segment with
    | none => addAssumed location rest parameters
    | some name =>
      if parameters.any fun p => p.location = .path && p.name = name then
        addAssumed location rest parameters
      else do
        .note (.malformed location (.undeclaredPathParameter name))
        addAssumed location rest (parameters ++ [assumedParameter name])

/-- Reads a request body. One that does not say so is required. -/
def readBody (document : Json) (location : String) (raw : Option Json) :
    Traced Warning (Option RequestBody) :=
  match raw with
  | none => .clean none
  | some entry =>
    match resolve? document entry with
    | none => ⟨none, [.unresolvable location (danglingName entry)]⟩
    | some body =>
      match (body.get? "content").bind Json.members? with
      | none => ⟨none, [.malformed location .bodyWithoutContent]⟩
      | some content =>
        .clean <| some {
          content := Dict.ofList (content.map fun (type, media) => (type, media.get? "schema"))
          required := ((body.get? "required").bind Json.bool?).getD true }

/-- The schema of a response: its own in the legacy dialect, else that of its JSON content, else
that of its first content with a schema. -/
def responseSchema? (response : Json) : Option Json :=
  match response.get? "schema" with
  | some schema => some schema
  | none => do
    let content ← (response.get? "content").bind Json.members?
    match (content.lookup jsonContent).bind (·.get? "schema") with
    | some schema => some schema
    | none => content.findSome? fun (_, media) => media.get? "schema"

def readResponses (document : Json) (location : String) (raw : Option Json) :
    Traced Warning (Dict (Option Json)) :=
  match raw with
  | none => ⟨.empty, [.malformed location .noResponses]⟩
  | some raw =>
    .clean <| Dict.ofList <| (raw.members?.getD []).map fun (status, response) =>
      (status, (resolve? document response).bind responseSchema?)

def readSummary? (operation : Json) : Option String :=
  ((operation.getText? "summary").map Text.trim).filter (· ≠ "")

def readOperation (document : Json) (path location : String) (shared : List Parameter)
    (operation : Json) : Traced Warning Operation := do
  let own ← readParameters document location (operation.get? "parameters")
  let parameters ← addAssumed location (segments path) (mergeParameters shared own)
  let body ← readBody document location (operation.get? "requestBody")
  let responses ← readResponses document location (operation.get? "responses")
  return {
    operationId := operation.getText? "operationId"
    summary := readSummary? operation
    tags := ((operation.getItems? "tags").getD []).filterMap Json.text?
    parameters
    body
    responses }

def readMethod (document : Json) (path : String) (shared : List Parameter) (item : Json)
    (method : Method) : Traced Warning (Option (Method × Operation)) :=
  match item.get? method.name with
  | none => .clean none
  | some operation =>
    match operation with
    | .obj _ => do
      return some (method, ← readOperation document path (site method path) shared operation)
    | _ => ⟨none, [.malformed (site method path) .operationNotObject]⟩

def readRoute (document : Json) (path : String) (item : Json) :
    Traced Warning (Option Route) :=
  match item with
  | .obj _ => do
    let shared ← readParameters document path (item.get? "parameters")
    let operations ← Traced.each (readMethod document path shared item) Method.all
    return some { path, operations := operations.filterMap id }
  | _ => ⟨none, [.malformed path .pathItemNotObject]⟩

/-- The declared types and the routes of a document, in declaration order. -/
structure Normalized where
  types : Dict Json
  routes : List Route
deriving Inhabited

def addTypes (types : Dict Json) (declarations : Json) : Traced Warning (Dict Json) :=
  match declarations with
  | .obj members =>
    .clean (members.foldl (fun types (name, schema) => types.insertNew name schema) types)
  | _ => ⟨types, [.malformed "schemas" .schemasNotObject]⟩

def addSection (types : Dict Json) : Option Json → Traced Warning (Dict Json)
  | none => .clean types
  | some declarations => addTypes types declarations

/-- Folds a document into its types and routes. -/
def normalize (document : Json) : Traced Warning Normalized :=
  match document with
  | .obj _ => do
    let types ← addSection .empty (document.pointer? "/components/schemas")
    let types ← addSection types (document.get? "definitions")
    let paths := ((document.get? "paths").bind Json.members?).getD []
    let routes ← Traced.each (fun (path, item) => readRoute document path item) paths
    return { types, routes := routes.filterMap id }
  | _ => ⟨{ types := .empty, routes := [] }, [.malformed "document" .rootNotObject]⟩

end ClientGen.Api
