import ClientGen.Endpoint.Interface
import ClientGen.Endpoint.Naming
import ClientGen.Text.Quoted

/-!
# Planned endpoints

A planned endpoint has everything that the generated code needs to know about one method on one
path.
-/

namespace ClientGen

open Api

/-- A declared type as a body: by itself, as a list, or as a page of a list. -/
structure BodyShape where
  name : String
  isArray : Bool
  isPaginated : Bool
deriving DecidableEq, Repr, Inhabited

def bodyShape? (schema : Json) : Option BodyShape :=
  match schemaReference? schema with
  | some name => some ⟨name, false, false⟩
  | none =>
    match (schema.get? "items").bind schemaReference? with
    | some name => some ⟨name, true, false⟩
    | none =>
      ((schema.pointer? "/properties/results/items").bind schemaReference?).map fun name =>
        ⟨name, false, true⟩

def cacheTag (groupKey : String) : String :=
  let key := String.ofList (groupKey.toList.map fun c => if c == '-' then '_' else c)
  String.ofList ((Text.identifier key).toList.flatMap Unicode.uppercase) ++ "_LIST"

/-- One method on one path, planned. `references` are the types that the response mentions. -/
structure Endpoint where
  name : String
  path : String
  method : Method
  isList : Bool
  pathParameters : List String
  queryParameters : List String
  formParameters : List String
  hasBody : Bool
  interface : Option Interface
  responseType : String
  response : Option BodyShape
  request : Option BodyShape
  contentType : String
  summary : Option String
  tags : List String
  cacheTag : String
  references : List Reference
deriving Repr, Inhabited

namespace Endpoint

/-- The name with a capital at its start, as it ends the names of hooks. -/
def exportName (endpoint : Endpoint) : String := Text.capitalize endpoint.name

end Endpoint

def parameterNames (operation : Operation) (location : Location) : List String :=
  (operation.parametersAt location).map (·.name)

/-- The raw schema of the body that is sent: that of a body parameter, else that of the request
body. -/
def requestSchema? (operation : Operation) : Option Json :=
  match operation.parametersAt .body with
  | parameter :: _ => some parameter.schema
  | [] => operation.body.bind RequestBody.schema?

/-- The content type of what is sent. Form parameters make it a form. -/
def contentTypeOf (operation : Operation) : String :=
  if parameterNames operation .form = [] then
    (operation.body.map RequestBody.preferredType).getD jsonContent
  else formContent

/-- Compiles the response of an endpoint: the type of its value and the types it mentions. -/
def compileResponse (scope : Scope) (entry : Entry) : Compiling (String × List Reference) :=
  match entry.operation.successSchema? with
  | none => .clean ("void", [])
  | some raw => do
    let schema ← compileSchema scope raw (site entry.method entry.path ++ " response")
    return (typeText schema, schema.references)

def declaredShape? (scope : Scope) (schema : Option Json) : Option BodyShape :=
  (schema.bind bodyShape?).filter fun shape => scope.declared.contains shape.name

def planEndpoint (scope : Scope) (basePath tag name : String) (entry : Entry) :
    Compiling Endpoint := do
  let operation := entry.operation
  let interface ← synthesize scope basePath entry
  let (responseType, references) ← compileResponse scope entry
  return {
    name
    path := entry.path
    method := entry.method
    isList := (entry.nameBasis basePath).isList
    pathParameters := parameterNames operation .path
    queryParameters := parameterNames operation .query
    formParameters := parameterNames operation .form
    hasBody := (requestSchema? operation).isSome
    interface
    responseType
    response := declaredShape? scope operation.successSchema?
    request := declaredShape? scope (requestSchema? operation)
    contentType := contentTypeOf operation
    summary := operation.summary
    tags := operation.tags
    cacheTag := tag
    references }

end ClientGen
