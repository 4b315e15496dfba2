import ClientGen.Endpoint.Group
import ClientGen.Schema.Compile
import ClientGen.Schema.TypeText
import ClientGen.Text.Words

/-!
# Parameter interfaces

A call takes one object with a field for every path, query and form parameter and a field `body`
for its body. Of two parameters with one name the first is kept.
-/

namespace ClientGen

open Api

structure ParameterField where
  name : String
  location : Location
  required : Bool
  type : String
  description : Option String
deriving DecidableEq, Repr, Inhabited

/-- The parameters of a call. `references` are the declared types that the fields mention. -/
structure Interface where
  name : String
  fields : List ParameterField
  references : List Reference
deriving DecidableEq, Repr, Inhabited

def bodyField : String := "body"

namespace Interface

def field? (interface : Interface) (name : String) : Option ParameterField :=
  interface.fields.find? (·.name = name)

def fieldsAt (interface : Interface) (location : Location) : List ParameterField :=
  interface.fields.filter (·.location = location)

end Interface

def interfaceName (path : String) (method : Method) (basePath : String) : String :=
  let below := relativeSegments path basePath
  let parts := if below.isEmpty then segments path else below
  let stem := String.join (parts.map fun s => Text.pascalCase (bareSegment s))
  "I" ++ (if stem = "" then "Root" else stem) ++ method.ending ++ "Params"

/-- A parameter with its compiled schema, before equal names are sorted out. -/
structure Candidate where
  name : String
  location : Location
  required : Bool
  schema : Schema
  description : Option String
deriving Inhabited

def compileParameter (scope : Scope) (site : String) (p : Parameter) : Compiling Candidate := do
  let schema ← compileSchema scope p.schema (site ++ " param " ++ p.name)
  return {
    name := if p.location = .body then bodyField else p.name
    location := p.location
    required := p.required
    schema
    description := p.description }

def orderedParameters (operation : Operation) : List Parameter :=
  [Location.path, .query, .form, .body].flatMap operation.parametersAt

def hasBodyParameters (operation : Operation) : Bool :=
  operation.parameters.any fun p => p.location = .body || p.location = .form

/-- Compiles the request body, which gives way to body parameters. -/
def compileBody (scope : Scope) (site : String) (operation : Operation) :
    Compiling (List Candidate) :=
  match operation.body with
  | none => .clean []
  | some body =>
    match body.schema? with
    | none => .malformed site .bodyWithoutSchema []
    | some raw =>
      if hasBodyParameters operation then .clean []
      else do
        let schema ← compileSchema scope raw (site ++ " body")
        return [{
          name := bodyField
          location := .body
          required := body.required
          schema
          description := none }]

def keepFirst (candidates : List Candidate) : List Candidate :=
  candidates.foldl
    (fun kept c => if kept.any (·.name = c.name) then kept else kept ++ [c]) []

def distinctReferences (references : List Reference) : List Reference :=
  references.foldl (fun found r => if found.contains r then found else found ++ [r]) []

def Candidate.field (c : Candidate) : ParameterField where
  name := c.name
  location := c.location
  required := c.required
  type := typeText c.schema
  description := c.description

/-- The parameters of an endpoint, nothing where it takes none. -/
def synthesize (scope : Scope) (basePath : String) (entry : Entry) :
    Compiling (Option Interface) := do
  let place := site entry.method entry.path
  let parameters ←
    Traced.each (compileParameter scope place) (orderedParameters entry.operation)
  let body ← compileBody scope place entry.operation
  let kept := keepFirst (parameters ++ body)
  return if kept.isEmpty then none
    else some {
      name := interfaceName entry.path entry.method basePath
      fields := kept.map Candidate.field
      references := distinctReferences (kept.flatMap fun c => c.schema.references) }

end ClientGen
