import ClientGen.Dict
import ClientGen.Json.Basic

/-!
# Operations of an API

An operation is what one HTTP method does on one path: its parameters, its request body and the
schemas of its responses by status. Schemas stay raw here.
-/

namespace ClientGen.Api

/-- The HTTP methods that clients are generated for. -/
inductive Method where
  | get | post | put | patch | delete
deriving DecidableEq, Repr, Inhabited

namespace Method

/-- The methods in the order in which the operations of a path are treated. -/
def all : List Method := [.get, .post, .put, .patch, .delete]

def name : Method → String
  | .get => "get"
  | .post => "post"
  | .put => "put"
  | .patch => "patch"
  | .delete => "delete"

def verb : Method → String
  | .get => "GET"
  | .post => "POST"
  | .put => "PUT"
  | .patch => "PATCH"
  | .delete => "DELETE"

def ending : Method → String
  | .get => "Get"
  | .post => "Post"
  | .put => "Put"
  | .patch => "Patch"
  | .delete => "Delete"

/-- Whether a call changes something on the server. -/
def isMutation : Method → Bool
  | .get => false
  | _ => true

end Method

inductive Location where
  | path | query | body | form
deriving DecidableEq, Repr, Inhabited

namespace Location

/-- The location that a parameter declares. Headers and cookies are left out. -/
def ofKeyword? : String → Option Location
  | "path" => some .path
  | "query" => some .query
  | "body" => some .body
  | "formData" => some .form
  | _ => none

def name : Location → String
  | .path => "path"
  | .query => "query"
  | .body => "body"
  | .form => "form"

end Location

structure Parameter where
  name : String
  location : Location
  required : Bool
  schema : Json
  description : Option String
deriving Repr, Inhabited

/-- A request body: a raw schema, or none, for each content type. -/
structure RequestBody where
  content : Dict (Option Json)
  required : Bool
deriving Repr, Inhabited

def formContent : String := "application/x-www-form-urlencoded"

def jsonContent : String := "application/json"

namespace RequestBody

/-- The content type a body is sent as: a form if that is offered, else JSON, else the first type
declared. -/
def preferredType (body : RequestBody) : String :=
  if body.content.contains formContent then formContent
  else if body.content.contains jsonContent then jsonContent
  else body.content.keys.head?.getD jsonContent

def schema? (body : RequestBody) : Option Json := (body.content.get? body.preferredType).join

end RequestBody

/-- What one method does on one path. -/
structure Operation where
  operationId : Option String
  summary : Option String
  tags : List String
  parameters : List Parameter
  body : Option RequestBody
  responses : Dict (Option Json)
deriving Repr, Inhabited

namespace Operation

def parametersAt (op : Operation) (location : Location) : List Parameter :=
  op.parameters.filter fun p => p.location = location

def preferredStatuses : List String := ["200", "201", "202", "default"]

/-- The schema of the best successful response that has one: the preferred statuses in their
order, then the other statuses that start with `2` as they are declared. -/
def successSchema? (op : Operation) : Option Json :=
  let preferred := preferredStatuses.filterMap op.responses.get?
  let others := op.responses.entries.filterMap fun (status, schema) =>
    if status.toList.head? = some '2' && !preferredStatuses.contains status then some schema
    else none
  (preferred ++ others).findSome? id

/-- Every raw schema that an operation mentions: parameters, body, responses. -/
def schemas (op : Operation) : List Json :=
  op.parameters.map (·.schema) ++
    (op.body.toList.flatMap fun b => b.content.values.filterMap id) ++
    op.responses.values.filterMap id

end Operation

/-- A path template with its operations, in the order of the methods. -/
structure Route where
  path : String
  operations : List (Method × Operation)
deriving Repr, Inhabited

def site (method : Method) (path : String) : String := method.verb ++ " " ++ path

end ClientGen.Api
