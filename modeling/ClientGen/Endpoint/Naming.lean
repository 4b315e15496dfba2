import ClientGen.Endpoint.Group
import ClientGen.Text.Words

/-!
# Names of calls

A call is named by the summary of its operation, or else by its shape: a list, a single resource,
a change to a resource, or the plain path. The method always ends the name. A name that a group
has used already gets a number.
-/

namespace ClientGen

open Api

/-- What a call is named by. -/
structure NameBasis where
  path : String
  method : Method
  summary : Option String
  queryParameters : List String
  pathParameters : List String
  basePath : String
deriving Inhabited

def Entry.nameBasis (entry : Entry) (basePath : String) : NameBasis where
  path := entry.path
  method := entry.method
  summary := entry.operation.summary
  queryParameters := (entry.operation.parametersAt .query).map (·.name)
  pathParameters := (entry.operation.parametersAt .path).map (·.name)
  basePath

def pageParameters : List String := ["limit", "page", "page_size", "offset", "cursor"]

namespace NameBasis

def segments (basis : NameBasis) : List String := relativeSegments basis.path basis.basePath

def literals (basis : NameBasis) : List String :=
  basis.segments.filter fun s => (placeholder? s).isNone

def placeholders (basis : NameBasis) : List String := basis.segments.filterMap placeholder?

/-- Whether a call fetches a list: it takes a page parameter or has a segment `list`. -/
def isList (basis : NameBasis) : Bool :=
  basis.method = .get &&
    (basis.queryParameters.any pageParameters.contains ||
      basis.segments.any fun s => s.toList.map Char.toLower = ['l', 'i', 's', 't'])

def resource (basis : NameBasis) : String := Text.pascalCase (basis.literals.head?.getD "")

/-- Whether a call addresses one resource by a parameter of its path. -/
def hasPathParameters (basis : NameBasis) : Bool :=
  basis.segments.any (fun s => (placeholder? s).isSome) || !basis.pathParameters.isEmpty

def plainName (basis : NameBasis) : String :=
  Text.camelCase (String.intercalate "_" basis.literals)

def singleName (basis : NameBasis) : String :=
  "get" ++ String.join (basis.segments.map fun s => Text.pascalCase (bareSegment s))

/-- The action that a path below a resource ends in, unless it starts with a digit. -/
def action? (basis : NameBasis) : Option String :=
  match basis.literals with
  | _ :: second :: rest =>
    let last := (second :: rest).getLast?.getD second
    if (last.toList.head?.map Char.isDigit).getD false then none else some last
  | _ => none

/-- The name of a call that changes something: the action, or what the method does. -/
def mutationName (basis : NameBasis) : String :=
  let parameters := String.join (basis.placeholders.map Text.pascalCase)
  match basis.action? with
  | some action => Text.camelCase action ++ basis.resource ++ parameters
  | none =>
    match basis.method with
    | .post => if basis.literals.length = 1 then "insert" ++ basis.resource else basis.plainName
    | .put => "update" ++ basis.resource ++ parameters
    | .patch => "update" ++ basis.resource ++ parameters
    | .delete => "delete" ++ basis.resource ++ parameters
    | .get => basis.plainName

def shapeName (basis : NameBasis) : String :=
  if basis.isList then "list" ++ basis.resource
  else if basis.method = .get && basis.hasPathParameters then basis.singleName
  else if basis.method.isMutation then basis.mutationName
  else basis.plainName

/-- The name that the summary gives a call, empty without one. -/
def summaryName (basis : NameBasis) : String := (basis.summary.map Text.camelCase).getD ""

def stem (basis : NameBasis) : String :=
  if basis.summaryName ≠ "" then basis.summaryName
  else if basis.shapeName ≠ "" then basis.shapeName
  else "endpoint"

def name (basis : NameBasis) : String := basis.stem ++ basis.method.ending

end NameBasis

/-- A name with the number of its occurrence, which the first one does without. -/
def numberedName (name : String) (occurrence : Nat) : String :=
  if occurrence = 1 then name else name ++ toString occurrence

def numberFrom (before : List String) : List String → List String
  | [] => []
  | name :: rest =>
    numberedName name (before.count name + 1) :: numberFrom (before ++ [name]) rest

def Group.names (group : Group) (basePath : String) : List String :=
  numberFrom [] (group.entries.map fun entry => (entry.nameBasis basePath).name)

end ClientGen
