import ClientGen.Api.Operation
import ClientGen.Api.Reference
import ClientGen.Diagnostic
import ClientGen.Domain.Patterns
import ClientGen.Text.MangledName
import ClientGen.Traced

/-!
# Domains of types and routes

Every declared type belongs to one domain. The first tagged operation that mentions a type
decides, then the name patterns. A type that only wraps a list of others belongs where they do.
What is left takes, for a few rounds, the domain of a type that refers to it.
-/

namespace ClientGen

open Api

/-- The domain of whatever belongs nowhere. -/
def uncategorized : String := "uncategorized"

/-- The domains of types and routes. `aliases` has cleaned spellings of type names. -/
structure DomainMap where
  types : Dict String
  aliases : Dict String
  routes : Dict String
deriving Inhabited

namespace DomainMap

/-- The domain of a type, by its declared name or its cleaned spelling. -/
def typeDomain (map : DomainMap) (name : String) : String :=
  match map.types.get? name with
  | some domain => domain
  | none => (map.aliases.get? name).getD uncategorized

def routeDomain (map : DomainMap) (path : String) : String :=
  (map.routes.get? path).getD uncategorized

def distribution (map : DomainMap) : List (String × Nat) :=
  (orderedSet map.types.values).map fun domain => (domain, map.types.values.count domain)

end DomainMap

/-- Whether a schema names a type by itself, as the items of a list, or as an alternative or part
of it. -/
def mentions (schema : Json) (name : String) : Bool :=
  schemaReference? schema = some name ||
    ((schema.get? "items").bind schemaReference?) = some name ||
    ["anyOf", "oneOf", "allOf"].any fun key =>
      ((schema.getItems? key).getD []).any fun part => schemaReference? part = some name

def allOperations (routes : List Route) : List Operation :=
  routes.flatMap fun route => route.operations.map Prod.snd

def tagFor? (name : String) (operation : Operation) : Option String :=
  match operation.tags with
  | [] => none
  | tag :: _ =>
    if operation.schemas.any fun schema => mentions schema name then some (Text.normalizeTag tag)
    else none

/-- The domain that the first tagged operation mentioning a type gives it. -/
def directTag? (routes : List Route) (name : String) : Option String :=
  (allOperations routes).findSome? (tagFor? name)

/-- The type that a schema wraps: the items of its field `results`, its own items where it has no
fields, or the items of its field `data`. -/
def wrappedType? (schema : Json) : Option String :=
  let itemsOf (key : String) : Option String :=
    ((((schema.get? "properties").bind (·.get? key)).bind (·.get? "items")).bind schemaReference?)
  match itemsOf "results" with
  | some name => some name
  | none =>
    let own := if (schema.get? "properties").isSome then none
      else (schema.get? "items").bind schemaReference?
    match own with
    | some name => some name
    | none => itemsOf "data"

/-- The domain a type has by direct evidence: a tag, or else a name pattern. -/
def directDomain (routes : List Route) (rules : List DomainRule) (name : String) : String :=
  match directTag? routes name with
  | some domain => domain
  | none => (domainByName? rules name).getD uncategorized

def assignDirect (routes : List Route) (rules : List DomainRule) (types : Dict Json) :
    Dict String :=
  types.entries.foldl
    (fun assigned (name, schema) =>
      if (wrappedType? schema).isSome then assigned
      else assigned.insert name (directDomain routes rules name))
    .empty

def wrappedDomain? (assigned : Dict String) (wrapped : String) : Option String :=
  match (assigned.get? wrapped).filter (· ≠ uncategorized) with
  | some domain => some domain
  | none => assigned.entries.findSome? fun (name, domain) =>
      if domain ≠ uncategorized && wrapped.toList.isSuffixOf name.toList then some domain else none

def assignWrapper (routes : List Route) (assigned : Dict String) (name wrapped : String) :
    Dict String :=
  assigned.insert name <|
    match directTag? routes name with
    | some domain => domain
    | none => (wrappedDomain? assigned wrapped).getD uncategorized

def assignWrappers (routes : List Route) (types : Dict Json) (assigned : Dict String) :
    Dict String :=
  types.entries.foldl
    (fun assigned (name, schema) =>
      match wrappedType? schema with
      | some wrapped => assignWrapper routes assigned name wrapped
      | none => assigned)
    assigned

def referenceTable (types : Dict Json) : List (String × List String) :=
  types.entries.map fun (name, schema) => (name, collectReferences schema)

def adoptedDomain? (table : List (String × List String)) (assigned : Dict String)
    (name : String) : Option String :=
  table.findSome? fun (referrer, references) =>
    match assigned.get? referrer with
    | some domain =>
      if domain ≠ uncategorized && references.contains name then some domain else none
    | none => none

def adopt (table : List (String × List String)) (assigned : Dict String) (name : String) :
    Dict String :=
  if assigned.get? name = some uncategorized then
    match adoptedDomain? table assigned name with
    | some domain => assigned.insert name domain
    | none => assigned
  else assigned

def adoptionRound (table : List (String × List String)) (assigned : Dict String) : Dict String :=
  (table.map Prod.fst).foldl (adopt table) assigned

def adoptionRounds : Nat := 5

def adoptFor (table : List (String × List String)) : Nat → Dict String → Dict String
  | 0, assigned => assigned
  | rounds + 1, assigned =>
    let next := adoptionRound table assigned
    if next = assigned then assigned else adoptFor table rounds next

/-- The domains of all types after the last pass. -/
def assignDomains (routes : List Route) (rules : List DomainRule) (types : Dict Json) :
    Dict String :=
  let assigned := assignWrappers routes types (assignDirect routes rules types)
  let final := adoptFor (referenceTable types) adoptionRounds assigned
  types.mapValues fun name _ => (final.get? name).getD uncategorized

def cleanedName (basePath name : String) : String :=
  Text.pascalCase (Text.stripBasePath name basePath)

def cleanedAliases (basePath : String) (types : Dict String) : Dict String :=
  types.entries.foldl
    (fun aliases (name, domain) =>
      let cleaned := cleanedName basePath name
      if cleaned = "" || cleaned = name || types.contains cleaned then aliases
      else aliases.insertNew cleaned domain)
    .empty

/-- The domain of a route: the normalized first tag of its first tagged operation. -/
def routeDomainOf (route : Route) : String :=
  match route.operations.findSome? fun (_, operation) => operation.tags.head? with
  | none => uncategorized
  | some tag => if Text.normalizeTag tag = "" then uncategorized else Text.normalizeTag tag

def routeDomains (routes : List Route) : Dict String :=
  routes.foldl (fun domains route => domains.insert route.path (routeDomainOf route)) .empty

/-- The domains of the types and routes of a document. A warning names the types that belong
nowhere. -/
def classify (types : Dict Json) (routes : List Route) (rules : List DomainRule)
    (basePath : String) : Traced Warning DomainMap :=
  let assigned := assignDomains routes rules types
  let leftover := (assigned.entries.filter fun (_, domain) => domain = uncategorized).map Prod.fst
  { value := {
      types := assigned
      aliases := cleanedAliases basePath assigned
      routes := routeDomains routes }
    trace := if leftover.isEmpty then [] else [.exhausted leftover] }

end ClientGen
