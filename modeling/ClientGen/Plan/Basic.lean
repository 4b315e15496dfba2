import ClientGen.Api.Document
import ClientGen.Config.Basic
import ClientGen.Domain.Classify
import ClientGen.Plan.Endpoint

/-!
# The plan of a run

The plan has every decision that the generated code depends on: the compiled types, their
domains, and the groups with their endpoints. Its warnings are those of normalizing, compiling
and classifying the document and then those of the endpoints, group by group.
-/

namespace ClientGen

open Api

/-- The endpoints that share a group segment, planned. -/
structure PlannedGroup where
  key : String
  domain : String
  endpoints : List Endpoint
deriving Repr, Inhabited

namespace PlannedGroup

def fileStem (group : PlannedGroup) : String := Text.fileStem group.key

def ident (group : PlannedGroup) : String := Text.camelCase group.key

def pascal (group : PlannedGroup) : String := Text.pascalCase group.key

def cacheTag (group : PlannedGroup) : String := ClientGen.cacheTag group.key

def interfaces (group : PlannedGroup) : List Interface :=
  group.endpoints.filterMap (·.interface)

/-- The types that the responses mention, with repetitions. -/
def responseReferences (group : PlannedGroup) : List Reference :=
  group.endpoints.flatMap (·.references)

def parameterReferences (group : PlannedGroup) : List Reference :=
  distinctReferences (group.interfaces.flatMap (·.references))

/-- The types that responses and parameters mention. -/
def references (group : PlannedGroup) : List Reference :=
  distinctReferences <| group.endpoints.flatMap fun endpoint =>
    endpoint.references ++ endpoint.interface.toList.flatMap (·.references)

end PlannedGroup

structure Plan where
  title : Option String
  version : Option String
  catalog : Catalog
  domains : DomainMap
  groups : List PlannedGroup
  warnings : List Warning

namespace Plan

def types (plan : Plan) : List DeclaredType := plan.catalog.types.values

def group? (plan : Plan) (key : String) : Option PlannedGroup :=
  plan.groups.find? (·.key = key)

def endpoints (plan : Plan) : List Endpoint := plan.groups.flatMap (·.endpoints)

end Plan

def groupDomain (domains : DomainMap) (group : Group) : String :=
  ((group.entries.map fun entry => domains.routeDomain entry.path).find? (· ≠ uncategorized)).getD
    uncategorized

def planGroup (scope : Scope) (domains : DomainMap) (basePath : String) (group : Group) :
    Compiling PlannedGroup := do
  let named := group.entries.zip (group.names basePath)
  let endpoints ← Traced.each
    (fun (entry, name) => planEndpoint scope basePath (cacheTag group.key) name entry) named
  return { key := group.key, domain := groupDomain domains group, endpoints }

/-- Plans a run with name patterns that have been read. -/
def planWith (rules : List DomainRule) (document : Json) (config : Config) : Plan :=
  let normalized := normalize document
  let catalog := compile normalized.value.types
  let classified :=
    classify normalized.value.types normalized.value.routes rules config.trimmedBase
  let grouped := groupRoutes config.groupingDepth normalized.value.routes
  let groups :=
    Traced.each (planGroup catalog.scope classified.value config.trimmedBase) grouped
  { title := title? document
    version := version? document
    catalog
    domains := classified.value
    groups := groups.value
    warnings :=
      normalized.trace ++ catalog.warnings ++ classified.trace ++ Compiling.warnings groups }

/-- Plans a run. A name pattern that cannot be read is the only thing that can go wrong. -/
def plan (document : Json) (config : Config)
    (rule? : DomainPattern → Option DomainRule := DomainPattern.rule?) :
    Except ConfigProblem Plan :=
  match readDomainPatterns config.domainPatterns rule? with
  | .error p => .error (.invalidPattern p.pattern)
  | .ok rules => .ok (planWith rules document config)

end ClientGen
