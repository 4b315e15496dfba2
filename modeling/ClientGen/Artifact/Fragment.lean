import ClientGen.Artifact.Context

/-!
# Fragments

A fragment is one generated file before its text is made: its kind, its place below the output
folder, the template of its text and the context of the template. Every kind of artifact has its
own fragments. Those of all kinds that are not excluded make up a run.
-/

namespace ClientGen

/-- A generated file before its text is made. -/
structure Fragment where
  kind : ArtifactKind
  target : String
  template : String
  context : Context
deriving Repr, Inhabited

/-- How the modules of a plan name each other. -/
def linking (plan : Plan) (config : Config) : Linking where
  domains := plan.domains
  aliasRoot? := config.aliasRoot?

/-- The depth of services and thunks below the output folder. -/
def nestedDepth : Nat := 2

def flatDepth : Nat := 1

def importLine? (path : String) (names : List String) : Option ImportLine :=
  match orderedSet names with
  | [] => none
  | sorted => some { path, names := sorted }

def nestedReference (scope : Scope) (name : String) : Reference :=
  (name, if scope.enums.contains name then .enum else .model)

def Field.model (field : Field) : ModelField where
  key := Text.propertyKey field.name
  validator := fieldValidator field
  type := typeText field.schema
  optional := !field.required
  description := field.description

def modelContext (plan : Plan) (links : Linking) (domain : String) (type : DeclaredType) :
    ModelContext :=
  let references := type.nested.map (nestedReference plan.catalog.scope)
  let base : ModelContext := {
    name := type.name
    domain
    typeIdent := serializerIdent type.name
    fields := []
    aliasExpression := none
    values := []
    imports := importLines (links.resolve (.model domain) .validator references) }
  match type.kind with
  | .object fields => { base with fields := fields.map Field.model }
  | .enum values =>
    { base with typeIdent := Text.identifier type.name, values := values.map Text.quoted }
  | .alias schema => { base with aliasExpression := some (validator schema) }

def modelFragment (plan : Plan) (links : Linking) (type : DeclaredType) : Fragment :=
  let domain := plan.domains.typeDomain type.name
  { kind := .models
    target := modelFile domain type.name
    template := if type.isEnum then "enum.ts.tera" else "model.ts.tera"
    context := .model (modelContext plan links domain type) }

/-- The module of a group's parameter interfaces, named relative to the output folder. -/
def paramsModule (group : PlannedGroup) : String := "params/" ++ group.fileStem ++ ".params"

def servicesModule (group : PlannedGroup) : String :=
  "services/" ++ group.fileStem ++ "/" ++ group.fileStem

def thunksModule (group : PlannedGroup) : String :=
  "thunks/" ++ group.fileStem ++ "/" ++ group.fileStem ++ ".thunk"

/-- The module that exports a group's parameter interfaces: their own, or that of the services
where parameters are excluded. -/
def interfacesModule (config : Config) (group : PlannedGroup) : String :=
  if config.isEnabled .params then paramsModule group else servicesModule group

def interfacesLine? (config : Config) (links : Linking) (depth : Nat) (group : PlannedGroup) :
    Option ImportLine :=
  importLine? (links.artifact depth (interfacesModule config group))
    (group.interfaces.map (·.name))

/-- The imports of the types that a group's responses mention. -/
def responseImports (links : Linking) (depth : Nat) (group : PlannedGroup) : List Import :=
  links.resolve (.artifact depth) .type group.responseReferences

def paramsFragment (links : Linking) (group : PlannedGroup) : Fragment where
  kind := .params
  target := paramsModule group ++ ".ts"
  template := "params.ts.tera"
  context := .params group.key (group.interfaces.map Interface.declaration)
    (importLines (links.resolve (.artifact flatDepth) .type group.parameterReferences))

/-- The context of a group's services. Where parameters are excluded, the services declare the
parameter interfaces. -/
def serviceContext (config : Config) (links : Linking) (group : PlannedGroup) : Context :=
  if config.isEnabled .params then
    .service group []
      (importLines (responseImports links nestedDepth group) ++
        (interfacesLine? config links nestedDepth group).toList)
  else
    .service group (group.interfaces.map Interface.declaration)
      (importLines (links.resolve (.artifact nestedDepth) .type
        (group.responseReferences ++ group.parameterReferences)))

def serviceFragment (config : Config) (links : Linking) (group : PlannedGroup) : Fragment where
  kind := .services
  target := servicesModule group ++ ".ts"
  template := "service.ts.tera"
  context := serviceContext config links group

def callsContext (config : Config) (links : Linking) (depth : Nat) (below : Option ImportLine)
    (group : PlannedGroup) : Context :=
  .calls group
    (importLines (responseImports links depth group) ++
      (interfacesLine? config links depth group).toList ++ below.toList)
    (config.isEnabled .store)

def Endpoint.thunkName (endpoint : Endpoint) : String := endpoint.name ++ "Thunk"

def thunkFragment (config : Config) (links : Linking) (group : PlannedGroup) : Fragment :=
  let services := importLine? (links.artifact nestedDepth (servicesModule group))
    (group.endpoints.map (·.name))
  { kind := .thunks
    target := thunksModule group ++ ".ts"
    template := "thunk.ts.tera"
    context := callsContext config links nestedDepth services group }

def hooksFragment (config : Config) (links : Linking) (group : PlannedGroup) : Fragment :=
  let thunks := importLine? (links.artifact flatDepth (thunksModule group))
    (group.endpoints.map Endpoint.thunkName)
  { kind := .hooks
    target := "hooks/" ++ group.fileStem ++ ".hooks.ts"
    template := "hooks.ts.tera"
    context := callsContext config links flatDepth thunks group }

def sliceFragment (links : Linking) (slice : Slice) : Fragment where
  kind := .slices
  target := "slices/" ++ slice.file ++ ".ts"
  template := "slice.ts.tera"
  context := .slice slice
    (importLines (links.resolve (.artifact flatDepth) .type [(slice.model, .model)]))

def storeFragments (plan : Plan) (config : Config) : List Fragment :=
  let context : Context := .store (if config.isEnabled .slices then plan.slices else [])
  [{ kind := .store, target := "redux/store.ts", template := "store.ts.tera", context },
    { kind := .store, target := "redux/hooks.ts", template := "redux_hooks.ts.tera", context }]

def Plan.cacheTags (plan : Plan) : List String :=
  plan.groups.foldl
    (fun tags group => if tags.contains group.cacheTag then tags else tags ++ [group.cacheTag])
    []

def tagsFragment (plan : Plan) : Fragment where
  kind := .tags
  target := "constants/tags.ts"
  template := "tags.ts.tera"
  context := .tags plan.cacheTags

def fragmentsOf (plan : Plan) (config : Config) : ArtifactKind → List Fragment
  | .models => plan.types.map (modelFragment plan (linking plan config))
  | .params => (plan.groups.filter fun group => group.interfaces ≠ []).map
      (paramsFragment (linking plan config))
  | .services => plan.groups.map (serviceFragment config (linking plan config))
  | .thunks => plan.groups.map (thunkFragment config (linking plan config))
  | .hooks => plan.groups.map (hooksFragment config (linking plan config))
  | .slices => plan.slices.map (sliceFragment (linking plan config))
  | .store => storeFragments plan config
  | .tags => [tagsFragment plan]

/-- The fragments of all kinds that are generated, in the order of their emission. -/
def fragments (plan : Plan) (config : Config) : List Fragment :=
  config.enabled.flatMap (fragmentsOf plan config)

end ClientGen
