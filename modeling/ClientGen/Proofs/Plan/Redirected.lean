import ClientGen.Proofs.Api.Entries
import ClientGen.Proofs.Plan.Groups
import ClientGen.Proofs.Schema.Redirected

/-!
# Plans with redirected references

The references in the declared types and in the routes of a document are redirected to texts that
name the same types. No stage of a plan sees the difference: the types compile alike, they and the
routes have the same domains, and the endpoints are planned alike.
-/

namespace ClientGen
open Api Json

variable {change : String → String}

def redirectTypes (change : String → String) (types : Dict Json) : Dict Json :=
  types.mapValues fun name schema => redirectAt change schema name

section
variable (hname : ∀ text, referenceName (change text) = referenceName text) (types : Dict Json)

theorem enums_redirectTypes :
    (Scope.of (redirectTypes change types)).enums = (Scope.of types).enums :=
  enums_mapValues fun entry _ => isEnumSchema_redirectAt entry.2 entry.1

theorem target_redirectTypes (name : String) :
    (Scope.of (redirectTypes change types)).target name = (Scope.of types).target name := by
  have hkeys : (redirectTypes change types).keys = types.keys := Dict.keys_mapValues _ _
  refine target_of_names (fun other => ?_) (fun other => ?_) name
  · rw [hkeys]
  · rw [enums_redirectTypes]

include hname

theorem compileDeclaration_redirectTypes :
    (redirectTypes change types).mapValues
        (compileDeclaration (Scope.of (redirectTypes change types))) =
      types.mapValues (compileDeclaration (Scope.of types)) := by
  rw [redirectTypes, Dict.mapValues_mapValues]
  refine Dict.mapValues_congr fun entry _ => ?_
  exact (compileDeclaration_of_target (target_redirectTypes types) ..).trans
    (compileDeclaration_redirectAt hname _ ..)

theorem compile_redirectTypes :
    (compile (redirectTypes change types)).types = (compile types).types ∧
      (compile (redirectTypes change types)).warnings = (compile types).warnings := by
  have hcompiled := compileDeclaration_redirectTypes hname types
  constructor
  · exact congrArg (fun compiled => compiled.mapValues fun _ result => result.1) hcompiled
  · exact congrArg (fun compiled => compiled.values.flatMap Prod.snd) hcompiled

end

section
variable (hname : ∀ text, referenceName (change text) = referenceName text)

theorem schemas_mapSchemas (operation : Operation) :
    (operation.mapSchemas (redirect change)).schemas = operation.schemas.map (redirect change) := by
  have hvalues : ∀ schemas : Dict (Option Json),
      (schemas.mapValues fun _ schema => schema.map (redirect change)).values.filterMap id =
        (schemas.values.filterMap id).map (redirect change) := by
    intro schemas
    have hmapped : (schemas.mapValues fun _ schema => schema.map (redirect change)).values =
        schemas.values.map (Option.map (redirect change)) := by
      rw [Dict.values_mapValues, Dict.values, List.map_map]
      rfl
    rw [hmapped, filterMap_id_map]
  have hbody : (operation.body.map (RequestBody.mapSchemas (redirect change))).toList.flatMap
        (fun body => body.content.values.filterMap id) =
      (operation.body.toList.flatMap fun body => body.content.values.filterMap id).map
        (redirect change) := by
    cases operation.body with
    | none => rfl
    | some body =>
      simp only [Option.map_some, Option.toList_some, List.flatMap_singleton]
      exact hvalues body.content
  simp only [Operation.schemas, Operation.mapSchemas, hvalues, hbody, List.map_append, List.map_map]
  rfl

theorem allOperations_mapSchemas (routes : List Route) (map : Json → Json) :
    allOperations (routes.map (Route.mapSchemas map)) =
      (allOperations routes).map (Operation.mapSchemas map) := by
  rw [allOperations, allOperations, List.flatMap_map, List.map_flatMap]
  refine List.flatMap_congr fun route _ => ?_
  rw [Route.mapSchemas, List.map_map, List.map_map]
  rfl

theorem routeDomains_mapSchemas (routes : List Route) (map : Json → Json) :
    routeDomains (routes.map (Route.mapSchemas map)) = routeDomains routes := by
  have hdomain : ∀ route : Route, routeDomainOf (route.mapSchemas map) = routeDomainOf route := by
    intro route
    simp only [routeDomainOf, Route.mapSchemas, List.findSome?_map]
    rfl
  rw [routeDomains, List.foldl_map, routeDomains]
  simp only [hdomain]
  rfl

include hname

theorem directTag?_mapSchemas (routes : List Route) (name : String) :
    directTag? (routes.map (Route.mapSchemas (redirect change))) name = directTag? routes name := by
  have htag : ∀ operation : Operation,
      tagFor? name (operation.mapSchemas (redirect change)) = tagFor? name operation := by
    intro operation
    have hmentions : (operation.mapSchemas (redirect change)).schemas.any
        (fun schema => mentions schema name) =
          operation.schemas.any fun schema => mentions schema name := by
      rw [schemas_mapSchemas, List.any_map]
      congr 1
      funext schema
      exact mentions_redirectAt hname schema "" name
    unfold tagFor?
    rw [hmentions]
    rfl
  rw [directTag?, allOperations_mapSchemas, List.findSome?_map, directTag?]
  congr 1
  funext operation
  exact htag operation

variable (types : Dict Json) (routes : List Route) (rules : List DomainRule)

theorem assignDirect_redirect :
    assignDirect (routes.map (Route.mapSchemas (redirect change))) rules
        (redirectTypes change types) = assignDirect routes rules types := by
  simp only [assignDirect, redirectTypes, Dict.mapValues, List.foldl_map,
    wrappedType?_redirectAt hname, directDomain, directTag?_mapSchemas hname]

theorem assignWrappers_redirect (assigned : Dict String) :
    assignWrappers (routes.map (Route.mapSchemas (redirect change)))
        (redirectTypes change types) assigned = assignWrappers routes types assigned := by
  simp only [assignWrappers, redirectTypes, Dict.mapValues, List.foldl_map,
    wrappedType?_redirectAt hname, assignWrapper, directTag?_mapSchemas hname]

theorem referenceTable_redirectTypes :
    referenceTable (redirectTypes change types) = referenceTable types := by
  simp only [referenceTable, redirectTypes, Dict.mapValues, List.map_map, Function.comp_def,
    collectReferences_redirectAt hname]

theorem classify_redirect (basePath : String) :
    classify (redirectTypes change types) (routes.map (Route.mapSchemas (redirect change))) rules
        basePath = classify types routes rules basePath := by
  have hdomains : assignDomains (routes.map (Route.mapSchemas (redirect change))) rules
      (redirectTypes change types) = assignDomains routes rules types := by
    simp only [assignDomains, assignDirect_redirect hname, assignWrappers_redirect hname,
      referenceTable_redirectTypes hname]
    exact Dict.mapValues_mapValues ..
  simp only [classify, hdomains, routeDomains_mapSchemas]

end

section
variable (map : Json → Json) (operation : Operation)

theorem parametersAt_mapSchemas (location : Location) :
    (operation.mapSchemas map).parametersAt location =
      (operation.parametersAt location).map (Parameter.mapSchema map) := by
  rw [Operation.parametersAt, Operation.mapSchemas, List.filter_map]
  rfl

theorem parameterNames_mapSchemas (location : Location) :
    parameterNames (operation.mapSchemas map) location = parameterNames operation location := by
  rw [parameterNames, parametersAt_mapSchemas, List.map_map]
  rfl

theorem preferredType_mapSchemas (body : RequestBody) :
    (body.mapSchemas map).preferredType = body.preferredType := by
  simp only [RequestBody.preferredType, RequestBody.mapSchemas, Dict.contains_mapValues,
    Dict.keys_mapValues]

theorem schema?_mapSchemas (body : RequestBody) :
    (body.mapSchemas map).schema? = body.schema?.map map := by
  rw [RequestBody.schema?, preferredType_mapSchemas, RequestBody.mapSchemas,
    Dict.get?_mapValues_eq_map, RequestBody.schema?]
  cases body.content.get? body.preferredType with
  | none => rfl
  | some schema => rfl

theorem requestSchema?_mapSchemas :
    requestSchema? (operation.mapSchemas map) = (requestSchema? operation).map map := by
  unfold requestSchema?
  rw [parametersAt_mapSchemas]
  cases operation.parametersAt .body with
  | cons parameter rest => rfl
  | nil =>
    rw [List.map_nil, Operation.mapSchemas]
    cases operation.body with
    | none => rfl
    | some body => exact schema?_mapSchemas map body

theorem contentTypeOf_mapSchemas :
    contentTypeOf (operation.mapSchemas map) = contentTypeOf operation := by
  have hbody : (operation.mapSchemas map).body.map RequestBody.preferredType =
      operation.body.map RequestBody.preferredType := by
    rw [Operation.mapSchemas, Option.map_map]
    exact congrArg (operation.body.map ·) (funext fun body => preferredType_mapSchemas map body)
  rw [contentTypeOf, parameterNames_mapSchemas, hbody, contentTypeOf]

theorem successSchema?_mapSchemas :
    (operation.mapSchemas map).successSchema? = operation.successSchema?.map map := by
  have hfirst : ∀ schemas : List (Option Json),
      (schemas.map (Option.map map)).findSome? id = (schemas.findSome? id).map map := by
    intro schemas
    rw [List.findSome?_map, List.map_findSome?]
    rfl
  have hpreferred :
      Operation.preferredStatuses.filterMap (operation.mapSchemas map).responses.get? =
      (Operation.preferredStatuses.filterMap operation.responses.get?).map (Option.map map) := by
    rw [List.map_filterMap]
    exact List.filterMap_congr fun status _ =>
      Dict.get?_mapValues_eq_map _ operation.responses status
  have hothers : ∀ entries : List (String × Option Json), ∀ kept : String → Bool,
      (entries.map fun entry => (entry.1, entry.2.map map)).filterMap
          (fun entry => if kept entry.1 then some entry.2 else none) =
        (entries.filterMap fun entry => if kept entry.1 then some entry.2 else none).map
          (Option.map map) := by
    intro entries kept
    rw [List.filterMap_map, List.map_filterMap]
    refine List.filterMap_congr fun entry _ => ?_
    simp only [Function.comp_apply]
    split <;> rfl
  have hentries := hothers operation.responses.entries fun status =>
    status.toList.head? = some '2' && !Operation.preferredStatuses.contains status
  rw [Operation.successSchema?, Operation.successSchema?, ← hfirst, List.map_append, hpreferred]
  exact congrArg (fun others => List.findSome? id (_ ++ others)) hentries

end

def Entry.mapSchemas (map : Json → Json) (entry : Entry) : Entry :=
  { entry with operation := entry.operation.mapSchemas map }

def Group.mapSchemas (map : Json → Json) (group : Group) : Group :=
  { group with entries := group.entries.map (Entry.mapSchemas map) }

theorem nameBasis_mapSchemas (map : Json → Json) (entry : Entry) (basePath : String) :
    (entry.mapSchemas map).nameBasis basePath = entry.nameBasis basePath := by
  simp only [Entry.nameBasis, Entry.mapSchemas, parametersAt_mapSchemas, List.map_map]
  rfl

theorem names_mapSchemas (map : Json → Json) (group : Group) (basePath : String) :
    (group.mapSchemas map).names basePath = group.names basePath := by
  simp only [Group.names, Group.mapSchemas, List.map_map, Function.comp_def, nameBasis_mapSchemas]

theorem groupRoutes_mapSchemas (map : Json → Json) (depth : Nat) (routes : List Route) :
    groupRoutes depth (routes.map (Route.mapSchemas map)) =
      (groupRoutes depth routes).map (Group.mapSchemas map) := by
  refine groupRoutes_map (fun _ _ => rfl) (fun route => ?_) fun _ _ => Iff.rfl
  rw [Route.entries, Route.entries, Route.mapSchemas, List.map_map, List.map_map]
  rfl

/-- Two scopes with the same names and targets. -/
structure SameTargets (scope other : Scope) : Prop where
  target : ∀ name, other.target name = scope.target name
  declared : ∀ name, other.declared.contains name = scope.declared.contains name

theorem sameTargets_redirectTypes (types : Dict Json) :
    SameTargets (Scope.of types) (Scope.of (redirectTypes change types)) :=
  ⟨target_redirectTypes types, Dict.contains_mapValues _ _⟩

section
variable (hname : ∀ text, referenceName (change text) = referenceName text) {scope other : Scope}
  (hscope : SameTargets scope other)
include hname hscope

theorem compileSchema_redirect (raw : Json) (location : String) :
    compileSchema other (redirect change raw) location = compileSchema scope raw location :=
  (compileSchema_of_target hscope.target ..).trans (compileLevels_redirectAt hname scope _ raw "" _)

theorem compileParameter_mapSchema (place : String) (p : Parameter) :
    compileParameter other place (p.mapSchema (redirect change)) =
      compileParameter scope place p := by
  simp only [compileParameter, Parameter.mapSchema, compileSchema_redirect hname hscope]
  rfl

theorem compileBody_mapSchemas (place : String) (operation : Operation) :
    compileBody other place (operation.mapSchemas (redirect change)) =
      compileBody scope place operation := by
  have hparameters : hasBodyParameters (operation.mapSchemas (redirect change)) =
      hasBodyParameters operation := by
    simp only [hasBodyParameters, Operation.mapSchemas, List.any_map]
    rfl
  unfold compileBody
  rw [hparameters, Operation.mapSchemas]
  cases operation.body with
  | none => rfl
  | some body =>
    simp only [Option.map_some, schema?_mapSchemas]
    cases body.schema? with
    | none => rfl
    | some raw =>
      simp only [Option.map_some, compileSchema_redirect hname hscope]
      rfl

theorem synthesize_mapSchemas (basePath : String) (entry : Entry) :
    synthesize other basePath (entry.mapSchemas (redirect change)) =
      synthesize scope basePath entry := by
  have hordered : orderedParameters (entry.operation.mapSchemas (redirect change)) =
      (orderedParameters entry.operation).map (Parameter.mapSchema (redirect change)) := by
    rw [orderedParameters, orderedParameters, List.map_flatMap]
    exact List.flatMap_congr fun location _ => parametersAt_mapSchemas _ _ location
  have hparameters : ∀ place, Traced.each (compileParameter other place)
      (orderedParameters (entry.operation.mapSchemas (redirect change))) =
        Traced.each (compileParameter scope place) (orderedParameters entry.operation) := by
    intro place
    rw [hordered]
    exact Traced.each_map fun p _ => compileParameter_mapSchema hname hscope place p
  simp only [synthesize, Entry.mapSchemas, hparameters, compileBody_mapSchemas hname hscope]

theorem compileResponse_mapSchemas (entry : Entry) :
    compileResponse other (entry.mapSchemas (redirect change)) = compileResponse scope entry := by
  unfold compileResponse
  simp only [Entry.mapSchemas, successSchema?_mapSchemas]
  cases entry.operation.successSchema? with
  | none => rfl
  | some raw => simp only [Option.map_some, compileSchema_redirect hname hscope]

theorem declaredShape?_map (schema : Option Json) :
    declaredShape? other (schema.map (redirect change)) = declaredShape? scope schema := by
  have hshape : (schema.map (redirect change)).bind bodyShape? = schema.bind bodyShape? := by
    cases schema with
    | none => rfl
    | some raw => exact bodyShape?_redirectAt hname raw ""
  simp only [declaredShape?, hshape, hscope.declared]

theorem planEndpoint_mapSchemas (basePath tag name : String) (entry : Entry) :
    planEndpoint other basePath tag name (entry.mapSchemas (redirect change)) =
      planEndpoint scope basePath tag name entry := by
  unfold planEndpoint
  simp only [synthesize_mapSchemas hname hscope, compileResponse_mapSchemas hname hscope,
    nameBasis_mapSchemas]
  simp only [Entry.mapSchemas, parameterNames_mapSchemas, contentTypeOf_mapSchemas,
    requestSchema?_mapSchemas, Option.isSome_map, successSchema?_mapSchemas,
    declaredShape?_map hname hscope]
  rfl

theorem planGroup_mapSchemas (domains : DomainMap) (basePath : String) (group : Group) :
    planGroup other domains basePath (group.mapSchemas (redirect change)) =
      planGroup scope domains basePath group := by
  have hendpoints : Traced.each
      (fun (named : Entry × String) =>
        planEndpoint other basePath (cacheTag group.key) named.2 named.1)
      ((group.mapSchemas (redirect change)).entries.zip (group.names basePath)) =
        Traced.each (fun (named : Entry × String) =>
          planEndpoint scope basePath (cacheTag group.key) named.2 named.1)
          (group.entries.zip (group.names basePath)) := by
    rw [Group.mapSchemas, List.zip_map_left]
    exact Traced.each_map fun named _ => planEndpoint_mapSchemas hname hscope ..
  have hdomain : groupDomain domains (group.mapSchemas (redirect change)) =
      groupDomain domains group := by
    simp only [groupDomain, Group.mapSchemas, List.map_map]
    rfl
  unfold planGroup
  rw [hdomain, names_mapSchemas]
  exact congrArg (fun planned : Compiling (List Endpoint) => do
    let endpoints ← planned
    return ({ key := group.key, domain := groupDomain domains group, endpoints } : PlannedGroup))
    hendpoints

end

/-- Two plans agree in everything but what they say about the document. -/
structure PlannedAlike (first second : Plan) : Prop where
  types : second.catalog.types = first.catalog.types
  enums : second.catalog.scope.enums = first.catalog.scope.enums
  domains : second.domains = first.domains
  groups : second.groups = first.groups
  warnings : second.warnings = first.warnings

/-- A document is read as another one with redirected references. -/
structure ReadRedirected (change : String → String) (document other : Json) : Prop where
  types : (normalize other).value.types = redirectTypes change (normalize document).value.types
  routes : (normalize other).value.routes =
    (normalize document).value.routes.map (Route.mapSchemas (redirect change))
  trace : (normalize other).trace = (normalize document).trace

theorem planWith_redirected (hname : ∀ text, referenceName (change text) = referenceName text)
    {document other : Json} (h : ReadRedirected change document other) (rules : List DomainRule)
    (config : Config) : PlannedAlike (planWith rules document config)
      (planWith rules other config) := by
  have hcompile := compile_redirectTypes hname (normalize document).value.types
  have hclassify := classify_redirect hname (normalize document).value.types
    (normalize document).value.routes rules config.trimmedBase
  have hdomains : (planWith rules other config).domains =
      (planWith rules document config).domains := by
    show (classify _ _ _ _).value = (classify _ _ _ _).value
    rw [h.types, h.routes, hclassify]
  have hplanned : Traced.each
      (planGroup (Scope.of (normalize other).value.types)
        (planWith rules other config).domains config.trimmedBase)
      (groupRoutes config.groupingDepth (normalize other).value.routes) =
        Traced.each (planGroup (Scope.of (normalize document).value.types)
          (planWith rules document config).domains config.trimmedBase)
          (groupRoutes config.groupingDepth (normalize document).value.routes) := by
    rw [hdomains, h.types, h.routes, groupRoutes_mapSchemas]
    exact Traced.each_map fun group _ =>
      planGroup_mapSchemas hname (sameTargets_redirectTypes _) ..
  refine { types := ?_, enums := ?_, domains := hdomains, groups := ?_, warnings := ?_ }
  · show (compile _).types = (compile _).types
    rw [h.types, hcompile.1]
  · show (Scope.of _).enums = (Scope.of _).enums
    rw [h.types, enums_redirectTypes]
  · exact congrArg Traced.value hplanned
  · have hwarnings : (planWith rules other config).warnings =
        (normalize other).trace ++ (compile (normalize other).value.types).warnings ++
          (classify (normalize other).value.types (normalize other).value.routes rules
            config.trimmedBase).trace ++
          Compiling.warnings (Traced.each
            (planGroup (Scope.of (normalize other).value.types)
              (planWith rules other config).domains config.trimmedBase)
            (groupRoutes config.groupingDepth (normalize other).value.routes)) := rfl
    rw [hwarnings, hplanned, h.trace, h.types, hcompile.2, h.routes, hclassify]
    rfl

end ClientGen
