import ClientGen.Artifact.ServiceCall
import ClientGen.Artifact.Slice
import ClientGen.Module.Import
import ClientGen.Schema.Validator

/-!
# What templates are given

Every template is given a context: the values that it puts into the text of a file. A context is
handed over as a JSON object.
-/

namespace ClientGen

open Api

structure ModelField where
  key : String
  validator : String
  type : String
  optional : Bool
  description : Option String
deriving DecidableEq, Repr, Inhabited

structure InterfaceField where
  key : String
  type : String
  optional : Bool
  location : Location
  description : Option String
deriving DecidableEq, Repr, Inhabited

structure InterfaceDeclaration where
  name : String
  fields : List InterfaceField
deriving DecidableEq, Repr, Inhabited

def Interface.declaration (interface : Interface) : InterfaceDeclaration where
  name := interface.name
  fields := interface.fields.map fun f =>
    { key := Text.propertyKey f.name
      type := f.type
      optional := !f.required
      location := f.location
      description := f.description }

structure ModelContext where
  name : String
  domain : String
  typeIdent : String
  fields : List ModelField
  aliasExpression : Option String
  values : List String
  imports : List ImportLine
deriving DecidableEq, Repr, Inhabited

inductive Context where
  | model (context : ModelContext)
  | params (group : String) (interfaces : List InterfaceDeclaration) (imports : List ImportLine)
  | service (group : PlannedGroup) (interfaces : List InterfaceDeclaration)
      (imports : List ImportLine)
  | calls (group : PlannedGroup) (imports : List ImportLine) (usesStore : Bool)
  | slice (form : Slice) (imports : List ImportLine)
  | store (forms : List Slice)
  | tags (names : List String)
deriving Repr, Inhabited

def Context.imports : Context → List ImportLine
  | .model context => context.imports
  | .params _ _ imports => imports
  | .service _ _ imports => imports
  | .calls _ imports _ => imports
  | .slice _ imports => imports
  | .store _ => []
  | .tags _ => []

namespace ImportLine

def toJson (line : ImportLine) : Json :=
  .obj [("path", .str line.path), ("names", .ofTexts line.names)]

end ImportLine

def importsJson (imports : List ImportLine) : Json := .arr (imports.map ImportLine.toJson)

def ModelField.toJson (field : ModelField) : Json :=
  .obj [("key", .str field.key), ("zod", .str field.validator), ("ts", .str field.type),
    ("optional", .bool field.optional), ("description", .ofText? field.description)]

def InterfaceField.toJson (field : InterfaceField) : Json :=
  .obj [("key", .str field.key), ("ts_type", .str field.type),
    ("optional", .bool field.optional), ("location", .str field.location.name),
    ("description", .ofText? field.description)]

def InterfaceDeclaration.toJson (interface : InterfaceDeclaration) : Json :=
  .obj [("name", .str interface.name),
    ("fields", .arr (interface.fields.map InterfaceField.toJson))]

/-- A parameter of an endpoint as a JSON value, without a description that is missing. -/
def ParameterField.toJson (field : ParameterField) : Json :=
  .obj ([("name", .str field.name), ("location", .str field.location.name),
    ("required", .bool field.required), ("ts_type", .str field.type)] ++
    (field.description.toList.map fun d => ("description", .str d)))

def Interface.toJson (interface : Interface) : Json :=
  .obj [("name", .str interface.name),
    ("fields", .arr (interface.fields.map ParameterField.toJson))]

def Endpoint.members (endpoint : Endpoint) : List (String × Json) :=
  [("name", .str endpoint.name),
    ("export_name", .str endpoint.exportName),
    ("path", .str endpoint.path),
    ("http_method", .str endpoint.method.verb),
    ("is_query", .bool (endpoint.method = .get)),
    ("is_mutation", .bool endpoint.method.isMutation),
    ("is_list", .bool endpoint.isList),
    ("url_template", .str (urlTemplate endpoint.path)),
    ("path_params", .ofTexts endpoint.pathParameters),
    ("query_params", .ofTexts endpoint.queryParameters),
    ("form_params", .ofTexts endpoint.formParameters),
    ("has_body", .bool endpoint.hasBody),
    ("param_interface", (endpoint.interface.map Interface.toJson).getD .null),
    ("response_type", .str endpoint.responseType),
    ("response_model", .ofText? (endpoint.response.map (·.name))),
    ("response_is_array", .bool (endpoint.response.any (·.isArray))),
    ("response_is_paginated", .bool (endpoint.response.any (·.isPaginated))),
    ("request_body_model", .ofText? (endpoint.request.map (·.name))),
    ("request_body_is_array", .bool (endpoint.request.any (·.isArray))),
    ("content_type", .str endpoint.contentType),
    ("summary", .ofText? endpoint.summary),
    ("tags", .ofTexts endpoint.tags),
    ("cache_tag", .str endpoint.cacheTag)]

def Endpoint.serviceMembers (endpoint : Endpoint) : List (String × Json) :=
  endpoint.members ++
    [("url", .str endpoint.address),
      ("params_type", .ofText? (endpoint.interface.map (·.name))),
      ("query", .ofTexts endpoint.query),
      ("body", .ofText? endpoint.sentBody?)]

def PlannedGroup.members (group : PlannedGroup) : List (String × Json) :=
  [("key", .str group.key),
    ("file_stem", .str group.fileStem),
    ("ident", .str group.ident),
    ("pascal", .str group.pascal),
    ("domain", .str group.domain),
    ("cache_tag", .str group.cacheTag),
    ("endpoints", .arr (group.endpoints.map fun endpoint => .obj endpoint.members))]

def Slice.toJson (slice : Slice) : Json :=
  .obj [("name", .str slice.name), ("model", .str slice.model), ("ident", .str slice.ident),
    ("file", .str slice.file), ("form_key", .str slice.formKey),
    ("constant", .str slice.constant)]

def Context.members : Context → List (String × Json)
  | .model c =>
    [("name", .str c.name),
      ("domain", .str c.domain),
      ("schema_ident", .str (schemaIdent c.name)),
      ("type_ident", .str c.typeIdent),
      ("fields", .arr (c.fields.map ModelField.toJson)),
      ("alias_expr", .ofText? c.aliasExpression),
      ("values", .ofTexts c.values),
      ("values_ident", .str (valuesIdent c.name)),
      ("imports", importsJson c.imports)]
  | .params group interfaces imports =>
    [("group", .str group),
      ("interfaces", .arr (interfaces.map InterfaceDeclaration.toJson)),
      ("imports", importsJson imports)]
  | .service group interfaces imports =>
    [("group", .obj group.members),
      ("endpoints", .arr (group.endpoints.map fun endpoint => .obj endpoint.serviceMembers)),
      ("local_interfaces", .arr (interfaces.map InterfaceDeclaration.toJson)),
      ("imports", importsJson imports)]
  | .calls group imports usesStore =>
    [("group", .obj group.members),
      ("imports", importsJson imports),
      ("use_store", .bool usesStore)]
  | .slice form imports =>
    [("slice", form.toJson),
      ("type_ident", .str (serializerIdent form.model)),
      ("imports", importsJson imports)]
  | .store forms => [("slices", .arr (forms.map Slice.toJson))]
  | .tags names => [("tags", .ofTexts names)]

def Context.toJson (context : Context) : Json := .obj context.members

end ClientGen
