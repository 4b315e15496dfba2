import ClientGen.Proofs.Module.Imports
import ClientGen.Proofs.Module.Relative
import ClientGen.Proofs.Plan.References

/-!
# Exports of models

A line that imports types leads to the file of a model, and every name on it is exported by a
model of that file. One model exports all names of a line exactly if no enumeration and no object
type that share the file are imported together.
-/

namespace ClientGen
open Text

/-- The identifiers that are exported by a fragment and may be imported from it. -/
def Fragment.exports (f : Fragment) : List String :=
  match f.context with
  | .model context => [schemaIdent context.name, context.typeIdent]
  | .params _ interfaces _ => interfaces.map (·.name)
  | .service group interfaces _ => group.endpoints.map (·.name) ++ interfaces.map (·.name)
  | .calls group _ _ =>
    if f.kind = .thunks then group.endpoints.map Endpoint.thunkName
    else group.endpoints.map fun endpoint => "use" ++ endpoint.exportName
  | _ => []

/-- A line of a fragment leads to a fragment that exports all of its names. -/
def Linked (built : List Fragment) (f : Fragment) (line : ImportLine) : Prop :=
  ∃ g ∈ built, Files.importedFile? f.target line.path = some g.target ∧
    ∀ name ∈ line.names, name ∈ g.exports

/-- A name on a line of a fragment is exported by a fragment that the line leads to. -/
def NameLinked (built : List Fragment) (f : Fragment) (path name : String) : Prop :=
  ∃ g ∈ built, Files.importedFile? f.target path = some g.target ∧ name ∈ g.exports

/-- Some references name an enumeration and a model that share a file. -/
def Plan.Mixes (planned : Plan) (references : List Reference) : Prop :=
  ∃ enumeration model, (enumeration, .enum) ∈ references ∧ (model, .model) ∈ references ∧
    planned.domains.typeDomain enumeration = planned.domains.typeDomain model ∧
    identifier enumeration = identifier model

/-- No module of a group imports an enumeration and a model that share a file. -/
def Plan.ImportsApart (planned : Plan) (config : Config) (group : PlannedGroup) : Prop :=
  (config.isEnabled .services → ¬ planned.Mixes (group.responseReferences ++
    if config.isEnabled .params then [] else group.parameterReferences)) ∧
  (config.isEnabled .params → ¬ planned.Mixes group.parameterReferences)

theorem Plan.Mixes.mono {planned : Plan} {references more : List Reference}
    (hsub : ∀ reference ∈ references, reference ∈ more) (h : planned.Mixes references) :
    planned.Mixes more := by
  obtain ⟨enumeration, model, henum, hmodel, hsame⟩ := h
  exact ⟨enumeration, model, hsub _ henum, hsub _ hmodel, hsame⟩

theorem enum_iff_of_not_mixes {planned : Plan} {references : List Reference}
    (h : ¬ planned.Mixes references) {first second : Reference} (hfirst : first ∈ references)
    (hsecond : second ∈ references) (hresolved : first.2 ≠ .unresolved)
    (hresolved' : second.2 ≠ .unresolved)
    (hsame : planned.domains.typeDomain first.1 = planned.domains.typeDomain second.1 ∧
      identifier first.1 = identifier second.1) : first.2 = .enum ↔ second.2 = .enum := by
  obtain ⟨name, target⟩ := first
  obtain ⟨name', target'⟩ := second
  cases target with
  | model =>
    cases target' with
    | model => simp
    | enum => exact absurd ⟨name', name, hsecond, hfirst, hsame.1.symm, hsame.2.symm⟩ h
    | unresolved => exact absurd rfl hresolved'
  | enum =>
    cases target' with
    | model => exact absurd ⟨name, name', hfirst, hsecond, hsame⟩ h
    | enum => simp
    | unresolved => exact absurd rfl hresolved'
  | unresolved => exact absurd rfl hresolved

theorem Linked.name {built : List Fragment} {f : Fragment} {line : ImportLine}
    (h : Linked built f line) {name : String} (hname : name ∈ line.names) :
    NameLinked built f line.path name := by
  obtain ⟨g, hg, htarget, hexports⟩ := h
  exact ⟨g, hg, htarget, hexports name hname⟩

theorem serializerIdent_ne_identifier (name : String) :
    serializerIdent name ≠ identifier name := by
  intro hsame
  have hlength := congrArg String.length hsame
  have hserializer : "Serializer".length = 10 := rfl
  rw [serializerIdent, String.length_append, String.length_append] at hlength
  omega

theorem schemaIdent_ne_identifier (name : String) : schemaIdent name ≠ identifier name := by
  intro hsame
  have hlength := congrArg String.length hsame
  have hschema : "Schema".length = 6 := rfl
  rw [schemaIdent, String.length_append] at hlength
  omega

theorem schemaIdent_ne_serializerIdent (name : String) :
    schemaIdent name ≠ serializerIdent name := by
  intro hsame
  have hlength := congrArg String.length hsame
  have hschema : "Schema".length = 6 := rfl
  have hserializer : "Serializer".length = 10 := rfl
  rw [schemaIdent, serializerIdent, String.length_append, String.length_append,
    String.length_append] at hlength
  omega

theorem modelContext_typeIdent (planned : Plan) (links : Linking) (domain : String)
    (type : DeclaredType) :
    (modelContext planned links domain type).typeIdent =
      if type.isEnum then identifier type.name else serializerIdent type.name := by
  unfold modelContext DeclaredType.isEnum
  cases type.kind <;> rfl

theorem modelContext_imports (planned : Plan) (links : Linking) (domain : String)
    (type : DeclaredType) :
    (modelContext planned links domain type).imports =
      importLines (links.resolve (.model domain) .validator
        (type.nested.map (nestedReference planned.catalog.scope))) := by
  unfold modelContext
  cases type.kind <;> rfl

theorem modelContext_name (planned : Plan) (links : Linking) (domain : String)
    (type : DeclaredType) : (modelContext planned links domain type).name = type.name := by
  unfold modelContext
  cases type.kind <;> rfl

theorem exports_modelFragment (planned : Plan) (links : Linking) (type : DeclaredType) :
    (modelFragment planned links type).exports =
      [schemaIdent type.name,
        if type.isEnum then identifier type.name else serializerIdent type.name] := by
  show [schemaIdent (modelContext ..).name, (modelContext ..).typeIdent] = _
  rw [modelContext_name, modelContext_typeIdent]

theorem ident_mem_exports {planned : Plan} {links : Linking} {type : DeclaredType}
    {binding : Binding} {reference : Reference} {name : String}
    (hname : identifier type.name = identifier reference.1)
    (hkind : binding = .type → (type.isEnum = true ↔ reference.2 = .enum))
    (h : binding.ident? reference = some name) :
    name ∈ (modelFragment planned links type).exports := by
  rw [exports_modelFragment, List.mem_cons, List.mem_singleton]
  obtain ⟨other, target⟩ := reference
  cases binding with
  | validator =>
    simp only [Binding.ident?] at h
    split at h
    · cases h
    · injection h with h
      exact .inl (by rw [← h, schemaIdent, schemaIdent, hname])
  | type =>
    have henum := hkind rfl
    cases target with
    | model =>
      injection h with h
      have hfalse : type.isEnum = false := by simpa using henum
      exact .inr (by simp [hfalse, ← h, serializerIdent, hname])
    | enum =>
      injection h with h
      have htrue : type.isEnum = true := henum.2 rfl
      exact .inr (by simp [htrue, ← h, hname])
    | unresolved => cases h

theorem not_exports_both {planned : Plan} {links : Linking} {type : DeclaredType}
    (hident : identifier type.name ∈ (modelFragment planned links type).exports)
    (hserializer : serializerIdent type.name ∈ (modelFragment planned links type).exports) :
    False := by
  rw [exports_modelFragment, List.mem_cons, List.mem_singleton] at hident hserializer
  have hident := hident.resolve_left (schemaIdent_ne_identifier _).symm
  have hserializer := hserializer.resolve_left (schemaIdent_ne_serializerIdent _).symm
  exact serializerIdent_ne_identifier _ (hserializer.trans hident.symm)

theorem linking_relative {planned : Plan} {config : Config} (h : config.aliasImports = false) :
    (linking planned config).aliasRoot? = none := by
  simp [linking, Config.aliasRoot?, h]

theorem exists_type_of_inScope {document : Json} {config : Config} {planned : Plan}
    (hplan : plan document config = .ok planned) {reference : Reference}
    (hreference : InScope planned.catalog.scope reference) :
    ∃ type ∈ planned.types, type.name = reference.1 ∧
      (type.isEnum = true ↔ reference.2 = .enum) := by
  obtain ⟨htarget, hresolved⟩ := hreference
  rw [htarget, plan_scope hplan] at hresolved
  obtain ⟨type, htype, hname, henum⟩ := exists_type_of_target hresolved
  refine ⟨type, ?_, hname, ?_⟩
  · rw [Plan.types, plan_catalog hplan]
    exact htype
  · rw [henum, htarget, plan_scope hplan]

/-- A run whose modules name each other by relative paths, with every model in the folder of a
domain. -/
structure RelativeRun (document : Json) (config : Config) (planned : Plan) : Prop where
  of_plan : plan document config = .ok planned
  models : config.isEnabled .models
  relative : config.aliasImports = false
  domains : ∀ type ∈ planned.types, planned.domains.typeDomain type.name ≠ ""

namespace RelativeRun

variable {document : Json} {config : Config} {planned : Plan}

theorem exists_modelFragment (run : RelativeRun document config planned) {reference : Reference}
    (hreference : InScope planned.catalog.scope reference) :
    ∃ type ∈ planned.types, type.name = reference.1 ∧
      (type.isEnum = true ↔ reference.2 = .enum) ∧
      modelFragment planned (linking planned config) type ∈ fragments planned config := by
  obtain ⟨type, htype, hname, henum⟩ := exists_type_of_inScope run.of_plan hreference
  exact ⟨type, htype, hname, henum,
    mem_fragments.2 ⟨.models, run.models, List.mem_map_of_mem htype⟩⟩

theorem domain_ne_empty (run : RelativeRun document config planned) {reference : Reference}
    (hreference : InScope planned.catalog.scope reference) :
    planned.domains.typeDomain reference.1 ≠ "" := by
  obtain ⟨type, htype, hname, _⟩ := run.exists_modelFragment hreference
  rw [← hname]
  exact run.domains type htype

/-- The module of a referenced type leads to the file of its model. -/
theorem importedFile?_reference (run : RelativeRun document config planned) {origin : Origin}
    {importer : String} (horigin : origin.Holds importer) {reference : Reference}
    (hreference : InScope planned.catalog.scope reference) :
    Files.importedFile? importer (modelModule origin (planned.domains.typeDomain reference.1)
        reference.1 (linking planned config).aliasRoot?) =
      some (modelFile (planned.domains.typeDomain reference.1) reference.1) := by
  rw [linking_relative run.relative]
  exact importedFile?_modelModule horigin (isTag_typeDomain run.of_plan _)
    (run.domain_ne_empty hreference) _

theorem same_file_of_path_eq (run : RelativeRun document config planned) {origin : Origin}
    {importer : String} (horigin : origin.Holds importer) {first second : Reference}
    (hfirst : InScope planned.catalog.scope first)
    (hsecond : InScope planned.catalog.scope second)
    (hpath : modelModule origin (planned.domains.typeDomain first.1) first.1
        (linking planned config).aliasRoot? =
      modelModule origin (planned.domains.typeDomain second.1) second.1
        (linking planned config).aliasRoot?) :
    planned.domains.typeDomain first.1 = planned.domains.typeDomain second.1 ∧
      identifier first.1 = identifier second.1 := by
  have hfile := run.importedFile?_reference horigin hfirst
  rw [hpath, run.importedFile?_reference horigin hsecond] at hfile
  have hsame := (modelFile_eq_iff (isTag_typeDomain run.of_plan _)
    (isTag_typeDomain run.of_plan _) _ _).1 (Option.some.inj hfile)
  exact ⟨(Prod.mk.inj hsame).1.symm, (Prod.mk.inj hsame).2.symm⟩

section
variable {origin : Origin} {f : Fragment} {references : List Reference}

theorem exists_reference_of_mem_names {binding : Binding} {line : ImportLine}
    (hline : line ∈ importLines
      ((linking planned config).resolve origin binding references)) {name : String}
    (hname : name ∈ line.names) :
    ∃ reference ∈ references, binding.ident? reference = some name ∧
      line.path = modelModule origin (planned.domains.typeDomain reference.1) reference.1
        (linking planned config).aliasRoot? := by
  have hmem := (mem_names_of_mem_importLines hline).1 hname
  obtain ⟨reference, hreference, himport⟩ := mem_resolve.1 hmem
  obtain ⟨hident, hpath⟩ := import?_eq_some.1 himport
  exact ⟨reference, hreference, hident, hpath⟩

theorem mem_resolve_of_mem {binding : Binding} {reference : Reference} {name : String}
    (h : reference ∈ references) (hident : binding.ident? reference = some name) :
    ⟨name, modelModule origin (planned.domains.typeDomain reference.1) reference.1
      (linking planned config).aliasRoot?⟩ ∈
      (linking planned config).resolve origin binding references :=
  mem_resolve.2 ⟨reference, h, import?_eq_some.2 ⟨hident, rfl⟩⟩

theorem nameLinked_resolve (run : RelativeRun document config planned)
    (horigin : origin.Holds f.target)
    (hscope : ∀ reference ∈ references, InScope planned.catalog.scope reference)
    {binding : Binding} {line : ImportLine}
    (hline : line ∈ importLines
      ((linking planned config).resolve origin binding references)) {name : String}
    (hname : name ∈ line.names) :
    NameLinked (fragments planned config) f line.path name := by
  obtain ⟨reference, hreference, hident, hpath⟩ := exists_reference_of_mem_names hline hname
  obtain ⟨type, _, htype, henum, hfragment⟩ :=
    run.exists_modelFragment (hscope reference hreference)
  refine ⟨_, hfragment, ?_, ?_⟩
  · rw [hpath, run.importedFile?_reference horigin (hscope reference hreference), ← htype,
      target_modelFragment]
  · exact ident_mem_exports (by rw [htype]) (fun _ => henum) hident

theorem linked_of_same_kind (run : RelativeRun document config planned)
    (horigin : origin.Holds f.target)
    (hscope : ∀ reference ∈ references, InScope planned.catalog.scope reference)
    {binding : Binding} {line : ImportLine}
    (hline : line ∈ importLines
      ((linking planned config).resolve origin binding references))
    (hkind : binding = .type → ¬ planned.Mixes references) :
    Linked (fragments planned config) f line := by
  obtain ⟨imported, himported, hpath⟩ := path_of_mem_importLines hline
  obtain ⟨first, hfirst, himport⟩ := mem_resolve.1 himported
  have hfirstPath : imported.path = modelModule origin (planned.domains.typeDomain first.1)
      first.1 (linking planned config).aliasRoot? := (import?_eq_some.1 himport).2
  obtain ⟨type, _, htype, henum, hfragment⟩ := run.exists_modelFragment (hscope first hfirst)
  refine ⟨_, hfragment, ?_, ?_⟩
  · rw [← hpath, hfirstPath, run.importedFile?_reference horigin (hscope first hfirst), ← htype,
      target_modelFragment]
  · intro name hname
    obtain ⟨reference, hreference, hident, hreferencePath⟩ :=
      exists_reference_of_mem_names hline hname
    have hsame := run.same_file_of_path_eq horigin (hscope first hfirst)
      (hscope reference hreference) (by rw [← hfirstPath, hpath, hreferencePath])
    refine ident_mem_exports (by rw [htype, hsame.2]) (fun hbinding => ?_) hident
    rw [henum]
    exact enum_iff_of_not_mixes (hkind hbinding) hfirst hreference (hscope first hfirst).2
      (hscope reference hreference).2 hsame

theorem exists_type_of_target_eq (run : RelativeRun document config planned) {g : Fragment}
    (hg : g ∈ fragments planned config) {reference : Reference}
    (hreference : InScope planned.catalog.scope reference)
    (htarget : g.target = modelFile (planned.domains.typeDomain reference.1) reference.1) :
    ∃ type ∈ planned.types, g = modelFragment planned (linking planned config) type ∧
      identifier type.name = identifier reference.1 := by
  obtain ⟨owner, howner, hname, _⟩ := run.exists_modelFragment hreference
  obtain ⟨kind, _, hg⟩ := mem_fragments.1 hg
  have hmodel : modelFragment planned (linking planned config) owner ∈
      fragmentsOf planned config .models := List.mem_map_of_mem howner
  have hsame : g.target = (modelFragment planned (linking planned config) owner).target := by
    rw [htarget, ← hname, target_modelFragment]
  have hkind := kind_eq_of_target_eq (isTag_typeDomain run.of_plan) hg hmodel hsame
  rw [hkind] at hg
  obtain ⟨type, htype, rfl⟩ := List.mem_map.1 hg
  rw [target_modelFragment] at htarget
  have hfile := (modelFile_eq_iff (isTag_typeDomain run.of_plan _)
    (isTag_typeDomain run.of_plan _) _ _).1 htarget
  exact ⟨type, htype, rfl, (Prod.mk.inj hfile).2⟩

theorem not_mixes_of_linked (run : RelativeRun document config planned)
    (horigin : origin.Holds f.target)
    (hscope : ∀ reference ∈ references, InScope planned.catalog.scope reference)
    (h : ∀ line ∈ importLines ((linking planned config).resolve origin .type references),
      Linked (fragments planned config) f line) : ¬ planned.Mixes references := by
  rintro ⟨enumeration, model, henum, hmodel, hdomain, hident⟩
  have hpath : modelModule origin (planned.domains.typeDomain model) model
      (linking planned config).aliasRoot? =
      modelModule origin (planned.domains.typeDomain enumeration) enumeration
        (linking planned config).aliasRoot? := by
    unfold modelModule
    rw [hdomain, hident]
  have hfirst : ⟨identifier enumeration, modelModule origin
      (planned.domains.typeDomain enumeration) enumeration (linking planned config).aliasRoot?⟩ ∈
      (linking planned config).resolve origin .type references := mem_resolve_of_mem henum rfl
  have hsecond : ⟨serializerIdent model, modelModule origin
      (planned.domains.typeDomain model) model (linking planned config).aliasRoot?⟩ ∈
      (linking planned config).resolve origin .type references := mem_resolve_of_mem hmodel rfl
  obtain ⟨line, hline, hlinePath, hfirstName⟩ := exists_line_of_mem hfirst
  have hsecondName : serializerIdent model ∈ line.names := by
    rw [mem_names_of_mem_importLines hline, hlinePath]
    rw [hpath] at hsecond
    exact hsecond
  obtain ⟨g, hg, htarget, hexports⟩ := h line hline
  have hfile := run.importedFile?_reference horigin (hscope _ henum)
  rw [hlinePath] at htarget
  have hgTarget := Option.some.inj (htarget.symm.trans hfile)
  obtain ⟨type, _, rfl, hname⟩ := run.exists_type_of_target_eq hg (hscope _ henum) hgTarget
  have hboth := hexports _ hsecondName
  rw [serializerIdent, ← hident, ← hname] at hboth
  have hone := hexports _ hfirstName
  rw [← hname] at hone
  exact not_exports_both hone hboth

end

end RelativeRun

end ClientGen
