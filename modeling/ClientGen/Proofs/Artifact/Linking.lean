import ClientGen.Proofs.Artifact.Exports
import ClientGen.Proofs.Config.Needs

/-!
# Imports link

Every line of imports leads to the file of a fragment of the same run, and every name on it is
exported by a fragment of that file. One fragment exports all names of a line unless an
enumeration and a model that share a file are imported together.
-/

namespace ClientGen
open Text

/-! ### Places of modules -/

theorem pieces_servicesFile (group : PlannedGroup) :
    Files.pieces (servicesModule group ++ ".ts") =
      ["services", group.fileStem, group.fileStem ++ ".ts"] := by
  rw [servicesFile_eq]
  exact pieces_groupFile (by decide) (slash_not_mem_fileStem group.key) (by decide)

theorem pieces_thunksFile (group : PlannedGroup) :
    Files.pieces (thunksModule group ++ ".ts") =
      ["thunks", group.fileStem, group.fileStem ++ ".thunk.ts"] := by
  rw [thunksFile_eq]
  exact pieces_groupFile (by decide) (slash_not_mem_fileStem group.key) (by decide)

theorem holds_modelFile {own : String} (htag : IsTag own) (hne : own ≠ "") (name : String) :
    (Origin.model own).Holds (modelFile own name) :=
  ⟨identifier name ++ ".ts", by simp [pieces_modelFile htag, hne]⟩

theorem holds_servicesFile (group : PlannedGroup) :
    (Origin.artifact nestedDepth).Holds (servicesModule group ++ ".ts") :=
  ⟨by decide, by rw [pieces_servicesFile]; rfl⟩

theorem holds_thunksFile (group : PlannedGroup) :
    (Origin.artifact nestedDepth).Holds (thunksModule group ++ ".ts") :=
  ⟨by decide, by rw [pieces_thunksFile]; rfl⟩

theorem holds_flat {folder file : String} (hfolder : '/' ∉ folder.toList)
    (hfile : '/' ∉ file.toList) :
    (Origin.artifact flatDepth).Holds (folder ++ "/" ++ file) :=
  ⟨by decide, by rw [Files.pieces_below hfolder, Files.pieces_plain hfile]; rfl⟩

theorem holds_paramsFile (group : PlannedGroup) :
    (Origin.artifact flatDepth).Holds (paramsModule group ++ ".ts") := by
  have hfile : '/' ∉ (group.fileStem ++ ".params.ts").toList := by
    rw [String.toList_append, List.mem_append, not_or]
    exact ⟨slash_not_mem_fileStem group.key, by decide⟩
  have hmodule : paramsModule group ++ ".ts" =
      "params" ++ "/" ++ (group.fileStem ++ ".params.ts") := by
    simp [paramsModule, ← String.toList_inj]
  rw [hmodule]
  exact holds_flat (by decide) hfile

theorem holds_hooksFile (config : Config) (links : Linking) (group : PlannedGroup) :
    (Origin.artifact flatDepth).Holds (hooksFragment config links group).target := by
  have hfile : '/' ∉ (group.fileStem ++ ".hooks.ts").toList := by
    rw [String.toList_append, List.mem_append, not_or]
    exact ⟨slash_not_mem_fileStem group.key, by decide⟩
  have htarget : (hooksFragment config links group).target =
      "hooks" ++ "/" ++ (group.fileStem ++ ".hooks.ts") := by
    simp [hooksFragment, ← String.toList_inj]
  rw [htarget]
  exact holds_flat (by decide) hfile

theorem holds_sliceFile {planned : Plan} {slice : Slice} (hslice : slice ∈ planned.slices)
    (links : Linking) : (Origin.artifact flatDepth).Holds (sliceFragment links slice).target := by
  obtain ⟨type, _, _, rfl⟩ := exists_type_of_mem_slices hslice
  have hfile : '/' ∉ (identifier (formName type.name) ++ "Slice.ts").toList :=
    ((plainName_identifier _).append (by decide)).noSlash
  have htarget : (sliceFragment links ⟨identifier (formName type.name), type.name⟩).target =
      "slices" ++ "/" ++ (identifier (formName type.name) ++ "Slice.ts") := by
    simp [sliceFragment, Slice.file, ← String.toList_inj]
  rw [htarget]
  exact holds_flat (by decide) hfile

theorem plain_servicesModule {group : PlannedGroup} (h : group.key ≠ "") :
    ∀ piece ∈ Files.pieces (servicesModule group), PlainName piece := by
  have hfolder : PlainName "services" := by decide
  have hstem : PlainName group.fileStem := plainName_fileStem h
  have hmodule : servicesModule group =
      "services" ++ "/" ++ (group.fileStem ++ "/" ++ (group.fileStem ++ "")) := by
    simp [servicesModule, ← String.toList_inj]
  rw [hmodule, pieces_groupFile (by decide) hstem.noSlash (by decide)]
  simp [hfolder, hstem]

theorem plain_thunksModule {group : PlannedGroup} (h : group.key ≠ "") :
    ∀ piece ∈ Files.pieces (thunksModule group), PlainName piece := by
  have hfolder : PlainName "thunks" := by decide
  have hstem : PlainName group.fileStem := plainName_fileStem h
  have hfile : PlainName (group.fileStem ++ ".thunk") := hstem.append (by decide)
  have hmodule : thunksModule group =
      "thunks" ++ "/" ++ (group.fileStem ++ "/" ++ (group.fileStem ++ ".thunk")) := by
    simp [thunksModule, ← String.toList_inj]
  rw [hmodule, pieces_groupFile (by decide) hstem.noSlash (by decide)]
  simp [hfolder, hstem, hfile]

theorem plain_paramsModule {group : PlannedGroup} (h : group.key ≠ "") :
    ∀ piece ∈ Files.pieces (paramsModule group), PlainName piece := by
  have hfolder : PlainName "params" := by decide
  have hfile : PlainName (group.fileStem ++ ".params") :=
    (plainName_fileStem h).append (by decide)
  have hmodule : paramsModule group = "params" ++ "/" ++ (group.fileStem ++ ".params") := by
    simp [paramsModule, ← String.toList_inj]
  rw [hmodule, Files.pieces_below (by decide), Files.pieces_plain hfile.noSlash]
  simp [hfolder, hfile]

/-! ### Lines between the modules of a group -/

section
variable {config : Config} {planned : Plan} {group : PlannedGroup} {depth : Nat} {f : Fragment}
  {line : ImportLine}

theorem importedFile?_artifact (halias : config.aliasImports = false)
    (hplace : (Origin.artifact depth).Holds f.target) {module : String}
    (hplain : ∀ piece ∈ Files.pieces module, PlainName piece) :
    Files.importedFile? f.target ((linking planned config).artifact depth module) =
      some (module ++ ".ts") := by
  rw [Linking.artifact, linking_relative halias]
  exact Files.importedFile?_upwards hplace.1 hplace.2 hplain

theorem linked_of_importLine? (halias : config.aliasImports = false)
    (hplace : (Origin.artifact depth).Holds f.target) {module : String}
    (hplain : ∀ piece ∈ Files.pieces module, PlainName piece) {names : List String}
    (hline : importLine? ((linking planned config).artifact depth module) names = some line)
    {g : Fragment} (hg : g ∈ fragments planned config) (htarget : g.target = module ++ ".ts")
    (hexports : ∀ name ∈ names, name ∈ g.exports) : Linked (fragments planned config) f line := by
  obtain ⟨hpath, _, hnames⟩ := importLine?_eq_some hline
  refine ⟨g, hg, ?_, fun name hname => hexports name ((hnames name).1 hname)⟩
  rw [hpath, htarget]
  exact importedFile?_artifact halias hplace hplain

theorem declaration_names (interfaces : List Interface) :
    (interfaces.map Interface.declaration).map (·.name) = interfaces.map (·.name) := by
  simp [List.map_map, Function.comp_def, Interface.declaration]

theorem exports_serviceFragment (links : Linking) :
    (serviceFragment config links group).exports =
      group.endpoints.map (·.name) ++
        if config.isEnabled .params then [] else group.interfaces.map (·.name) := by
  cases hparams : config.isEnabled .params with
  | true => simp [serviceFragment, serviceContext, Fragment.exports, hparams]
  | false =>
    simp [serviceFragment, serviceContext, Fragment.exports, hparams, Function.comp_def,
      Interface.declaration]

theorem linked_interfacesLine (halias : config.aliasImports = false)
    (hneed : config.isEnabled .params = false → config.isEnabled .services)
    (hgroup : group ∈ planned.groups) (hkey : group.key ≠ "")
    (hplace : (Origin.artifact depth).Holds f.target)
    (hline : interfacesLine? config (linking planned config) depth group = some line) :
    Linked (fragments planned config) f line := by
  unfold interfacesLine? interfacesModule at hline
  cases hparams : config.isEnabled .params with
  | true =>
    rw [hparams, if_pos rfl] at hline
    have hne : group.interfaces ≠ [] := by
      intro hnil
      exact (importLine?_eq_some hline).2.1 (by rw [hnil]; rfl)
    have hg : paramsFragment (linking planned config) group ∈ fragments planned config :=
      mem_fragments.2 ⟨.params, hparams, List.mem_map_of_mem
        (List.mem_filter.2 ⟨hgroup, by simpa using hne⟩)⟩
    refine linked_of_importLine? halias hplace (plain_paramsModule hkey) hline hg rfl ?_
    intro name hname
    rw [← declaration_names] at hname
    exact hname
  | false =>
    rw [hparams, if_neg Bool.false_ne_true] at hline
    have hg : serviceFragment config (linking planned config) group ∈ fragments planned config :=
      mem_fragments.2 ⟨.services, hneed hparams, List.mem_map_of_mem hgroup⟩
    refine linked_of_importLine? halias hplace (plain_servicesModule hkey) hline hg rfl ?_
    intro name hname
    rw [exports_serviceFragment, hparams]
    exact List.mem_append_right _ hname

theorem linked_servicesLine (halias : config.aliasImports = false)
    (hservices : config.isEnabled .services) (hgroup : group ∈ planned.groups)
    (hkey : group.key ≠ "") (hplace : (Origin.artifact depth).Holds f.target)
    (hline : importLine? ((linking planned config).artifact depth (servicesModule group))
      (group.endpoints.map (·.name)) = some line) :
    Linked (fragments planned config) f line := by
  have hg : serviceFragment config (linking planned config) group ∈ fragments planned config :=
    mem_fragments.2 ⟨.services, hservices, List.mem_map_of_mem hgroup⟩
  refine linked_of_importLine? halias hplace (plain_servicesModule hkey) hline hg rfl ?_
  intro name hname
  rw [exports_serviceFragment]
  exact List.mem_append_left _ hname

theorem linked_thunksLine (halias : config.aliasImports = false)
    (hthunks : config.isEnabled .thunks) (hgroup : group ∈ planned.groups)
    (hkey : group.key ≠ "") (hplace : (Origin.artifact depth).Holds f.target)
    (hline : importLine? ((linking planned config).artifact depth (thunksModule group))
      (group.endpoints.map Endpoint.thunkName) = some line) :
    Linked (fragments planned config) f line := by
  have hg : thunkFragment config (linking planned config) group ∈ fragments planned config :=
    mem_fragments.2 ⟨.thunks, hthunks, List.mem_map_of_mem hgroup⟩
  exact linked_of_importLine? halias hplace (plain_thunksModule hkey) hline hg rfl
    fun name hname => hname

end

/-! ### Imports of a fragment -/

/-- The imports of a fragment: lines for some references, and lines that are linked anyway. -/
structure ImportSource (planned : Plan) (config : Config) (f : Fragment) where
  origin : Origin
  binding : Binding
  references : List Reference
  rest : List ImportLine
  place : origin.Holds f.target
  scope : ∀ reference ∈ references, InScope planned.catalog.scope reference
  imports : f.context.imports =
    importLines ((linking planned config).resolve origin binding references) ++ rest
  linked : ∀ line ∈ rest, Linked (fragments planned config) f line
  apart : binding = .type → (∀ group ∈ planned.groups, planned.ImportsApart config group) →
    ¬ planned.Mixes references

section
variable {document : Json} {config : Config} {planned : Plan}

theorem inScope_of_mem_groups (hplan : plan document config = .ok planned) {group : PlannedGroup}
    (hgroup : group ∈ planned.groups) {reference : Reference}
    (h : reference ∈ group.responseReferences ∨ reference ∈ group.parameterReferences) :
    InScope planned.catalog.scope reference := by
  rw [plan_groups hplan] at hgroup
  obtain ⟨source, _, rfl⟩ := List.mem_map.1 hgroup
  rcases h with h | h
  · exact inScope_of_mem_responseReferences h
  · exact inScope_of_mem_parameterReferences h

theorem inScope_nestedReference {scope : Scope} {name : String}
    (h : scope.target name ≠ .unresolved) :
    InScope scope (nestedReference scope name) := by
  unfold InScope nestedReference
  unfold Scope.target at h ⊢
  split
  · simp
  · split
    · simp
    · simp_all

theorem inScope_of_mem_nested (hplan : plan document config = .ok planned) {type : DeclaredType}
    (htype : type ∈ planned.types) {reference : Reference}
    (h : reference ∈ type.nested.map (nestedReference planned.catalog.scope)) :
    InScope planned.catalog.scope reference := by
  obtain ⟨nested, hnested, rfl⟩ := List.mem_map.1 h
  obtain ⟨name, raw, _, rfl⟩ := exists_source_of_mem_types hplan htype
  exact inScope_nestedReference (target_of_mem_nested hnested)

theorem inScope_of_isObject (hplan : plan document config = .ok planned) {type : DeclaredType}
    (htype : type ∈ planned.types) (hobject : type.isObject) :
    InScope planned.catalog.scope (type.name, .model) := by
  obtain ⟨name, raw, hentry, rfl⟩ := exists_source_of_mem_types hplan htype
  have henum : isEnumSchema raw = false := by
    rw [← isEnum_compileDeclaration planned.catalog.scope name raw]
    unfold DeclaredType.isObject at hobject
    unfold DeclaredType.isEnum
    split at hobject
    · simp_all
    · exact absurd hobject Bool.false_ne_true
  refine ⟨?_, by simp⟩
  rw [compileDeclaration_name, plan_scope hplan, target_of_mem hentry, henum]
  rfl

def RelativeRun.modelSource (run : RelativeRun document config planned) {type : DeclaredType}
    (htype : type ∈ planned.types) :
    ImportSource planned config (modelFragment planned (linking planned config) type) where
  origin := .model (planned.domains.typeDomain type.name)
  binding := .validator
  references := type.nested.map (nestedReference planned.catalog.scope)
  rest := []
  place := by
    rw [target_modelFragment]
    exact holds_modelFile (isTag_typeDomain run.of_plan _) (run.domains type htype) type.name
  scope := fun _ h => inScope_of_mem_nested run.of_plan htype h
  imports := by
    rw [List.append_nil]
    exact modelContext_imports ..
  linked := List.forall_mem_nil _
  apart := nofun

def RelativeRun.paramsSource (run : RelativeRun document config planned) {group : PlannedGroup}
    (hgroup : group ∈ planned.groups) (hparams : config.isEnabled .params) :
    ImportSource planned config (paramsFragment (linking planned config) group) where
  origin := .artifact flatDepth
  binding := .type
  references := group.parameterReferences
  rest := []
  place := holds_paramsFile group
  scope := fun _ h => inScope_of_mem_groups run.of_plan hgroup (.inr h)
  imports := (List.append_nil _).symm
  linked := List.forall_mem_nil _
  apart := fun _ hapart => (hapart group hgroup).2 hparams

def RelativeRun.serviceSource (run : RelativeRun document config planned) {group : PlannedGroup}
    (hgroup : group ∈ planned.groups) (hservices : config.isEnabled .services) :
    ImportSource planned config (serviceFragment config (linking planned config) group) where
  origin := .artifact nestedDepth
  binding := .type
  references := group.responseReferences ++
    if config.isEnabled .params then [] else group.parameterReferences
  rest := if config.isEnabled .params then
    (interfacesLine? config (linking planned config) nestedDepth group).toList else []
  place := holds_servicesFile group
  scope := by
    intro reference h
    rcases List.mem_append.1 h with h | h
    · exact inScope_of_mem_groups run.of_plan hgroup (.inl h)
    · split at h
      · exact absurd h List.not_mem_nil
      · exact inScope_of_mem_groups run.of_plan hgroup (.inr h)
  imports := by
    cases hparams : config.isEnabled .params with
    | true => simp [serviceFragment, serviceContext, hparams, Context.imports, responseImports]
    | false => simp [serviceFragment, serviceContext, hparams, Context.imports]
  linked := by
    intro line h
    split at h
    · exact linked_interfacesLine run.relative (fun _ => hservices) hgroup
        (plan_key_ne_empty run.of_plan hgroup) (holds_servicesFile group) (Option.mem_toList.1 h)
    · exact absurd h List.not_mem_nil
  apart := fun _ hapart => (hapart group hgroup).1 hservices

def RelativeRun.callsSource (run : RelativeRun document config planned) {group : PlannedGroup}
    (hgroup : group ∈ planned.groups) (hservices : config.isEnabled .services) {f : Fragment}
    {depth : Nat} {below : Option ImportLine}
    (hcontext : f.context = callsContext config (linking planned config) depth below group)
    (hplace : (Origin.artifact depth).Holds f.target)
    (hbelow : ∀ line, below = some line → Linked (fragments planned config) f line) :
    ImportSource planned config f where
  origin := .artifact depth
  binding := .type
  references := group.responseReferences
  rest := (interfacesLine? config (linking planned config) depth group).toList ++ below.toList
  place := hplace
  scope := fun _ h => inScope_of_mem_groups run.of_plan hgroup (.inl h)
  imports := by
    rw [hcontext, ← List.append_assoc]
    rfl
  linked := by
    intro line h
    rcases List.mem_append.1 h with h | h
    · exact linked_interfacesLine run.relative (fun _ => hservices) hgroup
        (plan_key_ne_empty run.of_plan hgroup) hplace (Option.mem_toList.1 h)
    · exact hbelow line (Option.mem_toList.1 h)
  apart := fun _ hapart hmixes =>
    (hapart group hgroup).1 hservices (hmixes.mono fun _ h => List.mem_append_left _ h)

def RelativeRun.sliceSource (run : RelativeRun document config planned) {slice : Slice}
    (hslice : slice ∈ planned.slices) :
    ImportSource planned config (sliceFragment (linking planned config) slice) where
  origin := .artifact flatDepth
  binding := .type
  references := [(slice.model, .model)]
  rest := []
  place := holds_sliceFile hslice _
  scope := by
    intro reference h
    rw [List.mem_singleton.1 h]
    obtain ⟨type, htype, hobject, rfl⟩ := exists_type_of_mem_slices hslice
    exact inScope_of_isObject run.of_plan htype hobject
  imports := (List.append_nil _).symm
  linked := List.forall_mem_nil _
  apart := by
    rintro _ _ ⟨enumeration, _, henum, _⟩
    exact absurd (List.mem_singleton.1 henum) (by simp)

def emptySource {f : Fragment} (himports : f.context.imports = [])
    (hplace : (Origin.artifact flatDepth).Holds f.target) : ImportSource planned config f where
  origin := .artifact flatDepth
  binding := .type
  references := []
  rest := []
  place := hplace
  scope := List.forall_mem_nil _
  imports := himports
  linked := List.forall_mem_nil _
  apart := by
    rintro _ _ ⟨_, _, henum, _⟩
    exact absurd henum List.not_mem_nil

theorem RelativeRun.exists_source (run : RelativeRun document config planned)
    (hvalid : config.problem? = none) {f : Fragment} (hf : f ∈ fragments planned config) :
    Nonempty (ImportSource planned config f) := by
  obtain ⟨kind, hkind, hf⟩ := mem_fragments.1 hf
  have hroot : ∀ file : String, '/' ∉ file.toList →
      (Origin.artifact flatDepth).Holds (kind.folder ++ "/" ++ file) :=
    fun file => holds_flat kind.slash_not_mem_folder
  cases kind with
  | models =>
    obtain ⟨type, htype, rfl⟩ := List.mem_map.1 hf
    exact ⟨run.modelSource htype⟩
  | params =>
    obtain ⟨group, hgroup, rfl⟩ := List.mem_map.1 hf
    exact ⟨run.paramsSource (List.mem_filter.1 hgroup).1 hkind⟩
  | services =>
    obtain ⟨group, hgroup, rfl⟩ := List.mem_map.1 hf
    exact ⟨run.serviceSource hgroup hkind⟩
  | thunks =>
    obtain ⟨group, hgroup, rfl⟩ := List.mem_map.1 hf
    have hservices := services_enabled_of_calls hvalid (.inl rfl) hkind
    exact ⟨run.callsSource hgroup hservices rfl (holds_thunksFile group) fun line hline =>
      linked_servicesLine run.relative hservices hgroup (plan_key_ne_empty run.of_plan hgroup)
        (holds_thunksFile group) hline⟩
  | hooks =>
    obtain ⟨group, hgroup, rfl⟩ := List.mem_map.1 hf
    have hservices := services_enabled_of_calls hvalid (.inr rfl) hkind
    have hthunks : config.isEnabled .thunks :=
      needed_enabled hvalid (by simp [Config.needs]) hkind
    have hplace := holds_hooksFile config (linking planned config) group
    exact ⟨run.callsSource hgroup hservices rfl hplace fun line hline =>
      linked_thunksLine run.relative hthunks hgroup (plan_key_ne_empty run.of_plan hgroup)
        hplace hline⟩
  | slices =>
    obtain ⟨slice, hslice, rfl⟩ := List.mem_map.1 hf
    exact ⟨run.sliceSource hslice⟩
  | store =>
    rcases List.mem_cons.1 hf with rfl | hf
    · exact ⟨emptySource rfl (hroot "store.ts" (by decide))⟩
    · rw [List.mem_singleton.1 hf]
      exact ⟨emptySource rfl (hroot "hooks.ts" (by decide))⟩
  | tags =>
    rw [List.mem_singleton.1 hf]
    exact ⟨emptySource rfl (hroot "tags.ts" (by decide))⟩

/-- Every name on a line of a fragment is exported by a fragment that the line leads to. -/
theorem ImportSource.nameLinked (run : RelativeRun document config planned) {f : Fragment}
    (source : ImportSource planned config f) {line : ImportLine}
    (hline : line ∈ f.context.imports) {name : String} (hname : name ∈ line.names) :
    NameLinked (fragments planned config) f line.path name := by
  rw [source.imports] at hline
  rcases List.mem_append.1 hline with hline | hline
  · exact run.nameLinked_resolve source.place source.scope hline hname
  · exact (source.linked line hline).name hname

theorem ImportSource.linked_of_apart (run : RelativeRun document config planned) {f : Fragment}
    (source : ImportSource planned config f)
    (hapart : ∀ group ∈ planned.groups, planned.ImportsApart config group) {line : ImportLine}
    (hline : line ∈ f.context.imports) : Linked (fragments planned config) f line := by
  rw [source.imports] at hline
  rcases List.mem_append.1 hline with hline | hline
  · exact run.linked_of_same_kind source.place source.scope hline fun hbinding =>
      source.apart hbinding hapart
  · exact source.linked line hline

theorem ImportSource.not_mixes (run : RelativeRun document config planned) {f : Fragment}
    (source : ImportSource planned config f) (hbinding : source.binding = .type)
    (h : ∀ line ∈ f.context.imports, Linked (fragments planned config) f line) :
    ¬ planned.Mixes source.references := by
  refine run.not_mixes_of_linked source.place source.scope fun line hline => h line ?_
  rw [source.imports, hbinding]
  exact List.mem_append_left _ hline

theorem RelativeRun.importsApart_of_linked (run : RelativeRun document config planned)
    (h : ∀ f ∈ fragments planned config, ∀ line ∈ f.context.imports,
      Linked (fragments planned config) f line) {group : PlannedGroup}
    (hgroup : group ∈ planned.groups) : planned.ImportsApart config group := by
  constructor
  · intro hservices
    have hmem : serviceFragment config (linking planned config) group ∈
        fragments planned config :=
      mem_fragments.2 ⟨.services, hservices, List.mem_map_of_mem hgroup⟩
    exact (run.serviceSource hgroup hservices).not_mixes run rfl (h _ hmem)
  · intro hparams
    by_cases hinterfaces : group.interfaces = []
    · -- a group without interfaces has no module for them, and no references
      have hnone : group.parameterReferences = [] := by
        simp [PlannedGroup.parameterReferences, hinterfaces, distinctReferences]
      rintro ⟨_, _, henum, _⟩
      rw [hnone] at henum
      exact absurd henum List.not_mem_nil
    · have hmem : paramsFragment (linking planned config) group ∈ fragments planned config :=
        mem_fragments.2 ⟨.params, hparams, List.mem_map_of_mem
          (List.mem_filter.2 ⟨hgroup, by simpa using hinterfaces⟩)⟩
      exact (run.paramsSource hgroup hparams).not_mixes run rfl (h _ hmem)

/-- What a module is told of the rest of the run is so: a store has the slices that are generated,
and hooks use a store that is generated. -/
def Context.Agrees (planned : Plan) (config : Config) : Context → Prop
  | .store forms => forms = if config.isEnabled .slices then planned.slices else []
  | .calls _ _ usesStore => usesStore = config.isEnabled .store
  | _ => True

theorem agrees_fragment {f : Fragment} (hf : f ∈ fragments planned config) :
    f.context.Agrees planned config := by
  obtain ⟨kind, _, hf⟩ := mem_fragments.1 hf
  cases kind with
  | services =>
    obtain ⟨group, _, rfl⟩ := List.mem_map.1 hf
    show (serviceContext config (linking planned config) group).Agrees planned config
    unfold serviceContext
    split <;> trivial
  | store =>
    rcases List.mem_cons.1 hf with rfl | hf
    · rfl
    · rw [List.mem_singleton.1 hf]
      rfl
  | tags =>
    rw [List.mem_singleton.1 hf]
    trivial
  | thunks | hooks =>
    obtain ⟨_, _, rfl⟩ := List.mem_map.1 hf
    rfl
  | _ =>
    obtain ⟨_, _, rfl⟩ := List.mem_map.1 hf
    trivial

theorem exists_slice_of_store {f : Fragment} (hf : f ∈ fragments planned config)
    {forms : List Slice} (hstore : f.context = .store forms) {slice : Slice}
    (hslice : slice ∈ forms) :
    ∃ g ∈ fragments planned config, g.target = "slices/" ++ slice.file ++ ".ts" := by
  have hforms : forms = if config.isEnabled .slices then planned.slices else [] := by
    have hagrees := agrees_fragment hf
    rw [hstore] at hagrees
    exact hagrees
  rw [hforms] at hslice
  split at hslice
  · rename_i hslices
    exact ⟨_, mem_fragments.2 ⟨.slices, hslices, List.mem_map_of_mem hslice⟩, rfl⟩
  · exact absurd hslice List.not_mem_nil

theorem exists_store_of_usesStore {f : Fragment} (hf : f ∈ fragments planned config)
    {group : PlannedGroup} {imports : List ImportLine}
    (hcalls : f.context = .calls group imports true) :
    ∃ g ∈ fragments planned config, g.target = "redux/hooks.ts" := by
  have hstore : true = config.isEnabled .store := by
    have hagrees := agrees_fragment hf
    rw [hcalls] at hagrees
    exact hagrees
  exact ⟨_, mem_fragments.2 ⟨.store, hstore.symm,
    List.mem_cons_of_mem _ (List.mem_singleton_self _)⟩, rfl⟩

end

/-- In a run with relative imports every line leads to a file of the run, and every name on it is
exported there. One fragment exports all names of each line exactly if no module of a group
imports an enumeration and a model that share a file. -/
theorem imports_linked_iff {document : Json} {config : Config} {planned : Plan}
    (run : RelativeRun document config planned) (hvalid : config.problem? = none) :
    ((∀ f ∈ fragments planned config, ∀ line ∈ f.context.imports,
        Linked (fragments planned config) f line) ↔
      ∀ group ∈ planned.groups, planned.ImportsApart config group) ∧
    (∀ f ∈ fragments planned config, ∀ line ∈ f.context.imports, ∀ name ∈ line.names,
      NameLinked (fragments planned config) f line.path name) ∧
    (∀ f ∈ fragments planned config, ∀ forms, f.context = .store forms → ∀ slice ∈ forms,
      ∃ g ∈ fragments planned config, g.target = "slices/" ++ slice.file ++ ".ts") ∧
    ∀ f ∈ fragments planned config, ∀ group imports, f.context = .calls group imports true →
      ∃ g ∈ fragments planned config, g.target = "redux/hooks.ts" := by
  refine ⟨⟨fun h group hgroup => run.importsApart_of_linked h hgroup, ?_⟩, ?_, ?_, ?_⟩
  · intro hapart f hf line hline
    obtain ⟨source⟩ := run.exists_source hvalid hf
    exact source.linked_of_apart run hapart hline
  · intro f hf line hline name hname
    obtain ⟨source⟩ := run.exists_source hvalid hf
    exact source.nameLinked run hline hname
  · intro f hf forms hstore slice hslice
    exact exists_slice_of_store hf hstore hslice
  · intro f hf group imports hcalls
    exact exists_store_of_usesStore hf hcalls

/-- An enumeration and an object type whose names differ in a point only, and a call whose response
is one of them. -/
def sharedFile : Json :=
  .obj [
    ("definitions", .obj [
      ("A.B", .obj [("type", .str "string"), ("enum", .arr [.str "x"])]),
      ("A_B", .obj [("type", .str "object"), ("properties", .obj [])])]),
    ("paths", .obj [("/api/x", .obj [("get", .obj [("responses", .obj [("200", .obj [
      ("schema", .obj [("anyOf", .arr [
        .obj [("$ref", .str "#/definitions/A.B")],
        .obj [("$ref", .str "#/definitions/A_B")]])])])])])])])]

def sharedFilePlan : Plan := planWith [] sharedFile { domainPatterns := [] }

theorem sharedFile_run : RelativeRun sharedFile { domainPatterns := [] } sharedFilePlan :=
  ⟨rfl, by decide, rfl, by decide +kernel⟩

theorem sharedFile_not_apart :
    ¬ ∀ group ∈ sharedFilePlan.groups,
      sharedFilePlan.ImportsApart { domainPatterns := [] } group := by
  have hreferences : sharedFilePlan.groups.any fun group =>
      group.responseReferences = [("A.B", .enum), ("A_B", .model)] := by decide +kernel
  obtain ⟨group, hgroup, hboth⟩ := List.any_eq_true.1 hreferences
  have hboth : group.responseReferences = [("A.B", .enum), ("A_B", .model)] := by simpa using hboth
  intro hapart
  refine (hapart group hgroup).1 (by decide) ⟨"A.B", "A_B", ?_, ?_, ?_, ?_⟩
  · simp [hboth]
  · simp [hboth]
  · decide +kernel
  · decide +kernel

/-- A line may import from one path what no single module exports. -/
theorem sharedFile_not_linked :
    plan sharedFile { domainPatterns := [] } = .ok sharedFilePlan ∧
    ({ domainPatterns := [] } : Config).problem? = none ∧
    (∀ type ∈ sharedFilePlan.types, sharedFilePlan.domains.typeDomain type.name ≠ "") ∧
    ¬ ∀ f ∈ fragments sharedFilePlan { domainPatterns := [] }, ∀ line ∈ f.context.imports,
      Linked (fragments sharedFilePlan { domainPatterns := [] }) f line :=
  ⟨rfl, by decide, sharedFile_run.domains, fun h => sharedFile_not_apart fun _ hgroup =>
    sharedFile_run.importsApart_of_linked h hgroup⟩

theorem sharedFile_names_linked :
    RelativeRun sharedFile { domainPatterns := [] } sharedFilePlan ∧
    ({ domainPatterns := [] } : Config).problem? = none ∧
    ∀ f ∈ fragments sharedFilePlan { domainPatterns := [] }, ∀ line ∈ f.context.imports,
      ∀ name ∈ line.names,
        NameLinked (fragments sharedFilePlan { domainPatterns := [] }) f line.path name :=
  ⟨sharedFile_run, by decide, (imports_linked_iff sharedFile_run (by decide)).2.1⟩

end ClientGen
