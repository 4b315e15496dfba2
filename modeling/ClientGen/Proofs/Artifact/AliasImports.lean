import ClientGen.Proofs.Artifact.Linking
import ClientGen.Proofs.Module.Aliased
import ClientGen.Proofs.Plan.Endpoints

/-!
# Imports below an alias

Modules may be named below an alias of the output folder or by relative paths. The fragments are the
same but for their import lines, and those differ only in their paths: an alias path, read from the
output folder, names the module that the relative path leads to from the importing file.
-/

namespace ClientGen
open Text

/-- The configuration with modules named below an alias. -/
def Config.withAlias (config : Config) (root : String) : Config :=
  { config with aliasImports := true, aliasRoot := root }

/-- The configuration with modules named by relative paths. -/
def Config.withoutAlias (config : Config) : Config := { config with aliasImports := false }

def Context.withImports (imports : List ImportLine) : Context → Context
  | .model context => .model { context with imports }
  | .params group interfaces _ => .params group interfaces imports
  | .service group interfaces _ => .service group interfaces imports
  | .calls group _ usesStore => .calls group imports usesStore
  | .slice form _ => .slice form imports
  | .store forms => .store forms
  | .tags names => .tags names

/-- One fragment in both styles: nothing but the paths and the order of its import lines differs.
Every alias path names the module that the relative path leads to, and lines share a path in both
styles or in none. -/
structure AliasOf (root : String) (aliased relative : Fragment) : Prop where
  kind : aliased.kind = relative.kind
  target : aliased.target = relative.target
  template : aliased.template = relative.template
  context : aliased.context = relative.context.withImports aliased.context.imports
  imports : aliased.context.imports.Perm (relative.context.imports.map
    (ImportLine.onPath (aliasPath root relative.target)))
  denotes : ∀ line ∈ relative.context.imports, ∃ module,
    Files.importedFile? relative.target line.path = some (module ++ ".ts") ∧
    (aliasPath root relative.target line.path = trimEndSlashes root ++ "/" ++ module ∨
      (∃ file, '/' ∉ file.toList ∧ line.path = "." ++ "/" ++ file) ∧
        aliasPath root relative.target line.path = line.path)
  shares : ∀ line ∈ relative.context.imports, ∀ other ∈ relative.context.imports,
    aliasPath root relative.target line.path = aliasPath root relative.target other.path ↔
      line.path = other.path

theorem aliasOf_of_restyled {root : String} {origin : Origin} {kind : ArtifactKind}
    {target template : String} {aliased relative : Context} (hplace : origin.Holds target)
    (hcontext : aliased = relative.withImports aliased.imports)
    (h : Restyled root target origin aliased.imports relative.imports) :
    AliasOf root ⟨kind, target, template, aliased⟩ ⟨kind, target, template, relative⟩ where
  kind := rfl
  target := rfl
  template := rfl
  context := hcontext
  imports := h.perm
  denotes := by
    intro line hline
    obtain ⟨module, hreached⟩ := h.reached line hline
    exact ⟨module, hreached.importedFile? hplace, hreached.aliasPath_eq root hplace⟩
  shares := by
    intro line hline other hother
    obtain ⟨_, hreached⟩ := h.reached line hline
    obtain ⟨_, hreached'⟩ := h.reached other hother
    exact ⟨hreached.eq_of_aliasPath_eq hreached' hplace, fun hsame => by rw [hsame]⟩

theorem aliasOf_refl {root : String} {f : Fragment} (hnone : f.context.imports = [])
    (hcontext : f.context = f.context.withImports []) : AliasOf root f f where
  kind := rfl
  target := rfl
  template := rfl
  context := by rwa [hnone]
  imports := by rw [hnone]; exact .nil
  denotes := by rw [hnone]; exact List.forall_mem_nil _
  shares := by rw [hnone]; exact List.forall_mem_nil _

theorem isEnabled_withAlias (config : Config) (root : String) (kind : ArtifactKind) :
    (config.withAlias root).isEnabled kind = config.isEnabled kind := rfl

theorem isEnabled_withoutAlias (config : Config) (kind : ArtifactKind) :
    config.withoutAlias.isEnabled kind = config.isEnabled kind := rfl

section
variable {document : Json} {planning : Config} {planned : Plan}

theorem domain_of_inScope (hplan : plan document planning = .ok planned)
    (hdomains : ∀ type ∈ planned.types, planned.domains.typeDomain type.name ≠ "")
    {reference : Reference} (hreference : InScope planned.catalog.scope reference) :
    IsTag (planned.domains.typeDomain reference.1) ∧
      planned.domains.typeDomain reference.1 ≠ "" := by
  obtain ⟨type, htype, hname, _⟩ := exists_type_of_inScope hplan hreference
  rw [← hname]
  exact ⟨isTag_typeDomain hplan _, hdomains type htype⟩

variable (hplan : plan document planning = .ok planned)
  (hdomains : ∀ type ∈ planned.types, planned.domains.typeDomain type.name ≠ "")
  (config : Config) (root : String)
include hplan hdomains

theorem restyled_resolve {origin : Origin} {importer : String} (hplace : origin.Holds importer)
    (binding : Binding) {references : List Reference}
    (hscope : ∀ reference ∈ references, InScope planned.catalog.scope reference) :
    Restyled root importer origin
      (importLines ((linking planned (config.withAlias root)).resolve origin binding references))
      (importLines ((linking planned config.withoutAlias).resolve origin binding references)) :=
  Restyled.resolve hplace planned.domains binding fun reference h =>
    domain_of_inScope hplan hdomains (hscope reference h)

theorem aliasOf_modelFragment {type : DeclaredType} (htype : type ∈ planned.types) :
    AliasOf root (modelFragment planned (linking planned (config.withAlias root)) type)
      (modelFragment planned (linking planned config.withoutAlias) type) := by
  refine aliasOf_of_restyled
    (holds_modelFile (isTag_typeDomain hplan _) (hdomains type htype) type.name) ?_ ?_
  · simp only [Context.withImports, Context.imports, Context.model.injEq]
    unfold modelContext
    cases type.kind <;> rfl
  · simp only [Context.imports, modelContext_imports]
    exact restyled_resolve hplan hdomains config root
      (holds_modelFile (isTag_typeDomain hplan _) (hdomains type htype) type.name) _
      fun _ h => inScope_of_mem_nested hplan htype h

theorem aliasOf_paramsFragment {group : PlannedGroup} (hgroup : group ∈ planned.groups) :
    AliasOf root (paramsFragment (linking planned (config.withAlias root)) group)
      (paramsFragment (linking planned config.withoutAlias) group) :=
  aliasOf_of_restyled (holds_paramsFile group) rfl <|
    restyled_resolve hplan hdomains config root (holds_paramsFile group) _
      fun _ h => inScope_of_mem_groups hplan hgroup (.inr h)

theorem aliasOf_sliceFragment {slice : Slice} (hslice : slice ∈ planned.slices) :
    AliasOf root (sliceFragment (linking planned (config.withAlias root)) slice)
      (sliceFragment (linking planned config.withoutAlias) slice) := by
  have hplace := holds_sliceFile hslice (linking planned config.withoutAlias)
  refine aliasOf_of_restyled hplace rfl
    (restyled_resolve hplan hdomains config root hplace _ (List.forall_mem_singleton.2 ?_))
  obtain ⟨type, htype, hobject, rfl⟩ := exists_type_of_mem_slices hslice
  exact inScope_of_isObject hplan htype hobject

omit hdomains in
theorem restyled_interfacesLine {group : PlannedGroup} (hgroup : group ∈ planned.groups)
    {depth : Nat} {importer : String} (hplace : (Origin.artifact depth).Holds importer) :
    Restyled root importer (.artifact depth)
      (interfacesLine? (config.withAlias root) (linking planned (config.withAlias root)) depth
        group).toList
      (interfacesLine? config.withoutAlias (linking planned config.withoutAlias) depth
        group).toList := by
  have hkey := plan_key_ne_empty hplan hgroup
  have hplain : ∀ piece ∈ Files.pieces (interfacesModule config group), PlainName piece := by
    unfold interfacesModule
    split
    · exact plain_paramsModule hkey
    · exact plain_servicesModule hkey
  exact Restyled.importLine? hplace planned.domains hplain _

theorem aliasOf_serviceFragment {group : PlannedGroup} (hgroup : group ∈ planned.groups) :
    AliasOf root
      (serviceFragment (config.withAlias root) (linking planned (config.withAlias root)) group)
      (serviceFragment config.withoutAlias (linking planned config.withoutAlias) group) := by
  have hplace := holds_servicesFile group
  have hscope : ∀ reference, reference ∈ group.responseReferences ∨
      reference ∈ group.parameterReferences → InScope planned.catalog.scope reference :=
    fun _ h => inScope_of_mem_groups hplan hgroup h
  rw [serviceFragment, serviceFragment, serviceContext, serviceContext, isEnabled_withAlias,
    isEnabled_withoutAlias]
  by_cases hparams : config.isEnabled .params
  · rw [if_pos hparams, if_pos hparams]
    exact aliasOf_of_restyled hplace rfl <|
      (restyled_resolve hplan hdomains config root hplace _ fun _ h => hscope _ (.inl h)).append
        (restyled_interfacesLine hplan config root hgroup hplace)
  · rw [if_neg hparams, if_neg hparams]
    exact aliasOf_of_restyled hplace rfl <|
      restyled_resolve hplan hdomains config root hplace _ fun _ h =>
        hscope _ (List.mem_append.1 h)

theorem aliasOf_calls {group : PlannedGroup} (hgroup : group ∈ planned.groups)
    {kind : ArtifactKind} {target template : String} {depth : Nat}
    (hplace : (Origin.artifact depth).Holds target) {module : String}
    (hplain : ∀ piece ∈ Files.pieces module, PlainName piece) (names : List String) :
    AliasOf root
      ⟨kind, target, template, callsContext (config.withAlias root)
        (linking planned (config.withAlias root)) depth
        (importLine? ((linking planned (config.withAlias root)).artifact depth module) names)
        group⟩
      ⟨kind, target, template, callsContext config.withoutAlias
        (linking planned config.withoutAlias) depth
        (importLine? ((linking planned config.withoutAlias).artifact depth module) names)
        group⟩ := by
  refine aliasOf_of_restyled hplace rfl ?_
  exact ((restyled_resolve hplan hdomains config root hplace _ fun _ h =>
      inScope_of_mem_groups hplan hgroup (.inl h)).append
    (restyled_interfacesLine hplan config root hgroup hplace)).append
    (Restyled.importLine? hplace planned.domains hplain names)

theorem aliasOf_fragmentsOf (kind : ArtifactKind) :
    List.Forall₂ (AliasOf root) (fragmentsOf planned (config.withAlias root) kind)
      (fragmentsOf planned config.withoutAlias kind) := by
  cases kind with
  | models =>
    refine forall₂_map_map fun type htype => ?_
    exact aliasOf_modelFragment hplan hdomains config root htype
  | params =>
    refine forall₂_map_map fun group hgroup => ?_
    exact aliasOf_paramsFragment hplan hdomains config root (List.mem_of_mem_filter hgroup)
  | services =>
    refine forall₂_map_map fun group hgroup => ?_
    exact aliasOf_serviceFragment hplan hdomains config root hgroup
  | thunks =>
    refine forall₂_map_map fun group hgroup => ?_
    exact aliasOf_calls hplan hdomains config root hgroup (holds_thunksFile group)
      (plain_servicesModule (plan_key_ne_empty hplan hgroup)) _
  | hooks =>
    refine forall₂_map_map fun group hgroup => ?_
    exact aliasOf_calls hplan hdomains config root hgroup
      (holds_hooksFile config.withoutAlias (linking planned config.withoutAlias) group)
      (plain_thunksModule (plan_key_ne_empty hplan hgroup)) _
  | slices =>
    refine forall₂_map_map fun slice hslice => ?_
    exact aliasOf_sliceFragment hplan hdomains config root hslice
  | store =>
    exact .cons (aliasOf_refl rfl rfl) (.cons (aliasOf_refl rfl rfl) .nil)
  | tags =>
    exact .cons (aliasOf_refl rfl rfl) .nil

end

/-- With modules named below an alias and with modules named by relative paths a plan has the same
fragments, one for one, but for the paths and the order of their import lines. Each alias path, read
from the output folder, names the module that the relative path leads to from the importing file. -/
theorem alias_paths_name_same_modules {document : Json} {planning : Config} {planned : Plan}
    (hplan : plan document planning = .ok planned)
    (hdomains : ∀ type ∈ planned.types, planned.domains.typeDomain type.name ≠ "")
    (config : Config) (root : String) :
    List.Forall₂ (AliasOf root) (fragments planned (config.withAlias root))
      (fragments planned config.withoutAlias) :=
  forall₂_flatMap fun kind _ => aliasOf_fragmentsOf hplan hdomains config root kind

/-- Orders that refer to a model of their own domain and to one of another. -/
def ownedOrders : Json :=
  .obj [
    ("definitions", .obj [
      ("Line", .obj [("properties", .obj [])]),
      ("Order", .obj [("properties", .obj [
        ("line", .obj [("$ref", .str "#/definitions/Line")]),
        ("owner", .obj [("$ref", .str "#/definitions/User")])])]),
      ("User", .obj [("properties", .obj [])])]),
    ("paths", .obj [
      ("/api/orders", .obj [("get", .obj [
        ("tags", .arr [.str "Orders"]),
        ("responses", .obj [("200", .obj [
          ("schema", .obj [("$ref", .str "#/definitions/Order")])])])])]),
      ("/api/users", .obj [("get", .obj [
        ("tags", .arr [.str "Users"]),
        ("responses", .obj [("200", .obj [
          ("schema", .obj [("$ref", .str "#/definitions/User")])])])])])])]

def ownedOrdersPlan : Plan := planWith [] ownedOrders { domainPatterns := [] }

/-- The two lines of the orders change places: the alias comes after the model of the same domain,
which the way up comes before. -/
theorem ownedOrders_alias_paths :
    plan ownedOrders { domainPatterns := [] } = .ok ownedOrdersPlan ∧
    (∀ type ∈ ownedOrdersPlan.types, ownedOrdersPlan.domains.typeDomain type.name ≠ "") ∧
    ((fragments ownedOrdersPlan (Config.withAlias {} "@/api/")).map fun f =>
        (f.target, f.context.imports)).find? (·.1 = "models/orders/Order.ts") =
      some ("models/orders/Order.ts",
        [⟨"./Line", ["LineSchema"]⟩, ⟨"@/api/models/users/User", ["UserSchema"]⟩]) ∧
    ((fragments ownedOrdersPlan (Config.withoutAlias {})).map fun f =>
        (f.target, f.context.imports)).find? (·.1 = "models/orders/Order.ts") =
      some ("models/orders/Order.ts",
        [⟨"../users/User", ["UserSchema"]⟩, ⟨"./Line", ["LineSchema"]⟩]) ∧
    List.Forall₂ (AliasOf "@/api/") (fragments ownedOrdersPlan (Config.withAlias {} "@/api/"))
      (fragments ownedOrdersPlan (Config.withoutAlias {})) := by
  have hplan : plan ownedOrders { domainPatterns := [] } = .ok ownedOrdersPlan := rfl
  have hdomains : ∀ type ∈ ownedOrdersPlan.types,
      ownedOrdersPlan.domains.typeDomain type.name ≠ "" := by decide +kernel
  exact ⟨hplan, hdomains, by decide +kernel, by decide +kernel,
    alias_paths_name_same_modules hplan hdomains {} "@/api/"⟩

end ClientGen
