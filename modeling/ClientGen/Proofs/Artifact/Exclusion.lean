import ClientGen.Proofs.Artifact.Confined
import ClientGen.Proofs.Plan.Endpoints

/-!
# Kinds that are left out

Leaving out one more kind removes its fragments from a run and keeps all others in their order.
Three kinds are asked for outside their own fragments. Without parameters the services declare the
interfaces, and whatever imported them from the parameters imports them from the services. Without
slices the store is empty, and without a store thunks and hooks do not use one. Nothing else
changes.
-/

namespace ClientGen

/-- The configuration with one more kind left out. -/
def Config.without (config : Config) (kind : ArtifactKind) : Config :=
  { config with exclude := config.exclude ++ [kind] }

def Fragment.header (f : Fragment) : ArtifactKind × String × String :=
  (f.kind, f.target, f.template)

/-- The lines that import a group's parameter interfaces from a module. -/
def linesFrom (links : Linking) (depth : Nat) (group : PlannedGroup) (module : String) :
    List ImportLine :=
  (importLine? (links.artifact depth module) (group.interfaces.map (·.name))).toList

/-- How a fragment may change where one more kind is left out. -/
inductive Rebuilt (links : Linking) : ArtifactKind → Fragment → Fragment → Prop
  | same (kind : ArtifactKind) (f : Fragment) : Rebuilt links kind f f
  /-- Without parameters the services of a group declare its interfaces, which they imported
  before, and import what these mention. -/
  | services {target template : String} {group : PlannedGroup} :
      Rebuilt links .params
        ⟨.services, target, template,
          .service group [] (importLines (responseImports links nestedDepth group) ++
            linesFrom links nestedDepth group (paramsModule group))⟩
        ⟨.services, target, template,
          .service group (group.interfaces.map Interface.declaration)
            (importLines (links.resolve (.artifact nestedDepth) .type
              (group.responseReferences ++ group.parameterReferences)))⟩
  /-- Without parameters the line of the interfaces leads to the services, at the same place. -/
  | calls {caller : ArtifactKind} {target template : String} {group : PlannedGroup} {depth : Nat}
      {first last : List ImportLine} {usesStore : Bool} (hcaller : caller ∈ [.thunks, .hooks]) :
      Rebuilt links .params
        ⟨caller, target, template,
          .calls group (first ++ linesFrom links depth group (paramsModule group) ++ last)
            usesStore⟩
        ⟨caller, target, template,
          .calls group (first ++ linesFrom links depth group (servicesModule group) ++ last)
            usesStore⟩
  | store {target template : String} {forms : List Slice} :
      Rebuilt links .slices ⟨.store, target, template, .store forms⟩
        ⟨.store, target, template, .store []⟩
  | storeless {caller : ArtifactKind} {target template : String} {group : PlannedGroup}
      {imports : List ImportLine} {usesStore : Bool} (hcaller : caller ∈ [.thunks, .hooks]) :
      Rebuilt links .store ⟨caller, target, template, .calls group imports usesStore⟩
        ⟨caller, target, template, .calls group imports false⟩

namespace Rebuilt

variable {links : Linking} {kind : ArtifactKind} {f f' : Fragment}

theorem header_eq (h : Rebuilt links kind f f') : f.header = f'.header := by
  cases h <;> simp only [Fragment.header]

theorem eq (h : Rebuilt links kind f f') (hkind : kind ∉ [.params, .slices, .store]) : f = f' := by
  cases h with
  | same => rfl
  | services => exact absurd (by decide) hkind
  | calls => exact absurd (by decide) hkind
  | store => exact absurd (by decide) hkind
  | storeless => exact absurd (by decide) hkind

end Rebuilt

section
variable {planned : Plan} {config : Config} {kind other : ArtifactKind}

theorem isEnabled_without_self : (config.without kind).isEnabled kind = false := by
  simp [Config.isEnabled, Config.without]

theorem isEnabled_without_of_ne (h : other ≠ kind) :
    (config.without kind).isEnabled other = config.isEnabled other := by
  simp [Config.isEnabled, Config.without, h]

/-- A kind stays as it was unless it is left out and was generated before. -/
theorem isEnabled_without_of_not (h : ¬ (kind = other ∧ config.isEnabled other)) :
    (config.without kind).isEnabled other = config.isEnabled other := by
  by_cases hsame : other = kind
  · subst hsame
    rw [isEnabled_without_self, Bool.eq_false_iff.2 fun henabled => h ⟨rfl, henabled⟩]
  · exact isEnabled_without_of_ne hsame

theorem enabled_without (config : Config) (kind : ArtifactKind) :
    (config.without kind).enabled = config.enabled.filter (· ≠ kind) := by
  rw [Config.enabled, Config.enabled, List.filter_filter]
  refine List.filter_congr fun other _ => ?_
  by_cases h : other = kind
  · rw [h, isEnabled_without_self]
    simp
  · rw [isEnabled_without_of_ne h]
    simp [h]

theorem filter_fragments (planned : Plan) (config : Config) (kind : ArtifactKind) :
    (fragments planned config).filter (·.kind ≠ kind) =
      (config.enabled.filter (· ≠ kind)).flatMap (fragmentsOf planned config) := by
  rw [fragments]
  induction config.enabled with
  | nil => rfl
  | cons other rest ih =>
    rw [List.flatMap_cons, List.filter_append, ih]
    by_cases h : other = kind
    · have hnone : (fragmentsOf planned config other).filter (·.kind ≠ kind) = [] := by
        refine List.filter_eq_nil_iff.2 fun f hf => ?_
        simp [kind_of_mem_fragmentsOf hf, h]
      rw [hnone, List.nil_append, List.filter_cons_of_neg (by simp [h])]
    · have hall : (fragmentsOf planned config other).filter (·.kind ≠ kind) =
          fragmentsOf planned config other := by
        refine List.filter_eq_self.2 fun f hf => ?_
        simp [kind_of_mem_fragmentsOf hf, h]
      rw [hall, List.filter_cons_of_pos (by simp [h]), List.flatMap_cons]

theorem serviceContext_congr {config' : Config} (links : Linking) (group : PlannedGroup)
    (hparams : config'.isEnabled .params = config.isEnabled .params) :
    serviceContext config' links group = serviceContext config links group := by
  simp only [serviceContext, interfacesLine?, interfacesModule, hparams]

theorem callsContext_congr {config' : Config} (links : Linking) (depth : Nat)
    (below : Option ImportLine) (group : PlannedGroup)
    (hparams : config'.isEnabled .params = config.isEnabled .params)
    (hstore : config'.isEnabled .store = config.isEnabled .store) :
    callsContext config' links depth below group = callsContext config links depth below group := by
  simp only [callsContext, interfacesLine?, interfacesModule, hparams, hstore]

theorem rebuilt_service (links : Linking) (group : PlannedGroup) :
    Rebuilt links kind (serviceFragment config links group)
      (serviceFragment (config.without kind) links group) := by
  rw [serviceFragment, serviceFragment]
  by_cases hasked : kind = .params ∧ config.isEnabled .params
  · obtain ⟨rfl, henabled⟩ := hasked
    simp only [serviceContext, interfacesLine?, interfacesModule, henabled, isEnabled_without_self,
      if_true, Bool.false_eq_true, if_false]
    exact .services
  · rw [serviceContext_congr links group (isEnabled_without_of_not hasked)]
    exact .same _ _

theorem rebuilt_calls {caller : ArtifactKind} (hcaller : caller ∈ [.thunks, .hooks])
    (target template : String) (links : Linking) (depth : Nat) (below : Option ImportLine)
    (group : PlannedGroup) :
    Rebuilt links kind ⟨caller, target, template, callsContext config links depth below group⟩
      ⟨caller, target, template, callsContext (config.without kind) links depth below group⟩ := by
  by_cases hparams : kind = .params ∧ config.isEnabled .params
  · obtain ⟨rfl, henabled⟩ := hparams
    have hstore : (config.without .params).isEnabled .store = config.isEnabled .store :=
      isEnabled_without_of_ne (by decide)
    simp only [callsContext, interfacesLine?, interfacesModule, henabled, hstore,
      isEnabled_without_self, if_true, Bool.false_eq_true, if_false]
    exact .calls hcaller
  · have hkept := isEnabled_without_of_not hparams
    by_cases hstore : kind = .store
    · subst hstore
      simp only [callsContext, interfacesLine?, interfacesModule, hkept, isEnabled_without_self]
      exact .storeless hcaller
    · rw [callsContext_congr links depth below group hkept
        (isEnabled_without_of_ne (Ne.symm hstore))]
      exact .same _ _

theorem rebuilt_store :
    List.Forall₂ (Rebuilt (linking planned config) kind) (storeFragments planned config)
      (storeFragments planned (config.without kind)) := by
  by_cases hslices : kind = .slices
  · subst hslices
    simp only [storeFragments, isEnabled_without_self, Bool.false_eq_true, if_false]
    exact .cons .store (.cons .store .nil)
  · have henabled : (config.without kind).isEnabled .slices = config.isEnabled .slices :=
      isEnabled_without_of_ne (Ne.symm hslices)
    simp only [storeFragments, henabled]
    exact List.forall₂_same.2 fun f _ => .same kind f

theorem rebuilt_fragmentsOf (planned : Plan) (config : Config) (kind other : ArtifactKind) :
    List.Forall₂ (Rebuilt (linking planned config) kind) (fragmentsOf planned config other)
      (fragmentsOf planned (config.without kind) other) := by
  have hsame : ∀ fs : List Fragment, List.Forall₂ (Rebuilt (linking planned config) kind) fs fs :=
    fun _ => List.forall₂_same.2 fun f _ => .same kind f
  cases other with
  | services => exact forall₂_map_map fun group _ => rebuilt_service _ group
  | thunks => exact forall₂_map_map fun group _ => rebuilt_calls (by decide) _ _ _ _ _ group
  | hooks => exact forall₂_map_map fun group _ => rebuilt_calls (by decide) _ _ _ _ _ group
  | store => exact rebuilt_store
  | _ => exact hsame _

theorem rebuilt_fragments (planned : Plan) (config : Config) (kind : ArtifactKind) :
    List.Forall₂ (Rebuilt (linking planned config) kind)
      ((fragments planned config).filter (·.kind ≠ kind))
      (fragments planned (config.without kind)) := by
  rw [filter_fragments, fragments, enabled_without]
  exact forall₂_flatMap fun other _ => rebuilt_fragmentsOf planned config kind other

theorem exists_service_of_params {f : Fragment} (hf : f ∈ fragments planned config)
    (hkind : f.kind = .params) : ∃ group ∈ planned.groups, ∃ interfaces imports,
      f.context = .params group.key interfaces imports ∧
      (config.isEnabled .services → ∃ imports',
        ⟨.services, servicesModule group ++ ".ts", "service.ts.tera",
          .service group interfaces imports'⟩ ∈ fragments planned (config.without .params)) := by
  obtain ⟨other, _, hf⟩ := mem_fragments.1 hf
  rw [← kind_of_mem_fragmentsOf hf, hkind] at hf
  obtain ⟨group, hgroup, rfl⟩ := List.mem_map.1 hf
  refine ⟨group, List.mem_of_mem_filter hgroup, _, _, rfl, fun hservices => ?_⟩
  refine ⟨importLines ((linking planned config).resolve (.artifact nestedDepth) .type
    (group.responseReferences ++ group.parameterReferences)), ?_⟩
  have henabled : (config.without .params).isEnabled .services := by
    rw [isEnabled_without_of_ne (by decide)]
    exact hservices
  refine mem_fragments.2 ⟨.services, henabled,
    List.mem_map.2 ⟨group, List.mem_of_mem_filter hgroup, ?_⟩⟩
  rw [serviceFragment, serviceContext, if_neg (by simp [isEnabled_without_self])]
  rfl

end

/-- Leaving out one more kind removes the fragments of that kind and keeps the others, with their
targets and templates, in their order. For most kinds nothing else happens. For parameters, slices
and the store `Rebuilt` says which contexts change and how. No interface is lost with the
parameters: the services of its group declare it. -/
theorem left_out_kind_removed (planned : Plan) (config : Config) (kind : ArtifactKind) :
    (fragments planned (config.without kind)).map Fragment.header =
      ((fragments planned config).filter (·.kind ≠ kind)).map Fragment.header ∧
    (kind ∉ [.params, .slices, .store] → fragments planned (config.without kind) =
      (fragments planned config).filter (·.kind ≠ kind)) ∧
    List.Forall₂ (Rebuilt (linking planned config) kind)
      ((fragments planned config).filter (·.kind ≠ kind))
      (fragments planned (config.without kind)) ∧
    ∀ f ∈ fragments planned config, f.kind = .params →
      ∃ group ∈ planned.groups, ∃ interfaces imports,
        f.context = .params group.key interfaces imports ∧
        (config.isEnabled .services → ∃ imports',
          ⟨.services, servicesModule group ++ ".ts", "service.ts.tera",
            .service group interfaces imports'⟩ ∈ fragments planned (config.without .params)) := by
  have hrebuilt := rebuilt_fragments planned config kind
  refine ⟨?_, fun hkind => ?_, hrebuilt, fun f hf hparams => exists_service_of_params hf hparams⟩
  · have hheaders : List.Forall₂ (· = ·)
        (((fragments planned config).filter (·.kind ≠ kind)).map Fragment.header)
        ((fragments planned (config.without kind)).map Fragment.header) := by
      rw [List.forall₂_map_left_iff, List.forall₂_map_right_iff]
      exact hrebuilt.imp fun _ _ h => h.header_eq
    rw [List.forall₂_eq_eq_eq] at hheaders
    exact hheaders.symm
  · have hequal : List.Forall₂ (· = ·) ((fragments planned config).filter (·.kind ≠ kind))
        (fragments planned (config.without kind)) := hrebuilt.imp fun _ _ h => h.eq hkind
    rw [List.forall₂_eq_eq_eq] at hequal
    exact hequal.symm

def pagedCall : Json :=
  .obj [("paths", .obj [("/api/users", .obj [("get", .obj [
    ("parameters", .arr [.obj [("name", .str "page"), ("in", .str "query")]]),
    ("responses", .obj [])])])])]

/-- Without parameters the services of the call declare the interface of its parameter, and its
thunks and hooks import it from there. -/
theorem pagedCall_without_params :
    ((fragments (planWith [] pagedCall {}) {}).map fun f => (f.kind, f.target)).head? =
      some (.params, "params/users.params.ts") ∧
    ((fragments (planWith [] pagedCall {}) (Config.without {} .params)).map fun f =>
        (f.target, f.context.imports)).filter (·.2 ≠ []) =
      [("thunks/users/users.thunk.ts",
          [⟨"../../services/users/users", ["IUsersGetParams"]⟩,
            ⟨"../../services/users/users", ["listUsersGet"]⟩]),
        ("hooks/users.hooks.ts",
          [⟨"../services/users/users", ["IUsersGetParams"]⟩,
            ⟨"../thunks/users/users.thunk", ["listUsersGetThunk"]⟩])] ∧
    ∃ f ∈ fragments (planWith [] pagedCall {}) {}, f.kind = .params ∧
      ∃ group ∈ (planWith [] pagedCall {}).groups, ∃ interfaces imports imports',
        f.context = .params group.key interfaces imports ∧
        ⟨.services, servicesModule group ++ ".ts", "service.ts.tera",
            .service group interfaces imports'⟩ ∈
          fragments (planWith [] pagedCall {}) (Config.without {} .params) := by
  have hkinds : ArtifactKind.params ∈
      (fragments (planWith [] pagedCall {}) {}).map (·.kind) := by decide +kernel
  obtain ⟨f, hf, hkind⟩ := List.mem_map.1 hkinds
  obtain ⟨group, hgroup, interfaces, imports, hcontext, hdeclared⟩ :=
    (left_out_kind_removed (planWith [] pagedCall {}) {} .params).2.2.2 f hf hkind
  obtain ⟨imports', hservices⟩ := hdeclared (by decide)
  exact ⟨by decide +kernel, by decide +kernel, f, hf, hkind, group, hgroup, interfaces, imports,
    imports', hcontext, hservices⟩

end ClientGen
