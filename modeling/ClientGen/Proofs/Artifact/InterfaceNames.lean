import ClientGen.Proofs.Artifact.Linking
import ClientGen.Proofs.Text.Capitals

/-!
# Names of parameter interfaces

The interface of a call is named by the words of its path, run together, and by its method. Unlike
the names of calls it is not numbered, so it is the name of another interface of the group as well
wherever two paths have one stem. Where every word starts with one of the letters a to z the stem
shows the words, and what is lost is only where a segment ends and which of them are placeholders.
-/

namespace ClientGen
open Api Text

/-- The segments that name the interfaces of a path: those below the base path, or all of them
where nothing is below. -/
def namedSegments (path basePath : String) : List String :=
  let below := relativeSegments path basePath
  if below.isEmpty then segments path else below

/-- The words of the segments, without the braces of placeholders. -/
def segmentWords (parts : List String) : List (List Char) :=
  parts.flatMap fun part => splitWords (bareSegment part).toList

def interfaceWords (path basePath : String) : List (List Char) :=
  let words := segmentWords (namedSegments path basePath)
  if words = [] then ["root".toList] else words

def interfaceStem (path basePath : String) : String :=
  String.ofList ((interfaceWords path basePath).flatMap capitalizeChars)

theorem join_pascalCase (parts : List String) :
    String.join (parts.map fun part => pascalCase (bareSegment part)) =
      String.ofList ((segmentWords parts).flatMap capitalizeChars) := by
  induction parts with
  | nil => rfl
  | cons part rest ih =>
    rw [List.map_cons, String.join_cons, ih, pascalCase, ← String.ofList_append, segmentWords,
      segmentWords, List.flatMap_cons, List.flatMap_append]

theorem ne_nil_of_mem_segmentWords {parts : List String} {word : List Char}
    (h : word ∈ segmentWords parts) : word ≠ [] := by
  obtain ⟨part, -, hword⟩ := List.mem_flatMap.1 h
  exact ne_nil_of_mem_splitWords hword

theorem join_pascalCase_eq_empty_iff (parts : List String) :
    String.join (parts.map fun part => pascalCase (bareSegment part)) = "" ↔
      segmentWords parts = [] := by
  rw [join_pascalCase, ← String.toList_eq_nil_iff, String.toList_ofList, List.flatMap_eq_nil_iff]
  constructor
  · intro h
    refine List.eq_nil_iff_forall_not_mem.2 fun word hword => ?_
    exact capitalizeChars_ne_nil (ne_nil_of_mem_segmentWords hword) (h word hword)
  · intro h word hword
    rw [h] at hword
    cases hword

theorem interfaceName_eq (path : String) (method : Method) (basePath : String) :
    interfaceName path method basePath =
      "I" ++ interfaceStem path basePath ++ method.ending ++ "Params" := by
  have hstem : (if String.join ((namedSegments path basePath).map fun part =>
      pascalCase (bareSegment part)) = "" then "Root" else
        String.join ((namedSegments path basePath).map fun part =>
          pascalCase (bareSegment part))) = interfaceStem path basePath := by
    have hempty := join_pascalCase_eq_empty_iff (namedSegments path basePath)
    rw [interfaceStem, interfaceWords]
    by_cases hwords : segmentWords (namedSegments path basePath) = []
    · rw [if_pos (hempty.2 hwords), if_pos hwords]
      decide +kernel
    · rw [if_neg (mt hempty.1 hwords), if_neg hwords, join_pascalCase]
  rw [← hstem]
  rfl

theorem ending_inj_of_append_eq {stem stem' : String} {method method' : Method}
    (h : stem ++ method.ending = stem' ++ method'.ending) : method = method' := by
  have hchars := congrArg String.toList h
  rw [String.toList_append, String.toList_append] at hchars
  have hsuffix : method.ending.toList <:+ stem'.toList ++ method'.ending.toList :=
    hchars ▸ List.suffix_append _ _
  have hfree : ∀ m ∈ Method.all, ∀ n ∈ Method.all, m.ending.toList <:+ n.ending.toList → m = n := by
    decide
  have hall : ∀ m : Method, m ∈ Method.all := fun m => by cases m <;> decide
  rcases List.suffix_or_suffix_of_suffix hsuffix (List.suffix_append _ _) with h | h
  · exact hfree _ (hall _) _ (hall _) h
  · exact (hfree _ (hall _) _ (hall _) h).symm

theorem interfaceName_eq_iff {path path' basePath : String} {method method' : Method} :
    interfaceName path method basePath = interfaceName path' method' basePath ↔
      method = method' ∧ interfaceStem path basePath = interfaceStem path' basePath := by
  rw [interfaceName_eq, interfaceName_eq, String.append_left_inj, String.append_assoc,
    String.append_assoc, String.append_right_inj]
  constructor
  · intro h
    obtain rfl := ending_inj_of_append_eq h
    exact ⟨rfl, (String.append_left_inj _).1 h⟩
  · rintro ⟨rfl, h⟩
    rw [h]

theorem interfaceStem_inj {path path' basePath : String}
    (h : ∀ word ∈ interfaceWords path basePath, isPlainWord word = true)
    (h' : ∀ word ∈ interfaceWords path' basePath, isPlainWord word = true) :
    interfaceStem path basePath = interfaceStem path' basePath ↔
      interfaceWords path basePath = interfaceWords path' basePath := by
  constructor
  · intro hstem
    exact eq_of_capitalized_eq h h' (String.ofList_inj.1 hstem)
  · intro hwords
    rw [interfaceStem, hwords]
    rfl

namespace PlannedGroup

/-- Two calls of a group with interfaces and one method have different stems. -/
def InterfacesApart (group : PlannedGroup) (basePath : String) : Prop :=
  group.endpoints.Pairwise fun a b => a.interface.isSome → b.interface.isSome →
    a.method = b.method → interfaceStem a.path basePath ≠ interfaceStem b.path basePath

/-- Two calls of a group with interfaces and one method have paths of different words. -/
def WordsApart (group : PlannedGroup) (basePath : String) : Prop :=
  group.endpoints.Pairwise fun a b => a.interface.isSome → b.interface.isSome →
    a.method = b.method → interfaceWords a.path basePath ≠ interfaceWords b.path basePath

instance (group : PlannedGroup) (basePath : String) : Decidable (group.WordsApart basePath) :=
  inferInstanceAs (Decidable (List.Pairwise _ _))

def PlainWords (group : PlannedGroup) (basePath : String) : Prop :=
  ∀ endpoint ∈ group.endpoints, ∀ word ∈ interfaceWords endpoint.path basePath,
    isPlainWord word = true

instance (group : PlannedGroup) (basePath : String) : Decidable (group.PlainWords basePath) :=
  inferInstanceAs (Decidable (∀ endpoint ∈ group.endpoints, ∀ word ∈
    interfaceWords endpoint.path basePath, isPlainWord word = true))

theorem interfacesApart_iff_wordsApart {group : PlannedGroup} {basePath : String}
    (h : group.PlainWords basePath) :
    group.InterfacesApart basePath ↔ group.WordsApart basePath := by
  refine List.Pairwise.iff_of_mem fun {a b} ha hb => ?_
  rw [ne_eq, ne_eq, interfaceStem_inj (h a ha) (h b hb)]

end PlannedGroup

section
variable {document : Json} {config : Config} {planned : Plan}

theorem name_of_interface (hplan : plan document config = .ok planned) {group : PlannedGroup}
    (hgroup : group ∈ planned.groups) {endpoint : Endpoint} (hendpoint : endpoint ∈ group.endpoints)
    {interface : Interface} (hinterface : endpoint.interface = some interface) :
    interface.name = interfaceName endpoint.path endpoint.method config.trimmedBase := by
  rw [plan_groups hplan] at hgroup
  obtain ⟨source, -, rfl⟩ := List.mem_map.1 hgroup
  obtain ⟨entry, name, -, rfl⟩ := mem_planned_endpoints.1 hendpoint
  rw [planEndpoint_interface, synthesize_value] at hinterface
  split at hinterface
  · cases hinterface
  · rw [← Option.some.inj hinterface]
    simp [planEndpoint]

theorem interface_names_nodup_iff (hplan : plan document config = .ok planned)
    {group : PlannedGroup} (hgroup : group ∈ planned.groups) :
    (group.interfaces.map (·.name)).Nodup ↔ group.InterfacesApart config.trimmedBase := by
  rw [PlannedGroup.interfaces, List.Nodup, List.pairwise_map, List.pairwise_filterMap]
  refine List.Pairwise.iff_of_mem fun {a b} ha hb => ?_
  constructor
  · intro h hsome hsome' hmethod hstem
    obtain ⟨interface, hinterface⟩ := Option.isSome_iff_exists.1 hsome
    obtain ⟨interface', hinterface'⟩ := Option.isSome_iff_exists.1 hsome'
    refine h interface hinterface interface' hinterface' ?_
    rw [name_of_interface hplan hgroup ha hinterface, name_of_interface hplan hgroup hb hinterface']
    exact interfaceName_eq_iff.2 ⟨hmethod, hstem⟩
  · intro h interface hinterface interface' hinterface' hname
    rw [name_of_interface hplan hgroup ha hinterface,
      name_of_interface hplan hgroup hb hinterface'] at hname
    obtain ⟨hmethod, hstem⟩ := interfaceName_eq_iff.1 hname
    exact h (by rw [hinterface]; rfl) (by rw [hinterface']; rfl) hmethod hstem

def Fragment.interfaceNames (f : Fragment) : List String :=
  match f.context with
  | .params _ interfaces _ => interfaces.map (·.name)
  | .service _ interfaces _ => interfaces.map (·.name)
  | _ => []

theorem interfaceNames_paramsFragment (links : Linking) (group : PlannedGroup) :
    (paramsFragment links group).interfaceNames = group.interfaces.map (·.name) :=
  declaration_names group.interfaces

theorem interfaceNames_serviceFragment (links : Linking) (group : PlannedGroup) :
    (serviceFragment config links group).interfaceNames =
      if config.isEnabled .params then [] else group.interfaces.map (·.name) := by
  unfold serviceFragment serviceContext Fragment.interfaceNames
  cases config.isEnabled .params with
  | true => rfl
  | false => exact declaration_names group.interfaces

theorem exists_group_of_interfaceNames {f : Fragment} (hf : f ∈ fragments planned config)
    (hdeclares : f.interfaceNames ≠ []) :
    (config.isEnabled .params ∨ config.isEnabled .services) ∧
      ∃ group ∈ planned.groups, f.interfaceNames = group.interfaces.map (·.name) := by
  obtain ⟨kind, hkind, hf⟩ := mem_fragments.1 hf
  cases kind with
  | models =>
    obtain ⟨type, -, rfl⟩ := List.mem_map.1 hf
    exact absurd rfl hdeclares
  | params =>
    obtain ⟨group, hgroup, rfl⟩ := List.mem_map.1 hf
    exact ⟨.inl hkind, group, (List.mem_filter.1 hgroup).1, interfaceNames_paramsFragment _ group⟩
  | services =>
    obtain ⟨group, hgroup, rfl⟩ := List.mem_map.1 hf
    rw [interfaceNames_serviceFragment] at hdeclares ⊢
    split at hdeclares
    · exact absurd rfl hdeclares
    · rename_i hparams
      exact ⟨.inr hkind, group, hgroup, if_neg hparams⟩
  | thunks =>
    obtain ⟨group, -, rfl⟩ := List.mem_map.1 hf
    exact absurd rfl hdeclares
  | hooks =>
    obtain ⟨group, -, rfl⟩ := List.mem_map.1 hf
    exact absurd rfl hdeclares
  | slices =>
    obtain ⟨slice, -, rfl⟩ := List.mem_map.1 hf
    exact absurd rfl hdeclares
  | store =>
    rw [fragmentsOf, storeFragments, List.mem_cons, List.mem_singleton] at hf
    rcases hf with rfl | rfl <;> exact absurd rfl hdeclares
  | tags =>
    rw [List.mem_singleton.1 hf] at hdeclares
    exact absurd rfl hdeclares

theorem exists_fragment_of_group (hkinds : config.isEnabled .params ∨ config.isEnabled .services)
    {group : PlannedGroup} (hgroup : group ∈ planned.groups) (hinterfaces : group.interfaces ≠ []) :
    ∃ f ∈ fragments planned config, f.interfaceNames = group.interfaces.map (·.name) := by
  by_cases hparams : config.isEnabled .params
  · have hmem : group ∈ planned.groups.filter fun group => group.interfaces ≠ [] :=
      List.mem_filter.2 ⟨hgroup, by simpa using hinterfaces⟩
    exact ⟨_, mem_fragments.2 ⟨.params, hparams, List.mem_map_of_mem hmem⟩,
      interfaceNames_paramsFragment _ group⟩
  · refine ⟨_, mem_fragments.2
      ⟨.services, hkinds.resolve_left hparams, List.mem_map_of_mem hgroup⟩, ?_⟩
    rw [interfaceNames_serviceFragment, if_neg hparams]

theorem modules_declare_once_iff :
    (∀ f ∈ fragments planned config, f.interfaceNames.Nodup) ↔
      (config.isEnabled .params ∨ config.isEnabled .services →
        ∀ group ∈ planned.groups, (group.interfaces.map (·.name)).Nodup) := by
  constructor
  · intro h hkinds group hgroup
    by_cases hinterfaces : group.interfaces = []
    · rw [hinterfaces]
      exact List.nodup_nil
    · obtain ⟨f, hf, hnames⟩ := exists_fragment_of_group hkinds hgroup hinterfaces
      exact hnames ▸ h f hf
  · intro h f hf
    by_cases hdeclares : f.interfaceNames = []
    · rw [hdeclares]
      exact List.nodup_nil
    · obtain ⟨hkinds, group, hgroup, hnames⟩ := exists_group_of_interfaceNames hf hdeclares
      rw [hnames]
      exact h hkinds group hgroup

/-- The interfaces of a group have distinct names, and no module declares one twice, exactly if
calls of one method have different stems. Where all words are plain, these are different words. -/
theorem interfaces_distinct_iff (hplan : plan document config = .ok planned) :
    (∀ group ∈ planned.groups,
      ((group.interfaces.map (·.name)).Nodup ↔ group.InterfacesApart config.trimmedBase) ∧
      (group.PlainWords config.trimmedBase →
        ((group.interfaces.map (·.name)).Nodup ↔ group.WordsApart config.trimmedBase))) ∧
    ((∀ f ∈ fragments planned config, f.interfaceNames.Nodup) ↔
      (config.isEnabled .params ∨ config.isEnabled .services →
        ∀ group ∈ planned.groups, group.InterfacesApart config.trimmedBase)) := by
  have hgroup : ∀ group ∈ planned.groups,
      ((group.interfaces.map (·.name)).Nodup ↔ group.InterfacesApart config.trimmedBase) :=
    fun group hgroup => interface_names_nodup_iff hplan hgroup
  refine ⟨fun group hmem => ⟨hgroup group hmem, fun hplain => ?_⟩, ?_⟩
  · rw [hgroup group hmem, PlannedGroup.interfacesApart_iff_wordsApart hplain]
  · rw [modules_declare_once_iff]
    exact imp_congr_right fun _ => forall₂_congr hgroup

end

/-- A user by the name in its path, and a fixed path of the same words. -/
def userCalls : Json :=
  .obj [("paths", .obj [
    ("/api/users/\x7bid\x7d", .obj [("get", .obj [("parameters", .arr [
      .obj [("name", .str "id"), ("in", .str "path"), ("type", .str "string")]])])]),
    ("/api/users/id", .obj [("get", .obj [("parameters", .arr [
      .obj [("name", .str "verbose"), ("in", .str "query"), ("type", .str "boolean")]])])])])]

/-- Two interfaces of a group with different fields may have one name, and a module that declares
it twice. -/
theorem userCalls_share_interface :
    plan userCalls { domainPatterns := [] } =
      .ok (planWith [] userCalls { domainPatterns := [] }) ∧
    ({ domainPatterns := [] } : Config).problem? = none ∧
    (planWith [] userCalls { domainPatterns := [] }).groups.map (fun group =>
      group.interfaces.map fun interface => (interface.name, interface.fields.map (·.name))) =
        [[("IUsersIdGetParams", ["id"]), ("IUsersIdGetParams", ["verbose"])]] ∧
    ¬ ∀ f ∈ fragments (planWith [] userCalls { domainPatterns := [] }) { domainPatterns := [] },
      f.interfaceNames.Nodup := by
  refine ⟨rfl, by decide, by decide +kernel, fun h => ?_⟩
  have hgroups : ∀ names ∈ (planWith [] userCalls { domainPatterns := [] }).groups.map
      (fun group => group.interfaces.map (·.name)), names.Nodup := by
    intro names hnames
    obtain ⟨group, hgroup, rfl⟩ := List.mem_map.1 hnames
    exact modules_declare_once_iff.1 h (.inl (by decide)) group hgroup
  revert hgroups
  decide +kernel

/-- Calls of one group whose paths differ in their words where they share a method. -/
def orderCalls : Json :=
  .obj [("paths", .obj [
    ("/api/orders/\x7bid\x7d", .obj [("get", .obj []), ("put", .obj [])]),
    ("/api/orders/\x7bid\x7d/line-items", .obj [("get", .obj [])])])]

theorem orderCalls_interfaces_distinct :
    plan orderCalls { domainPatterns := [] } =
      .ok (planWith [] orderCalls { domainPatterns := [] }) ∧
    (∀ group ∈ (planWith [] orderCalls { domainPatterns := [] }).groups,
      group.PlainWords ({ domainPatterns := [] } : Config).trimmedBase ∧
      group.WordsApart ({ domainPatterns := [] } : Config).trimmedBase ∧
      (group.interfaces.map (·.name)).Nodup) ∧
    ∀ f ∈ fragments (planWith [] orderCalls { domainPatterns := [] }) { domainPatterns := [] },
      f.interfaceNames.Nodup := by
  have hplain : ∀ group ∈ (planWith [] orderCalls { domainPatterns := [] }).groups,
      group.PlainWords ({ domainPatterns := [] } : Config).trimmedBase := by
    decide +kernel
  have hwords : ∀ group ∈ (planWith [] orderCalls { domainPatterns := [] }).groups,
      group.WordsApart ({ domainPatterns := [] } : Config).trimmedBase := by
    decide +kernel
  obtain ⟨hgroups, hmodules⟩ := interfaces_distinct_iff
    (show plan orderCalls { domainPatterns := [] } =
      .ok (planWith [] orderCalls { domainPatterns := [] }) from rfl)
  have hnodup : ∀ group ∈ (planWith [] orderCalls { domainPatterns := [] }).groups,
      (group.interfaces.map (·.name)).Nodup := fun group hgroup =>
    ((hgroups group hgroup).2 (hplain group hgroup)).2 (hwords group hgroup)
  refine ⟨rfl, fun group hgroup => ⟨hplain group hgroup, hwords group hgroup,
    hnodup group hgroup⟩, hmodules.2 fun _ group hgroup => ?_⟩
  exact (hgroups group hgroup).1.1 (hnodup group hgroup)

end ClientGen
