import ClientGen.Proofs.Artifact.Confined
import ClientGen.Proofs.Artifact.Exports
import ClientGen.Proofs.Artifact.Slots
import ClientGen.Proofs.Endpoint.LiteralNames
import ClientGen.Proofs.Plan.Endpoints
import ClientGen.Proofs.Plan.References

/-!
# Texts of a document in generated files

Descriptions and summaries are put into comments, keys of groups into string literals, and paths
into template literals, all as they are. They stay where they are put, and are read as what they
are meant, only where they have nothing that comments and literals read in another way: that is
the whole condition, since names of calls and encoded parameters never have such a thing.
-/

namespace ClientGen
open Api Text

/-- The texts of a document fit where its generated files put them: descriptions and summaries
have no end of a comment, group keys nothing that a literal reads in another way, and paths
nothing that a template literal does. -/
structure TextFits (planned : Plan) (document : Json) (config : Config) : Prop where
  fields : config.isEnabled .models → ∀ type ∈ planned.types, ∀ field ∈ type.fields,
    ∀ text ∈ field.description, ¬ClosesComment text
  parameters : config.isEnabled .params → ∀ endpoint ∈ planned.endpoints,
    ∀ interface ∈ endpoint.interface, ∀ field ∈ interface.fields,
      ∀ text ∈ field.description, ¬ClosesComment text
  summaries : config.isEnabled .services → ∀ entry ∈ sourceEntries document,
    ∀ text ∈ entry.operation.summary, ¬ClosesComment text
  paths : config.isEnabled .services → ∀ entry ∈ sourceEntries document, VerbatimPath entry.path
  keys : config.isEnabled .thunks → ∀ entry ∈ sourceEntries document,
    IsLiteralText (groupKey entry.path config.groupingDepth)

section
variable {document : Json} {config : Config} {planned : Plan}

/-- What holds of the key, the path and the summary of every planned endpoint holds of those of
the operations of the document. -/
theorem forall_planned_endpoints_iff (hplan : plan document config = .ok planned)
    (P : String → String → Option String → Prop) :
    (∀ group ∈ planned.groups, ∀ endpoint ∈ group.endpoints,
        P group.key endpoint.path endpoint.summary) ↔
      ∀ entry ∈ sourceEntries document,
        P (groupKey entry.path config.groupingDepth) entry.path entry.operation.summary := by
  have hkey (scope : Scope) (domains : DomainMap) (basePath : String) (group : Group) :
      (planGroup scope domains basePath group).value.key = group.key := by
    rw [planGroup_value]
  have hpath (scope : Scope) (basePath tag name : String) (entry : Entry) :
      (planEndpoint scope basePath tag name entry).value.path = entry.path := by
    simp [planEndpoint]
  have hsummary (scope : Scope) (basePath tag name : String) (entry : Entry) :
      (planEndpoint scope basePath tag name entry).value.summary = entry.operation.summary := by
    simp [planEndpoint]
  rw [plan_groups hplan, List.forall_mem_map]
  constructor
  · intro h entry hentry
    rw [← (perm_sourceGroups document config).mem_iff] at hentry
    obtain ⟨group, hgroup, hentry⟩ := List.mem_flatMap.1 hentry
    obtain ⟨name, hname⟩ := exists_name_of_mem_entries hentry
    have hP := h group hgroup _ (mem_planned_endpoints.2 ⟨entry, name, hname, rfl⟩)
    rwa [hkey, hpath, hsummary, key_of_mem_groupRoutes hgroup hentry] at hP
  · intro h group hgroup endpoint hendpoint
    obtain ⟨entry, name, hname, rfl⟩ := mem_planned_endpoints.1 hendpoint
    have hentry := (List.of_mem_zip hname).1
    rw [hkey, hpath, hsummary, key_of_mem_groupRoutes hgroup hentry]
    apply h
    rw [← (perm_sourceGroups document config).mem_iff]
    exact List.mem_flatMap.2 ⟨group, hgroup, hentry⟩

theorem isLiteralText_planned_name (hplan : plan document config = .ok planned)
    {group : PlannedGroup} (hgroup : group ∈ planned.groups) {endpoint : Endpoint}
    (hendpoint : endpoint ∈ group.endpoints) : IsLiteralText endpoint.name := by
  rw [plan_groups hplan] at hgroup
  obtain ⟨source, -, rfl⟩ := List.mem_map.1 hgroup
  have hname := List.mem_map_of_mem (f := Endpoint.name) hendpoint
  rw [planned_endpoint_names] at hname
  exact source.isLiteralText_names _ _ hname

/-- The name of a call has nothing that a literal reads in another way, so the action type is read
as itself where the key is. -/
theorem intact_actionType_iff (hplan : plan document config = .ok planned)
    {group : PlannedGroup} (hgroup : group ∈ planned.groups) {endpoint : Endpoint}
    (hendpoint : endpoint ∈ group.endpoints) :
    (Slot.literal (group.key ++ "/" ++ endpoint.name)).Intact ↔ IsLiteralText group.key := by
  have hname := isLiteralText_planned_name hplan hgroup hendpoint
  have hslash : IsLiteralText "/" := by decide
  rw [Slot.intact_literal]
  change IsLiteralText _ ↔ _
  rw [isLiteralText_append_iff, isLiteralText_append_iff]
  exact ⟨fun h => h.1.1, fun h => ⟨⟨h, hslash⟩, hname⟩⟩

theorem intact_models_iff :
    (∀ fragment ∈ fragmentsOf planned config .models, ∀ slot ∈ fragment.slots, slot.Intact) ↔
      ∀ type ∈ planned.types, ∀ field ∈ type.fields, ∀ text ∈ field.description,
        ¬ClosesComment text := by
  rw [fragmentsOf, List.forall_mem_map]
  refine forall₂_congr fun type _ => ?_
  rw [slots_modelFragment, forall_commentSlots]
  simp only [List.mem_map, forall_exists_index, and_imp, Option.mem_def]
  exact ⟨fun h field hfield text htext => h text field hfield htext,
    fun h text field hfield htext => h field hfield text htext⟩

theorem intact_params_iff :
    (∀ fragment ∈ fragmentsOf planned config .params, ∀ slot ∈ fragment.slots, slot.Intact) ↔
      ∀ endpoint ∈ planned.endpoints, ∀ interface ∈ endpoint.interface,
        ∀ field ∈ interface.fields, ∀ text ∈ field.description, ¬ClosesComment text := by
  rw [fragmentsOf, List.forall_mem_map]
  simp only [slots_paramsFragment, forall_commentSlots]
  constructor
  · intro h endpoint hendpoint interface hinterface field hfield text htext
    obtain ⟨group, hgroup, hendpoint⟩ := List.mem_flatMap.1 hendpoint
    have hmem : interface ∈ group.interfaces :=
      List.mem_filterMap.2 ⟨endpoint, hendpoint, hinterface⟩
    have hsome : decide (group.interfaces ≠ []) = true := decide_eq_true (List.ne_nil_of_mem hmem)
    refine h group (List.mem_filter.2 ⟨hgroup, hsome⟩) text (List.mem_flatMap.2 ?_)
    exact ⟨interface, hmem, List.mem_map.2 ⟨field, hfield, htext⟩⟩
  · intro h group hgroup text htext
    obtain ⟨interface, hmem, htext⟩ := List.mem_flatMap.1 htext
    obtain ⟨endpoint, hendpoint, hinterface⟩ := List.mem_filterMap.1 hmem
    obtain ⟨field, hfield, htext⟩ := List.mem_map.1 htext
    have hendpoint : endpoint ∈ planned.endpoints :=
      List.mem_flatMap.2 ⟨group, (List.mem_filter.1 hgroup).1, hendpoint⟩
    exact h endpoint hendpoint interface hinterface field hfield text htext

theorem intact_serviceSlots_iff (endpoint : Endpoint) :
    (∀ slot ∈ endpoint.serviceSlots, slot.Intact) ↔
      (∀ text ∈ endpoint.summary, ¬ClosesComment text) ∧ VerbatimPath endpoint.path := by
  rw [Endpoint.serviceSlots, List.forall_mem_append, List.forall_mem_map,
    List.forall_mem_singleton, ← readsParts_address_iff]
  simp only [Option.mem_toList, Option.mem_def, Slot.intact_comment, Slot.intact_address]

theorem intact_services_iff (hplan : plan document config = .ok planned) :
    (∀ fragment ∈ fragmentsOf planned config .services, ∀ slot ∈ fragment.slots, slot.Intact) ↔
      ∀ entry ∈ sourceEntries document,
        (∀ text ∈ entry.operation.summary, ¬ClosesComment text) ∧ VerbatimPath entry.path := by
  rw [← forall_planned_endpoints_iff hplan fun _ path summary =>
    (∀ text ∈ summary, ¬ClosesComment text) ∧ VerbatimPath path]
  rw [fragmentsOf, List.forall_mem_map]
  refine forall₂_congr fun group _ => ?_
  rw [slots_serviceFragment, List.forall_mem_flatMap]
  exact forall₂_congr fun endpoint _ => intact_serviceSlots_iff endpoint

theorem intact_thunks_iff (hplan : plan document config = .ok planned) :
    (∀ fragment ∈ fragmentsOf planned config .thunks, ∀ slot ∈ fragment.slots, slot.Intact) ↔
      ∀ entry ∈ sourceEntries document,
        IsLiteralText (groupKey entry.path config.groupingDepth) := by
  rw [← forall_planned_endpoints_iff hplan fun key _ _ => IsLiteralText key]
  rw [fragmentsOf, List.forall_mem_map]
  refine forall₂_congr fun group hgroup => ?_
  rw [slots_thunkFragment, PlannedGroup.actionTypes, List.forall_mem_map, List.forall_mem_map]
  exact forall₂_congr fun endpoint hendpoint => intact_actionType_iff hplan hgroup hendpoint

end

theorem intact_iff {document : Json} {config : Config} {planned : Plan}
    (hplan : plan document config = .ok planned) :
    (∀ fragment ∈ fragments planned config, ∀ slot ∈ fragment.slots, slot.Intact) ↔
      TextFits planned document config := by
  constructor
  · intro h
    have hkind {kind : ArtifactKind} (henabled : config.isEnabled kind) :
        ∀ fragment ∈ fragmentsOf planned config kind, ∀ slot ∈ fragment.slots, slot.Intact :=
      fun fragment hfragment => h fragment (mem_fragments.2 ⟨kind, henabled, hfragment⟩)
    exact {
      fields := fun henabled => intact_models_iff.1 (hkind henabled)
      parameters := fun henabled => intact_params_iff.1 (hkind henabled)
      summaries := fun henabled entry hentry =>
        ((intact_services_iff hplan).1 (hkind henabled) entry hentry).1
      paths := fun henabled entry hentry =>
        ((intact_services_iff hplan).1 (hkind henabled) entry hentry).2
      keys := fun henabled => (intact_thunks_iff hplan).1 (hkind henabled) }
  · intro h fragment hfragment
    obtain ⟨kind, henabled, hmem⟩ := mem_fragments.1 hfragment
    suffices hall : ∀ fragment ∈ fragmentsOf planned config kind,
        ∀ slot ∈ fragment.slots, slot.Intact from hall fragment hmem
    cases kind with
    | models => exact intact_models_iff.2 (h.fields henabled)
    | params => exact intact_params_iff.2 (h.parameters henabled)
    | services =>
      exact (intact_services_iff hplan).2 fun entry hentry =>
        ⟨h.summaries henabled entry hentry, h.paths henabled entry hentry⟩
    | thunks => exact (intact_thunks_iff hplan).2 (h.keys henabled)
    | _ =>
      -- the other kinds take nothing from the document as it is
      intro other hother slot hslot
      rw [slots_of_other (by decide) hother] at hslot
      cases hslot

/-- The built-in templates put the texts of a document between the marks of comments and literals
as they are. All of them stay there and are read as they are meant, if and only if they fit. -/
theorem document_text_intact_iff {document : Json} {config : Config} {planned : Plan}
    (hplan : plan document config = .ok planned) :
    (∀ fragment ∈ fragments planned config, ∀ slot ∈ fragment.slots, slot ≠ .comment "" →
      ∀ text, TemplateLibrary.render ⟨TemplateEngine.standard.builtin⟩ fragment.template
          fragment.context.toJson = .ok text →
        slot.marked.toList <:+: text.toList) ∧
    ((∀ fragment ∈ fragments planned config, ∀ slot ∈ fragment.slots, slot.Intact) ↔
      TextFits planned document config) := by
  refine ⟨?_, intact_iff hplan⟩
  intro fragment hfragment slot hslot hne text htext
  obtain ⟨kind, -, hmem⟩ := mem_fragments.1 hfragment
  exact (showsSlot hmem hslot hne).infix_rendered htext

/-- A job with a schedule, and a path with a quote and a backtick. -/
def cronCalls : Json :=
  .obj [("definitions", .obj [("Job", .obj [("type", .str "object"),
      ("properties", .obj [("cron", .obj [("type", .str "string"),
        ("description", .str "such as */5 * * * *")])])])]),
    ("paths", .obj [("/api/o\x27brien/a\x60b", .obj [("get", .obj [
      ("summary", .str "Runs */5")])])])]

def cronPlan : Plan := planWith [] cronCalls { domainPatterns := [] }

/-- The schedules end their comments, the key of the group ends its literal, and the path ends
its template literal. -/
theorem cronCalls_text_not_intact :
    plan cronCalls { domainPatterns := [] } = .ok cronPlan ∧
    (∃ fragment ∈ fragments cronPlan { domainPatterns := [] },
      Slot.comment "such as */5 * * * *" ∈ fragment.slots) ∧
    (∃ fragment ∈ fragments cronPlan { domainPatterns := [] },
      Slot.comment "Runs */5" ∈ fragment.slots ∧
      Slot.address "/api/o\x27brien/a\x60b" "/api/o\x27brien/a\x60b" ∈ fragment.slots) ∧
    (∃ fragment ∈ fragments cronPlan { domainPatterns := [] },
      Slot.literal "o\x27brien/runs5Get" ∈ fragment.slots) ∧
    ¬(Slot.comment "such as */5 * * * *").Intact ∧ ¬(Slot.comment "Runs */5").Intact ∧
    ¬(Slot.address "/api/o\x27brien/a\x60b" "/api/o\x27brien/a\x60b").Intact ∧
    ¬(Slot.literal "o\x27brien/runs5Get").Intact := by
  refine ⟨rfl, by decide +kernel, by decide +kernel, by decide +kernel, ?_, ?_, ?_, ?_⟩
  · rw [Slot.intact_comment, not_not]
    decide +kernel
  · rw [Slot.intact_comment, not_not]
    decide +kernel
  · have hwritten : "/api/o\x27brien/a\x60b".toList =
        written (addressParts "/api/o\x27brien/a\x60b") := by decide +kernel
    rw [Slot.intact_address, hwritten, readsParts_addressParts_iff]
    decide +kernel
  · rw [Slot.intact_literal]
    decide +kernel

/-- A job with texts that look alike, and a placeholder with a quote and a brace. -/
def shiftCalls : Json :=
  .obj [("definitions", .obj [("Job", .obj [("type", .str "object"),
      ("properties", .obj [("cron", .obj [("type", .str "string"),
        ("description", .str "such as * / 5")])])])]),
    ("paths", .obj [("/api/jobs/\x7bit\x27s \x7d\x7d/$", .obj [("get", .obj [
      ("summary", .str "Runs /* later"),
      ("parameters", .arr [.obj [("name", .str "it\x27s \x7d"), ("in", .str "path"),
        ("type", .str "string"), ("description", .str "a \x60job\x60")]])])])])]

def shiftPlan : Plan := planWith [] shiftCalls { domainPatterns := [] }

theorem shiftCalls_textFits : TextFits shiftPlan shiftCalls { domainPatterns := [] } where
  fields := by decide +kernel
  parameters := by decide +kernel
  summaries := by decide +kernel
  paths := by decide +kernel
  keys := by decide +kernel

theorem shiftCalls_text_intact :
    plan shiftCalls { domainPatterns := [] } = .ok shiftPlan ∧
    (∃ fragment ∈ fragments shiftPlan { domainPatterns := [] }, Slot.address
      "/api/jobs/$\x7bencodeURIComponent(String(params['it\\'s \x7d']))\x7d/$"
      "/api/jobs/\x7bit\x27s \x7d\x7d/$" ∈ fragment.slots) ∧
    ∀ fragment ∈ fragments shiftPlan { domainPatterns := [] }, ∀ slot ∈ fragment.slots,
      slot.Intact :=
  ⟨rfl, by decide +kernel, (document_text_intact_iff rfl).2.2 shiftCalls_textFits⟩

end ClientGen
