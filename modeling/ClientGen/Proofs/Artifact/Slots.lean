import ClientGen.Artifact.Fragment
import ClientGen.Proofs.Artifact.Address
import ClientGen.Proofs.Artifact.Confined
import ClientGen.Proofs.Endpoint.UniqueNames
import ClientGen.Proofs.Template.Shows

/-!
# Slots for texts of a document

The built-in templates put texts of a document as they are between the marks of a comment, between
single quotes and between backticks. Here these places are listed for every fragment, together
with what each text is meant as, and are found in the files that the templates make.
-/

namespace ClientGen
open Api Text

/-- A text that ends the comment it stands in. -/
def ClosesComment (text : String) : Prop := ['*', '/'] <:+: text.toList

instance (text : String) : Decidable (ClosesComment text) :=
  inferInstanceAs (Decidable (['*', '/'] <:+: text.toList))

/-- A text of a generated file that comes from the document: between the marks of a comment,
between single quotes, or between backticks as the address of a path. -/
inductive Slot where
  | comment (text : String)
  | literal (text : String)
  | address (text path : String)
deriving DecidableEq, Repr

/-- A text that stays in its place and is read as it is meant. -/
def Slot.Intact : Slot → Prop
  | .comment text => ¬ClosesComment text
  | .literal text => Denotes text.toList text.toList
  | .address text path => ReadsParts text.toList (addressParts path)

@[simp] theorem Slot.intact_comment (text : String) :
    (Slot.comment text).Intact ↔ ¬ClosesComment text := Iff.rfl

@[simp] theorem Slot.intact_literal (text : String) :
    (Slot.literal text).Intact ↔ ∀ c ∈ text.toList, isLiteralChar c = true := denotes_self_iff

@[simp] theorem Slot.intact_address (text path : String) :
    (Slot.address text path).Intact ↔ ReadsParts text.toList (addressParts path) := Iff.rfl

def commentSlots (descriptions : List (Option String)) : List Slot :=
  descriptions.flatMap fun description => description.toList.map .comment

def Endpoint.serviceSlots (endpoint : Endpoint) : List Slot :=
  endpoint.summary.toList.map .comment ++ [.address endpoint.address endpoint.path]

/-- The texts of the document that the built-in template of a fragment puts into its file. -/
def Fragment.slots (fragment : Fragment) : List Slot :=
  match fragment.kind, fragment.context with
  | .models, .model context => commentSlots (context.fields.map (·.description))
  | .params, .params _ interfaces _ =>
    commentSlots (interfaces.flatMap fun interface => interface.fields.map (·.description))
  | .services, .service group _ _ => group.endpoints.flatMap Endpoint.serviceSlots
  | .thunks, .calls group _ _ => group.actionTypes.map .literal
  | _, _ => []

theorem forall_commentSlots {descriptions : List (Option String)} :
    (∀ slot ∈ commentSlots descriptions, slot.Intact) ↔
      ∀ text, some text ∈ descriptions → ¬ClosesComment text := by
  simp [commentSlots]

/-- The fields of a declared type, none unless it is an object. -/
def DeclaredType.fields (type : DeclaredType) : List Field :=
  match type.kind with
  | .object fields => fields
  | _ => []

theorem slots_modelFragment (planned : Plan) (links : Linking) (type : DeclaredType) :
    (modelFragment planned links type).slots =
      commentSlots (type.fields.map (·.description)) := by
  unfold modelFragment modelContext DeclaredType.fields
  cases type.kind <;> simp [Fragment.slots, commentSlots, Field.model, Function.comp_def]

theorem slots_paramsFragment (links : Linking) (group : PlannedGroup) :
    (paramsFragment links group).slots =
      commentSlots (group.interfaces.flatMap fun interface =>
        interface.fields.map (·.description)) := by
  simp [Fragment.slots, paramsFragment, Interface.declaration, List.flatMap_map,
    Function.comp_def]

theorem slots_serviceFragment (config : Config) (links : Linking) (group : PlannedGroup) :
    (serviceFragment config links group).slots =
      group.endpoints.flatMap Endpoint.serviceSlots := by
  unfold serviceFragment serviceContext Fragment.slots
  split <;> split at * <;> simp_all

theorem slots_thunkFragment (config : Config) (links : Linking) (group : PlannedGroup) :
    (thunkFragment config links group).slots = group.actionTypes.map .literal := rfl

def Slot.marked : Slot → String
  | .comment text => "/** " ++ text ++ " */"
  | .literal text => "\x27" ++ text ++ "\x27"
  | .address text _ => "\x60" ++ text ++ "\x60"

section
variable {scope : RenderScope} {turn : LoopTurn}

theorem shows_comment {item member text : String} {lead : String}
    (hlead : "/** ".toList <:+ lead.toList)
    (hvalue : Expression.value? { path := [item, member] } scope = some (.str text))
    (hne : text ≠ "") :
    Shows scope [.branch { path := [item, member] }
      [.text lead, .insert { path := [item, member] }, .text " */"] []]
      (Slot.comment text).marked := by
  have htrue : ((Expression.value? { path := [item, member] } scope).any isTruthy) = true := by
    rw [hvalue]
    simpa [isTruthy] using hne
  refine Shows.branch htrue ((shows_insert hvalue).mono ?_)
  obtain ⟨before, hbefore⟩ := hlead
  refine ⟨before, [], ?_⟩
  simp [Slot.marked, ← hbefore]

theorem shows_fieldComment (hitem : turn.item = "field") {text : String}
    (hvalue : partAt? ["description"] turn.value = some (.str text)) (hne : text ≠ "") :
    Shows ⟨turn :: scope.turns, scope.context⟩ [BuiltinTemplate.fieldComment]
      (Slot.comment text).marked := by
  have hlead : "/** ".toList <:+ "\n  /** ".toList := ⟨"\n  ".toList, by decide⟩
  exact shows_comment hlead (value?_item hitem (by decide) hvalue) hne

end

theorem model_shows {context : ModelContext} (halias : context.aliasExpression = none)
    {field : ModelField} (hfield : field ∈ context.fields) {text : String}
    (htext : field.description = some text) (hne : text ≠ "") :
    Shows ⟨[], (Context.model context).toJson⟩ BuiltinTemplate.model
      (Slot.comment text).marked := by
  -- the fourth part lists the fields, unless the type is an alias
  refine Shows.of_mem (Shows.otherwise ?_ ?_) (.tail _ (.tail _ (.tail _ (.head _))))
  · change (some (Json.ofText? context.aliasExpression)).any isTruthy = false
    rw [halias]
    rfl
  · refine Shows.of_mem ?_ (.tail _ (.tail _ (.tail _ (.head _))))
    refine Shows.each (value?_context rfl) (List.mem_map_of_mem hfield) ?_
    intro turn hitem hvalue
    refine Shows.of_mem (shows_fieldComment hitem ?_ hne) (.head _)
    rw [hvalue, ModelField.toJson, htext]
    rfl

theorem params_shows {group : String} {interfaces : List InterfaceDeclaration}
    {imports : List ImportLine} {interface : InterfaceDeclaration}
    (hinterface : interface ∈ interfaces) {field : InterfaceField}
    (hfield : field ∈ interface.fields) {text : String}
    (htext : field.description = some text) (hne : text ≠ "") :
    Shows ⟨[], (Context.params group interfaces imports).toJson⟩ BuiltinTemplate.params
      (Slot.comment text).marked := by
  refine Shows.of_mem ?_ (.tail _ (.tail _ (.tail _ (.head _))))
  refine Shows.each (value?_context rfl) (List.mem_map_of_mem hinterface) ?_
  intro outer houter hinterface
  refine Shows.of_mem ?_ (.tail _ (.tail _ (.tail _ (.head _))))
  have hfields : partAt? ["fields"] outer.value =
      some (.arr (interface.fields.map InterfaceField.toJson)) := by
    rw [hinterface]
    rfl
  refine Shows.each (value?_item houter (by decide) hfields) (List.mem_map_of_mem hfield) ?_
  intro turn hitem hvalue
  refine Shows.of_mem (shows_fieldComment hitem ?_ hne) (.head _)
  rw [hvalue, InterfaceField.toJson, htext]
  rfl

theorem service_shows_summary {group : PlannedGroup} {interfaces : List InterfaceDeclaration}
    {imports : List ImportLine} {endpoint : Endpoint} (hendpoint : endpoint ∈ group.endpoints)
    {text : String} (htext : endpoint.summary = some text) (hne : text ≠ "") :
    Shows ⟨[], (Context.service group interfaces imports).toJson⟩ BuiltinTemplate.service
      (Slot.comment text).marked := by
  have hlead : "/** ".toList <:+ "\n/** ".toList := ⟨"\n".toList, by decide⟩
  refine Shows.of_mem ?_ (.tail _ (.tail _ (.tail _ (.tail _ (.tail _ (.head _))))))
  refine Shows.each (value?_context rfl)
    (List.mem_map_of_mem (f := fun endpoint => Json.obj endpoint.serviceMembers) hendpoint) ?_
  intro turn hitem hvalue
  have hsummary : partAt? ["summary"] turn.value = some (.str text) := by
    rw [hvalue]
    change some (Json.ofText? endpoint.summary) = _
    rw [htext]
    rfl
  exact Shows.of_mem (shows_comment hlead (value?_item hitem (by decide) hsummary) hne) (.head _)

theorem service_shows_address {group : PlannedGroup} {interfaces : List InterfaceDeclaration}
    {imports : List ImportLine} {endpoint : Endpoint} (hendpoint : endpoint ∈ group.endpoints) :
    Shows ⟨[], (Context.service group interfaces imports).toJson⟩ BuiltinTemplate.service
      (Slot.address endpoint.address endpoint.path).marked := by
  refine Shows.of_mem ?_ (.tail _ (.tail _ (.tail _ (.tail _ (.tail _ (.head _))))))
  refine Shows.each (value?_context rfl)
    (List.mem_map_of_mem (f := fun endpoint => Json.obj endpoint.serviceMembers) hendpoint) ?_
  intro turn hitem hvalue
  have haddress : partAt? ["url"] turn.value = some (.str endpoint.address) := by
    rw [hvalue]
    rfl
  have hshown : Shows ⟨[turn], (Context.service group interfaces imports).toJson⟩
      [.text "', \x60", BuiltinTemplate.put ["endpoint", "url"], .text "\x60, \x7b"]
      ("', \x60" ++ endpoint.address ++ "\x60, \x7b") :=
    shows_insert (value?_item hitem (by decide) haddress)
  -- the address is inserted by the node after the first twelve of a function
  refine (hshown.mono ?_).amid ⟨BuiltinTemplate.serviceFunction.take 11,
    BuiltinTemplate.serviceFunction.drop 14, rfl⟩
  refine ⟨"', ".toList, ", \x7b".toList, ?_⟩
  simp [Slot.marked]

theorem thunk_shows_actionType {group : PlannedGroup} {imports : List ImportLine}
    {usesStore : Bool} {endpoint : Endpoint} (hendpoint : endpoint ∈ group.endpoints) :
    Shows ⟨[], (Context.calls group imports usesStore).toJson⟩ BuiltinTemplate.thunk
      (Slot.literal (group.key ++ "/" ++ endpoint.name)).marked := by
  refine Shows.of_mem ?_ (.tail _ (.tail _ (.tail _ (.head _))))
  refine Shows.each (value?_context rfl)
    (List.mem_map_of_mem (f := fun endpoint => Json.obj endpoint.members) hendpoint) ?_
  intro turn hitem hvalue
  have hname : Expression.value? { path := ["endpoint", "name"] }
      ⟨[turn], (Context.calls group imports usesStore).toJson⟩ = some (.str endpoint.name) :=
    value?_item hitem (by decide) (by rw [hvalue]; rfl)
  have hkey : Expression.value? { path := ["group", "key"] }
      ⟨[turn], (Context.calls group imports usesStore).toJson⟩ = some (.str group.key) := by
    rw [value?_outside (by rw [hitem]; decide) (by decide)]
    exact value?_context rfl
  have hshown : Shows ⟨[turn], (Context.calls group imports usesStore).toJson⟩
      [.text ",\n  \x7b rejectValue: string \x7d\n>('", BuiltinTemplate.put ["group", "key"],
        .text "/", BuiltinTemplate.put ["endpoint", "name"], .text "', async ("]
      (",\n  \x7b rejectValue: string \x7d\n>('" ++ group.key ++ "/" ++ endpoint.name ++
        "', async (") := by
    refine .of_rendered ?_ List.infix_rfl
    simp [renderNodes?, TemplateNode.render?, BuiltinTemplate.put, hname, hkey, insertedText,
      String.append_assoc]
  refine (hshown.mono ?_).amid ⟨BuiltinTemplate.thunkFunction.take 6,
    BuiltinTemplate.thunkFunction.drop 11, rfl⟩
  refine ⟨",\n  \x7b rejectValue: string \x7d\n>(".toList, ", async (".toList, ?_⟩
  simp [Slot.marked]

def Fragment.ShowsSlot (f : Fragment) (slot : Slot) : Prop :=
  ∃ template, builtinTemplates.lookup f.template = some template ∧
    Shows ⟨[], f.context.toJson⟩ template slot.marked

theorem mem_commentSlots {descriptions : List (Option String)} {slot : Slot} :
    slot ∈ commentSlots descriptions ↔
      ∃ text, some text ∈ descriptions ∧ slot = .comment text := by
  simp [commentSlots, eq_comm]

section
variable {planned : Plan} {config : Config} {links : Linking} {slot : Slot}

theorem modelFragment_showsSlot {type : DeclaredType}
    (hslot : slot ∈ (modelFragment planned links type).slots) (hne : slot ≠ .comment "") :
    (modelFragment planned links type).ShowsSlot slot := by
  rw [slots_modelFragment] at hslot
  obtain ⟨text, htext, rfl⟩ := mem_commentSlots.1 hslot
  obtain ⟨field, hfield, htext⟩ := List.mem_map.1 htext
  have hempty : text ≠ "" := fun h => hne (by rw [h])
  unfold DeclaredType.fields at hfield
  cases hkind : type.kind with
  | object fields =>
    rw [hkind] at hfield
    refine ⟨BuiltinTemplate.model, by simp [modelFragment, DeclaredType.isEnum, hkind]; rfl, ?_⟩
    simp only [modelFragment, modelContext, hkind]
    exact model_shows rfl (List.mem_map_of_mem hfield) htext hempty
  | _ => simp [hkind] at hfield

theorem paramsFragment_showsSlot {group : PlannedGroup}
    (hslot : slot ∈ (paramsFragment links group).slots) (hne : slot ≠ .comment "") :
    (paramsFragment links group).ShowsSlot slot := by
  rw [slots_paramsFragment] at hslot
  obtain ⟨text, htext, rfl⟩ := mem_commentSlots.1 hslot
  obtain ⟨interface, hinterface, htext⟩ := List.mem_flatMap.1 htext
  obtain ⟨field, hfield, htext⟩ := List.mem_map.1 htext
  refine ⟨BuiltinTemplate.params, rfl, ?_⟩
  refine params_shows (List.mem_map_of_mem hinterface) (List.mem_map_of_mem hfield) htext ?_
  exact fun h => hne (by rw [h])

theorem serviceFragment_showsSlot {group : PlannedGroup}
    (hslot : slot ∈ (serviceFragment config links group).slots) (hne : slot ≠ .comment "") :
    (serviceFragment config links group).ShowsSlot slot := by
  rw [slots_serviceFragment] at hslot
  obtain ⟨endpoint, hendpoint, hslot⟩ := List.mem_flatMap.1 hslot
  refine ⟨BuiltinTemplate.service, rfl, ?_⟩
  have hcontext : ∃ interfaces imports,
      serviceContext config links group = .service group interfaces imports := by
    unfold serviceContext
    split
    · exact ⟨_, _, rfl⟩
    · exact ⟨_, _, rfl⟩
  obtain ⟨interfaces, imports, hcontext⟩ := hcontext
  simp only [serviceFragment, hcontext]
  rcases List.mem_append.1 hslot with hslot | hslot
  · obtain ⟨text, htext, rfl⟩ := List.mem_map.1 hslot
    refine service_shows_summary hendpoint (Option.mem_toList.1 htext) ?_
    exact fun h => hne (by rw [h])
  · rw [List.mem_singleton.1 hslot]
    exact service_shows_address hendpoint

theorem thunkFragment_showsSlot {group : PlannedGroup}
    (hslot : slot ∈ (thunkFragment config links group).slots) :
    (thunkFragment config links group).ShowsSlot slot := by
  rw [slots_thunkFragment, PlannedGroup.actionTypes, List.map_map] at hslot
  obtain ⟨endpoint, hendpoint, rfl⟩ := List.mem_map.1 hslot
  exact ⟨BuiltinTemplate.thunk, rfl, thunk_shows_actionType hendpoint⟩

theorem slots_of_other {kind : ArtifactKind}
    (hother : kind ∉ [ArtifactKind.models, .params, .services, .thunks]) {f : Fragment}
    (h : f ∈ fragmentsOf planned config kind) : f.slots = [] := by
  have hkind := kind_of_mem_fragmentsOf h
  unfold Fragment.slots
  split <;> simp_all

/-- Every slot is found in the file that its built-in template makes, unless it is an empty
comment, which is left out. -/
theorem showsSlot {kind : ArtifactKind} {f : Fragment} (hf : f ∈ fragmentsOf planned config kind)
    (hslot : slot ∈ f.slots) (hne : slot ≠ .comment "") : f.ShowsSlot slot := by
  cases kind with
  | models =>
    obtain ⟨type, -, rfl⟩ := List.mem_map.1 hf
    exact modelFragment_showsSlot hslot hne
  | params =>
    obtain ⟨group, -, rfl⟩ := List.mem_map.1 hf
    exact paramsFragment_showsSlot hslot hne
  | services =>
    obtain ⟨group, -, rfl⟩ := List.mem_map.1 hf
    exact serviceFragment_showsSlot hslot hne
  | thunks =>
    obtain ⟨group, -, rfl⟩ := List.mem_map.1 hf
    exact thunkFragment_showsSlot hslot
  | _ =>
    rw [slots_of_other (by decide) hf] at hslot
    cases hslot

theorem lookup_builtin {name : String} {template : Template}
    (h : builtinTemplates.lookup name = some template) :
    TemplateEngine.standard.builtin.lookup name = some template.render? := by
  have hmapped :=
    Dict.lookup_map (fun _ template => Template.render? template) builtinTemplates name
  exact hmapped.trans (by rw [h]; rfl)

theorem Fragment.ShowsSlot.infix_rendered {f : Fragment} (h : f.ShowsSlot slot) {text : String}
    (htext : TemplateLibrary.render ⟨TemplateEngine.standard.builtin⟩ f.template
      f.context.toJson = .ok text) :
    slot.marked.toList <:+: text.toList := by
  obtain ⟨template, htemplate, hshows⟩ := h
  apply hshows
  simp only [TemplateLibrary.render, Context.toJson, TemplateLibrary.template?,
    lookup_builtin htemplate, Option.bind_some] at htext
  split at htext
  · cases htext
    assumption
  · cases htext

end

end ClientGen
