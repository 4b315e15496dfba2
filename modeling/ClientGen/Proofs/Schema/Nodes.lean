import ClientGen.Proofs.FirstOccurrence
import ClientGen.Schema.Compile

/-!
# Reference nodes of compiled schemas

Compiling notes every reference that it makes: the declared type that it leads to, or a warning
where it leads nowhere. The reference nodes of what comes out are exactly those that were noted, in
their order and each with what the scope says of it. Every shape of a raw schema keeps this, at
every depth: no part of a schema is left out after its references were noted.
-/

namespace ClientGen
open Api

/-! ### Nodes -/

mutual

/-- The reference nodes of a schema, from left to right, those that lead nowhere included. -/
def Schema.nodes : Schema → List Reference
  | .reference name target => [(name, target)]
  | .array element => element.nodes
  | .nullable inner => inner.nodes
  | .object fields => Schema.fieldNodes fields
  | .union branches => Schema.itemNodes branches
  | .intersection members => Schema.itemNodes members
  | _ => []

def Schema.fieldNodes : List (FieldOf Schema) → List Reference
  | [] => []
  | ⟨_, schema, _, _⟩ :: fields => schema.nodes ++ Schema.fieldNodes fields

def Schema.itemNodes : List Schema → List Reference
  | [] => []
  | schema :: schemas => schema.nodes ++ Schema.itemNodes schemas

end

mutual

/-- The reference nodes of a schema that lead somewhere, from left to right. -/
def Schema.resolvedNodes : Schema → List Reference
  | .reference name target => if target = .unresolved then [] else [(name, target)]
  | .array element => element.resolvedNodes
  | .nullable inner => inner.resolvedNodes
  | .object fields => Schema.resolvedFieldNodes fields
  | .union branches => Schema.resolvedItemNodes branches
  | .intersection members => Schema.resolvedItemNodes members
  | _ => []

def Schema.resolvedFieldNodes : List (FieldOf Schema) → List Reference
  | [] => []
  | ⟨_, schema, _, _⟩ :: fields => schema.resolvedNodes ++ Schema.resolvedFieldNodes fields

def Schema.resolvedItemNodes : List Schema → List Reference
  | [] => []
  | schema :: schemas => schema.resolvedNodes ++ Schema.resolvedItemNodes schemas

end

theorem fieldNodes_eq (fields : List Field) :
    Schema.fieldNodes fields = fields.flatMap fun field => field.schema.nodes := by
  induction fields with
  | nil => simp [Schema.fieldNodes]
  | cons field rest ih => rw [Schema.fieldNodes, ih, List.flatMap_cons]

theorem itemNodes_eq (schemas : List Schema) :
    Schema.itemNodes schemas = schemas.flatMap Schema.nodes := by
  induction schemas with
  | nil => simp [Schema.itemNodes]
  | cons schema rest ih => rw [Schema.itemNodes, ih, List.flatMap_cons]

theorem resolvedItemNodes_eq (schemas : List Schema) :
    Schema.resolvedItemNodes schemas = schemas.flatMap Schema.resolvedNodes := by
  induction schemas with
  | nil => simp [Schema.resolvedItemNodes]
  | cons schema rest ih => rw [Schema.resolvedItemNodes, ih, List.flatMap_cons]

theorem resolvedFieldNodes_eq (fields : List Field) :
    Schema.resolvedFieldNodes fields = fields.flatMap fun field => field.schema.resolvedNodes := by
  induction fields with
  | nil => simp [Schema.resolvedFieldNodes]
  | cons field rest ih => rw [Schema.resolvedFieldNodes, ih, List.flatMap_cons]

mutual

/-- The resolved nodes are those of all nodes that lead somewhere. -/
theorem resolvedNodes_eq_filter (schema : Schema) :
    schema.resolvedNodes = schema.nodes.filter fun node => node.2 ≠ .unresolved := by
  cases schema with
  | reference name target => cases target <;> simp [Schema.resolvedNodes, Schema.nodes]
  | array element =>
    rw [Schema.resolvedNodes, Schema.nodes]
    exact resolvedNodes_eq_filter element
  | nullable inner =>
    rw [Schema.resolvedNodes, Schema.nodes]
    exact resolvedNodes_eq_filter inner
  | object fields =>
    rw [Schema.resolvedNodes, Schema.nodes]
    exact resolvedFieldNodes_eq_filter fields
  | union branches =>
    rw [Schema.resolvedNodes, Schema.nodes]
    exact resolvedItemNodes_eq_filter branches
  | intersection members =>
    rw [Schema.resolvedNodes, Schema.nodes]
    exact resolvedItemNodes_eq_filter members
  | _ => simp [Schema.resolvedNodes, Schema.nodes]

theorem resolvedFieldNodes_eq_filter (fields : List Field) :
    Schema.resolvedFieldNodes fields =
      (Schema.fieldNodes fields).filter fun node => node.2 ≠ .unresolved := by
  cases fields with
  | nil => simp [Schema.resolvedFieldNodes, Schema.fieldNodes]
  | cons field rest =>
    rw [Schema.resolvedFieldNodes, Schema.fieldNodes, List.filter_append,
      resolvedNodes_eq_filter field.schema, resolvedFieldNodes_eq_filter rest]

theorem resolvedItemNodes_eq_filter (schemas : List Schema) :
    Schema.resolvedItemNodes schemas =
      (Schema.itemNodes schemas).filter fun node => node.2 ≠ .unresolved := by
  cases schemas with
  | nil => simp [Schema.resolvedItemNodes, Schema.itemNodes]
  | cons schema rest =>
    rw [Schema.resolvedItemNodes, Schema.itemNodes, List.filter_append,
      resolvedNodes_eq_filter schema, resolvedItemNodes_eq_filter rest]

end

/-- The reference nodes of a declared type, from left to right. -/
def TypeKind.nodes : TypeKind → List Reference
  | .object fields => Schema.fieldNodes fields
  | .enum _ => []
  | .alias schema => schema.nodes

/-- The resolved reference nodes of a declared type, from left to right. -/
def TypeKind.resolvedNodes : TypeKind → List Reference
  | .object fields => Schema.resolvedFieldNodes fields
  | .enum _ => []
  | .alias schema => schema.resolvedNodes

theorem resolved_of_mem_resolvedNodes {schema : Schema} {node : Reference}
    (h : node ∈ schema.resolvedNodes) : node.2 ≠ .unresolved := by
  rw [resolvedNodes_eq_filter] at h
  exact of_decide_eq_true (List.mem_filter.1 h).2

/-! ### Noted nodes -/

def CompileNote.node? (scope : Scope) : CompileNote → Option Reference
  | .mention name => some (name, scope.target name)
  | .warning (.unresolvable _ name) => some (name, .unresolved)
  | .warning _ => none

def notedNodes (scope : Scope) (notes : List CompileNote) : List Reference :=
  notes.filterMap (CompileNote.node? scope)

/-- Only names that lead somewhere are mentioned, and only those that lead nowhere are warned of. -/
def CompileNote.Agrees (scope : Scope) : CompileNote → Prop
  | .mention name => scope.target name ≠ .unresolved
  | .warning (.unresolvable _ name) => scope.target name = .unresolved
  | .warning _ => True

/-- The nodes of a result are those that its notes speak of. -/
structure Tracks {α : Type} (scope : Scope) (nodes : α → List Reference) (x : Compiling α) :
    Prop where
  nodes_eq : nodes x.value = notedNodes scope x.trace
  agrees : ∀ note ∈ x.trace, note.Agrees scope

theorem notedNodes_append (scope : Scope) (first second : List CompileNote) :
    notedNodes scope (first ++ second) = notedNodes scope first ++ notedNodes scope second :=
  List.filterMap_append

theorem notedNodes_flatMap {α : Type} (scope : Scope) (notes : α → List CompileNote)
    (xs : List α) :
    notedNodes scope (xs.flatMap notes) = xs.flatMap fun a => notedNodes scope (notes a) := by
  induction xs with
  | nil => rfl
  | cons a rest ih => rw [List.flatMap_cons, List.flatMap_cons, notedNodes_append, ih]

namespace Tracks

variable {α β : Type} {scope : Scope}

theorem clean {nodes : α → List Reference} {a : α} (h : nodes a = []) :
    Tracks scope nodes (.clean a) :=
  ⟨h, List.forall_mem_nil _⟩

theorem malformed {nodes : α → List Reference} {a : α} (location : String)
    (problem : Malformation) (h : nodes a = []) :
    Tracks scope nodes (.malformed location problem a) :=
  ⟨h, List.forall_mem_singleton.2 trivial⟩

theorem map {nodes : α → List Reference} {nodes' : β → List Reference} {x : Compiling α}
    {f : α → β} (h : Tracks scope nodes x) (hf : nodes' (f x.value) = nodes x.value) :
    Tracks scope nodes' (x >>= fun a => pure (f a)) := by
  have htrace : (x >>= fun a => pure (f a)).trace = x.trace := by
    rw [Traced.trace_bind, Traced.trace_pure, List.append_nil]
  refine ⟨?_, ?_⟩
  · rw [htrace, ← h.nodes_eq, ← hf]
    rfl
  · rw [htrace]
    exact h.agrees

theorem each {nodes : β → List Reference} {f : α → Compiling β} {xs : List α}
    (h : ∀ a ∈ xs, Tracks scope nodes (f a)) :
    Tracks scope (fun bs : List β => bs.flatMap nodes) (Traced.each f xs) := by
  refine ⟨?_, ?_⟩
  · rw [Traced.value_each, Traced.trace_each, notedNodes_flatMap, List.flatMap_map]
    exact List.flatMap_congr fun a ha => (h a ha).nodes_eq
  · intro note hnote
    rw [Traced.trace_each] at hnote
    obtain ⟨a, ha, hnote⟩ := List.mem_flatMap.1 hnote
    exact (h a ha).agrees note hnote

theorem after_malformed {nodes : α → List Reference} {x : Compiling α}
    (h : Tracks scope nodes x) (location : String) (problem : Malformation) :
    Tracks scope nodes (Traced.note (.warning (.malformed location problem)) >>= fun _ => x) :=
  ⟨h.nodes_eq, List.forall_mem_cons.2 ⟨trivial, h.agrees⟩⟩

end Tracks

/-! ### Nodes of parts -/

theorem nodes_orNull (schema : Schema) : schema.orNull.nodes = schema.nodes := by
  cases schema <;> simp [Schema.orNull, Schema.nodes]

theorem nodes_orNullIf (hasNull : Bool) (schema : Schema) :
    (if hasNull then schema.orNull else schema).nodes = schema.nodes := by
  cases hasNull with
  | true => exact nodes_orNull schema
  | false => rfl

theorem nodes_unionOf (hasNull : Bool) (schemas : List Schema) :
    (unionOf hasNull schemas).nodes = schemas.flatMap Schema.nodes := by
  unfold unionOf
  split
  · simp [Schema.nodes]
  · simp [nodes_orNullIf]
  · simp [nodes_orNullIf, Schema.nodes, itemNodes_eq]

theorem nodes_intersectionOf (schemas : List Schema) :
    (intersectionOf schemas).nodes = schemas.flatMap Schema.nodes := by
  unfold intersectionOf
  split
  · simp [Schema.nodes]
  · simp
  · simp [Schema.nodes, itemNodes_eq]

/-! ### One level -/

section
variable {scope : Scope} {inner : Json → String → Compiling Schema}

theorem tracks_compileReference (location name : String) :
    Tracks scope Schema.nodes (compileReference scope location name) := by
  unfold compileReference
  by_cases h : scope.target name = .unresolved
  · rw [h]
    exact ⟨by simp [Schema.nodes, notedNodes, CompileNote.node?], List.forall_mem_singleton.2 h⟩
  · simp only [if_neg h]
    exact ⟨by simp [Schema.nodes, notedNodes, CompileNote.node?], List.forall_mem_singleton.2 h⟩

variable (hinner : ∀ raw location, Tracks scope Schema.nodes (inner raw location))
include hinner

theorem tracks_compileFields (location : String) (raw properties : Json) :
    Tracks scope Schema.fieldNodes (compileFields inner location raw properties) := by
  have hnodes : Schema.fieldNodes = fun fields : List Field =>
      fields.flatMap fun field => field.schema.nodes := funext fieldNodes_eq
  rw [hnodes]
  unfold compileFields
  split
  · refine @Tracks.each _ _ scope (fun field : Field => field.schema.nodes) _ _ ?_
    rintro ⟨name, property⟩ _
    exact (hinner property _).map rfl
  · exact .malformed location _ rfl

theorem tracks_compileType (location : String) (raw : Json) (type : Option String) :
    Tracks scope Schema.nodes (compileType inner location raw type) := by
  unfold compileType
  split
  -- only arrays and objects have schemas below them
  case h_7 =>
    split
    · exact (hinner _ _).map (by simp [Schema.nodes])
    · exact .malformed location _ (by simp [Schema.nodes])
  case h_8 =>
    split
    · exact (tracks_compileFields hinner _ _ _).map (by simp [Schema.nodes])
    · exact .clean (by simp [Schema.nodes, Schema.fieldNodes])
  case h_10 => exact .malformed location _ (by simp [Schema.nodes])
  all_goals exact .clean (by simp [Schema.plain, Schema.nodes])

theorem tracks_compileTyped (location : String) (raw : Json) :
    Tracks scope Schema.nodes (compileTyped inner location raw) := by
  unfold compileTyped
  exact (tracks_compileType hinner location raw _).map (nodes_orNullIf _ _)

theorem tracks_compileShape (location : String) (raw : Json) :
    Tracks scope Schema.nodes (compileShape scope inner location raw) := by
  unfold compileShape
  split
  · exact tracks_compileReference location _
  · split
    · exact (Tracks.each fun branch _ => hinner branch location).map (nodes_unionOf _ _)
    · split
      · exact (Tracks.each fun member _ => hinner member location).map (nodes_intersectionOf _)
      · exact tracks_compileTyped hinner location raw

end

/-! ### All levels -/

theorem tracks_compileLevels (scope : Scope) (levels : Nat) (raw : Json) (location : String) :
    Tracks scope Schema.nodes (compileLevels scope levels raw location) := by
  -- on the levels that are left: one level tracks its nodes if all below it do
  induction levels generalizing raw location with
  | zero => exact .malformed location _ (by simp [Schema.nodes])
  | succ levels ih =>
    unfold compileLevels
    split
    · exact (tracks_compileShape ih location _).map (nodes_orNullIf _ _)
    · exact .malformed location _ (by simp [Schema.nodes])

theorem tracks_compileSchema (scope : Scope) (raw : Json) (location : String) :
    Tracks scope Schema.nodes (compileSchema scope raw location) :=
  tracks_compileLevels scope _ raw location

theorem tracks_compileKind (scope : Scope) (name : String) (raw : Json) :
    Tracks scope TypeKind.nodes (compileKind scope name raw) := by
  have halias : Tracks scope TypeKind.nodes
      (compileAt scope 0 raw name >>= fun schema => pure (.alias schema)) :=
    (tracks_compileLevels scope _ raw name).map rfl
  unfold compileKind
  split
  · split
    · exact .clean rfl
    · split
      · exact (tracks_compileFields (fun raw => tracks_compileLevels scope _ raw) name _ _).map rfl
      · dsimp only
        split
        · exact halias.after_malformed name _
        · exact halias
  · exact .malformed name _ (by simp [TypeKind.nodes, Schema.nodes])

/-! ### What notes say of nodes -/

/-- The names of the nodes that lead somewhere. -/
def resolvedNames (nodes : List Reference) : List String :=
  (nodes.filter fun node => node.2 ≠ .unresolved).map Prod.fst

/-- The names of the nodes that lead nowhere. -/
def unresolvedNames (nodes : List Reference) : List String :=
  (nodes.filter fun node => node.2 = .unresolved).map Prod.fst

/-- The name that a warning says leads nowhere. -/
def Warning.unresolvedName? : Warning → Option String
  | .unresolvable _ name => some name
  | _ => none

section
variable {α : Type} {scope : Scope} {nodes : α → List Reference} {x : Compiling α}

theorem Tracks.target (h : Tracks scope nodes x) {node : Reference}
    (hnode : node ∈ nodes x.value) : node.2 = scope.target node.1 := by
  rw [h.nodes_eq] at hnode
  obtain ⟨note, hnote, hsame⟩ := List.mem_filterMap.1 hnode
  have hagrees := h.agrees note hnote
  match note with
  | .mention _ =>
    injection hsame with hsame
    rw [← hsame]
  | .warning (.unresolvable _ name) =>
    injection hsame with hsame
    rw [← hsame]
    exact hagrees.symm

theorem filterMap_notes_eq {read : CompileNote → Option String} {p : Target → Bool}
    (hread : ∀ note, note.Agrees scope →
      read note = ((note.node? scope).filter fun node => p node.2).map Prod.fst)
    {notes : List CompileNote} (h : ∀ note ∈ notes, note.Agrees scope) :
    notes.filterMap read = ((notedNodes scope notes).filter fun node => p node.2).map Prod.fst := by
  rw [notedNodes, List.filter_filterMap, List.map_filterMap]
  exact List.filterMap_congr fun note hnote => hread note (h note hnote)

/-- The names that are mentioned are those of the resolved nodes. -/
theorem Tracks.mentions_eq (h : Tracks scope nodes x) :
    x.mentions = orderedSet (resolvedNames (nodes x.value)) := by
  rw [Compiling.mentions, h.nodes_eq, resolvedNames]
  congr 1
  refine filterMap_notes_eq (p := fun target => target ≠ .unresolved) (fun note hnote => ?_)
    h.agrees
  match note with
  | .mention name =>
    have hresolved : scope.target name ≠ .unresolved := hnote
    simp [CompileNote.node?, Option.filter, hresolved]
  | .warning (.unresolvable _ _) => simp [CompileNote.node?, Option.filter]
  | .warning (.malformed _ _) => simp [CompileNote.node?]
  | .warning (.exhausted _) => simp [CompileNote.node?]

/-- The names that are warned of are those of the nodes that lead nowhere, in their order. -/
theorem Tracks.unresolved_eq (h : Tracks scope nodes x) :
    x.warnings.filterMap Warning.unresolvedName? = unresolvedNames (nodes x.value) := by
  rw [Compiling.warnings, h.nodes_eq, List.filterMap_filterMap, unresolvedNames]
  refine filterMap_notes_eq (p := fun target => target = .unresolved) (fun note hnote => ?_)
    h.agrees
  match note with
  | .mention name =>
    have hresolved : scope.target name ≠ .unresolved := hnote
    simp [CompileNote.node?, Option.filter, hresolved]
  | .warning (.unresolvable _ _) => simp [CompileNote.node?, Option.filter, Warning.unresolvedName?]
  | .warning (.malformed _ _) => simp [CompileNote.node?, Warning.unresolvedName?]
  | .warning (.exhausted _) => simp [CompileNote.node?, Warning.unresolvedName?]

end

theorem nested_eq (scope : Scope) (name : String) (raw : Json) :
    (compileDeclaration scope name raw).1.nested =
      (orderedSet (resolvedNames (compileDeclaration scope name raw).1.kind.nodes)).filter
        (· ≠ name) := by
  rw [compileDeclaration, (tracks_compileKind scope name raw).mentions_eq]

theorem target_of_mem_nested {scope : Scope} {name nested : String} {raw : Json}
    (h : nested ∈ (compileDeclaration scope name raw).1.nested) :
    scope.target nested ≠ .unresolved := by
  rw [nested_eq, List.mem_filter, mem_orderedSet, resolvedNames] at h
  obtain ⟨node, hnode, rfl⟩ := List.mem_map.1 h.1
  obtain ⟨hnode, hresolved⟩ := List.mem_filter.1 hnode
  rw [← (tracks_compileKind scope name raw).target hnode]
  exact of_decide_eq_true hresolved

/-! ### References -/

def InScope (scope : Scope) (reference : Reference) : Prop :=
  reference.2 = scope.target reference.1 ∧ reference.2 ≠ .unresolved

theorem inScope_of_mem_resolvedNodes {scope : Scope} {raw : Json} {location : String}
    {node : Reference} (h : node ∈ (compileSchema scope raw location).value.resolvedNodes) :
    InScope scope node := by
  refine ⟨?_, resolved_of_mem_resolvedNodes h⟩
  rw [resolvedNodes_eq_filter] at h
  exact (tracks_compileSchema scope raw location).target (List.mem_filter.1 h).1

theorem addReference_eq (found : List Reference) (name : String) (target : Target) :
    Schema.addReference found name target =
      (Schema.reference name target).resolvedNodes.foldl (keepNew Prod.fst) found := by
  unfold Schema.addReference Schema.resolvedNodes
  by_cases h : target = .unresolved
  · rw [decide_eq_true h, if_pos h]
    rfl
  · rw [decide_eq_false h, if_neg h, Bool.false_or]
    rfl

theorem searchReferences_eq (found : List Reference) (pending : List Schema) :
    Schema.searchReferences found pending =
      (pending.flatMap Schema.resolvedNodes).foldl (keepNew Prod.fst) found := by
  fun_induction Schema.searchReferences found pending with
  | case1 => rfl
  | case2 found name target rest ih =>
    rw [ih, List.flatMap_cons, List.foldl_append, ← addReference_eq]
  | case3 found inner rest ih | case4 found inner rest ih =>
    rw [ih, List.flatMap_cons, List.flatMap_cons, Schema.resolvedNodes]
  | case5 found fields rest ih =>
    rw [ih, List.flatMap_append, List.flatMap_cons, Schema.resolvedNodes, resolvedFieldNodes_eq,
      Schema.fieldSchemas, List.flatMap_map]
  | case6 found parts rest ih | case7 found parts rest ih =>
    rw [ih, List.flatMap_append, List.flatMap_cons, Schema.resolvedNodes, resolvedItemNodes_eq]
  | case8 found kind constraints rest ih =>
    rw [ih]
    simp [Schema.resolvedNodes]
  | case9 found rest ih =>
    rw [ih]
    simp [Schema.resolvedNodes]

theorem references_eq (schema : Schema) :
    schema.references = firstOccurrences Prod.fst schema.resolvedNodes := by
  rw [Schema.references, searchReferences_eq, List.flatMap_cons, List.flatMap_nil, List.append_nil]
  rfl

theorem mem_resolvedNodes_of_mem_references {schema : Schema} {reference : Reference}
    (h : reference ∈ schema.references) : reference ∈ schema.resolvedNodes := by
  rw [references_eq] at h
  exact mem_of_mem_firstOccurrences h

/-- Of the nodes of one name the first stands for all, since they lead to one place. -/
theorem mem_references_of_mem_resolvedNodes {scope : Scope} {raw : Json} {location : String}
    {node : Reference} (h : node ∈ (compileSchema scope raw location).value.resolvedNodes) :
    node ∈ (compileSchema scope raw location).value.references := by
  have hfirst : ∃ first ∈ (compileSchema scope raw location).value.references,
      first.1 = node.1 := by
    rw [references_eq]
    exact exists_mem_firstOccurrences (·.1) h
  obtain ⟨first, hfirst, hname⟩ := hfirst
  have hnode := (inScope_of_mem_resolvedNodes h).1
  have htarget := (inScope_of_mem_resolvedNodes (mem_resolvedNodes_of_mem_references hfirst)).1
  have hsame : first = node := Prod.ext hname (by rw [htarget, hnode, hname])
  rw [← hsame]
  exact hfirst

theorem references_names (schema : Schema) :
    schema.references.map Prod.fst = (resolvedNames schema.nodes).eraseDups ∧
      ∀ reference ∈ schema.references, reference ∈ schema.nodes := by
  refine ⟨?_, fun reference h => ?_⟩
  · rw [references_eq, map_firstOccurrences, resolvedNodes_eq_filter, resolvedNames]
  · have hnode := mem_resolvedNodes_of_mem_references h
    rw [resolvedNodes_eq_filter] at hnode
    exact (List.mem_filter.1 hnode).1

/-- What compiling says beside its result is what the nodes of the result say: the mentioned names
and the names that are warned of are those of the nodes, and so are the references that are
collected from the result afterwards. The nested names of a declared type are the mentioned ones
without its own. -/
theorem notes_match_nodes (scope : Scope) (raw : Json) :
    (∀ location, let compiled := compileSchema scope raw location
      compiled.mentions = orderedSet (resolvedNames compiled.value.nodes) ∧
      compiled.warnings.filterMap Warning.unresolvedName? =
        unresolvedNames compiled.value.nodes ∧
      compiled.value.references.map Prod.fst = (resolvedNames compiled.value.nodes).eraseDups ∧
      ∀ reference ∈ compiled.value.references, reference ∈ compiled.value.nodes) ∧
    ∀ name, let declared := compileDeclaration scope name raw
      declared.1.nested =
        (orderedSet (resolvedNames declared.1.kind.nodes)).filter (· ≠ name) ∧
      declared.2.filterMap Warning.unresolvedName? = unresolvedNames declared.1.kind.nodes := by
  refine ⟨fun location => ?_, fun name => ⟨nested_eq scope name raw, ?_⟩⟩
  · have htracks := tracks_compileSchema scope raw location
    exact ⟨htracks.mentions_eq, htracks.unresolved_eq, references_names _⟩
  · exact (tracks_compileKind scope name raw).unresolved_eq

end ClientGen
