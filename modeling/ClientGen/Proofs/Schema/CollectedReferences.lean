import ClientGen.Proofs.Api.TypeReference
import ClientGen.Proofs.Dict
import ClientGen.Proofs.Ordered
import ClientGen.Proofs.Schema.Nodes
import Mathlib.Logic.Relation

/-!
# References collected before compiling

Types are placed into domains by the references of their raw schemas, which are collected without
a look at what a schema means. What is collected does not depend on the order in which the values of
a schema are searched, and it misses no reference of the compiled schema: compiling goes into parts
of the raw schema only, and makes a reference of nothing but a reference.
-/

namespace ClientGen

namespace Api

/-! ### Last segments -/

/-- A name is all of a text, or all that follows its last slash. -/
def IsLastSegment (name text : String) : Prop :=
  '/' ∉ name.toList ∧ (text = name ∨ ∃ front, text = front ++ "/" ++ name)

theorem isLastSegment_iff {name text : String} :
    IsLastSegment name text ↔ referenceName text = name := by
  constructor
  · rintro ⟨hplain, rfl | ⟨front, rfl⟩⟩
    · exact referenceName_plain hplain
    · rw [referenceName_below, referenceName_plain hplain]
  · rintro rfl
    have hsplit := List.takeWhile_append_dropWhile (p := (· ≠ '/')) (l := text.toList.reverse)
    refine ⟨fun hslash => ?_, ?_⟩
    · rw [referenceName, String.toList_ofList, List.mem_reverse] at hslash
      simpa using List.mem_takeWhile_imp hslash
    · cases hrest : text.toList.reverse.dropWhile (· ≠ '/') with
      | nil =>
        left
        rw [hrest, List.append_nil] at hsplit
        rw [referenceName, hsplit, List.reverse_reverse, String.ofList_toList]
      | cons c front =>
        right
        have hslash : c = '/' := by
          have hhead := List.head?_dropWhile_not (· ≠ '/') text.toList.reverse
          rw [hrest] at hhead
          simpa using hhead
        refine ⟨String.ofList front.reverse, ?_⟩
        rw [hrest, hslash] at hsplit
        have htext := congrArg List.reverse hsplit
        rw [List.reverse_reverse] at htext
        rw [← String.toList_inj, ← htext, referenceName]
        simp

/-! ### References by recursion -/

def memberText? : String × Json → Option String
  | (key, .str text) => if key = "$ref" then some text else none
  | _ => none

mutual

/-- The texts of the references at any depth of a value, from left to right. -/
def referenceTexts : Json → List String
  | .obj members => memberTexts members
  | .arr items => itemTexts items
  | _ => []

def memberTexts : List (String × Json) → List String
  | [] => []
  | (key, value) :: members =>
    (memberText? (key, value)).toList ++ referenceTexts value ++ memberTexts members

def itemTexts : List Json → List String
  | [] => []
  | item :: items => referenceTexts item ++ itemTexts items

end

theorem itemTexts_eq (items : List Json) : itemTexts items = items.flatMap referenceTexts := by
  induction items with
  | nil => rfl
  | cons item rest ih => rw [itemTexts, ih, List.flatMap_cons]

theorem memberText?_eq_some_iff {member : String × Json} {text : String} :
    memberText? member = some text ↔ member = ("$ref", .str text) := by
  obtain ⟨key, value⟩ := member
  cases value <;> simp [memberText?]

theorem mem_memberTexts {members : List (String × Json)} {text : String} :
    text ∈ memberTexts members ↔ ("$ref", Json.str text) ∈ members ∨
      ∃ value ∈ memberValues members, text ∈ referenceTexts value := by
  induction members with
  | nil => simp [memberTexts, memberValues]
  | cons member rest ih =>
    obtain ⟨key, value⟩ := member
    rw [memberTexts, memberValues, List.mem_append, List.mem_append, ih, Option.mem_toList,
      memberText?_eq_some_iff, List.exists_mem_cons_iff, List.mem_cons, eq_comm]
    tauto

theorem mem_flatMap_referenceTexts (text : String) (values : List Json) :
    text ∈ values.flatMap referenceTexts ↔ ∃ value ∈ values, HasReference text value := by
  refine pending_induction (P := fun values => text ∈ values.flatMap referenceTexts ↔
    ∃ value ∈ values, HasReference text value) ?_ ?_ ?_ ?_ values
  · simp
  · intro members rest ih
    rw [List.flatMap_append, List.mem_append, List.mem_flatMap] at ih
    rw [List.flatMap_cons, List.mem_append, referenceTexts, mem_memberTexts,
      List.exists_mem_cons_iff, hasReference_obj_iff]
    simp only [List.mem_append, or_and_right, exists_or] at ih
    rw [or_assoc, or_assoc]
    exact or_congr_right ih
  · intro items rest ih
    rw [List.flatMap_append, List.mem_append] at ih
    rw [List.flatMap_cons, List.mem_append, referenceTexts, itemTexts_eq,
      List.exists_mem_cons_iff, hasReference_arr_iff, ih]
    simp only [List.mem_append, or_and_right, exists_or]
  · intro value rest hobject hlist ih
    have hnone : referenceTexts value = [] := by
      cases value with
      | obj members => cases hobject
      | arr items => cases hlist
      | _ => rfl
    rw [List.flatMap_cons, hnone, List.nil_append, ih, List.exists_mem_cons_iff,
      or_iff_right (not_hasReference_leaf hobject hlist text)]

theorem mem_referenceTexts {text : String} {value : Json} :
    text ∈ referenceTexts value ↔ HasReference text value := by
  have h := mem_flatMap_referenceTexts text [value]
  simpa using h

/-! ### Searching in any order -/

def parts : Json → List Json
  | .obj members => memberValues members
  | .arr items => items
  | _ => []

def ownReferences : Json → List String
  | .obj members => members.filterMap memberReference?
  | _ => []

theorem refersTo_iff {name : String} {value : Json} :
    RefersTo name value ↔
      name ∈ ownReferences value ∨ ∃ part ∈ parts value, RefersTo name part := by
  cases value with
  | obj members => exact refersTo_obj_iff
  | arr items => exact refersTo_arr_iff.trans (or_iff_right List.not_mem_nil).symm
  | _ =>
    refine iff_of_false ?_ (by simp [ownReferences, parts])
    rintro ⟨reference, h, -⟩
    exact not_hasReference_leaf rfl rfl reference h

theorem itemWeight_parts_lt (value : Json) : itemWeight (parts value) < weight value := by
  cases value <;> simp [parts, weight, itemWeight, itemWeight_memberValues]

theorem itemWeight_perm {xs ys : List Json} (h : xs.Perm ys) : itemWeight xs = itemWeight ys := by
  induction h with
  | nil => rfl
  | cons x _ ih => rw [itemWeight, itemWeight, ih]
  | swap x y rest => simp only [itemWeight, Nat.add_left_comm]
  | trans _ _ ih ih' => rw [ih, ih']

/-- A search: the names found so far, and the values that are still to be searched. -/
structure Search where
  found : List String
  pending : List Json

/-- A step takes any of the pending values. The types that it references by its own members are
found, and the values below it are pending, in any order. Texts among them may be left out, since
nothing is below a text. -/
inductive Search.Step : Search → Search → Prop where
  | take {found : List String} {value : Json} {pending rest opened dropped pending' : List Json}
      (hpending : pending.Perm (value :: rest)) (hparts : (opened ++ dropped).Perm (parts value))
      (hdropped : ∀ part ∈ dropped, ∃ text, part = .str text)
      (hpending' : pending'.Perm (opened ++ rest)) :
      Step ⟨found, pending⟩
        ⟨(ownReferences value).foldl (fun set name => insertOrdered name set) found, pending'⟩

def Search.Finds (s : Search) (name : String) : Prop :=
  name ∈ s.found ∨ ∃ value ∈ s.pending, RefersTo name value

namespace Search.Step

theorem front (found : List String) (value : Json) (rest : List Json) :
    Step ⟨found, value :: rest⟩
      ⟨(ownReferences value).foldl (fun set name => insertOrdered name set) found,
        parts value ++ rest⟩ := by
  have hparts : (parts value ++ []).Perm (parts value) := by rw [List.append_nil]
  exact .take (.refl _) hparts (List.forall_mem_nil _) (.refl _)

variable {s t : Search}

theorem weight_lt (h : Step s t) : itemWeight t.pending < itemWeight s.pending := by
  obtain ⟨hpending, hparts, -, hpending'⟩ := h
  rename_i value _ rest opened dropped _
  have hvalue := itemWeight_parts_lt value
  rw [← itemWeight_perm hparts, itemWeight_append] at hvalue
  rw [itemWeight_perm hpending, itemWeight_perm hpending', itemWeight_append, itemWeight]
  omega

theorem finds_iff (h : Step s t) (name : String) : t.Finds name ↔ s.Finds name := by
  obtain ⟨hpending, hparts, hdropped, hpending'⟩ := h
  rename_i value _ rest opened dropped _
  have hnone : ¬∃ part ∈ dropped, RefersTo name part := by
    rintro ⟨part, hpart, reference, h, -⟩
    obtain ⟨text, rfl⟩ := hdropped part hpart
    exact not_hasReference_leaf rfl rfl reference h
  have hopened : (∃ part ∈ parts value, RefersTo name part) ↔
      ∃ part ∈ opened, RefersTo name part := by
    simp only [← hparts.mem_iff, List.mem_append, or_and_right, exists_or]
    exact or_iff_left hnone
  have hvalue : RefersTo name value ↔
      name ∈ ownReferences value ∨ ∃ part ∈ opened, RefersTo name part := by
    rw [refersTo_iff, hopened]
  simp only [Search.Finds, hpending.mem_iff, hpending'.mem_iff, mem_foldl_insertOrdered,
    List.exists_mem_cons_iff, hvalue, List.mem_append, or_and_right, exists_or, or_assoc,
    or_left_comm]

theorem increasing (h : Step s t) (hs : s.found.Pairwise (· < ·)) :
    t.found.Pairwise (· < ·) := by
  obtain ⟨-, -, -, -⟩ := h
  exact List.foldlRecOn (motive := fun set => List.Pairwise (· < ·) set) _ _ hs
    fun _ h a _ => insertOrdered_increasing a h

end Search.Step

namespace Search

variable {s t : Search}

theorem wellFounded_step : WellFounded fun t s : Search => s.Step t :=
  Subrelation.wf (fun h => h.weight_lt) (measure fun s : Search => itemWeight s.pending).wf

theorem exists_step (h : s.pending ≠ []) : ∃ t, s.Step t := by
  obtain ⟨found, pending⟩ := s
  cases pending with
  | nil => exact absurd rfl h
  | cons value rest => exact ⟨_, .front found value rest⟩

theorem run_searchReferences (found : List String) (pending : List Json) :
    Relation.ReflTransGen Step ⟨found, pending⟩ ⟨searchReferences found pending, []⟩ := by
  revert found
  refine pending_induction (P := fun pending => ∀ found, Relation.ReflTransGen Step
    ⟨found, pending⟩ ⟨searchReferences found pending, []⟩) ?_ ?_ ?_ ?_ pending
  · intro found
    rw [searchReferences]
  · intro members rest ih found
    rw [searchReferences]
    exact (ih _).head (.front found (.obj members) rest)
  · intro items rest ih found
    rw [searchReferences]
    exact (ih _).head (.front found (.arr items) rest)
  · intro value rest hobject hlist ih found
    rw [searchReferences_leaf hobject hlist]
    have hstep := Step.front found value rest
    cases value with
    | obj members => cases hobject
    | arr items => cases hlist
    | _ => exact (ih _).head hstep

theorem finds_iff_of_run (h : Relation.ReflTransGen Step s t) (name : String) :
    t.Finds name ↔ s.Finds name := by
  induction h with
  | refl => rfl
  | tail _ hstep ih => exact (hstep.finds_iff name).trans ih

theorem increasing_of_run (h : Relation.ReflTransGen Step s t) (hs : s.found.Pairwise (· < ·)) :
    t.found.Pairwise (· < ·) := by
  induction h with
  | refl => exact hs
  | tail _ hstep ih => exact hstep.increasing ih

theorem collectReferences_increasing (value : Json) :
    (collectReferences value).Pairwise (· < ·) :=
  increasing_of_run (run_searchReferences [] [value]) List.Pairwise.nil

/-- In whatever order a value is searched, the same is found. -/
theorem run_iff {value : Json} {found : List String} :
    Relation.ReflTransGen Step ⟨[], [value]⟩ ⟨found, []⟩ ↔ found = collectReferences value := by
  constructor
  · intro h
    have hfound := increasing_of_run h List.Pairwise.nil
    refine hfound.eq_of_mem_iff (collectReferences_increasing value) fun name => ?_
    have hname := finds_iff_of_run h name
    simp only [Finds, List.not_mem_nil, false_and, exists_false, or_false, false_or,
      List.mem_singleton, exists_eq_left] at hname
    exact hname.trans mem_collectReferences.symm
  · rintro rfl
    exact run_searchReferences [] [value]

end Search

/-- The collection is what recursion gives, as a set. -/
theorem collectReferences_eq (value : Json) :
    collectReferences value = orderedSet ((referenceTexts value).map referenceName) := by
  refine (Search.collectReferences_increasing value).eq_of_mem_iff (orderedSet_increasing _)
    fun name => ?_
  simp only [mem_collectReferences, RefersTo, mem_orderedSet, List.mem_map, mem_referenceTexts]

/-! ### Parts that a schema is compiled by -/

section
variable {name key : String} {raw value : Json}

theorem refersTo_of_get? (hget : raw.get? key = some value) (h : RefersTo name value) :
    RefersTo name raw := by
  cases raw with
  | obj members =>
    exact refersTo_iff.2 (.inr ⟨value, mem_memberValues.2 ⟨key, Dict.mem_of_lookup hget⟩, h⟩)
  | _ => cases hget

theorem refersTo_of_mem_items {items : List Json}
    (hget : (raw.get? key).bind Json.items? = some items) (hmem : value ∈ items)
    (h : RefersTo name value) : RefersTo name raw := by
  obtain ⟨list, hlist, hitems⟩ := Option.bind_eq_some_iff.1 hget
  refine refersTo_of_get? hlist ?_
  cases list with
  | arr _ =>
    injection hitems with hitems
    exact refersTo_iff.2 (.inr ⟨value, by rw [parts, hitems]; exact hmem, h⟩)
  | _ => cases hitems

theorem refersTo_of_getText? {reference : String} (h : raw.getText? "$ref" = some reference) :
    RefersTo (referenceName reference) raw := by
  obtain ⟨text, hget, htext⟩ := Option.bind_eq_some_iff.1 h
  cases raw with
  | obj members =>
    cases text with
    | str _ =>
      injection htext with htext
      rw [htext] at hget
      exact ⟨reference, .here (Dict.mem_of_lookup hget), rfl⟩
    | _ => cases htext
  | _ => cases hget

theorem refersTo_of_mem_unionBranches? {branches : List Json}
    (hbranches : unionBranches? raw = some branches) (hmem : value ∈ branches)
    (h : RefersTo name value) : RefersTo name raw := by
  unfold unionBranches? at hbranches
  split at hbranches
  · rename_i list hlist
    have hitems : (raw.get? "anyOf").bind Json.items? = some branches := by
      rw [hlist]
      exact hbranches
    exact refersTo_of_mem_items hitems hmem h
  · exact refersTo_of_mem_items hbranches hmem h

end

end Api

open Api

/-! ### Names of compiled references -/

def NamedIn (raw : Json) (nodes : List Reference) : Prop := ∀ node ∈ nodes, RefersTo node.1 raw

section
variable {raw : Json}

theorem namedIn_nil : NamedIn raw [] := List.forall_mem_nil _

theorem NamedIn.flatMap {α : Type} {f : α → List Reference} {xs : List α}
    (h : ∀ a ∈ xs, NamedIn raw (f a)) : NamedIn raw (xs.flatMap f) := by
  intro node hnode
  obtain ⟨a, ha, hnode⟩ := List.mem_flatMap.1 hnode
  exact h a ha node hnode

variable {scope : Scope} {inner : Json → String → Compiling Schema}

theorem namedIn_compileReference {location reference : String}
    (h : raw.getText? "$ref" = some reference) :
    NamedIn raw (compileReference scope location (referenceName reference)).value.nodes := by
  intro node hnode
  rw [compileReference, Schema.nodes, List.mem_singleton] at hnode
  rw [hnode]
  exact refersTo_of_getText? h

variable (hinner : ∀ raw location, NamedIn raw (inner raw location).value.nodes)
include hinner

theorem namedIn_compileFields {properties : Json} (location : String)
    (hget : raw.get? "properties" = some properties) :
    NamedIn raw (Schema.fieldNodes (compileFields inner location raw properties).value) := by
  unfold compileFields
  split
  · rename_i members
    rw [Traced.value_each, fieldNodes_eq, List.flatMap_map]
    refine .flatMap fun member hmember node hnode => refersTo_of_get? hget ?_
    have hvalue : member.2 ∈ memberValues members := mem_memberValues.2 ⟨member.1, hmember⟩
    exact refersTo_iff.2 (.inr ⟨member.2, hvalue, hinner member.2 _ node hnode⟩)
  · exact namedIn_nil

theorem namedIn_compileType (location : String) (type : Option String) :
    NamedIn raw (compileType inner location raw type).value.nodes := by
  unfold compileType
  split
  -- only arrays and objects have schemas below them
  case h_7 =>
    split
    · rename_i items hget
      rw [Traced.value_bind, Traced.value_pure, Schema.nodes]
      exact fun node hnode => refersTo_of_get? hget (hinner items location node hnode)
    · simp [Compiling.malformed, Schema.nodes, namedIn_nil]
  case h_8 =>
    split
    · rename_i properties hget
      rw [Traced.value_bind, Traced.value_pure, Schema.nodes]
      exact namedIn_compileFields hinner location hget
    · simp [Schema.nodes, Schema.fieldNodes, namedIn_nil]
  all_goals simp [Compiling.malformed, Schema.plain, Schema.nodes, namedIn_nil]

theorem namedIn_compileTyped (location : String) :
    NamedIn raw (compileTyped inner location raw).value.nodes := by
  unfold compileTyped
  rw [Traced.value_bind, Traced.value_pure, nodes_orNullIf]
  exact namedIn_compileType hinner location _

theorem namedIn_compileShape (location : String) :
    NamedIn raw (compileShape scope inner location raw).value.nodes := by
  unfold compileShape
  split
  · rename_i reference hget
    exact namedIn_compileReference hget
  · split
    · rename_i branches hbranches
      rw [Traced.value_bind, Traced.value_pure, nodes_unionOf, Traced.value_each, List.flatMap_map]
      refine .flatMap fun branch hbranch node hnode => ?_
      exact refersTo_of_mem_unionBranches? hbranches (List.mem_filter.1 hbranch).1
        (hinner branch location node hnode)
    · split
      · rename_i members hmembers
        rw [Traced.value_bind, Traced.value_pure, nodes_intersectionOf, Traced.value_each,
          List.flatMap_map]
        exact .flatMap fun member hmember node hnode =>
          refersTo_of_mem_items hmembers hmember (hinner member location node hnode)
      · exact namedIn_compileTyped hinner location

end

theorem namedIn_compileLevels (scope : Scope) (levels : Nat) (raw : Json) (location : String) :
    NamedIn raw (compileLevels scope levels raw location).value.nodes := by
  -- on the levels that are left: what is compiled below a schema is part of it
  induction levels generalizing raw location with
  | zero => simp [compileLevels, Compiling.malformed, Schema.nodes, namedIn_nil]
  | succ levels ih =>
    unfold compileLevels
    split
    · rw [Traced.value_bind, Traced.value_pure, nodes_orNullIf]
      exact namedIn_compileShape ih location
    · simp [Compiling.malformed, Schema.nodes, namedIn_nil]

theorem namedIn_compileKind (scope : Scope) (name : String) (raw : Json) :
    NamedIn raw (compileKind scope name raw).value.nodes := by
  unfold compileKind
  split
  · split
    · exact namedIn_nil
    · split
      · rename_i properties hget
        exact namedIn_compileFields (fun raw => namedIn_compileLevels scope _ raw) name hget
      · dsimp only
        split <;> exact namedIn_compileLevels scope _ _ name
  · simp [Compiling.malformed, TypeKind.nodes, Schema.nodes, namedIn_nil]

/-- What is collected of a raw schema are the last segments of all references in it, at any depth.
Every search finds them, in whatever order it takes the values: it ends, it goes on as long as
anything is pending, and when nothing is, it has found what recursion gives. The references of the
schema that is compiled are among them, whatever the declared types are, and so are those of a type
that the schema declares. -/
theorem references_collected (raw : Json) :
    (∀ name, name ∈ collectReferences raw ↔
      ∃ text, HasReference text raw ∧ IsLastSegment name text) ∧
    collectReferences raw = orderedSet ((referenceTexts raw).map referenceName) ∧
    Acc (fun later s => Search.Step s later) ⟨[], [raw]⟩ ∧
    (∀ s : Search, Relation.ReflTransGen Search.Step ⟨[], [raw]⟩ s →
      if s.pending = [] then s.found = collectReferences raw else ∃ later, s.Step later) ∧
    ∀ scope : Scope,
      (∀ location, ∀ node ∈ (compileSchema scope raw location).value.nodes,
        node.1 ∈ collectReferences raw) ∧
      ∀ name, ∀ node ∈ (compileDeclaration scope name raw).1.kind.nodes,
        node.1 ∈ collectReferences raw := by
  refine ⟨fun name => ?_, collectReferences_eq raw, Search.wellFounded_step.apply _,
    fun s hrun => ?_, fun scope => ⟨fun location node hnode => ?_, fun name node hnode => ?_⟩⟩
  · simp only [mem_collectReferences, RefersTo, isLastSegment_iff]
  · split
    · rename_i hpending
      obtain ⟨found, pending⟩ := s
      exact Search.run_iff.1 (hpending ▸ hrun)
    · rename_i hpending
      exact Search.exists_step hpending
  · exact mem_collectReferences.2 (namedIn_compileLevels scope _ raw location node hnode)
  · exact mem_collectReferences.2 (namedIn_compileKind scope name raw node hnode)

/-- A keeper has some animals and an owner. An example beside them has a member that looks like a
reference to a plant. -/
def keeperSchema : Json :=
  .obj [("properties", .obj [
      ("animals", .obj [("items", .obj [("$ref", .str "#/definitions/Animal")])]),
      ("owner", .obj [("$ref", .str "#/definitions/Owner")])]),
    ("example", .arr [.obj [("$ref", .str "plants/Plant")]])]

def keeperScope : Scope := .of (.ofList [("Animal", .obj [("type", .str "object")])])

theorem keeperSchema_references_collected :
    collectReferences keeperSchema = ["Animal", "Owner", "Plant"] ∧
    HasReference "plants/Plant" keeperSchema ∧ IsLastSegment "Plant" "plants/Plant" ∧
    "Plant" ∈ collectReferences keeperSchema ∧
    ("Animal", Target.model) ∈ (compileSchema keeperScope keeperSchema "x").value.nodes ∧
    "Animal" ∈ collectReferences keeperSchema ∧
    ("Owner", Target.unresolved) ∈
      (compileDeclaration keeperScope "Keeper" keeperSchema).1.kind.nodes ∧
    "Owner" ∈ collectReferences keeperSchema ∧
    ∃ later, Search.Step ⟨[], [keeperSchema]⟩ later := by
  obtain ⟨hsegments, hrecursive, -, hruns, hcompiled⟩ := references_collected keeperSchema
  have hplant : HasReference "plants/Plant" keeperSchema :=
    .member (List.mem_cons_of_mem _ (List.mem_cons_self ..))
      (.item (List.mem_cons_self ..) (.here (List.mem_cons_self ..)))
  have hsegment : IsLastSegment "Plant" "plants/Plant" := ⟨by decide, .inr ⟨"plants", by decide⟩⟩
  have hanimal : ("Animal", Target.model) ∈
      (compileSchema keeperScope keeperSchema "x").value.nodes := List.mem_cons_self ..
  have howner : ("Owner", Target.unresolved) ∈
      (compileDeclaration keeperScope "Keeper" keeperSchema).1.kind.nodes :=
    List.mem_cons_of_mem _ (List.mem_cons_self ..)
  refine ⟨?_, hplant, hsegment, (hsegments _).2 ⟨_, hplant, hsegment⟩, hanimal,
    (hcompiled keeperScope).1 "x" _ hanimal, howner,
    (hcompiled keeperScope).2 "Keeper" _ howner, ?_⟩
  · rw [hrecursive]
    decide
  · have hstart := hruns _ Relation.ReflTransGen.refl
    rwa [if_neg (by simp)] at hstart

end ClientGen
