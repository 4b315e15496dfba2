import ClientGen.Endpoint.Naming
import ClientGen.Proofs.Text.Capitals
import ClientGen.Proofs.Text.Pieces

/-!
# The parts of a name

The name of a call is put together from fixed words, from its summary and from texts of its path,
which stand in it in camel case or capitalized. What holds of every such part holds of the name, and
the name starts as the first part does that is not empty.
-/

namespace ClientGen
open Api Text

/-- A part of the name of a call: a fixed word, or a text of the document. -/
inductive NamePart where
  | word (text : String)
  | camel (text : String)
  | pascal (text : String)
deriving DecidableEq, Repr

def NamePart.text : NamePart → String
  | word text => text
  | camel text => camelCase text
  | pascal text => pascalCase text

@[simp] theorem NamePart.text_word (text : String) : (word text).text = text := rfl

@[simp] theorem NamePart.text_camel (text : String) : (camel text).text = camelCase text := rfl

@[simp] theorem NamePart.text_pascal (text : String) : (pascal text).text = pascalCase text := rfl

def nameWords : List String :=
  ["list", "get", "insert", "update", "delete", "endpoint"] ++ Method.all.map Method.ending

namespace NameBasis

variable (basis : NameBasis)

def plainPart : NamePart := .camel (String.intercalate "_" basis.literals)

def resourcePart : NamePart := .pascal (basis.literals.head?.getD "")

def placeholderParts : List NamePart := basis.placeholders.map .pascal

def mutationParts : List NamePart :=
  match basis.action? with
  | some action => .camel action :: basis.resourcePart :: basis.placeholderParts
  | none =>
    match basis.method with
    | .post =>
      if basis.literals.length = 1 then [.word "insert", basis.resourcePart] else [basis.plainPart]
    | .put => .word "update" :: basis.resourcePart :: basis.placeholderParts
    | .patch => .word "update" :: basis.resourcePart :: basis.placeholderParts
    | .delete => .word "delete" :: basis.resourcePart :: basis.placeholderParts
    | .get => [basis.plainPart]

def shapeParts : List NamePart :=
  if basis.isList then [.word "list", basis.resourcePart]
  else if basis.method = .get && basis.hasPathParameters then
    .word "get" :: basis.segments.map fun segment => .pascal (bareSegment segment)
  else if basis.method.isMutation then basis.mutationParts
  else [basis.plainPart]

def parts : List NamePart :=
  (if basis.summaryName ≠ "" then (basis.summary.map NamePart.camel).toList
    else if basis.shapeName ≠ "" then basis.shapeParts
    else [.word "endpoint"]) ++ [.word basis.method.ending]

theorem mem_literals_of_action? {basis : NameBasis} {action : String}
    (h : basis.action? = some action) : action ∈ basis.literals := by
  unfold action? at h
  split at h
  · rename_i first second rest hliterals
    dsimp only at h
    split at h
    · cases h
    · have hlast : (second :: rest).getLast?.getD second ∈ second :: rest := by
        rw [List.getLast?_eq_some_getLast (List.cons_ne_nil _ _)]
        exact List.getLast_mem _
      rw [hliterals, ← Option.some.inj h]
      exact List.mem_cons_of_mem _ hlast
  · cases h

theorem bareSegment_of_mem_literals {basis : NameBasis} {segment : String}
    (h : segment ∈ basis.literals) : bareSegment segment = segment := by
  rw [bareSegment, Option.isNone_iff_eq_none.1 (List.mem_filter.1 h).2, Option.getD_none]

/-- Where a part of the name of a call comes from. -/
inductive Supplies (basis : NameBasis) : NamePart → Prop
  | word {text : String} (h : text ∈ nameWords) : Supplies basis (.word text)
  | summary {text : String} (h : text ∈ basis.summary) : Supplies basis (.camel text)
  | joined : Supplies basis basis.plainPart
  | action {segment : String} (h : segment ∈ basis.segments) : Supplies basis (.camel segment)
  | segment {segment : String} (h : segment ∈ basis.segments) :
    Supplies basis (.pascal (bareSegment segment))
  | empty : Supplies basis (.pascal "")

variable {basis}

theorem supplies_resourcePart : basis.Supplies basis.resourcePart := by
  unfold resourcePart
  cases hliterals : basis.literals with
  | nil => exact .empty
  | cons first rest =>
    have hfirst : first ∈ basis.literals := by rw [hliterals]; exact List.mem_cons_self ..
    rw [List.head?_cons, Option.getD_some, ← bareSegment_of_mem_literals hfirst]
    exact .segment (List.mem_filter.1 hfirst).1

theorem supplies_placeholderParts : ∀ part ∈ basis.placeholderParts, basis.Supplies part := by
  intro part hpart
  obtain ⟨name, hname, rfl⟩ := List.mem_map.1 hpart
  obtain ⟨segment, hsegment, hname⟩ := List.mem_filterMap.1 hname
  have hbare : bareSegment segment = name := by rw [bareSegment, hname, Option.getD_some]
  exact hbare ▸ .segment hsegment

theorem supplies_mutationParts : ∀ part ∈ basis.mutationParts, basis.Supplies part := by
  -- what an action or a word stands before
  have hbehind : ∀ {first : NamePart}, basis.Supplies first →
      ∀ part ∈ first :: basis.resourcePart :: basis.placeholderParts, basis.Supplies part :=
    fun hfirst => List.forall_mem_cons.2
      ⟨hfirst, List.forall_mem_cons.2 ⟨supplies_resourcePart, supplies_placeholderParts⟩⟩
  unfold mutationParts
  cases haction : basis.action? with
  | some action =>
    exact hbehind (.action (List.mem_filter.1 (mem_literals_of_action? haction)).1)
  | none =>
    cases basis.method with
    | get => exact List.forall_mem_singleton.2 .joined
    | post =>
      dsimp only
      split
      · exact List.forall_mem_cons.2
          ⟨.word (by decide), List.forall_mem_singleton.2 supplies_resourcePart⟩
      · exact List.forall_mem_singleton.2 .joined
    | put => exact hbehind (.word (by decide))
    | patch => exact hbehind (.word (by decide))
    | delete => exact hbehind (.word (by decide))

theorem supplies_shapeParts : ∀ part ∈ basis.shapeParts, basis.Supplies part := by
  unfold shapeParts
  split
  · exact List.forall_mem_cons.2
      ⟨.word (by decide), List.forall_mem_singleton.2 supplies_resourcePart⟩
  · split
    · refine List.forall_mem_cons.2 ⟨.word (by decide), fun part hpart => ?_⟩
      obtain ⟨segment, hsegment, rfl⟩ := List.mem_map.1 hpart
      exact .segment hsegment
    · split
      · exact supplies_mutationParts
      · exact List.forall_mem_singleton.2 .joined

theorem supplies_parts : ∀ part ∈ basis.parts, basis.Supplies part := by
  have hending : basis.method.ending ∈ nameWords := by cases basis.method <;> decide
  unfold parts
  rw [List.forall_mem_append]
  refine ⟨?_, List.forall_mem_singleton.2 (.word hending)⟩
  split
  · intro part hpart
    obtain ⟨summary, hsummary, rfl⟩ := Option.map_eq_some_iff.1 (Option.mem_toList.1 hpart)
    exact .summary hsummary
  · split
    · exact supplies_shapeParts
    · exact List.forall_mem_singleton.2 (.word (by decide))

section
variable (hpath : IsAsciiText basis.path)
include hpath

theorem isAsciiText_of_mem_segments {segment : String} (h : segment ∈ basis.segments) :
    IsAsciiText segment := fun c hc =>
  hpath c (mem_of_mem_segment (mem_of_mem_relativeSegments h) hc)

theorem isAsciiText_of_mem_literals {segment : String} (h : segment ∈ basis.literals) :
    IsAsciiText segment :=
  isAsciiText_of_mem_segments hpath (List.mem_filter.1 h).1

theorem isAsciiText_joined : IsAsciiText (String.intercalate "_" basis.literals) := by
  rw [IsAsciiText, String.toList_intercalate]
  refine (forall_mem_intercalate (by decide)).2 fun text htext => ?_
  obtain ⟨segment, hsegment, rfl⟩ := List.mem_map.1 htext
  exact isAsciiText_of_mem_literals hpath hsegment

end

variable (basis)

theorem join_placeholderParts :
    String.join (basis.placeholderParts.map NamePart.text) =
      String.join (basis.placeholders.map pascalCase) := by
  rw [placeholderParts, List.map_map]
  rfl

theorem text_plainPart : basis.plainPart.text = basis.plainName := rfl

theorem text_resourcePart : basis.resourcePart.text = basis.resource := rfl

theorem mutationName_eq :
    basis.mutationName = String.join (basis.mutationParts.map NamePart.text) := by
  unfold mutationName mutationParts
  cases basis.action? with
  | some action =>
    simp [join_placeholderParts, text_resourcePart, String.append_assoc]
  | none =>
    cases basis.method with
    | post => by_cases hsingle : basis.literals.length = 1 <;>
        simp [hsingle, text_resourcePart, text_plainPart]
    | get => simp [text_plainPart]
    | _ => simp [join_placeholderParts, text_resourcePart, String.append_assoc]

theorem shapeName_eq : basis.shapeName = String.join (basis.shapeParts.map NamePart.text) := by
  unfold shapeName shapeParts
  split
  · simp [text_resourcePart]
  · split
    · simp [singleName, Function.comp_def]
    · split
      · exact basis.mutationName_eq
      · simp [text_plainPart]

theorem name_eq : basis.name = String.join (basis.parts.map NamePart.text) := by
  have hending : String.join ([NamePart.word basis.method.ending].map NamePart.text) =
      basis.method.ending := by
    simp
  rw [name, parts, List.map_append, String.join_append, hending, stem]
  congr 1
  split
  · unfold summaryName
    cases basis.summary with
    | none => rfl
    | some summary => simp
  · split
    · exact basis.shapeName_eq
    · simp

end NameBasis

end ClientGen
