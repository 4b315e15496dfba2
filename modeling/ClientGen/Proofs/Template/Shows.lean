import ClientGen.Template.Library

/-!
# Texts that a template shows

A text that some nodes are rendered as is found in whatever these nodes are part of: in the
nodes around them, in a branch that is taken, and in a loop with a turn in which they are rendered
so.
-/

namespace ClientGen

def Shows (scope : RenderScope) (nodes : List TemplateNode) (piece : String) : Prop :=
  ∀ text, renderNodes? scope nodes = some text → piece.toList <:+: text.toList

theorem renderNodes?_cons_eq_some {scope : RenderScope} {node : TemplateNode}
    {nodes : List TemplateNode} {text : String}
    (h : renderNodes? scope (node :: nodes) = some text) :
    ∃ first rest, node.render? scope = some first ∧ renderNodes? scope nodes = some rest ∧
      text = first ++ rest := by
  rw [renderNodes?] at h
  obtain ⟨first, hfirst, h⟩ := Option.bind_eq_some_iff.1 h
  obtain ⟨rest, hrest, h⟩ := Option.bind_eq_some_iff.1 h
  exact ⟨first, rest, hfirst, hrest, (Option.some.inj h).symm⟩

theorem renderNodes?_append_eq_some {scope : RenderScope} {before after : List TemplateNode}
    {text : String} (h : renderNodes? scope (before ++ after) = some text) :
    ∃ first rest, renderNodes? scope before = some first ∧ renderNodes? scope after = some rest ∧
      text = first ++ rest := by
  induction before generalizing text with
  | nil => exact ⟨"", text, by rw [renderNodes?], h, by simp⟩
  | cons node nodes ih =>
    obtain ⟨first, others, hfirst, hothers, rfl⟩ := renderNodes?_cons_eq_some h
    obtain ⟨middle, rest, hmiddle, hrest, rfl⟩ := ih hothers
    refine ⟨first ++ middle, rest, ?_, hrest, (String.append_assoc ..).symm⟩
    rw [renderNodes?, hfirst, hmiddle]
    rfl

section
variable {scope : RenderScope} {nodes : List TemplateNode} {piece : String}

theorem Shows.of_rendered {text : String} (hnodes : renderNodes? scope nodes = some text)
    (hpiece : piece.toList <:+: text.toList) : Shows scope nodes piece := by
  intro other hother
  rw [hnodes] at hother
  rwa [← Option.some.inj hother]

theorem Shows.amid {more : List TemplateNode} (h : Shows scope nodes piece)
    (hnodes : nodes <:+: more) : Shows scope more piece := by
  obtain ⟨before, after, rfl⟩ := hnodes
  intro text htext
  obtain ⟨first, last, hfirst, -, rfl⟩ := renderNodes?_append_eq_some htext
  obtain ⟨start, middle, -, hmiddle, rfl⟩ := renderNodes?_append_eq_some hfirst
  obtain ⟨left, right, hpiece⟩ := h middle hmiddle
  refine ⟨start.toList ++ left, right ++ last.toList, ?_⟩
  simp [← hpiece]

theorem Shows.of_mem {node : TemplateNode} (h : Shows scope [node] piece) (hnode : node ∈ nodes) :
    Shows scope nodes piece := by
  obtain ⟨before, after, rfl⟩ := List.append_of_mem hnode
  exact h.amid ⟨before, after, by simp⟩

theorem Shows.branch {condition : Expression} {otherwise : List TemplateNode}
    (htrue : (condition.value? scope).any isTruthy = true) (h : Shows scope nodes piece) :
    Shows scope [.branch condition nodes otherwise] piece := by
  intro text htext
  obtain ⟨first, rest, hfirst, hrest, rfl⟩ := renderNodes?_cons_eq_some htext
  rw [TemplateNode.render?, if_pos htrue] at hfirst
  obtain ⟨left, right, hpiece⟩ := h first hfirst
  exact ⟨left, right ++ rest.toList, by simp [← hpiece]⟩

theorem Shows.otherwise {condition : Expression} {body : List TemplateNode}
    (hfalse : (condition.value? scope).any isTruthy = false) (h : Shows scope nodes piece) :
    Shows scope [.branch condition body nodes] piece := by
  intro text htext
  obtain ⟨first, rest, hfirst, hrest, rfl⟩ := renderNodes?_cons_eq_some htext
  rw [TemplateNode.render?, if_neg (by simp [hfalse])] at hfirst
  obtain ⟨left, right, hpiece⟩ := h first hfirst
  exact ⟨left, right ++ rest.toList, by simp [← hpiece]⟩

theorem shows_insert {path : List String} {before text after : String}
    (hvalue : Expression.value? { path } scope = some (.str text)) :
    Shows scope [.text before, .insert { path }, .text after] (before ++ text ++ after) := by
  have hrendered : renderNodes? scope
      [.text before, .insert { path }, .text after] = some (before ++ text ++ after) := by
    simp [renderNodes?, TemplateNode.render?, hvalue, insertedText, String.append_assoc]
  exact .of_rendered hrendered List.infix_rfl

theorem Shows.mono {part : String} (h : Shows scope nodes piece)
    (hpart : part.toList <:+: piece.toList) : Shows scope nodes part := fun text htext =>
  hpart.trans (h text htext)

end

theorem infix_join {texts : List String} {text : String} (h : text ∈ texts) :
    text.toList <:+: (String.join texts).toList := by
  induction texts with
  | nil => cases h
  | cons first rest ih =>
    rw [String.join_cons, String.toList_append]
    rcases List.mem_cons.1 h with rfl | h
    · exact (List.prefix_append _ _).isInfix
    · exact (ih h).trans (List.suffix_append _ _).isInfix

theorem exists_of_mem_mapM {α β : Type} {f : α → Option β} {xs : List α} {ys : List β}
    (h : xs.mapM f = some ys) {x : α} (hx : x ∈ xs) : ∃ y ∈ ys, f x = some y := by
  induction xs generalizing ys with
  | nil => cases hx
  | cons first rest ih =>
    rw [List.mapM_cons] at h
    obtain ⟨y, hy, h⟩ := Option.bind_eq_some_iff.1 h
    obtain ⟨others, hothers, h⟩ := Option.bind_eq_some_iff.1 h
    cases h
    rcases List.mem_cons.1 hx with rfl | hx
    · exact ⟨y, List.mem_cons_self .., hy⟩
    · obtain ⟨y', hmem, hy'⟩ := ih hothers hx
      exact ⟨y', List.mem_cons_of_mem _ hmem, hy'⟩

theorem exists_turn (item : String) {items : List (String × Json)} {value : String × Json}
    (h : value ∈ items) :
    ∃ turn ∈ loopTurns none item items, turn.item = item ∧ turn.value = value.2 := by
  obtain ⟨i, hi⟩ := List.mem_iff_getElem?.1 h
  refine ⟨_, List.mem_map.2 ⟨(value, i), ?_, rfl⟩, rfl, rfl⟩
  exact List.mem_iff_getElem?.2 ⟨i, by simp [hi]⟩

theorem Shows.each {scope : RenderScope} {item : String} {path : List String}
    {nodes : List TemplateNode} {piece : String} {items : List Json} {value : Json}
    (hitems : Expression.value? { path } scope = some (.arr items)) (hvalue : value ∈ items)
    (h : ∀ turn : LoopTurn, turn.item = item → turn.value = value →
      Shows ⟨turn :: scope.turns, scope.context⟩ nodes piece) :
    Shows scope [.loop none item { path } nodes []] piece := by
  intro text htext
  obtain ⟨first, rest, hfirst, hrest, rfl⟩ := renderNodes?_cons_eq_some htext
  have hmem : ("", value) ∈ items.map fun item => ("", item) := List.mem_map_of_mem hvalue
  have hfull : (items.map fun item => ("", item)).isEmpty = false := by
    cases items with
    | nil => cases hvalue
    | cons _ _ => rfl
  rw [TemplateNode.render?, hitems] at hfirst
  obtain ⟨container, hcontainer, hfirst⟩ := Option.bind_eq_some_iff.1 hfirst
  cases hcontainer
  obtain ⟨pairs, hpairs, hfirst⟩ := Option.bind_eq_some_iff.1 hfirst
  cases hpairs
  rw [if_neg (by simp [hfull])] at hfirst
  obtain ⟨texts, htexts, hfirst⟩ := Option.bind_eq_some_iff.1 hfirst
  cases hfirst
  obtain ⟨turn, hturn, hitem, hsame⟩ := exists_turn item hmem
  obtain ⟨turnText, hturnText, hrendered⟩ := exists_of_mem_mapM htexts hturn
  have hpiece := h turn hitem hsame turnText hrendered
  rw [String.toList_append]
  exact (hpiece.trans (infix_join hturnText)).trans (List.prefix_append _ _).isInfix

theorem value?_item {turns : List LoopTurn} {context : Json} {turn : LoopTurn} {item : String}
    {path : List String} {value : Json} (hitem : turn.item = item) (hname : item ≠ "loop")
    (hpath : partAt? path turn.value = some value) :
    Expression.value? { path := item :: path } ⟨turn :: turns, context⟩ = some value := by
  have hturn : turn.find? (item :: path) = some value := by
    unfold LoopTurn.find?
    split <;> simp_all
  simp [Expression.value?, RenderScope.find?, hturn]

theorem value?_outside {turns : List LoopTurn} {context : Json} {turn : LoopTurn}
    {name next : String} {path : List String} (hitem : turn.item ≠ name) (hname : name ≠ "loop") :
    Expression.value? { path := name :: next :: path } ⟨turn :: turns, context⟩ =
      Expression.value? { path := name :: next :: path } ⟨turns, context⟩ := by
  have hturn : turn.find? (name :: next :: path) = none := by
    unfold LoopTurn.find?
    split
    case h_6 other rest hpath =>
      cases hpath
      rw [if_neg (Ne.symm hitem)]
      simp
    all_goals simp_all
  simp [Expression.value?, RenderScope.find?, hturn]

theorem value?_context {context value : Json} {path : List String}
    (h : partAt? path context = some value) :
    Expression.value? { path } { turns := [], context } = some value := h

end ClientGen
