import ClientGen.Api.Document

/-!
# Operations in the order of the methods

A path item is read method by method, so the operations of a route stand in one fixed order
whatever the order in the document.
-/

namespace ClientGen.Api

theorem exists_of_readMethod {document item : Json} {path : String} {shared : List Parameter}
    {method : Method} {read : Method × Operation}
    (h : (readMethod document path shared item method).value = some read) :
    ∃ operation, item.get? method.name = some operation ∧
      read = (method, (readOperation document path (site method path) shared operation).value) := by
  unfold readMethod at h
  split at h
  · cases h
  · rename_i operation hoperation
    split at h
    · exact ⟨_, hoperation, (Option.some_inj.1 h).symm⟩
    · cases h

theorem method_of_readMethod {document : Json} {path : String} {shared : List Parameter}
    {item : Json} {method : Method} {entry : Method × Operation}
    (h : (readMethod document path shared item method).value = some entry) :
    entry.1 = method := by
  obtain ⟨operation, _, rfl⟩ := exists_of_readMethod h
  rfl

theorem map_filterMap_sublist {α β : Type} {f : α → Option β} {g : β → α}
    (h : ∀ a b, f a = some b → g b = a) (xs : List α) :
    ((xs.filterMap f).map g).Sublist xs := by
  induction xs with
  | nil => exact List.Sublist.refl []
  | cons a rest ih =>
    cases hf : f a with
    | none => rw [List.filterMap_cons_none hf]; exact ih.cons a
    | some b =>
      rw [List.filterMap_cons_some hf, List.map_cons, h a b hf]
      exact ih.cons_cons a

theorem operations_readRoute {document : Json} {path : String} {item : Json} {route : Route}
    (h : (readRoute document path item).value = some route) :
    (route.operations.map Prod.fst).Sublist Method.all := by
  unfold readRoute at h
  split at h
  · simp only [Traced.value_bind, Traced.value_pure, Traced.value_each] at h
    injection h with h
    rw [← h]
    simp only [List.filterMap_map]
    exact map_filterMap_sublist (fun _ _ => method_of_readMethod) Method.all
  · cases h

theorem operations_in_order {document : Json} {route : Route}
    (h : route ∈ (normalize document).value.routes) :
    (route.operations.map Prod.fst).Sublist Method.all := by
  unfold normalize at h
  split at h
  · simp only [Traced.value_bind, Traced.value_pure, Traced.value_each, List.filterMap_map] at h
    obtain ⟨entry, _, hroute⟩ := List.mem_filterMap.1 h
    exact operations_readRoute hroute
  · exact absurd h List.not_mem_nil

end ClientGen.Api
