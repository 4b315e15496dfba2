import ClientGen.Traced
import Mathlib.Data.List.Forall2

/-!
# Values in a trace

Changing the value of a result keeps its notes. Treating the elements of a list commutes with
changing what each of them gives, and sees of the elements only what is done with each.
-/

namespace ClientGen.Traced

variable {Note α β γ δ : Type}

def mapValue (f : α → β) (x : Traced Note α) : Traced Note β := ⟨f x.value, x.trace⟩

theorem bind_mapValue (f : α → β) (x : Traced Note α) (next : β → Traced Note γ) :
    x.mapValue f >>= next = x >>= fun a => next (f a) := rfl

theorem bind_pure_eq (f : α → β) (x : Traced Note α) :
    (x >>= fun a => pure (f a)) = x.mapValue f := by
  have htrace : (x >>= fun a => pure (f a)).trace = x.trace := by
    rw [trace_bind, trace_pure, List.append_nil]
  rw [mapValue, ← htrace]
  rfl

theorem mapValue_mapValue (f : α → β) (g : β → γ) (x : Traced Note α) :
    (x.mapValue f).mapValue g = x.mapValue fun a => g (f a) := rfl

theorem each_singleton (f : α → Traced Note β) (a : α) :
    each f [a] = (f a).mapValue fun b => [b] := bind_pure_eq _ _

theorem each_of_forall₂ {read : α → Traced Note γ} {read' : β → Traced Note δ} {f : γ → δ}
    {xs : List α} {ys : List β}
    (h : List.Forall₂ (fun x y => read' y = (read x).mapValue f) xs ys) :
    each read' ys = (each read xs).mapValue (List.map f) := by
  induction h with
  | nil => rfl
  | cons hfirst _ ih =>
    rw [each, each, hfirst, ih]
    rfl

theorem each_map {f : α → Traced Note γ} {f' : β → Traced Note γ} {change : α → β} {xs : List α}
    (h : ∀ x ∈ xs, f' (change x) = f x) : each f' (xs.map change) = each f xs := by
  induction xs with
  | nil => rfl
  | cons x rest ih =>
    rw [List.map_cons, each, each, h x (List.mem_cons_self ..),
      ih fun y hy => h y (List.mem_cons_of_mem _ hy)]

end ClientGen.Traced
