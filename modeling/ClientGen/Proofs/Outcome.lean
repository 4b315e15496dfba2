import ClientGen.Files.Action
import ClientGen.Proofs.Related

/-!
# Outcomes of several steps

Steps that may fail are taken one after the other up to the first that fails. Actions on a file
tree leave what was changed before as it is.
-/

namespace ClientGen

section
variable {ε δ α β : Type}

theorem bind_eq_ok_iff {x : Except ε α} {f : α → Except ε β} {b : β} :
    (x >>= f) = .ok b ↔ ∃ a, x = .ok a ∧ f a = .ok b := by
  cases x with
  | error e => exact ⟨nofun, nofun⟩
  | ok a =>
    refine ⟨fun h => ⟨a, rfl, h⟩, ?_⟩
    rintro ⟨_, h, hf⟩
    injection h with h
    subst h
    exact hf

theorem bind_eq_error_iff {x : Except ε α} {f : α → Except ε β} {e : ε} :
    (x >>= f) = .error e ↔ x = .error e ∨ ∃ a, x = .ok a ∧ f a = .error e := by
  cases x with
  | error e' =>
    change Except.error e' = Except.error e ↔ _
    simp
  | ok a =>
    change f a = .error e ↔ _
    simp

theorem mapError_eq_ok_iff {f : ε → δ} {x : Except ε α} {a : α} :
    x.mapError f = .ok a ↔ x = .ok a := by
  cases x <;> simp [Except.mapError]

theorem mapM_eq_ok_iff {f : α → Except ε β} {xs : List α} {ys : List β} :
    xs.mapM f = .ok ys ↔ List.Forall₂ (fun x y => f x = .ok y) xs ys := by
  induction xs generalizing ys with
  | nil =>
    rw [List.mapM_nil, List.forall₂_nil_left_iff]
    exact ⟨fun h => (Except.ok.inj h).symm, fun h => h ▸ rfl⟩
  | cons x rest ih =>
    rw [List.mapM_cons, List.forall₂_cons_left_iff]
    simp only [bind_eq_ok_iff, ih]
    constructor
    · rintro ⟨y, hy, ys', hys', h⟩
      exact ⟨y, ys', hy, hys', (Except.ok.inj h).symm⟩
    · rintro ⟨y, ys', hy, hys', rfl⟩
      exact ⟨y, hy, ys', hys', rfl⟩

theorem exists_of_mapM_eq_error {f : α → Except ε β} {xs : List α} {e : ε}
    (h : xs.mapM f = .error e) : ∃ x ∈ xs, f x = .error e := by
  induction xs with
  | nil => cases h
  | cons x rest ih =>
    rw [List.mapM_cons, bind_eq_error_iff] at h
    rcases h with h | ⟨y, -, h⟩
    · exact ⟨x, List.mem_cons_self .., h⟩
    · rcases bind_eq_error_iff.1 h with h | ⟨ys, -, h⟩
      · obtain ⟨x', hx', h⟩ := ih h
        exact ⟨x', List.mem_cons_of_mem _ hx', h⟩
      · cases h

end

namespace Files.Action

variable {ε α β : Type}

theorem perform_bind (action : Action ε α) (next : α → Action ε β) (tree : Tree) :
    (action >>= next).perform tree =
      match action.perform tree with
      | (.ok a, after) => (next a).perform after
      | (.error e, after) => (.error e, after) := by
  change (match action.run tree with
    | (outcome, after) => ExceptT.bindCont next outcome after) = _
  unfold perform
  obtain ⟨outcome, after⟩ := action.run tree
  cases outcome <;> rfl

theorem perform_get (tree : Tree) : (get : Action ε Tree).perform tree = (.ok tree, tree) := rfl

theorem perform_look (f : Tree → Except ε α) (tree : Tree) :
    (look f).perform tree = (f tree, tree) := by
  rw [look, perform_bind, perform_get]
  cases hf : f tree with
  | ok a =>
    simp only [hf]
    rfl
  | error e =>
    simp only [hf]
    rfl

theorem perform_look_bind_ok {f : Tree → Except ε α} {next : α → Action ε β} {tree : Tree} {a : α}
    (h : f tree = .ok a) : (look f >>= next).perform tree = (next a).perform tree := by
  rw [perform_bind, perform_look, h]

theorem perform_look_bind_error {f : Tree → Except ε α} {next : α → Action ε β} {tree : Tree}
    {e : ε} (h : f tree = .error e) : (look f >>= next).perform tree = (.error e, tree) := by
  rw [perform_bind, perform_look, h]

theorem perform_mapFailure {δ : Type} (f : ε → δ) (action : Action ε α) (tree : Tree) :
    (mapFailure f action).perform tree =
      ((action.perform tree).1.mapError f, (action.perform tree).2) := by
  have hrun : StateT.run (ExceptT.run action) tree = action.perform tree := rfl
  show StateT.run (bind (ExceptT.run action) _) tree = _
  rw [StateT.run_bind, hrun]
  generalize action.perform tree = result
  obtain ⟨outcome, after⟩ := result
  cases outcome <;> rfl

end Files.Action

end ClientGen
