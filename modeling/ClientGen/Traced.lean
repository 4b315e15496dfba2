/-!
# Results with a trace

A result together with the notes that were taken on the way to it, in the order they were taken.
-/

namespace ClientGen

/-- A value and the notes taken while it was made. -/
structure Traced (Note α : Type) where
  value : α
  trace : List Note
deriving Repr

namespace Traced

variable {Note α β : Type}

def clean (value : α) : Traced Note α := ⟨value, []⟩

def andThen (x : Traced Note α) (f : α → Traced Note β) : Traced Note β :=
  ⟨(f x.value).value, x.trace ++ (f x.value).trace⟩

instance : Monad (Traced Note) where
  pure := clean
  bind := andThen

def note (n : Note) : Traced Note Unit := ⟨(), [n]⟩

/-- Treats every element of a list, from left to right. -/
def each (f : α → Traced Note β) : List α → Traced Note (List β)
  | [] => clean []
  | a :: rest => (f a).andThen fun b => (each f rest).andThen fun bs => clean (b :: bs)

@[simp] theorem value_pure (a : α) : (pure a : Traced Note α).value = a := rfl

@[simp] theorem trace_pure (a : α) : (pure a : Traced Note α).trace = [] := rfl

@[simp] theorem value_bind (x : Traced Note α) (f : α → Traced Note β) :
    (x >>= f).value = (f x.value).value := rfl

@[simp] theorem trace_bind (x : Traced Note α) (f : α → Traced Note β) :
    (x >>= f).trace = x.trace ++ (f x.value).trace := rfl

@[simp] theorem value_clean (a : α) : (clean a : Traced Note α).value = a := rfl

@[simp] theorem trace_clean (a : α) : (clean a : Traced Note α).trace = [] := rfl

@[simp] theorem value_andThen (x : Traced Note α) (f : α → Traced Note β) :
    (x.andThen f).value = (f x.value).value := rfl

@[simp] theorem trace_andThen (x : Traced Note α) (f : α → Traced Note β) :
    (x.andThen f).trace = x.trace ++ (f x.value).trace := rfl

theorem value_each (f : α → Traced Note β) (xs : List α) :
    (each f xs).value = xs.map fun a => (f a).value := by
  induction xs with
  | nil => rfl
  | cons a rest ih => simp [each, ih]

theorem trace_each (f : α → Traced Note β) (xs : List α) :
    (each f xs).trace = xs.flatMap fun a => (f a).trace := by
  induction xs with
  | nil => rfl
  | cons a rest ih => simp [each, ih]

end Traced

end ClientGen
