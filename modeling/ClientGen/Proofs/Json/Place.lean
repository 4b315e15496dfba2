import ClientGen.Proofs.Dict
import ClientGen.Proofs.Json.PointerText

/-!
# Places in a value

A place is reached by going into members of objects and to positions in arrays. Another value can be
put there, and what does not lead through the place stays what it was.
-/

namespace ClientGen.Json

inductive Step where
  | member (key : String)
  | item (position : Nat)
deriving DecidableEq

def child? : Step → Json → Option Json
  | .member key, j => j.get? key
  | .item position, .arr items => items[position]?
  | .item _, _ => none

/-- The value with another one a step below it. -/
def setChild : Json → Step → Json → Json
  | .obj members, .member key, new => .obj (replaceOrAppend Prod.fst (key, new) members)
  | .arr items, .item position, new => .arr (items.set position new)
  | j, _, _ => j

def at? (steps : List Step) (j : Json) : Option Json :=
  steps.foldlM (fun place step => place.child? step) j

/-- The value with another one at a place, unchanged where there is no such place. -/
def put : Json → List Step → Json → Json
  | _, [], new => new
  | j, step :: rest, new =>
    match j.child? step with
    | some inner => j.setChild step (inner.put rest new)
    | none => j

theorem at?_cons {step : Step} {rest : List Step} {j value : Json} :
    j.at? (step :: rest) = some value ↔ ∃ inner, j.child? step = some inner ∧
      inner.at? rest = some value := by
  rw [at?, List.foldlM_cons]
  exact Option.bind_eq_some_iff

theorem put_cons {step : Step} {j inner : Json} (h : j.child? step = some inner)
    (rest : List Step) (new : Json) :
    j.put (step :: rest) new = j.setChild step (inner.put rest new) := by
  rw [put, h]

variable {key : String} {j inner : Json}

theorem get?_put (h : j.get? key = some inner) (rest : List Step) (new : Json) :
    (j.put (.member key :: rest) new).get? key = some (inner.put rest new) := by
  have hchild : j.child? (.member key) = some inner := h
  rw [put_cons hchild]
  cases j with
  | obj members => exact (Dict.lookup_replaceOrAppend key key _ members).trans (if_pos rfl)
  | _ => cases h

theorem get?_put_ne {other : String} (hne : other ≠ key) (rest : List Step) (new j : Json) :
    (j.put (.member key :: rest) new).get? other = j.get? other := by
  rw [put]
  split
  · cases j with
    | obj members => exact (Dict.lookup_replaceOrAppend key other _ members).trans (if_neg hne)
    | _ => rfl
  · rfl

theorem isSome_members?_put (rest : List Step) (new j : Json) :
    (j.put (.member key :: rest) new).members?.isSome = j.members?.isSome := by
  rw [put]
  split
  · cases j <;> rfl
  · rfl

theorem members?_put (h : j.get? key = some inner) (rest : List Step) (new : Json) :
    (j.put (.member key :: rest) new).members? =
      j.members?.map (replaceOrAppend Prod.fst (key, inner.put rest new)) := by
  have hchild : j.child? (.member key) = some inner := h
  rw [put_cons hchild]
  cases j with
  | obj members => rfl
  | _ => cases h

theorem pointer?_put_ne {first : String} (hne : first ≠ key) (steps : List String)
    (rest : List Step) (new j : Json) : (j.put (.member key :: rest) new).pointer?
      (pointerText (first :: steps)) = j.pointer? (pointerText (first :: steps)) := by
  have hstep : (j.put (.member key :: rest) new).step? first.toList = j.step? first.toList := by
    rw [put]
    split
    · cases j with
      | obj members =>
        simp only [setChild, step?, String.ofList_toList]
        exact (Dict.lookup_replaceOrAppend key first _ members).trans (if_neg hne)
      | _ => rfl
    · rfl
  rw [pointer?_pointerText, pointer?_pointerText, List.foldlM_cons, List.foldlM_cons, hstep]

theorem items?_put {position : Nat} {items : List Json} (h : items[position]? = some inner)
    (rest : List Step) (new : Json) :
    ((Json.arr items).put (.item position :: rest) new).items? =
      some (items.set position (inner.put rest new)) := by
  have hchild : (Json.arr items).child? (.item position) = some inner := h
  rw [put_cons hchild]
  rfl

end ClientGen.Json
