/-!
# Sets of characters and case shifts as runs

A character property is a list of runs `(first, last, step)` of code points, and a case mapping
a list of runs that move together.
-/

namespace ClientGen.Unicode

abbrev Runs := List (Nat × Nat × Nat)

/-- Whether a code point lies on one of the runs. -/
def Runs.contains (runs : Runs) (code : Nat) : Bool :=
  runs.any fun (first, last, step) =>
    first ≤ code && code ≤ last && (code - first) % step == 0

/-- Runs `(first, last, step, image)` of code points: the run moves so that `first` lands on
`image`. -/
abbrev Shifts := List (Nat × Nat × Nat × Nat)

def Shifts.apply (shifts : Shifts) (code : Nat) : Nat :=
  match shifts.find? fun (first, last, step, _) =>
    first ≤ code && code ≤ last && (code - first) % step == 0 with
  | some (first, _, _, image) => image + (code - first)
  | none => code

def Shifts.sources (shifts : Shifts) (code : Nat) : List Nat :=
  shifts.filterMap fun (first, last, step, image) =>
    let source := first + (code - image)
    if image ≤ code && source ≤ last && (source - first) % step == 0 then some source else none

end ClientGen.Unicode
