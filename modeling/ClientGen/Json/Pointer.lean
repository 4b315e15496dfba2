import ClientGen.Json.Basic

/-!
# JSON pointers

A pointer is empty, for the whole document, or a list of steps that each start with a slash. In
a step `~1` stands for a slash and `~0` for a tilde.
-/

namespace ClientGen.Json

/-- The name or position that a step stands for: `~1` is replaced first, `~0` after it. -/
def unescapeStep : List Char → List Char
  | '~' :: '1' :: rest => '/' :: unescapeStep rest
  | '~' :: '0' :: rest => '~' :: unescapeStep rest
  | c :: rest => c :: unescapeStep rest
  | [] => []

/-- The position that a step names in an array: decimal digits without a leading zero. -/
def position? (step : List Char) : Option Nat :=
  match step with
  | [] => none
  | ['0'] => some 0
  | c :: _ =>
    if c ≠ '0' && step.all Char.isDigit then
      some (step.foldl (fun n d => n * 10 + (d.toNat - 48)) 0)
    else none

/-- The part of a value that one step leads to. -/
def step? (step : List Char) : Json → Option Json
  | .obj members => members.lookup (String.ofList step)
  | .arr items => (position? step).bind (items[·]?)
  | _ => none

/-- The part of a value that a pointer leads to. -/
def pointer? (pointer : String) (j : Json) : Option Json :=
  match pointer.toList with
  | [] => some j
  | '/' :: rest =>
    ((rest.splitOn '/').map unescapeStep).foldl (fun place step => place.bind (step? step)) (some j)
  | _ => none

end ClientGen.Json
