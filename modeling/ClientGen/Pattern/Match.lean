import ClientGen.Pattern.Basic

/-!
# Searching for a pattern

The leftmost match is taken, and of those that start there the one preferred by the pattern: the
first alternative, and as many or as few repetitions as the operator asks for. Matching tries the
preferred way first and comes back to the others while what follows does not match.

A place where matching can go on in two ways is a crossing. No crossing is passed twice without a
character in between: nothing new could come of it, and so a repetition of nothing ends.
-/

namespace ClientGen

open Unicode

abbrev Crossing := List Nat

/-- Where matching stands: the character before, the characters to come, the texts of the groups
matched so far, and the crossings passed since the last character. -/
structure MatchState where
  before : Option Char
  rest : List Char
  groups : List (Nat × List Char)
  passed : List Crossing := []

namespace MatchState

def next? (set : CharSet) (s : MatchState) : Option MatchState :=
  match s.rest with
  | [] => none
  | c :: rest =>
    if set.contains c then some { s with before := some c, rest, passed := [] } else none

def isAt (s : MatchState) : Boundary → Bool
  | .textStart => s.before.isNone
  | .textEnd => s.rest.isEmpty
  | .lineStart => s.before.all (· = '\n')
  | .lineEnd => s.rest.head?.all (· = '\n')
  | .word => s.before.any isWord != s.rest.head?.any isWord
  | .notWord => s.before.any isWord == s.rest.head?.any isWord

/-- Sets the text of a group: what was passed since `start`. -/
def setGroup (start : MatchState) (index : Nat) (s : MatchState) : MatchState :=
  let text := start.rest.take (start.rest.length - s.rest.length)
  { s with groups := (index, text) :: s.groups.filter (·.1 ≠ index) }

end MatchState

abbrev Continuation := MatchState → Option MatchState

abbrev Matcher := Continuation → Continuation

/-- Passes a crossing: one way is tried, then the other. -/
def cross (place : Crossing) (first second : Continuation) : Continuation := fun s =>
  if s.passed.contains place then none
  else
    let s := { s with passed := place :: s.passed }
    match first s with
    | some result => some result
    | none => second s

def crossMore (greedy : Bool) (place : Crossing) (more go : Continuation) : Continuation :=
  if greedy then cross place more go else cross place go more

/-! ### Repetitions

The copies of what is repeated are numbered. A copy and the crossing at it are different places. -/

def copyAt (way : Crossing) (copy : Nat) : Crossing := (2 * copy + 1) :: way

def gateAt (way : Crossing) (copy : Nat) : Crossing := (2 * copy) :: way

def matchCopies (inner : Crossing → Matcher) (way : Crossing) : Nat → Nat → Matcher
  | _, 0, go => go
  | copy, count + 1, go =>
    inner (copyAt way copy) (matchCopies inner way (copy + 1) count go)

def matchUpTo (inner : Crossing → Matcher) (greedy : Bool) (way : Crossing) :
    Nat → Nat → Matcher
  | _, 0, go => go
  | copy, count + 1, go =>
    crossMore greedy (gateAt way copy)
      (inner (copyAt way copy) (matchUpTo inner greedy way (copy + 1) count go)) go

/-- Matches one thing any number of times, with one crossing for every turn; `fuel` is more than
the number of characters to come. -/
def matchLoop (inner : Matcher) (greedy : Bool) (place : Crossing) : Nat → Matcher
  | 0, go => go
  | fuel + 1, go => crossMore greedy place (inner (matchLoop inner greedy place fuel go)) go

def matchSome (inner : Crossing → Matcher) (greedy : Bool) (way : Crossing) (copy : Nat) :
    Matcher := fun go s =>
  let turn := inner (copyAt way copy)
  turn (matchLoop turn greedy (gateAt way copy) (s.rest.length + 2) go) s

/-- Matches any number of times. What can match nothing is at first repeated either once or more,
or not at all, which keeps a match of nothing in its place among the ways that are tried. -/
def matchAny (inner : Crossing → Matcher) (empty greedy : Bool) (way : Crossing) : Matcher :=
  if empty then fun go => crossMore greedy (gateAt way 1) (matchSome inner greedy way 0 go) go
  else fun go s =>
    matchLoop (inner (copyAt way 0)) greedy (gateAt way 0) (s.rest.length + 2) go s

def Pattern.matchesEmpty : Pattern → Bool
  | .nothing => true
  | .char _ => false
  | .boundary _ => true
  | .sequence first second => first.matchesEmpty && second.matchesEmpty
  | .choice first second => first.matchesEmpty || second.matchesEmpty
  | .repeated inner least _ _ => least = 0 || inner.matchesEmpty
  | .group _ inner => inner.matchesEmpty

def Pattern.run : Pattern → Crossing → Matcher
  | .nothing, _, go => go
  | .char set, _, go => fun s => (s.next? set).bind go
  | .boundary place, _, go => fun s => if s.isAt place then go s else none
  | .sequence first second, way, go => first.run (0 :: way) (second.run (1 :: way) go)
  | .choice first second, way, go =>
    cross way (first.run (0 :: way) go) (second.run (1 :: way) go)
  | .repeated inner least (some most) greedy, way, go =>
    matchCopies inner.run way 0 least (matchUpTo inner.run greedy way least (most - least) go)
  | .repeated inner 0 none greedy, way, go =>
    matchAny inner.run inner.matchesEmpty greedy way go
  | .repeated inner (least + 1) none greedy, way, go =>
    matchCopies inner.run way 0 least (matchSome inner.run greedy way least go)
  | .group index inner, way, go => fun s =>
    inner.run (0 :: way) (fun t => go (s.setGroup index t)) s

/-- Searches from a place on: the text of the whole match, as group zero, and of the groups. -/
def Pattern.searchFrom (pattern : Pattern) (before : Option Char) :
    List Char → Option (List (Nat × List Char))
  | [] => tryAt []
  | c :: rest =>
    match tryAt (c :: rest) with
    | some groups => some groups
    | none => pattern.searchFrom (some c) rest
where
  tryAt (text : List Char) : Option (List (Nat × List Char)) :=
    ((Pattern.group 0 pattern).run [] some { before, rest := text, groups := [] }).map (·.groups)

def Pattern.search (pattern : Pattern) (text : String) : Option (List (Nat × List Char)) :=
  pattern.searchFrom none text.toList

end ClientGen
