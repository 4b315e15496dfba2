import ClientGen.Proofs.Schema.TypeExpr
import ClientGen.Proofs.Schema.TypeToken

/-!
# Reading type expressions

A type expression is read token by token. The brackets behind an operand bind first, then `&`, then
`|`, so that what is read at one place is a union of intersections of operands, of which the last
is still open. Parentheses, arguments in angle brackets and the members of an object type are
read in a place of their own. A word is the name of a type, whatever it spells.
-/

namespace ClientGen

/-- The union that is being read: the alternatives before the last `|`, and the factors of the
alternative behind it. -/
structure OpenUnion where
  alternatives : List TypeExpr
  factors : List TypeExpr
deriving Inhabited

namespace OpenUnion

def empty : OpenUnion := ⟨[], []⟩

def add (u : OpenUnion) (operand : TypeExpr) : OpenUnion :=
  ⟨u.alternatives, u.factors ++ [operand]⟩

def next (u : OpenUnion) : OpenUnion := ⟨u.alternatives ++ [.join .intersection u.factors], []⟩

def whole (u : OpenUnion) : TypeExpr := .join .union u.next.alternatives

end OpenUnion

/-- What a place belongs to: a group in parentheses, the arguments of a name, or a member of an
object type, each with what has been read of it. -/
inductive TypeFrame where
  | group
  | arguments (name : String) (before : List TypeExpr)
  | member (before : List (TypeMember TypeExpr)) (name : String) (isOptional : Bool)

/-- What may come next: an operand, what follows an operand, the second bracket behind one, the
name of a member, or what follows the name of a member. -/
inductive TypeMode where
  | due
  | read (operand : TypeExpr)
  | indexed (operand : TypeExpr)
  | members (before : List (TypeMember TypeExpr))
  | named (before : List (TypeMember TypeExpr)) (name : String) (isOptional : Bool)

/-- The state of a reader: what may come next, the union at its place, and the places around it. -/
structure TypeReader where
  mode : TypeMode
  union : OpenUnion
  around : List (TypeFrame × OpenUnion)

namespace TypeReader

def start : TypeReader := ⟨.due, .empty, []⟩

/-- Goes into a place of its own. -/
def enter (frame : TypeFrame) (r : TypeReader) : TypeReader :=
  ⟨.due, .empty, (frame, r.union) :: r.around⟩

/-- Reads a mark behind an operand that ends the place it stands in. -/
def leave? (type : TypeExpr) (frame : TypeFrame) (outer : OpenUnion)
    (around : List (TypeFrame × OpenUnion)) (mark : Char) : Option TypeReader :=
  match frame with
  | .group => if mark = ')' then some ⟨.read type, outer, around⟩ else none
  | .arguments name before =>
    if mark = ',' then
      some ⟨.due, .empty, (.arguments name (before ++ [type]), outer) :: around⟩
    else if mark = '>' then some ⟨.read (.generic name (before ++ [type])), outer, around⟩
    else none
  | .member before name isOptional =>
    if mark = ';' then some ⟨.members (before ++ [⟨name, isOptional, type⟩]), outer, around⟩
    else if mark = '\x7d' then
      some ⟨.read (.object (before ++ [⟨name, isOptional, type⟩])), outer, around⟩
    else none

def follow? (r : TypeReader) (operand : TypeExpr) (mark : Char) : Option TypeReader :=
  if mark = '|' then some ⟨.due, (r.union.add operand).next, r.around⟩
  else if mark = '&' then some ⟨.due, r.union.add operand, r.around⟩
  else if mark = '[' then some { r with mode := .indexed operand }
  else if mark = '<' then
    match operand with
    | .named name => some (r.enter (.arguments name []))
    | _ => none
  else
    match r.around with
    | [] => none
    | (frame, outer) :: around => leave? (r.union.add operand).whole frame outer around mark

def step (r : TypeReader) (token : TypeToken) : Option TypeReader :=
  match r.mode, token with
  | .due, .word text => some { r with mode := .read (.named text) }
  | .due, .literal text => some { r with mode := .read (.literal text) }
  | .due, .mark c =>
    if c = '(' then some (r.enter .group)
    else if c = '\x7b' then some { r with mode := .members [] }
    else none
  | .read operand, .mark c => r.follow? operand c
  | .indexed operand, .mark c =>
    if c = ']' then some { r with mode := .read (.array operand) } else none
  | .members before, .word text => some { r with mode := .named before text false }
  | .members before, .literal text => some { r with mode := .named before text false }
  | .members before, .mark c =>
    if c = '\x7d' then some { r with mode := .read (.object before) } else none
  | .named before name isOptional, .mark c =>
    if c = ':' then some (r.enter (.member before name isOptional))
    else if c = '?' && !isOptional then some { r with mode := .named before name true }
    else none
  | _, _ => none

def result? (r : TypeReader) : Option TypeExpr :=
  match r.mode, r.around with
  | .read operand, [] => some (r.union.add operand).whole
  | _, _ => none

def run (r : TypeReader) (text : List Char) : Option TypeReader := (typeTokens text).foldlM step r

end TypeReader

/-- The type that a text denotes. -/
def readType? (text : String) : Option TypeExpr :=
  (TypeReader.start.run text.toList).bind TypeReader.result?

namespace TypeReader

theorem run_blank (r : TypeReader) (rest : List Char) : r.run (' ' :: rest) = r.run rest := rfl

theorem run_mark {r s : TypeReader} (c : Char) (hc : isMark c = true)
    (hstep : r.step (.mark c) = some s) (rest : List Char) : r.run (c :: rest) = s.run rest := by
  unfold run
  rw [typeTokens_mark hc, List.foldlM_cons, hstep]
  rfl

theorem run_word {r s : TypeReader} {word : String} {rest : List Char}
    (hword : Text.isPlainKey word.toList = true) (hrest : EndsWord rest)
    (hstep : r.step (.word word) = some s) : r.run (word.toList ++ rest) = s.run rest := by
  unfold run
  rw [typeTokens_word hword hrest, List.foldlM_cons, hstep]
  rfl

theorem run_quoted {r s : TypeReader} {text : String} (hstep : r.step (.literal text) = some s)
    (rest : List Char) : r.run ((Text.quoted text).toList ++ rest) = s.run rest := by
  unfold run
  rw [typeTokens_quoted, List.foldlM_cons, hstep]
  rfl

end TypeReader

end ClientGen
