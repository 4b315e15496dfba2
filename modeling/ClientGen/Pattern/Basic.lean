import ClientGen.Unicode.Character

/-!
# Patterns

A pattern is searched for in a name. Sets of characters and literals may ignore case, in which
case a character stands for all its case variants.
-/

namespace ClientGen

open Unicode

inductive CharSet where
  | empty
  | range (low high : Char) (ignoreCase : Bool)
  | decimal
  | word
  | blank
  | complement (set : CharSet)
  | union (a b : CharSet)
  | both (a b : CharSet)
deriving Repr, Inhabited

def CharSet.contains : CharSet → Char → Bool
  | .empty, _ => false
  | .range low high ignoreCase, c =>
    if ignoreCase then (caseVariants c).any fun v => low ≤ v && v ≤ high
    else low ≤ c && c ≤ high
  | .decimal, c => isDecimal c
  | .word, c => isWord c
  | .blank, c => isBlank c
  | .complement set, c => !set.contains c
  | .union a b, c => a.contains c || b.contains c
  | .both a b, c => a.contains c && b.contains c

/-- A place between two characters. -/
inductive Boundary where
  | textStart | textEnd | lineStart | lineEnd | word | notWord
deriving DecidableEq, Repr, Inhabited

/-- A pattern. Groups are numbered from one in the order of their opening brackets. -/
inductive Pattern where
  | nothing
  | char (set : CharSet)
  | boundary (place : Boundary)
  | sequence (first second : Pattern)
  | choice (first second : Pattern)
  | repeated (inner : Pattern) (least : Nat) (most : Option Nat) (greedy : Bool)
  | group (index : Nat) (inner : Pattern)
deriving Repr, Inhabited

structure NamedPattern where
  pattern : Pattern
  names : List (String × Nat)
deriving Repr, Inhabited

end ClientGen
