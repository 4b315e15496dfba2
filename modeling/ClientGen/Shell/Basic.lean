/-!
# Shell commands

Commands that are run after generating are written in the language of the shell. Here it has
simple commands with redirections, pipes, lists, groups and conditions.
-/

namespace ClientGen.Shell

/-- A part of a word. Text that is not quoted may be a pattern of file names, and the value of a
variable or the output of a command that is not quoted is cut at white space. -/
inductive WordPart where
  | plain (text : String)
  | quoted (text : String)
  | variable (name : String) (isQuoted : Bool)
  | output (text : String) (isQuoted : Bool)
  | value (text : String) (isQuoted : Bool)
deriving DecidableEq, Repr, Inhabited

abbrev Word := List WordPart

inductive RedirectionKind where
  | input | output | append | duplicate
deriving DecidableEq, Repr, Inhabited

structure Redirection where
  stream : Nat
  kind : RedirectionKind
  target : Word
deriving DecidableEq, Repr, Inhabited

inductive Command where
  | nothing
  | simple (line : Nat) (assignments : List (String × Word)) (words : List Word)
      (redirections : List Redirection)
  | group (isSubshell : Bool) (body : Command) (line : Nat) (redirections : List Redirection)
  | negated (command : Command)
  | pipe (left right : Command)
  | sequence (first second : Command)
  | both (first second : Command)
  | either (first second : Command)
  | condition (test body otherwise : Command)
  /-- Repeats the body while the test succeeds, or fails with `isUntil`. -/
  | loop (isUntil : Bool) (test body : Command)
  | each (name : String) (words : List Word) (body : Command)
  | broken (line : Nat) (problem : String)
deriving Repr, Inhabited

end ClientGen.Shell
