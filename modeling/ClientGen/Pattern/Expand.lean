import ClientGen.Pattern.Match

/-!
# Expanding a text with the groups of a match

`$1` and `$name` stand for the text of a group, `${1}` and `${name}` too, and `$$` for a dollar
sign. An unbraced name takes as many letters, digits and underscores as follow. A group that is
unknown or took no part is empty, and a dollar sign that starts no name stays.
-/

namespace ClientGen

def isGroupNameChar (c : Char) : Bool := c.isAlphanum || c == '_'

def groupNumber? (name : List Char) : Option Nat :=
  let digits := match name with
    | '+' :: rest => rest
    | rest => rest
  if digits.isEmpty || !digits.all Char.isDigit then none
  else
    let n := digits.foldl (fun n d => n * 10 + (d.toNat - 48)) 0
    if n < Nat.pow 2 64 then some n else none

def groupText (pattern : NamedPattern) (groups : List (Nat × List Char)) (name : List Char) :
    List Char :=
  let index := match groupNumber? name with
    | some n => some n
    | none => pattern.names.lookup (String.ofList name)
  (index.bind fun n => groups.lookup n).getD []

def groupName? (text : List Char) : Option (List Char × List Char) :=
  match text with
  | '\x7b' :: rest =>
    match rest.dropWhile (· ≠ '\x7d') with
    | _ :: after => some (rest.takeWhile (· ≠ '\x7d'), after)
    | [] => none
  | _ =>
    match text.takeWhile isGroupNameChar with
    | [] => none
    | name => some (name, text.dropWhile isGroupNameChar)

/-- Expands a text; `fuel` is at least its length. -/
def expandFrom (pattern : NamedPattern) (groups : List (Nat × List Char)) :
    Nat → List Char → List Char
  | 0, text => text
  | _, [] => []
  | fuel + 1, c :: rest =>
    if c ≠ '$' then c :: expandFrom pattern groups fuel rest
    else match rest with
      | '$' :: after => '$' :: expandFrom pattern groups fuel after
      | _ =>
        match groupName? rest with
        | some (name, after) =>
          groupText pattern groups name ++ expandFrom pattern groups fuel after
        | none => '$' :: expandFrom pattern groups fuel rest

def NamedPattern.expand (pattern : NamedPattern) (groups : List (Nat × List Char))
    (template : String) : String :=
  String.ofList (expandFrom pattern groups template.toList.length template.toList)

end ClientGen
