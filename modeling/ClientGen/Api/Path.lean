import ClientGen.Text.Trim

/-!
# Path templates

A path template is cut at its slashes. A segment in braces is a placeholder for the parameter
named between them.
-/

namespace ClientGen.Api

/-- The pieces of a path between its slashes, empty ones included. -/
def pieces (path : String) : List String := (path.toList.splitOn '/').map String.ofList

def segments (path : String) : List String := (pieces path).filter (· ≠ "")

def placeholderChars? : List Char → Option (List Char)
  | '\x7b' :: rest =>
    if rest.getLast? = some '\x7d' && rest.dropLast ≠ [] then some rest.dropLast else none
  | _ => none

def placeholder? (segment : String) : Option String :=
  (placeholderChars? segment.toList).map String.ofList

def bareSegment (segment : String) : String := (placeholder? segment).getD segment

/-- The segments of a path below the base path, all of them where the path does not start with
the base path. -/
def relativeSegments (path base : String) : List String :=
  let all := segments path
  match segments base with
  | [] => all
  | first :: rest => ((first :: rest).isPrefixOf? all).getD all

/-- The path as the inside of a template literal: `/leads/{id}` becomes `/leads/${id}`. -/
def urlTemplate (path : String) : String :=
  String.ofList (path.toList.flatMap fun c => if c == '\x7b' then ['$', c] else [c])

end ClientGen.Api
