/-!
# File paths

A path is a text. It is absolute if it starts with a slash. Its parts are what stands between its
slashes, without the empty ones and without the dots that stand for the place reached so far.
-/

namespace ClientGen.Files

def isAbsolute (path : String) : Bool := path.toList.head? = some '/'

/-- A path below another one: a slash is put between the two unless one is there or nothing
stands before it, and an absolute path stands alone. -/
def join (base path : String) : String :=
  if isAbsolute path then path
  else if base = "" || base.toList.getLast? = some '/' then base ++ path
  else base ++ "/" ++ path

/-- What stands between the slashes of a path. -/
def pieces (path : String) : List String := (path.toList.splitOn '/').map String.ofList

/-- The parts of a path. A dot stays where a path starts with it. -/
def parts (path : String) : List String :=
  let kept := (pieces path).filter fun p => p ≠ "" && p ≠ "."
  if (pieces path).head? = some "." then "." :: kept else kept

def parent? (path : String) : Option String :=
  match parts path with
  | [] => none
  | all => some ((if isAbsolute path then "/" else "") ++ String.intercalate "/" all.dropLast)

def fileName? (path : String) : Option String :=
  (parts path).getLast?.filter fun p => p ≠ "." && p ≠ ".."

/-- What follows the last point of a file name. A name without a point, or with one at its start
only, has no ending. -/
def ending? (name : String) : Option String :=
  let reversed := name.toList.reverse
  match reversed.dropWhile (· ≠ '.') with
  | '.' :: _ :: _ => some (String.ofList (reversed.takeWhile (· ≠ '.')).reverse)
  | _ => none

end ClientGen.Files
