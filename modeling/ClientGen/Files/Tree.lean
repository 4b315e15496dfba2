import ClientGen.Files.Failure
import ClientGen.Files.Path

/-!
# File trees

A file tree says what stands at which place. A place is the list of names that lead to it from
the root. Paths are followed name by name from a working folder, and there are no links.
-/

namespace ClientGen.Files

/-- The names that lead from the root to a file or folder. -/
abbrev Place := List String

/-- What stands at a place. -/
inductive Entry where
  | folder
  | file (content : String)
deriving DecidableEq, Repr, Inhabited

/-- The files and folders below the root. -/
structure Tree where
  entries : List (Place × Entry)
deriving DecidableEq, Repr, Inhabited

namespace Tree

/-- What stands at a place. The root is a folder. -/
def at? (tree : Tree) (place : Place) : Option Entry :=
  if place = [] then some .folder else tree.entries.lookup place

def put (tree : Tree) (place : Place) (entry : Entry) : Tree :=
  ⟨(place, entry) :: tree.entries.filter (·.1 ≠ place)⟩

def remove (tree : Tree) (place : Place) : Tree :=
  ⟨tree.entries.filter fun entry => !place.isPrefixOf entry.1⟩

def clear (tree : Tree) (place : Place) : Tree :=
  ⟨tree.entries.filter fun entry => entry.1 = place || !place.isPrefixOf entry.1⟩

/-- The names of what stands directly in a folder. -/
def names (tree : Tree) (place : Place) : List String :=
  tree.entries.filterMap fun entry =>
    if entry.1.dropLast = place && entry.1 ≠ [] then entry.1.getLast? else none

def files (tree : Tree) : List (Place × String) :=
  tree.entries.filterMap fun entry =>
    match entry.2 with
    | .file content => some (entry.1, content)
    | .folder => none

def putFolders (tree : Tree) (place : Place) : Tree :=
  (List.range place.length).foldl
    (fun tree n =>
      let above := place.take (n + 1)
      match tree.at? above with
      | some .folder => tree
      | _ => tree.put above .folder)
    tree

def putFile (tree : Tree) (place : Place) (content : String) : Tree :=
  (tree.putFolders place.dropLast).put place (.file content)

def maxName : Nat := 255

def maxPath : Nat := 4095

def follow (tree : Tree) (place : Place) (piece : String) : Except Failure Place :=
  match tree.at? place with
  | none => .error .notFound
  | some (.file _) => .error .notFolder
  | some .folder =>
    if piece = "" || piece = "." then .ok place
    else if piece = ".." then .ok place.dropLast
    else if piece.utf8ByteSize > maxName then .error .nameTooLong
    else .ok (place ++ [piece])

/-- The place that a path leads to. All but the last name on the way are those of folders. -/
def locate (tree : Tree) (start : Place) (path : String) : Except Failure Place :=
  if path = "" then .error .notFound
  else if path.toList.contains (Char.ofNat 0) then .error .zeroInName
  else if path.utf8ByteSize > maxPath then .error .nameTooLong
  else (pieces path).foldlM tree.follow (if isAbsolute path then [] else start)

end Tree

end ClientGen.Files
