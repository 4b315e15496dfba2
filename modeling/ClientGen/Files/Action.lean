import ClientGen.Files.Tree
import ClientGen.Text.Trim

/-!
# File actions

An action reads and changes a file tree and may fail. What it changed before it failed stays
changed. Paths are followed from a working folder.
-/

namespace ClientGen.Files

/-- Something done to a file tree that may fail. -/
abbrev Action (ε α : Type) := ExceptT ε (StateM Tree) α

namespace Action

variable {ε α : Type}

def perform (action : Action ε α) (tree : Tree) : Except ε α × Tree := action.run tree

def change (f : Tree → Tree) : Action ε Unit := modify f

def look (f : Tree → Except ε α) : Action ε α := do
  match f (← get) with
  | .ok a => pure a
  | .error e => throw e

/-- Changes how an action says that it failed. -/
def mapFailure {δ : Type} (f : ε → δ) (action : Action ε α) : Action δ α :=
  ExceptT.mk do
    match ← action.run with
    | .ok a => pure (.ok a)
    | .error e => pure (.error (f e))

end Action

namespace Tree

def find (tree : Tree) (start : Place) (path : String) : Except Failure Entry :=
  match tree.locate start path with
  | .error e => .error e
  | .ok place =>
    match tree.at? place with
    | some entry => .ok entry
    | none => .error .notFound

def isFolder (tree : Tree) (start : Place) (path : String) : Bool :=
  match tree.find start path with
  | .ok .folder => true
  | _ => false

def isFile (tree : Tree) (start : Place) (path : String) : Bool :=
  match tree.find start path with
  | .ok (.file _) => true
  | _ => false

/-- Whether a path leads anywhere, as far as that can be told. -/
def isThere (tree : Tree) (start : Place) (path : String) : Except Failure Bool :=
  match tree.find start path with
  | .ok _ => .ok true
  | .error .notFound => .ok false
  | .error e => .error e

def read (tree : Tree) (start : Place) (path : String) : Except Failure String :=
  match tree.find start path with
  | .ok (.file content) => .ok content
  | .ok .folder => .error .isFolder
  | .error e => .error e

def withoutEndSlashes (path : String) : String :=
  if Text.trimEndSlashes path = "" then (if path = "" then "" else "/")
  else Text.trimEndSlashes path

def makeFolder (tree : Tree) (start : Place) (path : String) : Except Failure Tree := do
  let place ← tree.locate start (withoutEndSlashes path)
  match tree.at? place with
  | some _ => .error .exists
  | none => .ok (tree.put place .folder)

def write (tree : Tree) (start : Place) (path content : String) : Except Failure Tree := do
  let place ← tree.locate start (withoutEndSlashes path)
  if path.toList.getLast? = some '/' then .error .isFolder
  else match tree.at? place with
    | some .folder => .error .isFolder
    | _ => .ok (tree.put place (.file content))

end Tree

/-- Makes a folder and those above it; `fuel` is at least the number of its parts. -/
def makeFoldersFrom (start : Place) : Nat → String → Action Failure Unit
  | 0, _ => throw .notFound
  | fuel + 1, path => do
    if path = "" then return
    match (← get).makeFolder start path with
    | .ok tree => set tree
    | .error .notFound =>
      match parent? path with
      | none => throw .notFound
      | some parent =>
        makeFoldersFrom start fuel parent
        match (← get).makeFolder start path with
        | .ok tree => set tree
        | .error e => if (← get).isFolder start path then return else throw e
    | .error e => if (← get).isFolder start path then return else throw e

def makeFolders (start : Place) (path : String) : Action Failure Unit :=
  makeFoldersFrom start ((parts path).length + 2) path

def writeFile (start : Place) (path content : String) : Action Failure Unit := do
  match (← get).write start path content with
  | .ok tree => set tree
  | .error e => throw e

/-- Removes a folder with everything in it. A folder named by a dot is emptied but stays. -/
def removeFolder (start : Place) (path : String) : Action Failure Unit := do
  let tree ← get
  match tree.locate start path with
  | .error e => throw e
  | .ok place =>
    match tree.at? place with
    | none => throw .notFound
    | some (.file _) => throw .notFolder
    | some .folder =>
      set (tree.clear place)
      match (pieces (Tree.withoutEndSlashes path)).getLast? with
      | some "." => throw .invalid
      | some ".." => if (← get).isFolder start path then throw .notEmpty
      | _ => set (tree.remove place)

def writeOutput (start : Place) (path content : String) : Action Failure Unit :=
  match parent? path with
  | none => throw (.noParent path)
  | some parent => do
    makeFolders start parent
    writeFile start path content

end ClientGen.Files
