import ClientGen.Shell.Builtin

namespace ClientGen.Shell

open Files

def baseName (path : String) : String :=
  (((pieces path).filter (· ≠ "")).getLast?).getD (if path = "" then "" else "/")

def folderName (path : String) : String :=
  let above := Text.trimEndSlashes (String.ofList
    (Text.dropEndWhile (· ≠ '/') (Text.trimEndSlashes path).toList))
  if above ≠ "" then above else if isAbsolute path then "/" else "."

/-- Where something goes that is moved or copied: into a folder, or to the path itself. -/
def destination (m : Machine) (path target : String) : String :=
  if m.isFolder target then join target (baseName path) else target

def touch : Tool := fun call m =>
  Call.each call.options.2 (fun path m =>
    match m.find path with
    | .ok _ => m
    | .error .notFound =>
      m.perform call (writeFile m.folder path "") ("cannot touch " ++ inQuotes path)
    | .error e => call.warn ("cannot touch " ++ inQuotes path ++ ": " ++ e.words) m) m

def makeFoldersTool : Tool := fun call m =>
  let (letters, paths) := call.options
  Call.each paths (fun path m =>
    let about := "cannot create directory " ++ inQuotes path
    if letters.contains 'p' then m.perform call (makeFolders m.folder path) about
    else match m.tree.makeFolder m.folder path with
      | .ok tree => { m with tree }
      | .error e => call.warn (about ++ ": " ++ e.words) m) m

def removeTool : Tool := fun call m =>
  let (letters, paths) := call.options
  let deep := letters.contains 'r' || letters.contains 'R'
  Call.each paths (fun path m =>
    let about := "cannot remove " ++ inQuotes path
    match m.tree.locate m.folder path with
    | .error e => if letters.contains 'f' then m else call.warn (about ++ ": " ++ e.words) m
    | .ok place =>
      match m.tree.at? place with
      | none =>
        if letters.contains 'f' then m else call.warn (about ++ ": No such file or directory") m
      | some .folder =>
        if !deep then call.warn (about ++ ": Is a directory") m
        else if ["", ".", ".."].contains (baseName path) then
          call.warn ("refusing to remove '.' or '..' directory: skipping " ++ inQuotes path) m
        else { m with tree := m.tree.remove place }
      | some (.file _) => { m with tree := m.tree.remove place }) m

def removeFoldersTool : Tool := fun call m =>
  Call.each call.options.2 (fun path m =>
    let about := "failed to remove " ++ inQuotes path ++ ": "
    match m.tree.locate m.folder path with
    | .error e => call.warn (about ++ e.words) m
    | .ok place =>
      match m.tree.at? place with
      | none => call.warn (about ++ "No such file or directory") m
      | some (.file _) => call.warn (about ++ "Not a directory") m
      | some .folder =>
        if (m.tree.names place).isEmpty then { m with tree := m.tree.remove place }
        else call.warn (about ++ "Directory not empty") m) m

def copyEntries (tree : Tree) (source target : Place) : Tree :=
  (tree.entries.filter (source.isPrefixOf ·.1)).foldl
    (fun tree entry => tree.put (target ++ entry.1.drop source.length) entry.2) tree

def transfer (call : Call) (moves deep : Bool) (path target : String) (m : Machine) : Machine :=
  let target := destination m path target
  match m.tree.locate m.folder path with
  | .error e => call.warn ("cannot stat " ++ inQuotes path ++ ": " ++ e.words) m
  | .ok source =>
    match m.tree.at? source, m.tree.locate m.folder (Tree.withoutEndSlashes target) with
    | none, _ => call.warn ("cannot stat " ++ inQuotes path ++ ": No such file or directory") m
    | some entry, place? =>
      let about := if moves then "cannot move " ++ inQuotes path ++ " to " ++ inQuotes target
        else if entry = .folder then "cannot create directory " ++ inQuotes target
        else "cannot create regular file " ++ inQuotes target
      if entry = .folder && !deep then
        call.warn ("-r not specified; omitting directory " ++ inQuotes path) m
      else match place? with
        | .error e => call.warn (about ++ ": " ++ e.words) m
        | .ok place =>
          let isInside := source ≠ place && source.isPrefixOf place
          if place = source then
            call.warn (inQuotes path ++ " and " ++ inQuotes target ++ " are the same file") m
          else if isInside && moves then
            call.warn ("cannot move " ++ inQuotes path ++ " to a subdirectory of itself, " ++
              inQuotes target) m
          else if entry ≠ .folder && target.endsWith "/" then
            call.warn (about ++ ": Not a directory") m
          else
            let copied := copyEntries m.tree source place
            { m with tree := if moves then copied.remove source else copied }

def transferTool (moves : Bool) : Tool := fun call m =>
  let (letters, paths) := call.options
  let deep := moves || letters.any fun c => c == 'r' || c == 'R' || c == 'a'
  match paths.dropLast, paths.getLast? with
  | [], some path =>
    call.warn ("missing destination file operand after " ++ inQuotes path ++ "\nTry '" ++
      call.name ++ " --help' for more information.") m
  | sources, some target =>
    if sources.length > 1 && !m.isFolder target then
      call.warn ("target " ++ inQuotes target ++ ": " ++
        (if (m.find target).toBool then "Not a directory" else "No such file or directory")) m
    else Call.each sources (fun path m => transfer call moves deep path target m) m
  | _, none =>
    call.warn ("missing file operand\nTry '" ++ call.name ++ " --help' for more information.") m

/-- The paths at and below a path, folders before what they hold; `fuel` bounds the depth. -/
def pathsWithin (tree : Tree) : Nat → Place → String → List (String × Files.Entry)
  | 0, _, _ => []
  | fuel + 1, place, path =>
    match tree.at? place with
    | none => []
    | some entry =>
      (path, entry) :: (orderedSet (tree.names place)).flatMap fun name =>
        pathsWithin tree fuel (place ++ [name]) (join path name)

def listTool : Tool := fun call m =>
  let (letters, paths) := call.options
  let shown (place : Place) :=
    let names := orderedSet (m.tree.names place)
    if letters.contains 'a' then "." :: ".." :: names
    else if letters.contains 'A' then names
    else names.filter (!·.startsWith ".")
  let paths := if paths.isEmpty then ["."] else paths
  let folders := paths.filter fun path => m.isFolder path && !letters.contains 'd'
  let others := (orderedSet paths).filter fun path =>
    (m.find path).toBool && (!m.isFolder path || letters.contains 'd')
  let m := (paths.filter fun path => !(m.find path).toBool).foldl
    (fun m path => (call.warn ("cannot access " ++ inQuotes path ++ ": No such file or directory")
      m).withStatus 2)
    (m.withStatus 0)
  let listings := (orderedSet folders).map fun path =>
    let lines := unlines (((m.tree.locate m.folder path).toOption.map shown).getD [])
    if paths.length > 1 then path ++ ":\n" ++ lines else lines
  call.say (String.intercalate "\n"
    ((if others.isEmpty then [] else [unlines others]) ++ listings)) m

def isWanted : List String → String × Files.Entry → Bool
  | "-type" :: kind :: rest, (path, entry) =>
    (if kind = "d" then entry = .folder else if kind = "f" then entry ≠ .folder else false) &&
      isWanted rest (path, entry)
  | "-name" :: pattern :: rest, (path, entry) =>
    matchesName (pattern.toList.map fun c => (c, c == '*' || c == '?')) (baseName path).toList &&
      isWanted rest (path, entry)
  | _ :: rest, found => isWanted rest found
  | [], _ => true

def findTool : Tool := fun call m =>
  let starts := call.arguments.takeWhile (!·.startsWith "-")
  let questions := call.arguments.dropWhile (!·.startsWith "-")
  Call.each (if starts.isEmpty then ["."] else starts) (fun path m =>
    match m.tree.locate m.folder path with
    | .error e => call.warn (inQuotes path ++ ": " ++ e.words) m
    | .ok place =>
      match pathsWithin m.tree (m.tree.entries.length + 1) place path with
      | [] => call.warn (inQuotes path ++ ": No such file or directory") m
      | found => call.say (unlines ((found.filter (isWanted questions)).map (·.1))) m) m

def baseNameTool : Tool := fun call m =>
  match call.arguments with
  | [] => call.warn "missing operand\nTry 'basename --help' for more information." m
  | path :: rest =>
    let name := baseName path
    let ending := rest.headD ""
    let shown := if ending ≠ name && name.endsWith ending then
      String.ofList (name.toList.take (name.length - ending.length)) else name
    call.say (shown ++ "\n") (m.withStatus 0)

def folderNameTool : Tool := fun call m =>
  Call.each call.arguments (fun path m => call.say (folderName path ++ "\n") m) m

def fileTools : List (String × Tool) :=
  [("touch", touch), ("mkdir", makeFoldersTool), ("rm", removeTool), ("rmdir", removeFoldersTool),
    ("mv", transferTool true), ("cp", transferTool false), ("ls", listTool), ("find", findTool),
    ("basename", baseNameTool), ("dirname", folderNameTool), ("chmod", fun _ m => m.withStatus 0),
    ("sleep", fun _ m => m.withStatus 0), ("sync", fun _ m => m.withStatus 0)]

end ClientGen.Shell
