import ClientGen.Pattern.Match
import ClientGen.Pattern.Reader
import ClientGen.Shell.FileTools

namespace ClientGen.Shell

open Files

def Machine.textAt (m : Machine) (call : Call) (path : String) : Except Files.Failure String :=
  if path = "-" then .ok call.streams.input
  else if path = "/dev/null" then .ok ""
  else m.tree.read m.folder path

/-- The texts of the files that are named, each with its path, or the input. What cannot be read
is reported. -/
def Machine.inputs (m : Machine) (call : Call) (paths : List String) :
    Machine × List (String × String) :=
  (if paths.isEmpty then ["-"] else paths).foldl
    (fun (m, texts) path =>
      match m.textAt call path with
      | .ok text => (m, texts ++ [(path, text)])
      | .error e => (call.warn (path ++ ": " ++ e.words) m, texts))
    (m.withStatus 0, [])

def filterTool (f : List Char → String → String) : Tool := fun call m =>
  let (letters, paths) := call.options
  let (m, texts) := m.inputs call paths
  call.say (f letters (String.join (texts.map (·.2)))) m

def sortLines (letters : List Char) (text : String) : String :=
  let lines := (linesOf text).map lineText
  let sorted := if letters.contains 'u' then orderedSet lines else lines.mergeSort (· ≤ ·)
  unlines (if letters.contains 'r' then sorted.reverse else sorted)

def uniqueLines (_ : List Char) (text : String) : String :=
  unlines (((linesOf text).map lineText).foldr
    (fun line lines => if lines.head? = some line then lines else line :: lines) [])

def wordCount (text : String) : Nat :=
  ((text.toList.splitBy fun a b => a.isWhitespace == b.isWhitespace).filter fun word =>
    word.any (!·.isWhitespace)).length

def counts (letters : List Char) (text : String) : List Nat :=
  let wanted (c : Char) := letters.isEmpty || letters.contains c
  (if wanted 'l' then [text.toList.count '\n'] else []) ++
    (if wanted 'w' then [wordCount text] else []) ++
    (if wanted 'c' then [text.utf8ByteSize] else [])

def countTool : Tool := fun call m =>
  let (letters, paths) := call.options
  let (m, texts) := m.inputs call paths
  let total := String.join (texts.map (·.2))
  let width := if letters.length = 1 && texts.length ≤ 1 then 1
    else if paths.isEmpty then 7
    else (toString total.utf8ByteSize).length
  let shown (text name : String) :=
    String.intercalate " " ((counts letters text).map fun n =>
      String.ofList (padTo width false (toString n).toList)) ++ name ++ "\n"
  let lines := texts.map fun (path, text) =>
    shown text (if paths.isEmpty then "" else " " ++ path)
  call.say (String.join (lines ++ if texts.length > 1 then [shown total " total"] else [])) m

def endTool (pick : Nat → List (List Char) → List (List Char)) : Tool := fun call m =>
  let (count, paths) := match call.arguments with
    | "-n" :: n :: rest => (n.toNat?.getD 10, rest)
    | first :: rest =>
      if first.startsWith "-" then
        (((String.ofList (first.toList.filter Char.isDigit)).toNat?).getD 10, rest)
      else (10, first :: rest)
    | [] => (10, [])
  let (m, texts) := m.inputs call paths
  call.say (String.join (texts.map fun (_, text) =>
    String.ofList (pick count (linesOf text)).flatten)) m

/-- A pattern of a line editor in the notation of name patterns: there the bare signs are
operators that here stand behind backslashes. `fuel` is more than the length. -/
def linePattern (isStart : Bool) : Nat → List Char → List Char
  | 0, _ => []
  | _, [] => []
  | fuel + 1, '\\' :: c :: rest =>
    if ['(', ')', '|', '\x7b', '\x7d', '+', '?'].contains c then
      c :: linePattern (c == '(' || c == '|') fuel rest
    else '\\' :: c :: linePattern false fuel rest
  | fuel + 1, '[' :: rest =>
    let head := rest.take (if rest.head? = some '^' then 2 else 1)
    let body := (rest.drop head.length).takeWhile (· ≠ ']')
    let escaped := (head ++ body).flatMap fun c =>
      if c == '\\' || c == '[' || c == ']' || c == '&' || c == '~' then ['\\', c] else [c]
    '[' :: escaped ++ ']' :: linePattern false fuel (rest.drop (head.length + body.length + 1))
  | fuel + 1, c :: rest =>
    let isLiteral := ['(', ')', '|', '\x7b', '\x7d', '+', '?'].contains c ||
      (c == '*' && isStart) || (c == '^' && !isStart) || (c == '$' && !rest.isEmpty)
    (if isLiteral then ['\\', c] else [c]) ++ linePattern (isStart && c == '^') fuel rest

def readLinePattern? (extended : Bool) (text : List Char) : Option Pattern :=
  let text := if extended then text else linePattern true (text.length + 1) text
  (NamedPattern.read? ("(?-i)" ++ String.ofList text)).map (·.pattern)

/-- The first match from a place on: what is passed before it, its groups, and what follows. -/
def firstMatch? (pattern : Pattern) (before : Option Char) :
    List Char → Option (List Char × List (Nat × List Char) × List Char)
  | [] => (Pattern.searchFrom.tryAt pattern before []).map (([], ·, []))
  | c :: rest =>
    match Pattern.searchFrom.tryAt pattern before (c :: rest) with
    | some groups =>
      some ([], groups, (c :: rest).drop ((groups.lookup 0).getD []).length)
    | none =>
      (firstMatch? pattern (some c) rest).map fun (passed, found) => (c :: passed, found)

def replacement (groups : List (Nat × List Char)) : List Char → List Char
  | '\\' :: 'n' :: rest => '\n' :: replacement groups rest
  | '\\' :: c :: rest =>
    (if c.isDigit then (groups.lookup (c.toNat - 48)).getD [] else [c]) ++ replacement groups rest
  | '&' :: rest => (groups.lookup 0).getD [] ++ replacement groups rest
  | c :: rest => c :: replacement groups rest
  | [] => []

/-- A replacement of matches in lines. -/
structure Substitution where
  pattern : Pattern
  replacement : List Char
  everywhere : Bool
  shows : Bool
deriving Inhabited

/-- Replaces the first match in a line or all of them, and whether there is one. An empty match
right behind another match does not count. `fuel` is more than the length. -/
def Substitution.apply (s : Substitution) : Nat → Option Char → Bool → List Char → List Char × Bool
  | 0, _, _, text => (text, false)
  | fuel + 1, before, afterMatch, text =>
    match firstMatch? s.pattern before text with
    | none => (text, false)
    | some (passed, groups, rest) =>
      let found := (groups.lookup 0).getD []
      let last := (passed ++ found).getLast?.or before
      let shown := if afterMatch && passed.isEmpty && found.isEmpty then []
        else Shell.replacement groups s.replacement
      if !s.everywhere then (passed ++ shown ++ rest, true)
      else match found, rest with
        | [], [] => (passed ++ shown, true)
        | [], c :: rest =>
          (passed ++ shown ++ c :: (s.apply fuel (some c) false rest).1, true)
        | _, _ => (passed ++ shown ++ (s.apply fuel last true rest).1, true)

def readDelimited (delimiter : Char) : List Char → List Char × List Char
  | '\\' :: c :: rest =>
    let (text, after) := readDelimited delimiter rest
    (if c == delimiter then c :: text else '\\' :: c :: text, after)
  | c :: rest =>
    if c == delimiter then ([], rest)
    else
      let (text, after) := readDelimited delimiter rest
      (c :: text, after)
  | [] => ([], [])

/-- Reads replacements, one behind the other; `fuel` is more than the length. -/
def readSubstitutions? (extended : Bool) : Nat → List Char → Option (List Substitution)
  | 0, _ => none
  | fuel + 1, text =>
    match text.dropWhile fun c => c == ' ' || c == ';' || c == '\n' with
    | [] => some []
    | 's' :: delimiter :: rest => do
      let (pattern, rest) := readDelimited delimiter rest
      let (replacement, rest) := readDelimited delimiter rest
      let flags := rest.takeWhile fun c => c ≠ ';' && c ≠ '\n'
      let substitution := {
        pattern := ← readLinePattern? extended pattern
        replacement
        everywhere := flags.contains 'g'
        shows := flags.contains 'p' }
      return substitution :: (← readSubstitutions? extended fuel (rest.drop flags.length))
    | _ => none

def editLine (silent : Bool) (substitutions : List Substitution) (line : List Char) : List Char :=
  let ends := if line.getLast? = some '\n' then ['\n'] else []
  let (text, shown) := substitutions.foldl
    (fun (text, shown) s =>
      let (text, found) := s.apply (text.length + 2) none false text
      (text, if found && s.shows then shown ++ text ++ ['\n'] else shown))
    (line.take (line.length - ends.length), [])
  shown ++ if silent then [] else text ++ ends

def editTool : Tool := fun call m =>
  let letters := call.options.1
  let others := call.options.2
  match others with
  | [] => call.warn "no script specified" m
  | script :: paths =>
    let chars := script.toList
    let extended := letters.contains 'E' || letters.contains 'r'
    match readSubstitutions? extended (chars.length + 1) chars with
    | none => call.warn "-e expression #1, char 0: unsupported command" m
    | some substitutions =>
      let edit (text : String) :=
        String.ofList ((linesOf text).flatMap (editLine (letters.contains 'n') substitutions))
      let (m, texts) := (m.inputs call paths : Machine × List (String × String))
      if letters.contains 'i' then
        texts.foldl
          (fun m (path, text) =>
            m.perform call (writeFile m.folder path (edit text)) ("couldn't edit " ++ path))
          m
      else call.say (edit (String.join (texts.map (·.2)))) m

def searchTool : Tool := fun call m =>
  let (letters, others) := call.options
  match others with
  | [] => (call.warn "no pattern" m).withStatus 2
  | pattern :: paths =>
    let text := if letters.contains 'F' then pattern.toList.flatMap (['\\', ·]) else pattern.toList
    match readLinePattern? (letters.contains 'E' || letters.contains 'F') text with
    | none => (call.warn "invalid pattern" m).withStatus 2
    | some pattern =>
      let (m, texts) := m.inputs call paths
      let matching (line : List Char) :=
        (pattern.search (lineText line)).isSome != letters.contains 'v'
      let found := texts.flatMap fun (path, text) =>
        ((linesOf text).filter matching).map ((path, lineText ·))
      let shown := if letters.contains 'q' then []
        else if letters.contains 'c' then [toString found.length]
        else found.map fun (path, line) =>
          if texts.length > 1 && !letters.contains 'h' then path ++ ":" ++ line else line
      let status := if m.status ≠ 0 then 2 else if found.isEmpty then 1 else 0
      call.say (unlines shown) (m.withStatus status)

def teeTool : Tool := fun call m =>
  let (letters, paths) := call.options
  let m := Call.each paths (fun path m =>
    let old := if letters.contains 'a' then ((m.textAt call path).toOption).getD "" else ""
    m.perform call (writeFile m.folder path (old ++ call.streams.input)) path) m
  call.say call.streams.input m

def sequenceTool : Tool := fun call m =>
  let (first, last) := match call.arguments.map fun n => n.toInt?.getD 0 with
    | [last] => (1, last)
    | [first, last] => (first, last)
    | _ => (1, 0)
  let numbers := (List.range (last + 1 - first).toNat).map fun (n : Nat) => toString (first + n)
  call.say (unlines numbers) (m.withStatus 0)

def charactersOf : List Char → List Char
  | '\\' :: c :: rest => ((escapeLetters.lookup c).getD c) :: charactersOf rest
  | a :: '-' :: b :: rest =>
    (List.range (b.toNat + 1 - a.toNat)).map (fun n => Char.ofNat (a.toNat + n)) ++
      charactersOf rest
  | c :: rest => c :: charactersOf rest
  | [] => []

def characterTool : Tool := fun call m =>
  let (letters, names) := call.options
  let lists := names.map fun name => charactersOf name.toList
  let replace (c : Char) : List Char :=
    match lists with
    | [deleted] => if letters.contains 'd' && deleted.contains c then [] else [c]
    | source :: target :: _ =>
      let filled := target ++ List.replicate (source.length - target.length)
        (target.getLast?.getD ' ')
      [((source.zip filled).lookup c).getD c]
    | [] => [c]
  call.say (String.ofList (call.streams.input.toList.flatMap replace)) (m.withStatus 0)

def textTools : List (String × Tool) :=
  [("cat", filterTool fun _ text => text), ("sort", filterTool sortLines),
    ("uniq", filterTool uniqueLines), ("wc", countTool), ("head", endTool fun n => List.take n),
    ("tail", endTool fun n lines => lines.drop (lines.length - n)), ("sed", editTool),
    ("grep", searchTool), ("tee", teeTool), ("seq", sequenceTool), ("tr", characterTool)]

end ClientGen.Shell
