import ClientGen.Shell.Reader
import ClientGen.Shell.TextTools

/-!
# Running shell commands

A command prints, changes the file tree and sets the status. A subshell changes nothing else. The
parts of a pipe run one after the other, each in a subshell.
-/

namespace ClientGen.Shell

open Files

namespace Machine

def openOutput (m : Machine) (path : String) (adds : Bool) :
    Except Files.Failure (Machine × Sink) :=
  if path = "/dev/null" then .ok (m, .nowhere)
  else do
    let place ← m.tree.locate m.folder path
    let old ← match m.tree.find m.folder path with
      | .ok .folder => .error .isFolder
      | .ok (.file content) => .ok content
      | .error .notFound => .ok ""
      | .error e => .error e
    let tree ← m.tree.write m.folder path (if adds then old else "")
    return ({ m with tree }, .file place)

def withSink (streams : Streams) (stream : Nat) (sink : Sink) : Streams :=
  match stream with
  | 1 => { streams with output := sink }
  | 2 => { streams with messages := sink }
  | _ => streams

def openingProblem (failure : Files.Failure) (missing : String) : String :=
  if failure = .notFound || failure = .notFolder then missing else failure.words

/-- Redirects one stream; the text says why that fails. -/
def redirect (m : Machine) (streams : Streams) (redirection : Redirection) :
    Except String (Machine × Streams) :=
  let target := m.expandWhole redirection.target
  match redirection.kind with
  | .duplicate =>
    match target with
    | "1" => .ok (m, withSink streams redirection.stream streams.output)
    | "2" => .ok (m, withSink streams redirection.stream streams.messages)
    | "-" => .ok (m, withSink streams redirection.stream .nowhere)
    | _ => .error ("Bad fd number")
  | .input =>
    if target = "/dev/null" then .ok (m, { streams with input := "" })
    else match m.tree.read m.folder target with
      | .ok input => .ok (m, { streams with input })
      | .error e => .error ("cannot open " ++ target ++ ": " ++ openingProblem e "No such file")
  | kind =>
    match m.openOutput target (kind = .append) with
    | .ok (m, sink) => .ok (m, withSink streams redirection.stream sink)
    | .error e =>
      .error ("cannot create " ++ target ++ ": " ++ openingProblem e "Directory nonexistent")

/-- Redirects streams in turn. A failure is reported, and nothing comes out. -/
def redirectAll (m : Machine) (streams : Streams) (line : Nat) (redirections : List Redirection) :
    Machine × Option Streams :=
  redirections.foldl
    (fun (m, streams?) redirection =>
      match streams? with
      | none => (m, none)
      | some streams =>
        match m.redirect streams redirection with
        | .ok (m, streams) => (m, some streams)
        | .error problem => (m.complain streams line problem 2, none))
    (m, some streams)

/-- The machine after a subshell: what it printed and did to the files stays, and the signal that
ended the shell. -/
def afterSubshell (m sub : Machine) : Machine :=
  let status := match sub.ended with
    | some (.code n) => n
    | _ => sub.status
  let ended := match sub.ended with
    | some (.signal n) => some (.signal n)
    | _ => none
  { m with tree := sub.tree, buffers := sub.buffers, status, ended }

abbrev Nested := String → Streams → Machine → Machine

/-- Runs something in a subshell: the machine after it, and what it printed. -/
def capture (action : Streams → Machine → Machine) (streams : Streams) (m : Machine) :
    Machine × String :=
  let index := m.buffers.length
  let wide := { m with buffers := m.buffers ++ [""] }
  let after := wide.afterSubshell (action { streams with output := .buffer index } wide)
  ({ after with buffers := after.buffers.take index }, after.printed index)

/-- Runs the command in a part of a word. Line breaks at the end of its output do not count. -/
def substitutePart (nested : Nested) (streams : Streams) (m : Machine) :
    WordPart → Machine × WordPart
  | .output text isQuoted =>
    let (m, printed) := m.capture (nested text) streams
    (m, .value (String.ofList (Text.dropEndWhile (· == '\n') printed.toList)) isQuoted)
  | part => (m, part)

def substitute (nested : Nested) (streams : Streams) (m : Machine) (word : Word) :
    Machine × Word :=
  word.foldl
    (fun (m, word) part =>
      let (m, part) := m.substitutePart nested streams part
      (m, word ++ [part]))
    (m, [])

def fieldsOf (nested : Nested) (streams : Streams) (m : Machine) (words : List Word) :
    Machine × List String :=
  words.foldl
    (fun (m, fields) word =>
      let (m, word) := m.substitute nested streams word
      (m, fields ++ m.expand word))
    (m, [])

def hasCommand (word : Word) : Bool :=
  word.any fun
    | .output _ _ => true
    | _ => false

def runScript (nested : Nested) (call : Call) (m : Machine) : Machine :=
  match call.arguments with
  | "-c" :: text :: _ => m.afterSubshell (nested text call.streams (m.withStatus 0))
  | path :: _ =>
    match m.tree.read m.folder path with
    | .ok text => m.afterSubshell (nested text call.streams (m.withStatus 0))
    | .error _ => m.complain call.streams 0 ("cannot open " ++ path ++ ": No such file") 2
  | [] => m.afterSubshell (nested call.streams.input call.streams (m.withStatus 0))

/-- Runs a tool. A name with a slash is the path of a file, and no file is a program. -/
def runTool (nested : Nested) (call : Call) (m : Machine) : Machine :=
  let missing := m.complain call.streams call.line (call.name ++ ": not found") 127
  if call.name = "sh" then m.runScript nested call
  else if call.name.contains '/' then
    match m.find call.name with
    | .ok _ => m.complain call.streams call.line (call.name ++ ": Permission denied") 126
    | .error _ => missing
  else match (shellTools ++ fileTools ++ textTools).lookup call.name with
    | some tool => tool call m
    | none => missing

def assignAll (nested : Nested) (streams : Streams) (assignments : List (String × Word))
    (m : Machine) : Machine :=
  assignments.foldl
    (fun m (name, word) =>
      let (m, word) := m.substitute nested streams word
      m.assign name (m.expandWhole word))
    m

def runSimple (nested : Nested) (streams : Streams) (line : Nat)
    (assignments : List (String × Word)) (words : List Word) (redirections : List Redirection)
    (m : Machine) : Machine :=
  let (m, fields) := m.fieldsOf nested streams words
  match m.redirectAll streams line redirections with
  | (failed, none) =>
    if (fields.head?.map specialTools.contains).getD false then
      { failed with ended := some (.code 2) }
    else failed
  | (opened, some streams) =>
    let assigned := opened.assignAll nested streams assignments
    match fields with
    | [] =>
      if (assignments.map (·.2) ++ words).any hasCommand then assigned
      else assigned.withStatus 0
    | "exec" :: [] => assigned.withStatus 0
    | "exec" :: name :: arguments =>
      let after := assigned.runTool nested ⟨line, name, arguments, streams⟩
      { after with ended := some (after.ended.getD (.code after.status)) }
    | name :: arguments =>
      let after := assigned.runTool nested ⟨line, name, arguments, streams⟩
      if assignments.isEmpty then after else { after with environment := m.environment }

/-- Empties the files that a command will write to: in a pipe that happens before the commands in
front of it read anything. -/
def prepare (m : Machine) : Command → Machine
  | .simple _ _ _ redirections =>
    redirections.foldl
      (fun m redirection =>
        if redirection.kind = .output then
          match m.openOutput (m.expandWhole redirection.target) false with
          | .ok (m, _) => m
          | .error _ => m
        else m)
      m
  | _ => m

def endIfFailed (isTested : Bool) (m : Machine) : Machine :=
  if m.status ≠ 0 && !isTested && m.ended.isNone && m.value endsAtFailure ≠ "" then
    { m with ended := some (.code m.status) }
  else m

def maxTurns : Nat := 10000

/-- Repeats a body up to a number of times, as long as the status of a test is zero or, with
`isUntil`, is not. `last` is the status of the body. -/
def repeatBody (isUntil : Bool) (test body : Machine → Machine) : Nat → Nat → Machine → Machine
  | 0, _, m => m
  | turns + 1, last, m =>
    let tested := test m
    if tested.ended.isSome then tested
    else if (tested.status = 0) = !isUntil then
      let after := body tested
      if after.ended.isSome then after else repeatBody isUntil test body turns after.status after
    else tested.withStatus last

/-- Runs a command, unless the shell has ended. -/
def run (nested : Nested) (isTested : Bool) (streams : Streams) : Command → Machine → Machine
  | .nothing, m => m
  | .simple line assignments words redirections, m =>
    if m.ended.isSome then m
    else (m.runSimple nested streams line assignments words redirections).endIfFailed isTested
  | .group isSubshell body line redirections, m =>
    if m.ended.isSome then m
    else match m.redirectAll streams line redirections with
      | (failed, none) => failed.endIfFailed isTested
      | (opened, some inner) =>
        let after := run nested isTested inner body opened
        if isSubshell then (m.afterSubshell after).endIfFailed isTested else after
  | .negated command, m =>
    let after := run nested true streams command m
    if after.ended.isSome then after else after.withStatus (if after.status = 0 then 1 else 0)
  | .pipe left right, m =>
    if m.ended.isSome then m
    else
      let (before, text) := (m.prepare right).capture (run nested isTested · left) streams
      let after := run nested isTested { streams with input := text } right before
      (before.afterSubshell after).endIfFailed isTested
  | .sequence first second, m =>
    run nested isTested streams second (run nested isTested streams first m)
  | .both first second, m =>
    let after := run nested true streams first m
    if after.status = 0 then run nested isTested streams second after else after
  | .either first second, m =>
    let after := run nested true streams first m
    if after.status = 0 then after else run nested isTested streams second after
  | .condition test body otherwise, m =>
    let after := run nested true streams test m
    if after.status = 0 then run nested isTested streams body after
    else if otherwise matches .nothing then after.withStatus 0
    else run nested isTested streams otherwise after
  | .loop isUntil test body, m =>
    repeatBody isUntil (run nested true streams test) (run nested isTested streams body)
      maxTurns 0 m
  | .each name words body, m =>
    let (m, values) := m.fieldsOf nested streams words
    values.foldl
      (fun m value =>
        if m.ended.isSome then m else run nested isTested streams body (m.assign name value))
      (m.withStatus 0)
  | .broken line problem, m =>
    if m.ended.isSome then m
    else
      { m.complain streams line ("Syntax error: " ++ problem) 2 with ended := some (.code 2) }

/-- Runs a text; shells run each other up to a depth. -/
def runText : Nat → String → Streams → Machine → Machine
  | 0, _, streams, m => m.complain streams 1 "too many shells" 2
  | depth + 1, text, streams, m => run (runText depth) false streams (Command.read text) m

end Machine

/-- How a shell ended, what it did to the files, and what it printed: messages before output. -/
structure Outcome where
  status : ExitStatus
  tree : Tree
  output : String
deriving Repr

/-- The deepest nesting of shells. -/
def maxDepth : Nat := 100

def runIn (tree : Tree) (folder : Place) (environment : List (String × String)) (text : String) :
    Outcome :=
  let streams : Streams := ⟨"", .buffer 0, .buffer 1⟩
  let m := (Machine.starting tree folder environment).runText maxDepth text streams
  ⟨m.ended.getD (.code m.status), m.tree, m.printed 1 ++ m.printed 0⟩

end ClientGen.Shell
