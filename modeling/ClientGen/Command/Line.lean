import ClientGen.Command.Help
import ClientGen.Config.Basic

/-!
# Reading a command line

Letters may be joined, and a value may follow its option directly, with or without an equals sign,
or as the next argument. The kinds to exclude may go on over several arguments. Every other option
is given at most once.
-/

namespace ClientGen.Command

structure Options where
  url : Option String := none
  output : Option String := none
  config : Option String := none
  clean : Bool := false
  exclude : List ArtifactKind := []
  basePath : Option String := none
  useAlias : Bool := false
  templateDir : Option String := none
  prettier : Bool := false
deriving DecidableEq, Repr, Inhabited

/-- Why nothing is generated: the command line cannot be understood, or it asks for a text. -/
inductive Stop where
  | misuse
  | text (text : String)
deriving DecidableEq, Repr

/-- The options read so far, which of them were given, and the option that may take the next
argument, with whether it has a value. -/
structure Reading where
  options : Options := {}
  given : List OptionName := []
  pending : Option (OptionName × Bool) := none
deriving Repr, Inhabited

def readKinds (value : String) : Except Stop (List ArtifactKind) :=
  (value.toList.splitOn ',').mapM fun name =>
    match ArtifactKind.read (String.ofList name) with
    | .ok kind => .ok kind
    | .error _ => .error .misuse

def readPath (value : String) : Except Stop (Option String) :=
  if value = "" then .error .misuse else .ok (some value)

def Options.set (o : Options) (name : OptionName) (value : String) : Except Stop Options := do
  match name with
  | .url => return { o with url := some value }
  | .output => return { o with output := ← readPath value }
  | .config => return { o with config := ← readPath value }
  | .exclude => return { o with exclude := o.exclude ++ (← readKinds value) }
  | .basePath => return { o with basePath := some value }
  | .templateDir => return { o with templateDir := ← readPath value }
  | _ => throw .misuse

def Options.turnOn (o : Options) : OptionName → Options
  | .clean => { o with clean := true }
  | .useAlias => { o with useAlias := true }
  | .prettier => { o with prettier := true }
  | _ => o

namespace Reading

def takeValue (r : Reading) (name : OptionName) (value : String) : Except Stop Reading := do
  let options ← r.options.set name value
  return { r with options, pending := if name = .exclude then some (name, true) else none }

def settle (r : Reading) : Except Stop Reading :=
  match r.pending with
  | some (_, false) => .error .misuse
  | _ => .ok { r with pending := none }

/-- Reads an option with the value that is joined to it, if there is one. `help` is the text that
help shows. -/
def start (help : Bool → String) (isLong : Bool) (r : Reading) (name : OptionName)
    (joined? : Option String) : Except Stop Reading := do
  let r ← r.settle
  if name.value?.isNone && joined?.isSome then throw .misuse
  if name = .help then throw (.text (help isLong))
  if name = .version then throw (.text versionText)
  if name ≠ .exclude && r.given.contains name then throw .misuse
  let r := { r with given := name :: r.given }
  match name.value?, joined? with
  | none, _ => return { r with options := r.options.turnOn name }
  | some _, none => return { r with pending := some (name, false) }
  | some _, some value => return { ← r.takeValue name value with pending := none }

def startLetters (help : Bool → String) (names : List OptionName) :
    List Char → Reading → Except Stop Reading
  | [], r => .ok r
  | c :: rest, r =>
    match names.find? (·.letter? = some c) with
    | none => .error .misuse
    | some name =>
      if name.value?.isNone then
        (r.start help false name none).bind (startLetters help names rest)
      else r.start help false name (match rest with
        | [] => none
        | '=' :: value => some (String.ofList value)
        | value => some (String.ofList value))

def startLong (help : Bool → String) (names : List OptionName) (text : List Char) (r : Reading) :
    Except Stop Reading :=
  let long := text.takeWhile (· ≠ '=')
  match names.find? (·.long.toList = long) with
  | none => .error .misuse
  | some name =>
    r.start help true name (match text.drop long.length with
      | [] => none
      | _ :: value => some (String.ofList value))

def option? (help : Bool → String) (names : List OptionName) (r : Reading) (argument : String) :
    Option (Except Stop Reading) :=
  match argument.toList with
  | '-' :: '-' :: text => some (r.startLong help names text)
  | '-' :: c :: text => some (r.startLetters help names (c :: text))
  | _ => none

end Reading

/-- Reads the arguments of the command that generates. Two dashes end them. -/
def readGenerate (r : Reading) : List String → Except Stop Options
  | [] => (r.settle).map (·.options)
  | "--" :: rest => if rest.isEmpty then (r.settle).map (·.options) else .error .misuse
  | argument :: rest =>
    match r.option? generateHelp generateOptions argument, r.pending with
    | some result, _ => result.bind (readGenerate · rest)
    | none, some (name, _) => (r.takeValue name argument).bind (readGenerate · rest)
    | none, none => .error .misuse

def readHelp : List String → Stop
  | [] => .text programHelp
  | ["generate"] => .text (generateHelp true)
  | ["help"] => .text helpHelp
  | _ => .misuse

def readFrom (r : Reading) : List String → Except Stop Options
  | [] => .error .misuse
  | "generate" :: rest => readGenerate {} rest
  | "help" :: rest => .error (readHelp rest)
  | argument :: rest =>
    match r.option? (fun _ => programHelp) commonOptions argument with
    | some result => result.bind (readFrom · rest)
    | none => .error .misuse

def Options.read (arguments : List String) : Except Stop Options := readFrom {} arguments

end ClientGen.Command
