import ClientGen.Shell.Call

namespace ClientGen.Shell

open Files

def isOctal (c : Char) : Bool := '0' ≤ c && c ≤ '7'

def charOfOctal (digits : List Char) : Char :=
  Char.ofNat (digits.foldl (fun n d => n * 8 + (d.toNat - 48)) 0 % 256)

def escapeLetters : List (Char × Char) :=
  [('\\', '\\'), ('a', '\x07'), ('b', '\x08'), ('f', '\x0c'), ('n', '\n'), ('r', '\r'),
    ('t', '\t'), ('v', '\x0b')]

/-- Replaces what stands behind backslashes; the flag says that printing stops there. With
`leadingZero` octal digits count only behind a zero. `fuel` is more than the length. -/
def unescape (leadingZero : Bool) : Nat → List Char → List Char × Bool
  | 0, text => (text, false)
  | _, [] => ([], false)
  | fuel + 1, '\\' :: c :: rest =>
    let go (c : Char) (rest : List Char) :=
      let (text, stops) := unescape leadingZero fuel rest
      (c :: text, stops)
    match escapeLetters.lookup c with
    | some meant => go meant rest
    | none =>
      if c == 'c' then ([], true)
      else if leadingZero && c == '0' then
        let digits := (rest.takeWhile isOctal).take 3
        go (charOfOctal digits) (rest.drop digits.length)
      else if isOctal c then
        let digits := ((c :: rest).takeWhile isOctal).take 3
        go (charOfOctal digits) ((c :: rest).drop digits.length)
      else go '\\' (c :: rest)
  | fuel + 1, c :: rest =>
    let (text, stops) := unescape leadingZero fuel rest
    (c :: text, stops)

def echo : Tool := fun call m =>
  let (silent, arguments) := match call.arguments with
    | "-n" :: rest => (true, rest)
    | arguments => (false, arguments)
  let text := (String.intercalate " " arguments).toList
  let (text, stops) := unescape true (text.length + 1) text
  call.say (String.ofList text ++ if silent || stops then "" else "\n") (m.withStatus 0)

def padTo (width : Nat) (left : Bool) (text : List Char) : List Char :=
  let blanks := List.replicate (width - text.length) ' '
  if left then text ++ blanks else blanks ++ text

def formatted (directive : Char) (argument : String) : List Char × Bool :=
  match directive with
  | 'b' => unescape true (argument.toList.length + 1) argument.toList
  | 'c' => (argument.toList.take 1, false)
  | 's' => (argument.toList, false)
  | _ => ((toString (argument.toInt?.getD 0)).toList, false)

/-- Prints with a format once: the text, the arguments that are left, and whether printing stops.
`fuel` is more than the length of the format. -/
def formatOnce : Nat → List Char → List String → List Char × List String × Bool
  | 0, _, arguments => ([], arguments, false)
  | _, [], arguments => ([], arguments, false)
  | fuel + 1, '%' :: '%' :: rest, arguments =>
    let (text, left) := formatOnce fuel rest arguments
    ('%' :: text, left)
  | fuel + 1, '%' :: rest, arguments =>
    let isLeft := rest.head? = some '-'
    let rest := if isLeft then rest.drop 1 else rest
    let width := ((String.ofList (rest.takeWhile Char.isDigit)).toNat?).getD 0
    match rest.dropWhile Char.isDigit with
    | [] => ([], arguments, true)
    | directive :: rest =>
      let (shown, stops) := formatted directive (arguments.headD "")
      if stops then (shown, [], true)
      else
        let (text, left) := formatOnce fuel rest (arguments.drop 1)
        (padTo width isLeft shown ++ text, left)
  | fuel + 1, c :: rest, arguments =>
    let (text, left) := formatOnce fuel rest arguments
    (c :: text, left)

def formatAll (format : List Char) : Nat → List String → List Char
  | 0, _ => []
  | fuel + 1, arguments =>
    let (text, left, stops) := formatOnce (format.length + 1) format arguments
    if stops || left.isEmpty || left.length = arguments.length then text
    else text ++ formatAll format fuel left

def readFormat (format : String) : List Char :=
  (unescape false (format.toList.length + 1) format.toList).1

def printf : Tool := fun call m =>
  match call.arguments with
  | [] => call.refuse "usage: printf format [arg ...]" 2 m
  | format :: arguments =>
    call.say (String.ofList (formatAll (readFormat format) (arguments.length + 1) arguments))
      (m.withStatus 0)

def unaryTest? (m : Machine) (sign argument : String) : Option Bool :=
  let there? := (m.find argument).toOption
  match sign with
  | "-n" => some (argument ≠ "")
  | "-z" => some (argument = "")
  | "-e" => some there?.isSome
  | "-r" => some there?.isSome
  | "-w" => some there?.isSome
  | "-x" => some (m.isFolder argument)
  | "-d" => some (m.isFolder argument)
  | "-f" => some (m.tree.isFile m.folder argument)
  | "-s" => some (there?.any (· ≠ .file ""))
  | "-h" => some false
  | "-L" => some false
  | _ => none

def textTest? (sign : String) (a b : String) : Option Bool :=
  match sign with
  | "=" => some (a = b)
  | "!=" => some (a ≠ b)
  | _ => none

def numberTest? : String → Option (Int → Int → Bool)
  | "-eq" => some fun a b => a = b
  | "-ne" => some fun a b => a ≠ b
  | "-lt" => some fun a b => a < b
  | "-le" => some fun a b => a ≤ b
  | "-gt" => some fun a b => b < a
  | "-ge" => some fun a b => b ≤ a
  | _ => none

def readNumber (text : String) : Except String Int :=
  match text.toInt? with
  | some n => .ok n
  | none => .error ("Illegal number: " ++ text)

def testAnswer (m : Machine) : List String → Except String Bool
  | [] => .ok false
  | [a] => .ok (a ≠ "")
  | "!" :: rest => (testAnswer m rest).map (!·)
  | [sign, a] =>
    match unaryTest? m sign a with
    | some answer => .ok answer
    | none => .error (sign ++ ": unexpected operator")
  | [a, sign, b] =>
    match textTest? sign a b, numberTest? sign with
    | some answer, _ => .ok answer
    | none, some compare => do return compare (← readNumber a) (← readNumber b)
    | none, none => .error (sign ++ ": unexpected operator")
  | a :: "-a" :: rest => do return a ≠ "" && (← testAnswer m rest)
  | a :: "-o" :: rest => do return a ≠ "" || (← testAnswer m rest)
  | sign :: a :: "-a" :: rest => do
    return (unaryTest? m sign a).getD false && (← testAnswer m rest)
  | sign :: a :: "-o" :: rest => do
    return (unaryTest? m sign a).getD false || (← testAnswer m rest)
  | a :: sign :: _ =>
    .error ((if (unaryTest? m a "").isSome then sign else a) ++ ": unexpected operator")

def test : Tool := fun call m =>
  let arguments? :=
    if call.name = "[" then
      if call.arguments.getLast? = some "]" then some call.arguments.dropLast else none
    else some call.arguments
  match arguments? with
  | none => call.refuse "missing ]" 2 m
  | some arguments =>
    match testAnswer m arguments with
    | .ok answer => m.withStatus (if answer then 0 else 1)
    | .error problem => call.refuse problem 2 m

def changeFolder : Tool := fun call m =>
  let path := call.arguments.headD (m.value "HOME")
  if path = "" then m.withStatus 0
  else match m.tree.locate m.folder path with
    | .ok place =>
      if m.tree.at? place = some .folder then { m with folder := place, status := 0 }
      else call.refuse ("can't cd to " ++ path) 2 m
    | .error _ => call.refuse ("can't cd to " ++ path) 2 m

def printFolder : Tool := fun call m => call.say (m.folderPath ++ "\n") (m.withStatus 0)

def exit : Tool := fun call m =>
  match call.arguments with
  | [] => { m with ended := some (.code m.status) }
  | code :: _ =>
    match code.toNat? with
    | some n => { m with status := n % 256, ended := some (.code (n % 256)) }
    | none => { call.refuse ("Illegal number: " ++ code) 2 m with ended := some (.code 2) }

def signalNumber? (text : String) : Option Nat :=
  let name := if text.startsWith "SIG" then String.ofList (text.toList.drop 3) else text
  text.toNat?.or ((signalNames.find? (·.2 = name)).map (·.1))

def kill : Tool := fun call m =>
  let (signal?, targets) := match call.arguments with
    | "-s" :: signal :: rest => (signalNumber? signal, rest)
    | first :: rest =>
      if first.startsWith "-" then (signalNumber? (String.ofList (first.toList.drop 1)), rest)
      else (some 15, first :: rest)
    | [] => (some 15, [])
  match signal?, targets with
  | some signal, target :: _ =>
    if target ≠ Machine.processId then call.refuse "No such process\n" 1 m
    else if signal = 0 then m.withStatus 0
    else { m with ended := some (.signal signal) }
  | none, _ => call.refuse "Illegal option" 2 m
  | _, [] => call.refuse "Usage: kill [-s sigspec | -signum | -sigspec] [pid | job]..." 2 m

def endsAtFailure : String := "-e"

def setOptions : Tool := fun call m =>
  match call.arguments with
  | "-e" :: _ => (m.assign endsAtFailure "on").withStatus 0
  | "+e" :: _ => (m.assign endsAtFailure "").withStatus 0
  | _ => m.withStatus 0

def setVariables : Tool := fun call m =>
  call.arguments.foldl
    (fun m argument =>
      match argument.toList.dropWhile (· ≠ '=') with
      | [] => m
      | _ :: value =>
        m.assign (String.ofList (argument.toList.takeWhile (· ≠ '='))) (String.ofList value))
    (m.withStatus 0)

def removeVariables : Tool := fun call m =>
  { m with environment := m.environment.filter (!call.arguments.contains ·.1), status := 0 }

def shellTools : List (String × Tool) :=
  [(":", fun _ m => m.withStatus 0), ("true", fun _ m => m.withStatus 0),
    ("false", fun _ m => m.withStatus 1), ("echo", echo), ("printf", printf), ("test", test),
    ("[", test), ("cd", changeFolder), ("pwd", printFolder), ("exit", exit), ("kill", kill),
    ("export", setVariables), ("unset", removeVariables), ("set", setOptions),
    ("wait", fun _ m => m.withStatus 0),
    ("umask", fun _ m => m.withStatus 0)]

def specialTools : List String := [":", "exit", "export", "unset", "set", "exec"]

end ClientGen.Shell
