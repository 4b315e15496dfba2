import ClientGen.Shell.Token

/-!
# Reading shell text

A text is read line by line. What follows a line that is no command is not read any more.
-/

namespace ClientGen.Shell

abbrev Problem := Nat × String

abbrev Reader := StateT (List Token) (Except Problem)

def Token.keyword? : Token → Option String
  | .word _ [.plain text] => some text
  | _ => none

def Token.isOperator (text : String) : Token → Bool
  | .operator _ t => t = text
  | _ => false

def closingWords : List String := ["\x7d", "then", "elif", "else", "fi", "do", "done"]

def tokenName : Option Token → String
  | none => "end of file"
  | some (.operator _ "\n") => "newline"
  | some (.operator _ text) => "\"" ++ text ++ "\""
  | some (.redirect _ _ _) => "redirection"
  | some token =>
    match token.keyword? with
    | some text => if closingWords.contains text then "\"" ++ text ++ "\"" else "word"
    | none => "word"

def unexpected {α : Type} (expected : Option String) : Reader α := do
  let tokens ← get
  let line := (tokens.head?.map Token.line).getD 1
  let hint := match expected with
    | some text => " (expecting \"" ++ text ++ "\")"
    | none => ""
  throw (line, tokenName tokens.head? ++ " unexpected" ++ hint)

def next? : Reader (Option Token) := return (← get).head?

def pass : Reader Unit := modify List.tail

def passBreaks : Reader Unit := modify fun tokens => tokens.dropWhile (·.isOperator "\n")

def nextIs (texts : List String) : Reader Bool := do
  return (← next?).any fun token => texts.any token.isOperator

def nextWord? : Reader (Option String) := return (← next?).bind Token.keyword?

def atEnd : Reader Bool := do
  match ← next? with
  | none => return true
  | some token =>
    return token.isOperator ")" || (token.keyword?.map closingWords.contains).getD false

def expectWord (text : String) : Reader Unit := do
  if (← nextWord?) = some text then pass else unexpected (some text)

def assignment? (parts : Word) : Option (String × Word) :=
  match parts with
  | .plain text :: rest =>
    let chars := text.toList
    match chars.dropWhile isVariableChar, chars.head? with
    | '=' :: value, some c =>
      if isVariableStart c then
        some (String.ofList (chars.takeWhile isVariableChar),
          if value.isEmpty then rest else .plain (String.ofList value) :: rest)
      else none
    | _, _ => none
  | _ => none

def redirectionKind : String → RedirectionKind × Nat
  | "<" => (.input, 0)
  | "<&" => (.duplicate, 0)
  | ">>" => (.append, 1)
  | ">&" => (.duplicate, 1)
  | _ => (.output, 1)

def readRedirection? : Reader (Option Redirection) := do
  match ← get with
  | .redirect _ stream text :: .word _ target :: rest =>
    set rest
    let (kind, usual) := redirectionKind text
    return some ⟨stream.getD usual, kind, target⟩
  | .redirect _ _ _ :: rest =>
    set rest
    unexpected none
  | _ => return none

/-- Reads redirections; `fuel` bounds their number. -/
def readRedirections : Nat → Reader (List Redirection)
  | 0 => return []
  | fuel + 1 => do
    match ← readRedirection? with
    | some redirection => return redirection :: (← readRedirections fuel)
    | none => return []

/-- Reads words and redirections of a simple command; `fuel` bounds their number. -/
def readSimple (line : Nat) (assignments : List (String × Word)) (words : List Word)
    (redirections : List Redirection) : Nat → Reader Command
  | 0 => unexpected none
  | fuel + 1 => do
    match ← readRedirection? with
    | some redirection =>
      readSimple line assignments words (redirections ++ [redirection]) fuel
    | none =>
      match ← next? with
      | some (.word _ parts) =>
        pass
        match assignment? parts, words with
        | some entry, [] => readSimple line (assignments ++ [entry]) words redirections fuel
        | _, _ => readSimple line assignments (words ++ [parts]) redirections fuel
      | _ =>
        if ← nextIs ["("] then
          if words.length = 1 then
            pass
            if !(← nextIs [")"]) then unexpected (some ")")
          unexpected none
        return .simple line assignments words redirections

def variableName? (parts : Word) : Option String :=
  match parts with
  | [.plain text] =>
    if (text.toList.head?.any isVariableStart) && text.toList.all isVariableChar then some text
    else none
  | _ => none

/-- Reads the head of a loop over words: the variable and the words. -/
def readNames : Reader (String × List Word) := do
  match ← get with
  | .word line parts :: rest =>
    match variableName? parts with
    | none => throw (line, "Bad for loop variable")
    | some name =>
      set rest
      if (← nextWord?) = some "in" then
        pass
        let words := (← get).takeWhile fun
          | .word _ _ => true
          | _ => false
        modify (·.drop words.length)
        if !(← nextIs [";", "\n"]) then unexpected none
        pass
        return (name, words.filterMap fun
          | .word _ parts => some parts
          | _ => none)
      else
        if ← nextIs [";"] then pass
        return (name, [])
  | _ => unexpected none

mutual

def readCommand : Nat → Reader Command
  | 0 => unexpected none
  | fuel + 1 => do
    let line := ((← next?).map Token.line).getD 1
    let size := (← get).length
    if ← nextIs ["("] then
      pass
      let body ← readList fuel
      if ← nextIs [")"] then pass else unexpected (some ")")
      return .group true body line (← readRedirections size)
    else match ← nextWord? with
      | some "\x7b" =>
        pass
        let body ← readList fuel
        expectWord "\x7d"
        return .group false body line (← readRedirections size)
      | some "if" =>
        pass
        let body ← readCondition fuel
        return .group false body line (← readRedirections size)
      | some "for" =>
        pass
        let (name, words) ← readNames
        let body ← readBody fuel
        return .group false (.each name words body) line (← readRedirections size)
      | some word =>
        if word = "while" || word = "until" then
          pass
          let test ← readList fuel
          let body ← readBody fuel
          return .group false (.loop (word = "until") test body) line (← readRedirections size)
        else if closingWords.contains word then unexpected none
        else readSimple line [] [] [] (size + 1)
      | _ =>
        match ← next? with
        | none => unexpected none
        | some (.operator _ _) => unexpected none
        | some _ => readSimple line [] [] [] (size + 1)

def readBody : Nat → Reader Command
  | 0 => unexpected none
  | fuel + 1 => do
    passBreaks
    expectWord "do"
    let body ← readList fuel
    expectWord "done"
    return body

def readCondition : Nat → Reader Command
  | 0 => unexpected none
  | fuel + 1 => do
    let test ← readList fuel
    expectWord "then"
    let body ← readList fuel
    match ← nextWord? with
    | some "fi" =>
      pass
      return .condition test body .nothing
    | some "elif" =>
      pass
      return .condition test body (← readCondition fuel)
    | some "else" =>
      pass
      let otherwise ← readList fuel
      expectWord "fi"
      return .condition test body otherwise
    | _ => unexpected (some "fi")

def readPipeline : Nat → Reader Command
  | 0 => unexpected none
  | fuel + 1 => do
    if (← nextWord?) = some "!" then
      pass
      return .negated (← readPipeline fuel)
    else readPipes fuel (← readCommand fuel)

def readPipes : Nat → Command → Reader Command
  | 0, _ => unexpected none
  | fuel + 1, left => do
    if ← nextIs ["|"] then
      pass
      passBreaks
      readPipes fuel (.pipe left (← readCommand fuel))
    else return left

def readChain : Nat → Command → Reader Command
  | 0, _ => unexpected none
  | fuel + 1, left => do
    if ← nextIs ["&&"] then
      pass
      passBreaks
      readChain fuel (.both left (← readPipeline fuel))
    else if ← nextIs ["||"] then
      pass
      passBreaks
      readChain fuel (.either left (← readPipeline fuel))
    else return left

def readList : Nat → Reader Command
  | 0 => unexpected none
  | fuel + 1 => do
    passBreaks
    if ← atEnd then return .nothing
    let first ← readChain fuel (← readPipeline fuel)
    if ← nextIs [";", "\n", "&"] then
      pass
      return .sequence first (← readList fuel)
    else return first

end

/-- Reads the commands of one line; `fuel` bounds their number. -/
def readLine : Nat → Reader Command
  | 0 => unexpected none
  | fuel + 1 => do
    let size := 8 * (← get).length + 8
    let first ← readChain size (← readPipeline size)
    if ← nextIs [";", "&"] then
      pass
      if (← next?).isNone || (← nextIs ["\n"]) then return first
      return .sequence first (← readLine fuel)
    else if (← next?).isNone || (← nextIs ["\n"]) then return first
    else unexpected none

/-- Reads lines; `fuel` is more than the number of tokens. -/
def readLines : Nat → List Token → Command
  | 0, _ => .nothing
  | fuel + 1, tokens =>
    match tokens.dropWhile (·.isOperator "\n") with
    | [] => .nothing
    | tokens =>
      match (readLine (tokens.length + 1)).run tokens with
      | .error (line, problem) => .broken line problem
      | .ok (command, rest) => .sequence command (readLines fuel rest)

def wholeLines (tokens : List Token) : List Token :=
  (tokens.reverse.dropWhile fun token => !token.isOperator "\n").reverse

def Command.read (text : String) : Command :=
  let chars := text.toList
  match readTokens (chars.length + 1) 1 chars with
  | (tokens, none) => readLines (tokens.length + 1) tokens
  | (tokens, some line) =>
    let kept := wholeLines tokens
    .sequence (readLines (kept.length + 1) kept) (.broken line "Unterminated quoted string")

end ClientGen.Shell
