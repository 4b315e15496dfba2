import ClientGen.Pattern.Basic

/-!
# Reading patterns

The notation has literals, `.`, bracketed sets, `\d`, `\s`, `\w` and their complements, the
boundaries `^`, `$`, `\A`, `\z`, `\b` and `\B`, repetitions with `*`, `+`, `?` and counts in
braces, each lazy with a further `?`, alternatives, groups, named groups, and switches such as
`(?-i)`. Look-around, back-references, unknown escapes, reversed ranges, repeated group names and
unbalanced brackets are refused. Case is ignored unless a switch says otherwise.
-/

namespace ClientGen

open Unicode

/-- The switches that may change inside a pattern. -/
structure Switches where
  ignoreCase : Bool := true
  multiLine : Bool := false
  dotAll : Bool := false
  swapGreed : Bool := false
deriving Repr, Inhabited

/-- Where reading stands: the characters to come, the switches in force, how many groups have been
opened, and the names among them. -/
structure PatternReading where
  rest : List Char
  switches : Switches
  groups : Nat
  names : List (String × Nat)

namespace PatternReading

/-- What a backslash and a letter stand for. -/
inductive Escape where
  | char (c : Char)
  | set (set : CharSet)
  | boundary (place : Boundary)

def hexValue? (c : Char) : Option Nat :=
  if c.isDigit then some (c.toNat - 48)
  else if 'a' ≤ c && c ≤ 'f' then some (c.toNat - 87)
  else if 'A' ≤ c && c ≤ 'F' then some (c.toNat - 55)
  else none

def charOfHex? (digits : List Char) : Option Char := do
  if digits.isEmpty || digits.length > 8 then none
  let values ← digits.mapM hexValue?
  let code := values.foldl (fun n d => n * 16 + d) 0
  if code < 0xD800 || (0xDFFF < code && code < 0x110000) then some (Char.ofNat code) else none

/-- A character code after `\x`, `\u` or `\U`: in braces, or of a fixed number of digits. -/
def readHex? (size : Nat) (text : List Char) : Option (Char × List Char) :=
  match text with
  | '\x7b' :: rest =>
    match rest.dropWhile (· ≠ '\x7d') with
    | _ :: after => (charOfHex? (rest.takeWhile (· ≠ '\x7d'))).map (·, after)
    | [] => none
  | _ =>
    if (text.take size).length = size then (charOfHex? (text.take size)).map (·, text.drop size)
    else none

def readEscape? : List Char → Option (Escape × List Char)
  | [] => none
  | c :: rest =>
    match c with
    | 'd' => some (.set .decimal, rest)
    | 'D' => some (.set (.complement .decimal), rest)
    | 's' => some (.set .blank, rest)
    | 'S' => some (.set (.complement .blank), rest)
    | 'w' => some (.set .word, rest)
    | 'W' => some (.set (.complement .word), rest)
    | 'a' => some (.char (Char.ofNat 7), rest)
    | 'f' => some (.char (Char.ofNat 12), rest)
    | 't' => some (.char '\t', rest)
    | 'n' => some (.char '\n', rest)
    | 'r' => some (.char '\r', rest)
    | 'v' => some (.char (Char.ofNat 11), rest)
    | 'A' => some (.boundary .textStart, rest)
    | 'z' => some (.boundary .textEnd, rest)
    | 'b' => some (.boundary .word, rest)
    | 'B' => some (.boundary .notWord, rest)
    | 'x' => (readHex? 2 rest).map fun (c, after) => (.char c, after)
    | 'u' => (readHex? 4 rest).map fun (c, after) => (.char c, after)
    | 'U' => (readHex? 8 rest).map fun (c, after) => (.char c, after)
    | c =>
      if isAscii c && !c.isAlphanum && c ≠ '<' && c ≠ '>' then some (.char c, rest) else none

def namedRanges? : String → Option (List (Char × Char))
  | "alnum" => some [('0', '9'), ('A', 'Z'), ('a', 'z')]
  | "alpha" => some [('A', 'Z'), ('a', 'z')]
  | "ascii" => some [(Char.ofNat 0, Char.ofNat 127)]
  | "blank" => some [('\t', '\t'), (' ', ' ')]
  | "cntrl" => some [(Char.ofNat 0, Char.ofNat 31), (Char.ofNat 127, Char.ofNat 127)]
  | "digit" => some [('0', '9')]
  | "graph" => some [('!', '~')]
  | "lower" => some [('a', 'z')]
  | "print" => some [(' ', '~')]
  | "punct" => some [('!', '/'), (':', '@'), ('[', '\x60'), ('\x7b', '~')]
  | "space" => some [(Char.ofNat 9, Char.ofNat 13), (' ', ' ')]
  | "upper" => some [('A', 'Z')]
  | "word" => some [('0', '9'), ('A', 'Z'), ('_', '_'), ('a', 'z')]
  | "xdigit" => some [('0', '9'), ('A', 'F'), ('a', 'f')]
  | _ => none

def readNamedSet? (ignoreCase : Bool) (text : List Char) : Option (CharSet × List Char) :=
  match text with
  | ':' :: rest =>
    let (negated, rest) := match rest with
      | '^' :: rest => (true, rest)
      | rest => (false, rest)
    match rest.dropWhile (· ≠ ':') with
    | ':' :: ']' :: after =>
      (namedRanges? (String.ofList (rest.takeWhile (· ≠ ':')))).map fun ranges =>
        let set := ranges.foldl (fun set (low, high) => .union set (.range low high ignoreCase))
          CharSet.empty
        (if negated then .complement set else set, after)
    | _ => none
  | _ => none

/-- How two sets inside brackets are joined. -/
inductive SetOperator where
  | both | difference | symmetric

def setOperator? : List Char → Option (SetOperator × List Char)
  | '&' :: '&' :: rest => some (.both, rest)
  | '-' :: '-' :: rest => some (.difference, rest)
  | '~' :: '~' :: rest => some (.symmetric, rest)
  | _ => none

def SetOperator.apply (left right : CharSet) : SetOperator → CharSet
  | .both => .both left right
  | .difference => .both left (.complement right)
  | .symmetric => .both (.union left right) (.complement (.both left right))

/-- The sets read so far: those before the last operator, with it, and those after it. -/
structure SetReading where
  joined : Option (CharSet × SetOperator)
  current : CharSet

def SetReading.total (r : SetReading) : CharSet :=
  match r.joined with
  | some (left, operator) => operator.apply left r.current
  | none => r.current

def SetReading.add (r : SetReading) (set : CharSet) : SetReading :=
  { r with current := .union r.current set }

/-- One member of a bracketed set: a character or a set of characters. -/
def readMember? : List Char → Option (Escape × List Char)
  | [] => none
  | '\\' :: rest =>
    match readEscape? rest with
    | some (.boundary _, _) => none
    | result => result
  | c :: rest => some (.char c, rest)

def readRange? (ignoreCase : Bool) (text : List Char) : Option (CharSet × List Char) := do
  let (low, rest) ← readMember? text
  match rest with
  | [] => none
  | '-' :: next :: after =>
    if next = ']' || next = '-' then finish low rest
    else do
      let (high, after) ← readMember? (next :: after)
      match low, high with
      | .char low, .char high =>
        if low ≤ high then some (.range low high ignoreCase, after) else none
      | _, _ => none
  | _ => finish low rest
where
  finish (member : Escape) (rest : List Char) : Option (CharSet × List Char) :=
    match member with
    | .char c => some (.range c c ignoreCase, rest)
    | .set set => some (set, rest)
    | .boundary _ => none

def readLeading (ignoreCase : Bool) (text : List Char) : CharSet × List Char :=
  let hyphens := text.takeWhile (· = '-')
  let rest := text.dropWhile (· = '-')
  if !hyphens.isEmpty then (.range '-' '-' ignoreCase, rest)
  else match rest with
    | ']' :: after => (.range ']' ']' ignoreCase, after)
    | _ => (.empty, rest)

mutual

/-- A bracketed set, its opening bracket already read; `fuel` bounds its characters. -/
def readSet? (ignoreCase : Bool) (fuel : Nat) (text : List Char) : Option (CharSet × List Char) :=
  match fuel with
  | 0 => none
  | fuel + 1 => do
    let (negated, text) := match text with
      | '^' :: rest => (true, rest)
      | rest => (false, rest)
    let (leading, text) := readLeading ignoreCase text
    let (set, rest) ← readMembers? ignoreCase fuel ⟨none, leading⟩ text
    some (if negated then .complement set else set, rest)

def readMembers? (ignoreCase : Bool) (fuel : Nat) (state : SetReading) (text : List Char) :
    Option (CharSet × List Char) :=
  match fuel with
  | 0 => none
  | fuel + 1 =>
    match text with
    | [] => none
    | ']' :: rest => some (state.total, rest)
    | '[' :: rest =>
      match readNamedSet? ignoreCase rest with
      | some (set, after) => readMembers? ignoreCase fuel (state.add set) after
      | none => do
        let (set, after) ← readSet? ignoreCase fuel rest
        readMembers? ignoreCase fuel (state.add set) after
    | text =>
      match setOperator? text with
      | some (operator, after) =>
        readMembers? ignoreCase fuel ⟨some (state.total, operator), .empty⟩ after
      | none => do
        let (set, after) ← readRange? ignoreCase text
        readMembers? ignoreCase fuel (state.add set) after

end

def readCount? (text : List Char) : Option (Nat × List Char) :=
  let text := text.dropWhile isBlank
  match text.takeWhile Char.isDigit with
  | [] => none
  | digits =>
    let n := digits.foldl (fun n d => n * 10 + (d.toNat - 48)) 0
    if n < Nat.pow 2 32 then some (n, (text.dropWhile Char.isDigit).dropWhile isBlank) else none

def readCounts? (text : List Char) : Option ((Nat × Option Nat) × List Char) := do
  let (least, rest) ← readCount? text
  match rest with
  | '\x7d' :: after => some ((least, some least), after)
  | ',' :: '\x7d' :: after => some ((least, none), after)
  | ',' :: rest =>
    let (most, rest) ← readCount? rest
    match rest with
    | '\x7d' :: after => if least ≤ most then some ((least, some most), after) else none
    | _ => none
  | _ => none

/-- The repetition operator that stands here, if any: the counts, or nothing where they are
malformed. -/
def repetition? : List Char → Option (Option ((Nat × Option Nat) × List Char))
  | '*' :: rest => some (some ((0, none), rest))
  | '+' :: rest => some (some ((1, none), rest))
  | '?' :: rest => some (some ((0, some 1), rest))
  | '\x7b' :: rest => some (readCounts? rest)
  | _ => none

inductive Opening where
  | capturing (name : Option String)
  | plain (switches : Switches)
  | switches (switches : Switches)

/-- Sets one switch. Those for Unicode and for line ends are taken but change nothing here. -/
def setSwitch? (s : Switches) (on : Bool) : Char → Option Switches
  | 'i' => some { s with ignoreCase := on }
  | 'm' => some { s with multiLine := on }
  | 's' => some { s with dotAll := on }
  | 'U' => some { s with swapGreed := on }
  | 'u' => some s
  | 'R' => some s
  | _ => none

def readSwitches? (s : Switches) (on : Bool) (seen : List Char) :
    List Char → Option (Opening × List Char)
  | [] => none
  | ':' :: rest => if seen.head? = some '-' then none else some (.plain s, rest)
  | ')' :: rest =>
    if seen.isEmpty || seen.head? = some '-' then none else some (.switches s, rest)
  | c :: rest =>
    if seen.contains c then none
    else if c = '-' then readSwitches? s false (c :: seen) rest
    else do
      let s ← setSwitch? s on c
      readSwitches? s on (c :: seen) rest

def isGroupName : List Char → Bool
  | [] => false
  | c :: rest =>
    (c == '_' || isAlphabetic c) &&
      rest.all fun c => c == '_' || c == '.' || c == '[' || c == ']' || isAlphanumeric c

def readName? (text : List Char) : Option (Opening × List Char) :=
  let name := text.takeWhile (· ≠ '>')
  match text.dropWhile (· ≠ '>') with
  | _ :: after =>
    if isGroupName name then some (.capturing (some (String.ofList name)), after) else none
  | [] => none

def readOpening? (s : Switches) : List Char → Option (Opening × List Char)
  | '?' :: 'P' :: '<' :: rest => readName? rest
  | '?' :: '<' :: c :: rest => if c = '=' || c = '!' then none else readName? (c :: rest)
  | '?' :: rest => readSwitches? s true [] rest
  | rest => some (.capturing none, rest)

def sequenceOf : List Pattern → Pattern
  | [] => .nothing
  | last :: before => before.foldl (fun later p => .sequence p later) last

def anchor (multiLine start : Bool) : Pattern :=
  match multiLine, start with
  | false, true => .boundary .textStart
  | false, false => .boundary .textEnd
  | true, true => .boundary .lineStart
  | true, false => .boundary .lineEnd

def dot (dotAll : Bool) : CharSet :=
  if dotAll then .complement .empty else .complement (.range '\n' '\n' false)

def Escape.pattern (ignoreCase : Bool) : Escape → Pattern
  | .char c => .char (.range c c ignoreCase)
  | .set chars => .char chars
  | .boundary place => .boundary place

def openGroup? (state : PatternReading) (name : Option String) (rest : List Char) :
    Option PatternReading :=
  let index := state.groups + 1
  match name with
  | none => some { state with rest, groups := index }
  | some name =>
    if (state.names.lookup name).isSome then none
    else some { state with rest, groups := index, names := state.names ++ [(name, index)] }

mutual

/-- Reads alternatives up to a closing bracket or the end; `fuel` bounds the characters. -/
def readChoice? (fuel : Nat) (state : PatternReading) : Option (Pattern × PatternReading) :=
  match fuel with
  | 0 => none
  | fuel + 1 => do
    let (first, state) ← readSequence? fuel [] none state
    match state.rest with
    | '|' :: rest =>
      let (second, state) ← readChoice? fuel { state with rest }
      some (.choice first second, state)
    | _ => some (first, state)

/-- Reads the items of one alternative. `before` has the items read, the last one first, except
`last`, which a repetition operator may still apply to. -/
def readSequence? (fuel : Nat) (before : List Pattern) (last : Option Pattern)
    (state : PatternReading) : Option (Pattern × PatternReading) :=
  match fuel with
  | 0 => none
  | fuel + 1 =>
    let items := last.toList ++ before
    let item (p : Pattern) (rest : List Char) :=
      readSequence? fuel items (some p) { state with rest }
    match state.rest with
    | [] => some (sequenceOf items, state)
    | '|' :: _ => some (sequenceOf items, state)
    | ')' :: _ => some (sequenceOf items, state)
    | '(' :: rest => do
      let (opening, rest) ← readOpening? state.switches rest
      match opening with
      | .switches switches => readSequence? fuel items none { state with rest, switches }
      | .plain switches =>
        let (inner, after) ← readChoice? fuel { state with rest, switches }
        match after.rest with
        | ')' :: rest =>
          readSequence? fuel items (some inner) { after with rest, switches := state.switches }
        | _ => none
      | .capturing name =>
        let opened ← openGroup? state name rest
        let (inner, after) ← readChoice? fuel opened
        match after.rest with
        | ')' :: rest =>
          readSequence? fuel items (some (.group opened.groups inner))
            { after with rest, switches := state.switches }
        | _ => none
    | '[' :: rest => do
      let (chars, rest) ← readSet? state.switches.ignoreCase (2 * rest.length + 2) rest
      item (.char chars) rest
    | '\\' :: rest => do
      let (escape, rest) ← readEscape? rest
      item (escape.pattern state.switches.ignoreCase) rest
    | '.' :: rest => item (.char (dot state.switches.dotAll)) rest
    | '^' :: rest => item (anchor state.switches.multiLine true) rest
    | '$' :: rest => item (anchor state.switches.multiLine false) rest
    | c :: rest =>
      match repetition? (c :: rest) with
      | none => item (.char (.range c c state.switches.ignoreCase)) rest
      | some counts => do
        let inner ← last
        let ((least, most), rest) ← counts
        let (lazy, rest) := match rest with
          | '?' :: rest => (true, rest)
          | rest => (false, rest)
        readSequence? fuel before
          (some (.repeated inner least most (lazy == state.switches.swapGreed))) { state with rest }

end

end PatternReading

def NamedPattern.read? (text : String) : Option NamedPattern := do
  let chars := text.toList
  let (pattern, state) ← PatternReading.readChoice? (2 * chars.length + 2) ⟨chars, {}, 0, []⟩
  match state.rest with
  | [] => some { pattern, names := state.names }
  | _ => none

end ClientGen
