import ClientGen.Yaml.Token

/-!
# Nodes of YAML documents

A document is a tree of scalars, sequences and mappings. A node may carry an anchor, and an alias
elsewhere stands for it.
-/

namespace ClientGen.Yaml

/-- A node. An alias names the number of an anchor. -/
inductive Node where
  | scalar (tag : Option String) (style : Style) (text : String)
  | sequence (tag : Option String) (items : List Node)
  | mapping (tag : Option String) (entries : List (Node × Node))
  | alias (number : Nat)
deriving Repr, Inhabited

def Node.blank : Node := .scalar none .plain ""

/-- The state of reading: the tokens to come, what the handles of tags stand for, the numbers of
the anchors, and the nodes with anchors, latest first. A node is counted once, and a collection
once more for its end. -/
structure Reading where
  tokens : List Token
  handles : List (String × String)
  numbers : List (String × Nat) := []
  anchored : List (Nat × Node) := []
  count : Nat := 0

abbrev Reader := StateT Reading Option

namespace Reader

def next? : Reader (Option Token) := return (← get).tokens.head?

def pass : Reader Unit := modify fun s => { s with tokens := s.tokens.tail }

def sees (tokens : List Token) : Reader Bool := return (← next?).any tokens.contains

def expect (token : Token) : Reader Unit := do
  if ← sees [token] then pass else failure

def count : Reader Unit := modify fun s => { s with count := s.count + 1 }

def resolveTag (handle ending : String) : Reader String := do
  if handle = "" then return ending
  match (← get).handles.lookup handle with
  | some lead => return lead ++ ending
  | none => failure

/-- Reads an anchor and a tag in either order: the name and the tag. -/
def readProperties : Reader (Option String × Option String) := do
  match (← get).tokens with
  | .anchor name :: .tag handle ending :: rest =>
    modify ({ · with tokens := rest })
    return (some name, some (← resolveTag handle ending))
  | .tag handle ending :: .anchor name :: rest =>
    modify ({ · with tokens := rest })
    return (some name, some (← resolveTag handle ending))
  | .anchor name :: rest =>
    modify ({ · with tokens := rest })
    return (some name, none)
  | .tag handle ending :: rest =>
    modify ({ · with tokens := rest })
    return (none, some (← resolveTag handle ending))
  | _ => return (none, none)

/-- Reads a node and keeps it under its anchor, which is known inside of it too. An anchor has the
number of names known before it. -/
def withAnchor (name? : Option String) (read : Reader Node) : Reader Node := do
  count
  match name? with
  | none => read
  | some name =>
    let before ← get
    let number := before.numbers.length
    set { before with numbers := (name, number) :: before.numbers.filter (·.1 ≠ name) }
    let node ← read
    modify fun s =>
      let inner := s.anchored.length - before.anchored.length
      { s with anchored := s.anchored.take inner ++ (number, node) :: before.anchored }
    return node

def scalarTag (tag? : Option String) : Option String := tag?.filter (· ≠ "!")

mutual

/-- Reads a node. Collections without brackets may start here with `block`, and a sequence that is
not indented with `flat`. -/
def readNode (block flat : Bool) : Nat → Reader Node
  | 0 => failure
  | fuel + 1 => do
    if let some (.alias name) ← next? then
      pass
      count
      match (← get).numbers.lookup name with
      | some number => return .alias number
      | none => failure
    let (name?, tag?) ← readProperties
    let collection (make : Option String → Reader Node) : Reader Node :=
      withAnchor name? (make tag?)
    match ← next? with
    | some (.scalar style text) =>
      pass
      withAnchor name? (return .scalar (scalarTag tag?) style text)
    | some .bracketOpen =>
      pass
      collection fun tag? => return .sequence tag? (← readFlowItems true fuel)
    | some .braceOpen =>
      pass
      collection fun tag? => return .mapping tag? (← readFlowEntries true fuel)
    | some token =>
      if flat && token = .item then
        collection fun tag? => return .sequence tag? (← readFlatItems fuel)
      else if block && token = .sequenceStart then
        pass
        collection fun tag? => return .sequence tag? (← readItems fuel)
      else if block && token = .mappingStart then
        pass
        collection fun tag? => return .mapping tag? (← readEntries fuel)
      else if name?.isSome || tag?.isSome then
        withAnchor name? (return .scalar (scalarTag tag?) .plain "")
      else failure
    | none =>
      if name?.isSome || tag?.isSome then
        withAnchor name? (return .scalar (scalarTag tag?) .plain "")
      else failure

def readUnless (stops : List Token) (block : Bool) (flat : Bool) : Nat → Reader Node
  | 0 => failure
  | fuel + 1 => do
    if ← sees stops then
      count
      return .blank
    else readNode block flat fuel

def readItems : Nat → Reader (List Node)
  | 0 => failure
  | fuel + 1 => do
    if ← sees [.item] then
      pass
      let item ← readUnless [.item, .blockEnd] true false fuel
      return item :: (← readItems fuel)
    else
      expect .blockEnd
      count
      return []

def readFlatItems : Nat → Reader (List Node)
  | 0 => failure
  | fuel + 1 => do
    if ← sees [.item] then
      pass
      let item ← readUnless [.item, .key, .value, .blockEnd] true false fuel
      return item :: (← readFlatItems fuel)
    else
      count
      return []

def readValue (stops : List Token) (block : Bool) : Nat → Reader Node
  | 0 => failure
  | fuel + 1 => do
    if ← sees [.value] then
      pass
      readUnless stops block block fuel
    else
      count
      return .blank

def readEntries : Nat → Reader (List (Node × Node))
  | 0 => failure
  | fuel + 1 => do
    if ← sees [.key] then
      pass
      let stops := [.key, .value, .blockEnd]
      let key ← readUnless stops true true fuel
      let value ← readValue stops true fuel
      return (key, value) :: (← readEntries fuel)
    else
      expect .blockEnd
      count
      return []

/-- Reads the items of a sequence in brackets. An entry of a mapping may stand there by itself. -/
def readFlowItems (isFirst : Bool) : Nat → Reader (List Node)
  | 0 => failure
  | fuel + 1 => do
    if !isFirst && !(← sees [.bracketClose]) then expect .comma
    if ← sees [.bracketClose] then
      pass
      count
      return []
    else if ← sees [.key] then
      pass
      let item ← withAnchor none do
        let stops := [.value, .comma, .bracketClose]
        let isBlank ← sees stops
        let key ← readUnless stops false false fuel
        if isBlank then pass
        let value ← readValue [.comma, .bracketClose] false fuel
        count
        return .mapping none [(key, value)]
      return item :: (← readFlowItems false fuel)
    else
      let item ← readNode false false fuel
      return item :: (← readFlowItems false fuel)

def readFlowEntries (isFirst : Bool) : Nat → Reader (List (Node × Node))
  | 0 => failure
  | fuel + 1 => do
    if !isFirst && !(← sees [.braceClose]) then expect .comma
    if ← sees [.braceClose] then
      pass
      count
      return []
    else if ← sees [.key] then
      pass
      let key ← readUnless [.value, .comma, .braceClose] false false fuel
      let value ← readValue [.comma, .braceClose] false fuel
      return (key, value) :: (← readFlowEntries false fuel)
    else
      let key ← readNode false false fuel
      count
      return (key, .blank) :: (← readFlowEntries false fuel)

end

def usualHandles : List (String × String) := [("!", "!"), ("!!", "tag:yaml.org,2002:")]

def numberOf (digits : List Char) : Nat := digits.foldl (fun n d => n * 10 + (d.toNat - 48)) 0

/-- Reads directives: whether there are any. `hasVersion` says that the version has been given,
and `handles` are those given so far. `fuel` is more than their number. -/
def readDirectives (hasVersion : Bool) (handles : List (String × String)) : Nat → Reader Bool
  | 0 => failure
  | fuel + 1 => do
    match ← next? with
    | some (.version major minor) =>
      if hasVersion || numberOf major ≠ 1 || !([1, 2].contains (numberOf minor)) then failure
      pass
      let _ ← readDirectives true handles fuel
      return true
    | some (.tagHandle handle lead) =>
      if (handles.lookup handle).isSome then failure
      pass
      let _ ← readDirectives hasVersion ((handle, lead) :: handles) fuel
      return true
    | _ =>
      modify fun s => { s with handles := handles ++ usualHandles }
      return false

def readDocument (fuel : Nat) : Reader (Option Node) := do
  let isDirected ← readDirectives false [] fuel
  let node? ← if ← sees [.documentStart] then do
      pass
      if (← next?).isNone || (← sees [.documentStart, .documentEnd]) then
        count
        pure (some .blank)
      else some <$> readNode true false fuel
    else if isDirected then failure
    else if (← next?).isNone then pure none
    else some <$> readNode true false fuel
  if (← get).tokens.all (· = .documentEnd) then return node? else failure

end Reader

/-- A document: its node, the nodes with anchors, and the size that the use of aliases is
measured by. -/
structure Document where
  root : Node
  anchored : List (Nat × Node)
  size : Nat
deriving Repr, Inhabited

/-- Reads a text that holds one document. One without a node is not told from an empty scalar. -/
def Document.read? (text : String) : Option Document := do
  let tokens ← readTokens? text
  let (node?, s) ← (Reader.readDocument (4 * tokens.length + 8)).run { tokens, handles := [] }
  return ⟨node?.getD .blank, s.anchored, max s.count 1⟩

end ClientGen.Yaml
