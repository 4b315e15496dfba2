import ClientGen.Dict
import ClientGen.Json.Token

/-!
# Reading JSON text

Tokens are put together with a stack of unfinished arrays and objects. A repeated member keeps its
first position and takes its last value, and at most 127 arrays and objects may be open at once.
-/

namespace ClientGen.Json

/-- An unfinished array, its items in reverse, or an unfinished object with the name of the member
that is being read. -/
inductive Frame where
  | array (items : List Json)
  | object (members : Dict Json) (key : String)

/-- What may come next. -/
inductive Expected where
  | value
  | valueOrEnd
  | keyOrEnd
  | key
  | colon (key : String)
  | separator
  | nothing (value : Json)

/-- The open arrays and objects, innermost first, and what may come next. -/
structure Reading where
  stack : List Frame
  expected : Expected

def maxOpen : Nat := 127

def Reading.place (stack : List Frame) (value : Json) : Reading :=
  match stack with
  | [] => ⟨[], .nothing value⟩
  | .array items :: outer => ⟨.array (value :: items) :: outer, .separator⟩
  | .object members key :: outer => ⟨.object (members.insert key value) key :: outer, .separator⟩

def Reading.closeArray? : List Frame → Option Reading
  | .array items :: outer => some (.place outer (.arr items.reverse))
  | _ => none

def Reading.closeObject? : List Frame → Option Reading
  | .object members _ :: outer => some (.place outer (.obj members.entries))
  | _ => none

def Reading.startValue? (stack : List Frame) : Token → Option Reading
  | .openBrace =>
    if stack.length < maxOpen then some ⟨.object .empty "" :: stack, .keyOrEnd⟩ else none
  | .openBracket =>
    if stack.length < maxOpen then some ⟨.array [] :: stack, .valueOrEnd⟩ else none
  | .text s => some (.place stack (.str s))
  | .value v => some (.place stack v)
  | _ => none

def Reading.read? (state : Reading) (token : Token) : Option Reading :=
  match state.expected, token with
  | .value, token => startValue? state.stack token
  | .valueOrEnd, .closeBracket => closeArray? state.stack
  | .valueOrEnd, token => startValue? state.stack token
  | .keyOrEnd, .closeBrace => closeObject? state.stack
  | .keyOrEnd, .text key => some ⟨state.stack, .colon key⟩
  | .key, .text key => some ⟨state.stack, .colon key⟩
  | .colon key, .colon =>
    match state.stack with
    | .object members _ :: outer => some ⟨.object members key :: outer, .value⟩
    | _ => none
  | .separator, .comma =>
    match state.stack with
    | .array _ :: _ => some ⟨state.stack, .value⟩
    | .object _ _ :: _ => some ⟨state.stack, .key⟩
    | [] => none
  | .separator, .closeBracket => closeArray? state.stack
  | .separator, .closeBrace => closeObject? state.stack
  | _, _ => none

def parse? (text : String) : Option Json := do
  let tokens ← tokens? text
  let state ← tokens.foldlM Reading.read? ⟨[], .value⟩
  match state.expected with
  | .nothing value => some value
  | _ => none

end ClientGen.Json
