import ClientGen.Json.Number

/-!
# JSON values

An object is its list of members in the order of the text. The readers of this library produce
objects whose member names are distinct.
-/

namespace ClientGen

inductive Json where
  | null
  | bool (value : Bool)
  | num (value : Number)
  | str (value : String)
  | arr (items : List Json)
  | obj (members : List (String × Json))
deriving Repr, Inhabited

namespace Json

def members? : Json → Option (List (String × Json))
  | .obj members => some members
  | _ => none

def items? : Json → Option (List Json)
  | .arr items => some items
  | _ => none

def text? : Json → Option String
  | .str s => some s
  | _ => none

def bool? : Json → Option Bool
  | .bool b => some b
  | _ => none

def number? : Json → Option Number
  | .num n => some n
  | _ => none

def natural? : Json → Option Nat
  | .num (.int n) => if n < 0 then none else some n.toNat
  | _ => none

/-- The member of an object with a given name. -/
def get? (key : String) : Json → Option Json
  | .obj members => members.lookup key
  | _ => none

def getText? (key : String) (j : Json) : Option String := (j.get? key).bind text?

def getItems? (key : String) (j : Json) : Option (List Json) := (j.get? key).bind items?

/-- Whether a member is `true`. -/
def flag (key : String) (j : Json) : Bool := ((j.get? key).bind bool?).getD false

def ofTexts (texts : List String) : Json := .arr (texts.map .str)

def ofText? : Option String → Json
  | some s => .str s
  | none => .null

def ofNat (n : Nat) : Json := .num (.int n)

end Json

end ClientGen
