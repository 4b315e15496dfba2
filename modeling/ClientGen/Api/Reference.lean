import ClientGen.Json.Pointer
import ClientGen.Ordered

/-!
# References between parts of a document

A reference is an object with a text member `$ref`. Types are referenced by the last segment of
that text, whatever stands in front of it.
-/

namespace ClientGen.Api

/-- The type that a reference text names: what follows its last slash. -/
def referenceName (reference : String) : String :=
  String.ofList (reference.toList.reverse.takeWhile (· ≠ '/')).reverse

/-- The type that a schema names if it is a bare reference. -/
def schemaReference? (schema : Json) : Option String :=
  (schema.getText? "$ref").map referenceName

mutual

def weight : Json → Nat
  | .obj members => memberWeight members + 1
  | .arr items => itemWeight items + 1
  | _ => 1

def itemWeight : List Json → Nat
  | [] => 0
  | item :: items => weight item + itemWeight items

def memberWeight : List (String × Json) → Nat
  | [] => 0
  | (_, value) :: members => weight value + memberWeight members

end

def memberReference? : String × Json → Option String
  | (key, .str text) => if key = "$ref" then some (referenceName text) else none
  | _ => none

theorem itemWeight_append (xs ys : List Json) :
    itemWeight (xs ++ ys) = itemWeight xs + itemWeight ys := by
  induction xs with
  | nil => simp [itemWeight]
  | cons x rest ih => simp [itemWeight, ih, Nat.add_assoc]

def memberValues : List (String × Json) → List Json
  | [] => []
  | (_, value) :: members => value :: memberValues members

theorem itemWeight_memberValues (members : List (String × Json)) :
    itemWeight (memberValues members) = memberWeight members := by
  induction members with
  | nil => rfl
  | cons member rest ih => simp [itemWeight, memberWeight, memberValues, ih]

def searchReferences (found : List String) (pending : List Json) : List String :=
  match pending with
  | [] => found
  | .obj members :: rest =>
    searchReferences ((members.filterMap memberReference?).foldl
      (fun set name => insertOrdered name set) found) (memberValues members ++ rest)
  | .arr items :: rest => searchReferences found (items ++ rest)
  | .null :: rest => searchReferences found rest
  | .bool _ :: rest => searchReferences found rest
  | .num _ :: rest => searchReferences found rest
  | .str _ :: rest => searchReferences found rest
termination_by itemWeight pending
decreasing_by
  all_goals simp [itemWeight, weight, itemWeight_append, itemWeight_memberValues]

/-- The types referenced at any depth of a value, in increasing order. -/
def collectReferences (value : Json) : List String := searchReferences [] [value]

end ClientGen.Api
