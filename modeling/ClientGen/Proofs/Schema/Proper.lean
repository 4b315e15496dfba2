import ClientGen.Proofs.Schema.Shapes

/-!
# Proper schemas

A union of one branch and an intersection of one member are not made: the compiler puts the branch
or the member itself in their place, and where there is none the unknown schema.
-/

namespace ClientGen
open Api

/-- A schema whose unions and intersections have several parts. -/
inductive Schema.Proper : Schema → Prop
  | primitive (kind : PrimitiveKind) (c : Constraints) : Proper (.primitive kind c)
  | reference (name : String) (target : Target) : Proper (.reference name target)
  | array {element : Schema} : Proper element → Proper (.array element)
  | object {fields : List Field} :
      (∀ field ∈ fields, Proper field.schema) → Proper (.object fields)
  | union {branches : List Schema} :
      2 ≤ branches.length → (∀ branch ∈ branches, Proper branch) → Proper (.union branches)
  | intersection {members : List Schema} :
      2 ≤ members.length → (∀ member ∈ members, Proper member) → Proper (.intersection members)
  | nullable {inner : Schema} : Proper inner → Proper (.nullable inner)
  | unknown : Proper .unknown

theorem Schema.Compiled.proper {scope : Scope} {schema : Schema} (h : schema.Compiled scope) :
    schema.Proper := by
  induction h with
  | text _ => exact .primitive _ _
  | integer _ => exact .primitive _ _
  | number _ => exact .primitive _ _
  | boolean => exact .primitive _ _
  | file => exact .primitive _ _
  | reference name => exact .reference name _
  | array _ helement => exact .array helement
  | object _ hfields => exact .object hfields
  | union hlength _ hbranches => exact .union hlength hbranches
  | intersection hlength _ hmembers => exact .intersection hlength hmembers
  | nullable _ _ hinner => exact .nullable hinner
  | unknown => exact .unknown

theorem proper_compileAt (scope : Scope) (depth : Nat) (raw : Json) (location : String) :
    (compileAt scope depth raw location).value.Proper :=
  (compiled_compileAt scope depth raw location).proper

end ClientGen
