import ClientGen.Plan.Basic

/-!
# Form slices

Every object model has a slice that keeps the state of a form for it. Models that differ only in
the ending `Upsert` or `GetToAlter` share one slice, that of the first of them.
-/

namespace ClientGen

structure Slice where
  name : String
  model : String
deriving DecidableEq, Repr, Inhabited

namespace Slice

def ident (slice : Slice) : String := Text.camelCase slice.name

def file (slice : Slice) : String := slice.name ++ "Slice"

def formKey (slice : Slice) : String := slice.name ++ "-form-slice"

def constant (slice : Slice) : String :=
  String.ofList (slice.name.toList.flatMap Unicode.uppercase)

end Slice

def dropEnding? (ending name : String) : Option String :=
  let letters := name.toList
  if ending.toList.isSuffixOf letters then
    some (String.ofList (letters.take (letters.length - ending.length)))
  else none

/-- The name of a model without `Upsert` or `GetToAlter` at its end, unless nothing is left. -/
def formName (model : String) : String :=
  let stripped := match dropEnding? "Upsert" model with
    | some name => some name
    | none => dropEnding? "GetToAlter" model
  (stripped.filter (· ≠ "")).getD model

def DeclaredType.isObject (type : DeclaredType) : Bool :=
  match type.kind with
  | .object _ => true
  | _ => false

def slicesOf (models : List String) : List Slice :=
  models.foldl
    (fun slices model =>
      let name := Text.identifier (formName model)
      if slices.any (·.name = name) then slices else slices ++ [⟨name, model⟩])
    []

def Plan.slices (plan : Plan) : List Slice :=
  slicesOf ((plan.types.filter DeclaredType.isObject).map (·.name))

end ClientGen
