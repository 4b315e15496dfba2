import ClientGen.Schema.Basic
import Mathlib.Data.List.Basic

/-!
# Structure of types

The types of the generated code as trees. A union of unions has all their branches, an
intersection of intersections all their members, and either of a single type is that type: `join`
makes unions and intersections so, and the trees that it makes of such trees are again flat.
-/

namespace ClientGen

structure TypeMember (τ : Type) where
  name : String
  isOptional : Bool
  type : τ
deriving Repr, Inhabited

/-- The operators that join types: `|` and `&`. -/
inductive TypeOperator where
  | union | intersection
deriving DecidableEq, Repr

/-- A type. -/
inductive TypeExpr where
  | named (name : String)
  | generic (name : String) (arguments : List TypeExpr)
  | literal (text : String)
  | array (element : TypeExpr)
  | object (members : List (TypeMember TypeExpr))
  | joined (operator : TypeOperator) (parts : List TypeExpr)
deriving Repr, Inhabited

namespace TypeExpr

def parts (operator : TypeOperator) : TypeExpr → List TypeExpr
  | .joined other parts => if other = operator then parts else [.joined other parts]
  | type => [type]

def join (operator : TypeOperator) (types : List TypeExpr) : TypeExpr :=
  match types.flatMap (parts operator) with
  | [type] => type
  | all => .joined operator all

def isUnion : TypeExpr → Bool
  | .joined .union _ => true
  | _ => false

def isOperand : TypeExpr → Bool
  | .joined _ _ => false
  | _ => true

theorem parts_joined (operator : TypeOperator) (types : List TypeExpr) :
    parts operator (.joined operator types) = types := by
  rw [parts, if_pos rfl]

theorem parts_joined_of_ne {operator other : TypeOperator} (h : other ≠ operator)
    (types : List TypeExpr) : parts operator (.joined other types) = [.joined other types] := by
  rw [parts, if_neg h]

theorem parts_of_isOperand {type : TypeExpr} (h : type.isOperand = true)
    (operator : TypeOperator) : parts operator type = [type] := by
  cases type with
  | joined => cases h
  | _ => rfl

theorem parts_union_of_not_isUnion {type : TypeExpr} (h : type.isUnion = false) :
    parts .union type = [type] := by
  cases type with
  | joined operator types =>
    cases operator with
    | union => cases h
    | intersection => rfl
  | _ => rfl

theorem isUnion_of_isOperand {type : TypeExpr} (h : type.isOperand = true) :
    type.isUnion = false := by
  cases type with
  | joined => cases h
  | _ => rfl

theorem join_singleton {operator : TypeOperator} {types : List TypeExpr} {type : TypeExpr}
    (h : types.flatMap (parts operator) = [type]) : join operator types = type := by
  rw [join, h]

theorem join_of_two_le {operator : TypeOperator} {types : List TypeExpr}
    (h : 2 ≤ (types.flatMap (parts operator)).length) :
    join operator types = .joined operator (types.flatMap (parts operator)) := by
  unfold join
  split
  · rename_i hall
    rw [hall, List.length_singleton] at h
    omega
  · rfl

/-- A type that is what an operator makes of its parts. -/
structure FlatBy (operator : TypeOperator) (type : TypeExpr) : Prop where
  parts_ne_nil : type.parts operator ≠ []
  parts_parts : (type.parts operator).flatMap (parts operator) = type.parts operator
  join_parts : join operator (type.parts operator) = type

def Flat (type : TypeExpr) : Prop := ∀ operator, FlatBy operator type

theorem FlatBy.of_parts {operator : TypeOperator} {type : TypeExpr}
    (h : type.parts operator = [type]) : FlatBy operator type := by
  have hself : (type.parts operator).flatMap (parts operator) = [type] := by
    rw [h, List.flatMap_singleton, h]
  exact ⟨by simp [h], by rw [hself, h], join_singleton hself⟩

theorem Flat.of_isOperand {type : TypeExpr} (h : type.isOperand = true) : type.Flat :=
  fun operator => .of_parts (parts_of_isOperand h operator)

theorem length_le_length_flatMap {α β : Type} {f : α → List β} {xs : List α}
    (h : ∀ x ∈ xs, f x ≠ []) : xs.length ≤ (xs.flatMap f).length := by
  induction xs with
  | nil => exact Nat.le_refl _
  | cons x rest ih =>
    have hx : 0 < (f x).length := List.length_pos_of_ne_nil (h x (List.mem_cons_self ..))
    have hrest := ih fun y hy => h y (List.mem_cons_of_mem _ hy)
    rw [List.flatMap_cons, List.length_append, List.length_cons]
    omega

section
variable {operator : TypeOperator} {types : List TypeExpr} (hlength : 2 ≤ types.length)
  (hflat : ∀ type ∈ types, type.Flat)
include hlength hflat

theorem two_le_length_parts : 2 ≤ (types.flatMap (parts operator)).length := by
  have hle : types.length ≤ (types.flatMap (parts operator)).length :=
    length_le_length_flatMap fun type htype => (hflat type htype operator).parts_ne_nil
  omega

theorem join_eq_joined :
    join operator types = .joined operator (types.flatMap (parts operator)) :=
  join_of_two_le (two_le_length_parts hlength hflat)

theorem parts_join : parts operator (join operator types) = types.flatMap (parts operator) := by
  rw [join_eq_joined hlength hflat, parts_joined]

theorem Flat.join : (join operator types).Flat := by
  have hall : 2 ≤ (types.flatMap (parts operator)).length := two_le_length_parts hlength hflat
  have hself : (types.flatMap (parts operator)).flatMap (parts operator) =
      types.flatMap (parts operator) := by
    rw [List.flatMap_assoc]
    exact List.flatMap_congr fun type htype => (hflat type htype operator).parts_parts
  rw [join_eq_joined hlength hflat]
  intro other
  -- for the other operator what has been joined is a single part
  by_cases hother : operator = other
  · subst hother
    constructor
    · rw [parts_joined]
      exact List.ne_nil_of_length_pos (by omega)
    · rw [parts_joined, hself]
    · rw [parts_joined, join_of_two_le (by rw [hself]; exact hall), hself]
  · exact .of_parts (parts_joined_of_ne hother _)

end

/-- No intersection in a type has a union for one of its members. -/
inductive Separated : TypeExpr → Prop
  | named (name : String) : Separated (.named name)
  | generic (name : String) {arguments : List TypeExpr} :
      (∀ type ∈ arguments, Separated type) → Separated (.generic name arguments)
  | literal (text : String) : Separated (.literal text)
  | array {element : TypeExpr} : Separated element → Separated (.array element)
  | object {members : List (TypeMember TypeExpr)} :
      (∀ member ∈ members, Separated member.type) → Separated (.object members)
  | joined {operator : TypeOperator} {parts : List TypeExpr} :
      (∀ part ∈ parts, Separated part) →
      (operator = .intersection → ∀ part ∈ parts, part.isUnion = false) →
      Separated (.joined operator parts)

def Joinable (operator : TypeOperator) (type : TypeExpr) : Prop :=
  type.Separated ∧ (operator = .intersection → type.isUnion = false)

theorem Separated.of_parts {operator : TypeOperator} {types : List TypeExpr}
    (h : ∀ type ∈ types, Joinable operator type) : Separated (.joined operator types) :=
  .joined (fun type htype => (h type htype).1) fun hoperator type htype =>
    (h type htype).2 hoperator

theorem joinable_iff_parts (operator : TypeOperator) (type : TypeExpr) :
    Joinable operator type ↔ ∀ part ∈ type.parts operator, Joinable operator part := by
  by_cases hparts : type.parts operator = [type]
  · rw [hparts]
    simp
  · cases type with
    | joined other types =>
      obtain rfl : other = operator := by
        by_contra hne
        exact hparts (parts_joined_of_ne hne types)
      rw [parts_joined]
      constructor
      · rintro ⟨hseparated, -⟩ part hpart
        cases hseparated with
        | joined hall hunion =>
          exact ⟨hall part hpart, fun hoperator => hunion hoperator part hpart⟩
      · intro h
        refine ⟨.of_parts h, ?_⟩
        rintro rfl
        rfl
    | _ => exact absurd rfl hparts

theorem separated_join {operator : TypeOperator} {types : List TypeExpr}
    (h : ∀ type ∈ types, Joinable operator type) : (join operator types).Separated := by
  have hall : ∀ part ∈ types.flatMap (parts operator), Joinable operator part := by
    intro part hpart
    obtain ⟨type, htype, hmem⟩ := List.mem_flatMap.1 hpart
    exact (joinable_iff_parts operator type).1 (h type htype) part hmem
  unfold join
  split
  · rename_i type hsingle
    refine (hall type ?_).1
    rw [hsingle]
    exact List.mem_cons_self ..
  · exact .of_parts hall

theorem joinable_of_separated_join {operator : TypeOperator} {types : List TypeExpr}
    (hlength : 2 ≤ types.length) (hflat : ∀ type ∈ types, type.Flat)
    (h : (join operator types).Separated) {type : TypeExpr} (htype : type ∈ types) :
    Joinable operator type := by
  rw [join_eq_joined hlength hflat] at h
  cases h with
  | joined hall hunion =>
    rw [joinable_iff_parts]
    intro part hpart
    have hmem : part ∈ types.flatMap (parts operator) := List.mem_flatMap.2 ⟨type, htype, hpart⟩
    exact ⟨hall part hmem, fun hoperator => hunion hoperator part hmem⟩

end TypeExpr

end ClientGen
