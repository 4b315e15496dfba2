import ClientGen.Proofs.Schema.TypeReading

/-!
# Precedence in printed types

The type expression of a schema is always read as a type. It is the type that the schema stands
for where the schema is grouped, and only there: an intersection is printed without parentheses
around its members, so that what is read of it never has a union in an intersection.
-/

namespace ClientGen
open TypeExpr

namespace Scan

def AsFactors (scan : Scan) (type : TypeExpr) : Prop :=
  ∀ u, scan.after u = ⟨u.alternatives, u.factors ++ type.parts .intersection⟩

def AsAlternatives (scan : Scan) (type : TypeExpr) : Prop :=
  ∀ alternatives, (scan.after ⟨alternatives, []⟩).next.alternatives =
    alternatives ++ type.parts .union

theorem asFactors_single {type : TypeExpr} (h : type.isOperand = true) :
    (single type).AsFactors type := by
  intro u
  rw [parts_of_isOperand h]
  rfl

theorem AsFactors.asAlternatives {scan : Scan} {type : TypeExpr} (h : scan.AsFactors type)
    (hflat : type.Flat) (hunion : type.isUnion = false) : scan.AsAlternatives type := by
  intro alternatives
  rw [h, OpenUnion.next, List.nil_append, (hflat .intersection).join_parts,
    parts_union_of_not_isUnion hunion]

theorem asAlternatives_single {type : TypeExpr} (h : type.isOperand = true) :
    (single type).AsAlternatives type :=
  (asFactors_single h).asAlternatives (.of_isOperand h) (isUnion_of_isOperand h)

theorem inTurn_cons {operator : TypeOperator} {scans : List Scan} (hne : scans ≠ []) (scan : Scan)
    (u : OpenUnion) :
    (inTurn operator (scan :: scans)).after u =
      (inTurn operator scans).after (operator.close (scan.after u)) := by
  cases scans with
  | nil => exact absurd rfl hne
  | cons next scans => rfl

theorem alternatives_inTurn {scans : List Scan} {types : List TypeExpr}
    (h : List.Forall₂ AsAlternatives scans types) (hne : scans ≠ [])
    (alternatives : List TypeExpr) :
    ((inTurn .union scans).after ⟨alternatives, []⟩).next.alternatives =
      alternatives ++ types.flatMap (parts .union) := by
  induction h generalizing alternatives with
  | nil => exact absurd rfl hne
  | @cons scan type scans types hfirst hothers ih =>
    by_cases hnil : scans = []
    · subst hnil
      cases hothers
      rw [List.flatMap_singleton]
      exact hfirst alternatives
    · have hclose : TypeOperator.union.close (scan.after ⟨alternatives, []⟩) =
          ⟨alternatives ++ type.parts .union, []⟩ := by
        rw [← hfirst alternatives]
        rfl
      rw [inTurn_cons hnil, hclose, ih hnil, List.append_assoc, List.flatMap_cons]

theorem factors_inTurn {scans : List Scan} {types : List TypeExpr}
    (h : List.Forall₂ AsFactors scans types) (hne : scans ≠ []) (u : OpenUnion) :
    (inTurn .intersection scans).after u =
      ⟨u.alternatives, u.factors ++ types.flatMap (parts .intersection)⟩ := by
  induction h generalizing u with
  | nil => exact absurd rfl hne
  | @cons scan type scans types hfirst hothers ih =>
    by_cases hnil : scans = []
    · subst hnil
      cases hothers
      rw [List.flatMap_singleton]
      exact hfirst u
    · rw [inTurn_cons hnil, ih hnil, TypeOperator.close, hfirst u, List.append_assoc,
        List.flatMap_cons]

section
variable {scans : List Scan} {types : List TypeExpr} (hlength : 2 ≤ types.length)
  (hflat : ∀ type ∈ types, type.Flat)
include hlength hflat

theorem asAlternatives_join (h : List.Forall₂ AsAlternatives scans types) :
    (inTurn .union scans).AsAlternatives (join .union types) := by
  have hne : scans ≠ [] := List.ne_nil_of_length_pos (by rw [h.length_eq]; omega)
  intro alternatives
  rw [alternatives_inTurn h hne, parts_join hlength hflat]

theorem asFactors_join (h : List.Forall₂ AsFactors scans types) :
    (inTurn .intersection scans).AsFactors (join .intersection types) := by
  have hne : scans ≠ [] := List.ne_nil_of_length_pos (by rw [h.length_eq]; omega)
  intro u
  rw [factors_inTurn h hne, parts_join hlength hflat]

end

theorem AsAlternatives.whole {scan : Scan} {type : TypeExpr} (h : scan.AsAlternatives type)
    (hflat : type.Flat) : scan.whole = type := by
  have hparts : (scan.after .empty).next.alternatives = type.parts .union := h []
  rw [Scan.whole, OpenUnion.whole, hparts, (hflat .union).join_parts]

end Scan

/-- The type expression of a schema is read as the type that the schema stands for. -/
structure Schema.ReadBack (schema : Schema) : Prop where
  alternatives : schema.scan.AsAlternatives schema.typeExpr
  factors : schema.isChoice = false → schema.scan.AsFactors schema.typeExpr
  operand : isCompound schema = false → schema.scan = .single schema.typeExpr

namespace Schema.ReadBack

theorem whole {schema : Schema} (h : schema.ReadBack) (hproper : schema.Proper) :
    schema.scan.whole = schema.typeExpr := h.alternatives.whole (flat_typeExpr hproper)

theorem of_operand {schema : Schema} (hsingle : schema.scan = .single schema.typeExpr)
    (h : schema.typeExpr.isOperand = true) : schema.ReadBack where
  alternatives := by
    rw [hsingle]
    exact Scan.asAlternatives_single h
  factors _ := by
    rw [hsingle]
    exact Scan.asFactors_single h
  operand _ := hsingle

theorem of_choice {schema : Schema} (hchoice : schema.isChoice = true)
    (hcompound : isCompound schema = true)
    (h : schema.scan.AsAlternatives schema.typeExpr) : schema.ReadBack where
  alternatives := h
  factors hnot := absurd hchoice (by simp [hnot])
  operand hnot := absurd hcompound (by simp [hnot])

theorem primitive (kind : PrimitiveKind) (c : Constraints) :
    (Schema.primitive kind c).ReadBack := by
  by_cases hcompound : isCompound (.primitive kind c) = true
  · obtain ⟨rfl, hlength⟩ := literals_of_isCompound hcompound
    refine .of_choice hcompound hcompound ?_
    rw [Schema.scan, if_pos hcompound, typeExpr_of_two_le hlength]
    exact Scan.asAlternatives_join (by rwa [List.length_map]) (fun _ => flat_of_mem_literals)
      (forall₂_map_map fun text _ => Scan.asAlternatives_single rfl)
  · refine .of_operand ?_ (isOperand_of_not_isCompound (eq_false_of_ne_true hcompound))
    rw [Schema.scan, if_neg hcompound]

theorem array {element : Schema} (h : element.ReadBack) (hproper : element.Proper) :
    (Schema.array element).ReadBack := by
  refine .of_operand ?_ rfl
  rw [Schema.scan]
  split
  · rw [h.whole hproper]
    rfl
  · rename_i hsingle
    rw [h.operand (eq_false_of_ne_true hsingle)]
    rfl

theorem object {fields : List Field} (h : ∀ field ∈ fields, field.schema.ReadBack)
    (hproper : ∀ field ∈ fields, field.schema.Proper) : (Schema.object fields).ReadBack := by
  have hmembers : scannedMembers fields = fieldMembers fields := by
    rw [scannedMembers_eq, fieldMembers_eq]
    refine List.map_congr_left fun field hfield => ?_
    rw [scannedMember, (h field hfield).whole (hproper field hfield)]
  refine .of_operand ?_ (isOperand_objectType _)
  rw [Schema.scan, hmembers, Schema.typeExpr]

theorem union {branches : List Schema} (hlength : 2 ≤ branches.length)
    (h : ∀ branch ∈ branches, branch.ReadBack) (hproper : ∀ branch ∈ branches, branch.Proper) :
    (Schema.union branches).ReadBack := by
  refine .of_choice rfl rfl ?_
  rw [Schema.scan, Schema.typeExpr, itemScans_eq]
  refine Scan.asAlternatives_join (two_le_length_itemTypes hlength) (flat_itemTypes hproper) ?_
  rw [itemTypes_eq]
  exact forall₂_map_map fun branch hbranch => (h branch hbranch).alternatives

theorem intersection {members : List Schema} (hlength : 2 ≤ members.length)
    (h : ∀ member ∈ members, member.ReadBack) (hproper : ∀ member ∈ members, member.Proper)
    (hchoice : ∀ member ∈ members, member.isChoice = false) :
    (Schema.intersection members).ReadBack := by
  have hfactors : (Schema.intersection members).scan.AsFactors
      (Schema.intersection members).typeExpr := by
    rw [Schema.scan, Schema.typeExpr, itemScans_eq]
    refine Scan.asFactors_join (two_le_length_itemTypes hlength) (flat_itemTypes hproper) ?_
    rw [itemTypes_eq]
    exact forall₂_map_map fun member hmember =>
      (h member hmember).factors (hchoice member hmember)
  -- an intersection is a single alternative, so that its factors say all of it
  have hwhole : (Schema.intersection members).Proper := .intersection hlength hproper
  refine ⟨hfactors.asAlternatives (flat_typeExpr hwhole) ?_, fun _ => hfactors, fun hnot => ?_⟩
  · rw [isUnion_typeExpr hwhole]
    rfl
  · cases hnot

theorem nullable {inner : Schema} (h : inner.ReadBack) (hproper : inner.Proper) :
    (Schema.nullable inner).ReadBack := by
  refine .of_choice rfl rfl ?_
  rw [Schema.scan, Schema.typeExpr]
  exact Scan.asAlternatives_join (two_le_length_pair _ _) (flat_nullable (flat_typeExpr hproper))
    (.cons h.alternatives (.cons (Scan.asAlternatives_single rfl) .nil))

end Schema.ReadBack

/-- The type expression of a grouped schema is read as the type that the schema stands for. -/
theorem readBack_of_grouped {schema : Schema} (hproper : schema.Proper) (h : schema.Grouped) :
    schema.ReadBack := by
  induction hproper with
  | primitive kind c => exact .primitive kind c
  | reference name target => exact .of_operand rfl (isOperand_reference name target)
  | array helement ih =>
    cases h with
    | array h => exact .array (ih h) helement
  | object hfields ih =>
    cases h with
    | object h => exact .object (fun field hfield => ih field hfield (h field hfield)) hfields
  | union hlength hbranches ih =>
    cases h with
    | union h =>
      exact .union hlength (fun branch hbranch => ih branch hbranch (h branch hbranch)) hbranches
  | intersection hlength hmembers ih =>
    cases h with
    | intersection h hchoice =>
      exact .intersection hlength (fun member hmember => ih member hmember (h member hmember))
        hmembers hchoice
  | nullable hinner ih =>
    cases h with
    | nullable h => exact .nullable (ih h) hinner
  | unknown => exact .of_operand rfl rfl

/-- What has been read has no union in an intersection. -/
structure OpenUnion.Separated (u : OpenUnion) : Prop where
  alternatives : ∀ type ∈ u.alternatives, type.Separated
  factors : ∀ type ∈ u.factors, Joinable .intersection type

namespace OpenUnion.Separated

theorem empty : OpenUnion.empty.Separated :=
  ⟨List.forall_mem_nil _, List.forall_mem_nil _⟩

theorem add {u : OpenUnion} (h : u.Separated) {operand : TypeExpr}
    (hoperand : Joinable .intersection operand) : (u.add operand).Separated := by
  refine ⟨h.alternatives, fun type htype => ?_⟩
  rcases List.mem_append.1 htype with htype | htype
  · exact h.factors type htype
  · rw [List.mem_singleton.1 htype]
    exact hoperand

theorem next {u : OpenUnion} (h : u.Separated) : u.next.Separated := by
  refine ⟨fun type htype => ?_, List.forall_mem_nil _⟩
  rcases List.mem_append.1 htype with htype | htype
  · exact h.alternatives type htype
  · rw [List.mem_singleton.1 htype]
    exact separated_join h.factors

theorem close {u : OpenUnion} (h : u.Separated) (operator : TypeOperator) :
    (operator.close u).Separated := by
  cases operator with
  | union => exact h.next
  | intersection => exact h

theorem whole {u : OpenUnion} (h : u.Separated) : u.whole.Separated :=
  separated_join fun type htype => ⟨h.next.alternatives type htype, fun hne => by cases hne⟩

end OpenUnion.Separated

def Scan.Separates (scan : Scan) : Prop :=
  ∀ u : OpenUnion, u.Separated → (scan u).1.Separated ∧ Joinable .intersection (scan u).2

namespace Scan.Separates

theorem single {type : TypeExpr} (hseparated : type.Separated) (h : type.isOperand = true) :
    (Scan.single type).Separates :=
  fun _ hu => ⟨hu, hseparated, fun _ => isUnion_of_isOperand h⟩

theorem after {scan : Scan} (h : scan.Separates) {u : OpenUnion} (hu : u.Separated) :
    (scan.after u).Separated := (h u hu).1.add (h u hu).2

theorem whole {scan : Scan} (h : scan.Separates) : scan.whole.Separated := (h.after .empty).whole

theorem array {scan : Scan} (h : scan.Separates) : scan.array.Separates :=
  fun u hu => ⟨(h u hu).1, .array (h u hu).2.1, fun _ => rfl⟩

theorem inTurn {operator : TypeOperator} {scans : List Scan} (h : ∀ scan ∈ scans, scan.Separates) :
    (Scan.inTurn operator scans).Separates := by
  induction scans with
  | nil => exact single (.named "any") rfl
  | cons scan scans ih =>
    have hfirst := h scan (List.mem_cons_self ..)
    cases scans with
    | nil => exact hfirst
    | cons next scans =>
      intro u hu
      exact ih (fun s hs => h s (List.mem_cons_of_mem _ hs)) _ ((hfirst.after hu).close operator)

end Scan.Separates

theorem separated_objectType {members : List (TypeMember TypeExpr)}
    (h : ∀ member ∈ members, member.type.Separated) : (objectType members).Separated := by
  cases members with
  | nil =>
    refine .generic "Record" fun type htype => ?_
    rcases List.mem_pair.1 htype with rfl | rfl
    · exact .named "string"
    · exact .named "any"
  | cons => exact .object h

theorem separated_primitive (kind : PrimitiveKind) (c : Constraints) :
    (primitiveStructure kind c).Separated := by
  cases kind with
  | string =>
    rw [primitiveStructure]
    split
    · refine separated_join fun type htype => ?_
      obtain ⟨text, _, rfl⟩ := List.mem_map.1 htype
      exact ⟨.literal text, fun _ => rfl⟩
    · exact .named "string"
  | _ => exact .named _

theorem separated_reference (name : String) (target : Target) :
    (Schema.reference name target).typeExpr.Separated := by
  rw [Schema.typeExpr]
  cases typeIdent? name target with
  | none => exact .named "any"
  | some ident => exact .named ident

theorem separates_itemScans {operator : TypeOperator} {schemas : List Schema}
    (h : ∀ schema ∈ schemas, schema.scan.Separates) :
    (Scan.inTurn operator (itemScans schemas)).Separates := by
  rw [itemScans_eq]
  refine .inTurn fun scan hscan => ?_
  obtain ⟨schema, hschema, rfl⟩ := List.mem_map.1 hscan
  exact h schema hschema

/-- What is read of a type expression never has a union in an intersection. -/
theorem separates_scan {schema : Schema} (h : schema.Proper) : schema.scan.Separates := by
  induction h with
  | primitive kind c =>
    rw [Schema.scan]
    split
    · refine .inTurn fun scan hscan => ?_
      obtain ⟨text, _, rfl⟩ := List.mem_map.1 hscan
      exact .single (.literal text) rfl
    · rename_i hsingle
      exact .single (separated_primitive kind c)
        (isOperand_of_not_isCompound (eq_false_of_ne_true hsingle))
  | reference name target =>
    exact .single (separated_reference name target) (isOperand_reference name target)
  | @array element _ ih =>
    rw [Schema.scan]
    split
    -- in its parentheses the element may be a union, but with its brackets it is an operand
    · exact .single (.array ih.whole) rfl
    · exact ih.array
  | object hfields ih =>
    rw [Schema.scan, scannedMembers_eq]
    refine .single (separated_objectType fun member hmember => ?_) (isOperand_objectType _)
    obtain ⟨field, hfield, rfl⟩ := List.mem_map.1 hmember
    exact (ih field hfield).whole
  | union hlength hbranches ih => exact separates_itemScans ih
  | intersection hlength hmembers ih => exact separates_itemScans ih
  | @nullable inner hinner ih =>
    rw [Schema.scan]
    refine .inTurn fun scan hscan => ?_
    rcases List.mem_pair.1 hscan with rfl | rfl
    · exact ih
    · exact .single (.named "null") rfl
  | unknown => exact .single (.named "any") rfl

theorem readType?_typeText {schema : Schema} (h : schema.Proper) :
    readType? (typeText schema) = some schema.scan.whole := by
  have hrun : TypeReader.start.run (typeText schema).toList =
      some ⟨.read (schema.scan .empty).2, (schema.scan .empty).1, []⟩ := by
    have hread := reads_typeText h .empty [] [] endsWord_nil
    rw [List.append_nil] at hread
    exact hread
  rw [readType?, hrun]
  rfl

theorem whole_eq_iff_grouped {schema : Schema} (h : schema.Proper) :
    schema.scan.whole = schema.typeExpr ↔ schema.Grouped := by
  constructor
  · intro heq
    -- the type that is read tells of every schema whose type it is that the schema is grouped
    have hseparated := (separates_scan h).whole
    rw [heq] at hseparated
    exact grouped_of_separated h hseparated
  · intro hgrouped
    exact (readBack_of_grouped h hgrouped).whole h

/-- The type expression of a compiled schema is read as a type, and this is the type that the
schema stands for exactly where no intersection in the schema has a union, a nullable schema or
several literals among its members. -/
theorem types_read_back_iff (scope : Scope) (depth : Nat) (raw : Json) (location : String) :
    ∃ type, readType? (typeText (compileAt scope depth raw location).value) = some type ∧
      (type = (compileAt scope depth raw location).value.typeExpr ↔
        (compileAt scope depth raw location).value.Grouped) :=
  ⟨_, readType?_typeText (proper_compileAt scope depth raw location),
    whole_eq_iff_grouped (proper_compileAt scope depth raw location)⟩

def choiceAndObject : Json :=
  .obj [("allOf", .arr [
    .obj [("anyOf", .arr [.obj [("type", .str "string")], .obj [("type", .str "integer")]])],
    .obj [("type", .str "object")]])]

def choiceAndObjectType : TypeExpr :=
  .joined .intersection [.joined .union [.named "string", .named "number"],
    .generic "Record" [.named "string", .named "any"]]

/-- The object is read as a part of the second branch only. Parentheses around the choice would
keep the branches together. -/
theorem choiceAndObject_not_read_back :
    (compileSchema (Scope.of .empty) choiceAndObject "allOf").value.typeExpr =
      choiceAndObjectType ∧
    readType? (typeText (compileSchema (Scope.of .empty) choiceAndObject "allOf").value) =
      some (.joined .union [.named "string", .joined .intersection [.named "number",
        .generic "Record" [.named "string", .named "any"]]]) ∧
    readType? (typeText (compileSchema (Scope.of .empty) choiceAndObject "allOf").value) ≠
      some choiceAndObjectType ∧
    readType? "(string | number) & Record<string, any>" = some choiceAndObjectType := by
  have htext : typeText (compileSchema (Scope.of .empty) choiceAndObject "allOf").value =
      "string | number & Record<string, any>" := by rfl
  have hread : readType? "string | number & Record<string, any>" =
      some (.joined .union [.named "string", .joined .intersection [.named "number",
        .generic "Record" [.named "string", .named "any"]]]) := by rfl
  rw [htext, hread]
  refine ⟨rfl, rfl, ?_, rfl⟩
  intro h
  injection h with h
  injection h with h
  cases h

end ClientGen
