import ClientGen.Domain.Classify
import ClientGen.Plan.Endpoint
import ClientGen.Proofs.Api.TypeReference
import ClientGen.Proofs.Json.Redirect
import ClientGen.Proofs.Schema.Independence
import ClientGen.Proofs.Traced

/-!
# Schemas with redirected references

A reference to a type is read by the name that it ends in. Redirecting references to other texts
that name the same types changes nothing of what is read of a schema: what it compiles to, which
types it mentions, wraps and refers to, and which shape it has as a body.
-/

namespace ClientGen
open Api Json

variable {change : String → String}

section
variable (raw : Json) (key : String)

theorem isNullSchema_redirectAt :
    isNullSchema (redirectAt change raw key) = isNullSchema raw := by
  rw [isNullSchema, getText?_redirectAt raw key (by decide), isNullSchema]

theorem isEnumSchema_redirectAt :
    isEnumSchema (redirectAt change raw key) = isEnumSchema raw := by
  rw [isEnumSchema, getText?_redirectAt raw key (by decide), getItems?_redirectAt_enum,
    isEnumSchema]

theorem literalValues_redirectAt :
    literalValues (redirectAt change raw key) = literalValues raw := by
  rw [literalValues, getItems?_redirectAt_enum]
  rfl

theorem unionBranches?_redirectAt : unionBranches? (redirectAt change raw key) =
    (unionBranches? raw).map (List.map (redirect change)) := by
  rw [unionBranches?, unionBranches?, get?_redirectAt, get?_redirectAt]
  cases raw.get? "anyOf" with
  | some branches => exact items?_redirectAt branches (by decide)
  | none =>
    cases raw.get? "oneOf" with
    | some branches => exact items?_redirectAt branches (by decide)
    | none => rfl

theorem declaredType?_redirectAt :
    declaredType? (redirectAt change raw key) = declaredType? raw := by
  rw [declaredType?, declaredType?, get?_redirectAt]
  cases raw.get? "type" with
  | none => rfl
  | some type =>
    cases type with
    | arr types =>
      rw [Option.map_some, redirectAt_arr, if_neg (by decide)]
      simp only [texts_redirect]
    | str type => rfl
    | _ => rfl

theorem impliedType?_redirectAt :
    impliedType? (redirectAt change raw key) = impliedType? raw := by
  rw [impliedType?, isSome_get?_redirectAt, isSome_get?_redirectAt, isSome_get?_redirectAt,
    impliedType?]

theorem stringConstraints_redirectAt :
    stringConstraints (redirectAt change raw key) = stringConstraints raw := by
  have hnatural : ∀ member, ((redirectAt change raw key).get? member).bind natural? =
      (raw.get? member).bind natural? :=
    bind_get?_redirectAt raw key (fun _ => rfl) (fun _ => rfl) fun _ => rfl
  simp only [stringConstraints, hnatural, literalValues_redirectAt,
    getText?_redirectAt raw key (show "pattern" ≠ "$ref" by decide),
    getText?_redirectAt raw key (show "format" ≠ "$ref" by decide)]

theorem numberConstraints_redirectAt :
    numberConstraints (redirectAt change raw key) = numberConstraints raw := by
  have hnumber : ∀ member, ((redirectAt change raw key).get? member).bind number? =
      (raw.get? member).bind number? :=
    bind_get?_redirectAt raw key (fun _ => rfl) (fun _ => rfl) fun _ => rfl
  simp only [numberConstraints, hnumber]

theorem requiredNames_redirectAt :
    requiredNames (redirectAt change raw key) = requiredNames raw := by
  rw [requiredNames, getItems?_redirectAt raw key (by decide), requiredNames]
  cases raw.getItems? "required" with
  | none => rfl
  | some items => exact texts_redirect items

end

def Unaffected (change : String → String) (inner : Json → String → Compiling Schema) : Prop :=
  ∀ raw key location, inner (redirectAt change raw key) location = inner raw location

section
variable {inner : Json → String → Compiling Schema} (hinner : Unaffected change inner)
include hinner

theorem each_redirect (location : String) (raws : List Json) :
    Traced.each (inner · location) (raws.map (redirect change)) =
      Traced.each (inner · location) raws :=
  Traced.each_map fun raw _ => hinner raw "" location

theorem compileFields_redirectAt (location : String) (raw properties : Json) (key : String) :
    compileFields inner location (redirectAt change raw key)
        (redirectAt change properties "properties") =
      compileFields inner location raw properties := by
  cases properties with
  | obj members =>
    rw [redirectAt_obj, compileFields, compileFields, requiredNames_redirectAt]
    refine Traced.each_map fun member _ => ?_
    have hdescription : (redirectAt change member.2 member.1).getText? "description" =
        member.2.getText? "description" := getText?_redirectAt _ _ (by decide)
    simp only [hinner member.2 member.1, hdescription]
  | str text => rw [redirectAt_str, if_neg (by decide)]; rfl
  | arr items => rw [redirectAt_arr, if_neg (by decide)]; rfl
  | _ => rfl

theorem compileType_redirectAt (location : String) (raw : Json) (key : String)
    (type : Option String) :
    compileType inner location (redirectAt change raw key) type =
      compileType inner location raw type := by
  unfold compileType
  split
  · rfl
  · rw [stringConstraints_redirectAt]
  · rw [numberConstraints_redirectAt]
  · rw [numberConstraints_redirectAt]
  · rfl
  · rfl
  · rw [get?_redirectAt]
    cases raw.get? "items" with
    | none => rfl
    | some items =>
      simp only [Option.map_some, hinner items "items"]
  · rw [get?_redirectAt]
    cases raw.get? "properties" with
    | none => rfl
    | some properties =>
      simp only [Option.map_some, compileFields_redirectAt hinner location raw properties key]
  · rfl
  · rfl

theorem compileTyped_redirectAt (location : String) (raw : Json) (key : String) :
    compileTyped inner location (redirectAt change raw key) = compileTyped inner location raw := by
  unfold compileTyped
  simp only [declaredType?_redirectAt, impliedType?_redirectAt, compileType_redirectAt hinner]

variable (hname : ∀ text, referenceName (change text) = referenceName text)
include hname

theorem compileShape_redirectAt (scope : Scope) (location : String) (raw : Json) (key : String) :
    compileShape scope inner location (redirectAt change raw key) =
      compileShape scope inner location raw := by
  unfold compileShape
  rw [getText?_redirectAt_ref]
  cases raw.getText? "$ref" with
  | some reference => simp only [Option.map_some, hname]
  | none =>
    have hnull : ∀ branches : List Json,
        (branches.map (redirect change)).filter (fun b => !isNullSchema b) =
            (branches.filter fun b => !isNullSchema b).map (redirect change) ∧
          (branches.map (redirect change)).any isNullSchema = branches.any isNullSchema := by
      intro branches
      have hsame : ∀ b, isNullSchema (redirect change b) = isNullSchema b :=
        fun b => isNullSchema_redirectAt b ""
      rw [List.filter_map, List.any_map]
      simp only [Function.comp_def, hsame, and_self]
    rw [Option.map_none, unionBranches?_redirectAt]
    cases unionBranches? raw with
    | some branches =>
      simp only [Option.map_some, (hnull branches).1, (hnull branches).2, each_redirect hinner]
    | none =>
      rw [Option.map_none, getItems?_redirectAt raw key (by decide)]
      cases raw.getItems? "allOf" with
      | some members => simp only [Option.map_some, each_redirect hinner]
      | none => exact compileTyped_redirectAt hinner location raw key

end

section
variable (hname : ∀ text, referenceName (change text) = referenceName text) (scope : Scope)
include hname

theorem compileLevels_redirectAt (levels : Nat) :
    Unaffected change (compileLevels scope levels) := by
  -- on the levels that are left: the parts of a schema are compiled one level deeper
  induction levels with
  | zero => exact fun raw key location => rfl
  | succ levels ih =>
    intro raw key location
    have hshape := compileShape_redirectAt ih hname scope location raw key
    have hflag : ∀ member, (redirectAt change raw key).flag member = raw.flag member :=
      flag_redirectAt raw key
    cases raw with
    | obj members =>
      cases members with
      | nil => rfl
      | cons member rest =>
        obtain ⟨name, value⟩ := member
        rw [redirectAt_obj, List.map_cons] at *
        unfold compileLevels
        simp only [hshape, hflag]
    | str text => rw [redirectAt_str]; split <;> rfl
    | arr items => rw [redirectAt_arr]; split <;> rfl
    | _ => rfl

theorem compileKind_redirectAt (name : String) (raw : Json) (key : String) :
    compileKind scope name (redirectAt change raw key) = compileKind scope name raw := by
  have hat : ∀ depth, Unaffected change (compileAt scope depth) :=
    fun depth => compileLevels_redirectAt hname scope _
  have henum : isEnumSchema (redirectAt change raw key) = isEnumSchema raw :=
    isEnumSchema_redirectAt raw key
  have hliterals : literalValues (redirectAt change raw key) = literalValues raw :=
    literalValues_redirectAt raw key
  have htype : (redirectAt change raw key).getText? "type" = raw.getText? "type" :=
    getText?_redirectAt raw key (by decide)
  have hadditional : ((redirectAt change raw key).get? "additionalProperties").isSome =
      (raw.get? "additionalProperties").isSome := isSome_get?_redirectAt raw key _
  have hproperties : (redirectAt change raw key).get? "properties" =
      (raw.get? "properties").map fun inner => redirectAt change inner "properties" :=
    get?_redirectAt raw key _
  have hwhole := hat 0 raw key name
  have hfields := fun properties => compileFields_redirectAt (hat 1) name raw properties key
  cases raw with
  | obj members =>
    cases members with
    | nil => rfl
    | cons member rest =>
      obtain ⟨first, value⟩ := member
      rw [redirectAt_obj, List.map_cons] at *
      unfold compileKind
      simp only [henum, hliterals, htype, ← Option.not_isSome, hadditional, hproperties, hwhole]
      split
      · rfl
      · cases Json.get? "properties" (.obj ((first, value) :: rest)) with
        | none => rfl
        | some properties => simp only [Option.map_some, hfields]
  | str text => rw [redirectAt_str]; split <;> rfl
  | arr items => rw [redirectAt_arr]; split <;> rfl
  | _ => rfl

theorem compileDeclaration_redirectAt (name : String) (raw : Json) (key : String) :
    compileDeclaration scope name (redirectAt change raw key) =
      compileDeclaration scope name raw := by
  simp only [compileDeclaration, compileKind_redirectAt hname]

end

section
variable (hname : ∀ text, referenceName (change text) = referenceName text)
include hname

theorem schemaReference?_redirectAt (schema : Json) (key : String) :
    schemaReference? (redirectAt change schema key) = schemaReference? schema := by
  rw [schemaReference?, getText?_redirectAt_ref, Option.map_map, schemaReference?]
  congr 1
  funext text
  exact hname text

theorem schemaReference?_redirected {schema schema' : Json} (h : Redirected change schema schema') :
    schemaReference? schema' = schemaReference? schema := by
  obtain rfl | ⟨key, rfl⟩ := h
  · rfl
  · exact schemaReference?_redirectAt hname schema key

theorem bind_schemaReference?_redirectAt (found : Option Json) (key : String) :
    (found.map fun inner => redirectAt change inner key).bind schemaReference? =
      found.bind schemaReference? := by
  cases found with
  | none => rfl
  | some inner => exact schemaReference?_redirectAt hname inner key

theorem mentions_redirectAt (schema : Json) (key name : String) :
    mentions (redirectAt change schema key) name = mentions schema name := by
  have hparts : ∀ member, member ≠ "enum" →
      (((redirectAt change schema key).getItems? member).getD []).any
          (fun part => schemaReference? part = some name) =
        ((schema.getItems? member).getD []).any fun part => schemaReference? part = some name := by
    intro member hmember
    rw [getItems?_redirectAt schema key hmember]
    cases schema.getItems? member with
    | none => rfl
    | some parts =>
      simp only [Option.map_some, Option.getD_some, List.any_map, Function.comp_def, redirect,
        schemaReference?_redirectAt hname]
  rw [mentions, mentions, schemaReference?_redirectAt hname, get?_redirectAt,
    bind_schemaReference?_redirectAt hname]
  simp only [List.any_cons, List.any_nil, hparts "anyOf" (by decide), hparts "oneOf" (by decide),
    hparts "allOf" (by decide)]

theorem wrappedType?_redirectAt (schema : Json) (key : String) :
    wrappedType? (redirectAt change schema key) = wrappedType? schema := by
  have hitems : ∀ member,
      ((((redirectAt change schema key).get? "properties").bind (·.get? member)).bind
          (·.get? "items")).bind schemaReference? =
        (((schema.get? "properties").bind (·.get? member)).bind (·.get? "items")).bind
          schemaReference? := by
    intro member
    rw [get?_redirectAt]
    cases schema.get? "properties" with
    | none => rfl
    | some properties =>
      rw [Option.map_some, Option.bind_some, Option.bind_some, get?_redirectAt]
      cases properties.get? member with
      | none => rfl
      | some inner =>
        rw [Option.map_some, Option.bind_some, Option.bind_some, get?_redirectAt]
        exact bind_schemaReference?_redirectAt hname _ _
  have hown : ((redirectAt change schema key).get? "items").bind schemaReference? =
      (schema.get? "items").bind schemaReference? := by
    rw [get?_redirectAt]
    exact bind_schemaReference?_redirectAt hname _ _
  simp only [wrappedType?, hitems, hown, isSome_get?_redirectAt]

theorem bodyShape?_redirectAt (schema : Json) (key : String) :
    bodyShape? (redirectAt change schema key) = bodyShape? schema := by
  have hpage : ((redirectAt change schema key).pointer? "/properties/results/items").bind
        schemaReference? =
      (schema.pointer? "/properties/results/items").bind schemaReference? := by
    have htext : pointerText ["properties", "results", "items"] = "/properties/results/items" := by
      decide
    have hsame : Redirected change schema (redirectAt change schema key) := .at schema key
    have hplaces := hsame.pointer? ["properties", "results", "items"]
    rw [htext] at hplaces
    generalize schema.pointer? "/properties/results/items" = found at hplaces ⊢
    generalize (redirectAt change schema key).pointer? _ = found' at hplaces ⊢
    cases hplaces with
    | none => rfl
    | some h => exact schemaReference?_redirected hname h
  rw [bodyShape?, bodyShape?, schemaReference?_redirectAt hname, get?_redirectAt,
    bind_schemaReference?_redirectAt hname, hpage]

theorem filterMap_memberReference?_redirect (members : List (String × Json)) :
    (members.map fun member => (member.1, redirectAt change member.2 member.1)).filterMap
        memberReference? = members.filterMap memberReference? := by
  rw [List.filterMap_map]
  refine List.filterMap_congr fun member _ => ?_
  obtain ⟨key, value⟩ := member
  cases value with
  | str text =>
    by_cases hkey : key = "$ref"
    · simp [redirectAt_str, memberReference?, hkey, hname]
    · simp [redirectAt_str, memberReference?, hkey]
  | arr items =>
    rw [Function.comp_apply, redirectAt_arr]
    split <;> rfl
  | _ => rfl

omit hname in
theorem memberValues_redirect (members : List (String × Json)) :
    List.Forall₂ (Redirected change) (memberValues members) (memberValues
      (members.map fun member => (member.1, redirectAt change member.2 member.1))) := by
  induction members with
  | nil => exact .nil
  | cons member rest ih => exact .cons (.at member.2 member.1) ih

omit hname in
theorem redirected_values (values : List Json) : List.Forall₂ (Redirected change) values values :=
  List.forall₂_same.2 fun _ _ => .inl rfl

omit hname in
theorem exists_items_of_redirected {items : List Json} {value' : Json}
    (h : Redirected change (.arr items) value') :
    ∃ items', value' = .arr items' ∧ List.Forall₂ (Redirected change) items items' := by
  obtain rfl | ⟨key, rfl⟩ := h
  · exact ⟨items, rfl, redirected_values items⟩
  · rw [redirectAt_arr]
    split
    · exact ⟨items, rfl, redirected_values items⟩
    · refine ⟨_, rfl, ?_⟩
      rw [List.forall₂_map_right_iff]
      exact List.forall₂_same.2 fun item _ => .at item ""

omit hname in
theorem leaf_of_redirected {value value' : Json} (h : Redirected change value value')
    (hobject : value.members? = none) (hlist : value.items? = none) :
    value'.members? = none ∧ value'.items? = none := by
  obtain rfl | ⟨key, rfl⟩ := h
  · exact ⟨hobject, hlist⟩
  · rw [members?_redirectAt, hobject]
    cases value with
    | arr items => cases hlist
    | str text => rw [redirectAt_str]; split <;> exact ⟨rfl, rfl⟩
    | _ => exact ⟨rfl, rfl⟩

theorem searchReferences_redirected (pending : List Json) :
    ∀ pending' found, List.Forall₂ (Redirected change) pending pending' →
      searchReferences found pending' = searchReferences found pending := by
  -- on the values that are still to be searched: the parts of the first come before the rest
  refine pending_induction (P := fun pending => ∀ pending' found,
    List.Forall₂ (Redirected change) pending pending' →
      searchReferences found pending' = searchReferences found pending) ?_ ?_ ?_ ?_ pending
  · intro pending' found h
    cases h
    rfl
  · intro members rest ih pending' found h
    obtain ⟨value', rest', hvalue, hrest, rfl⟩ := List.forall₂_cons_left_iff.1 h
    obtain rfl | ⟨key, rfl⟩ := hvalue
    · rw [searchReferences, searchReferences]
      exact ih _ _ (List.rel_append (redirected_values _) hrest)
    · rw [redirectAt_obj, searchReferences, searchReferences,
        filterMap_memberReference?_redirect hname]
      exact ih _ _ (List.rel_append (memberValues_redirect members) hrest)
  · intro items rest ih pending' found h
    obtain ⟨value', rest', hvalue, hrest, rfl⟩ := List.forall₂_cons_left_iff.1 h
    obtain ⟨items', rfl, hitems⟩ := exists_items_of_redirected hvalue
    rw [searchReferences, searchReferences]
    exact ih _ _ (List.rel_append hitems hrest)
  · intro value rest hobject hlist ih pending' found h
    obtain ⟨value', rest', hvalue, hrest, rfl⟩ := List.forall₂_cons_left_iff.1 h
    obtain ⟨hobject', hlist'⟩ := leaf_of_redirected hvalue hobject hlist
    rw [searchReferences_leaf hobject' hlist', searchReferences_leaf hobject hlist]
    exact ih _ _ hrest

theorem collectReferences_redirectAt (schema : Json) (key : String) :
    collectReferences (redirectAt change schema key) = collectReferences schema :=
  searchReferences_redirected hname _ _ _ (.cons (.at schema key) .nil)

end

end ClientGen
