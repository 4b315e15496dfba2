import ClientGen.Api.Document
import ClientGen.Domain.Classify
import ClientGen.Proofs.Api.TypeReference
import ClientGen.Proofs.Dict
import ClientGen.Proofs.Json.PointerText
import ClientGen.Schema.Compile

/-!
# Readers of references to declared types

A declared type is referenced by a pointer into the part of the document where its dialect keeps
the types. Following the pointer leads to the schema of the type. Whoever reads the reference as
that of a type takes the text behind its last slash as it stands. The two agree on a type if and
only if its name has nothing to escape.
-/

namespace ClientGen

namespace Api

def Dialect.typeSteps : Dialect → List String
  | .legacy => ["definitions"]
  | .modern => ["components", "schemas"]

/-- A document declares a type with a schema in one of the two dialects. -/
def Declares (document : Json) (dialect : Dialect) (name : String) (schema : Json) : Prop :=
  (dialect.typeSteps ++ [name]).foldlM (fun place step => place.get? step) document = some schema

/-- The reference to a type, such as `#/definitions/Lead`. -/
def typeReference (dialect : Dialect) (name : String) : String :=
  "#" ++ Json.pointerText (dialect.typeSteps ++ [name])

theorem resolve?_typeReference {document : Json} {dialect : Dialect} {name : String}
    {schema entry : Json} (h : Declares document dialect name schema)
    (hentry : entry.getText? "$ref" = some (typeReference dialect name)) :
    resolve? document entry = some schema := by
  rw [resolve?_local hentry, Json.pointer?_pointerText]
  exact Json.foldlM_step?_of_get? h

theorem referenceName_typeReference (dialect : Dialect) (name : String) :
    referenceName (typeReference dialect name) =
      String.ofList (Json.escapeStep name.toList) := by
  have hplain : '/' ∉ (String.ofList (Json.escapeStep name.toList)).toList := by
    rw [String.toList_ofList]
    exact Json.slash_not_mem_escapeStep _
  have htext : ∃ front, typeReference dialect name =
      front ++ "/" ++ String.ofList (Json.escapeStep name.toList) := by
    refine ⟨"#" ++ Json.pointerText dialect.typeSteps, ?_⟩
    rw [← String.toList_inj, typeReference, Json.pointerText, Json.pointerText]
    simp
  obtain ⟨front, htext⟩ := htext
  rw [htext, referenceName_below, referenceName_plain hplain]

theorem referenceName_typeReference_eq_iff {dialect : Dialect} {name : String} :
    referenceName (typeReference dialect name) = name ↔
      '~' ∉ name.toList ∧ '/' ∉ name.toList := by
  rw [referenceName_typeReference, ← String.toList_inj, String.toList_ofList]
  exact Json.escapeStep_eq_self_iff

theorem contains_insertNew {α : Type} {types : Dict α} {key name : String} {value : α} :
    (types.insertNew key value).contains name ↔ name = key ∨ types.contains name := by
  unfold Dict.insertNew
  split
  · rename_i hkey
    refine ⟨.inr, ?_⟩
    rintro (rfl | h)
    · exact hkey
    · exact h
  · rw [Dict.contains, Dict.get?_insert]
    by_cases hname : name = key
    · simp [hname]
    · simp [hname, Dict.contains]

theorem contains_addTypes {types : Dict Json} {members : List (String × Json)} {name : String} :
    (addTypes types (.obj members)).value.contains name ↔
      name ∈ members.map Prod.fst ∨ types.contains name := by
  rw [addTypes, Traced.value_clean]
  induction members generalizing types with
  | nil => simp
  | cons member rest ih =>
    rw [List.foldl_cons, ih, contains_insertNew, List.map_cons, List.mem_cons]
    tauto

theorem contains_addSection {types : Dict Json} {place : Option Json} {name : String}
    (h : types.contains name) : (addSection types place).value.contains name := by
  cases place with
  | none => exact h
  | some declarations =>
    cases declarations with
    | obj members => exact contains_addTypes.2 (.inr h)
    | _ => exact h

theorem contains_addSection_of_get? {types : Dict Json} {place schema : Json} {name : String}
    (h : place.get? name = some schema) : (addSection types (some place)).value.contains name := by
  cases place with
  | obj members =>
    have hmem := Dict.mem_of_lookup h
    exact contains_addTypes.2 (.inl (List.mem_map_of_mem hmem))
  | _ => cases h

theorem contains_of_declares {document : Json} {dialect : Dialect} {name : String} {schema : Json}
    (h : Declares document dialect name schema) :
    (normalize document).value.types.contains name := by
  obtain ⟨place, hplace, hname⟩ : ∃ place,
      dialect.typeSteps.foldlM (fun place step => place.get? step) document = some place ∧
        place.get? name = some schema := by
    rw [Declares, List.foldlM_append] at h
    obtain ⟨place, hplace, h⟩ := Option.bind_eq_some_iff.1 h
    exact ⟨place, hplace, by simpa using h⟩
  cases document with
  | obj members =>
    simp only [normalize, Traced.value_bind, Traced.value_pure]
    cases dialect with
    | legacy =>
      have hget : (Json.obj members).get? "definitions" = some place := by
        simpa [Dialect.typeSteps] using hplace
      rw [hget]
      exact contains_addSection_of_get? hname
    | modern =>
      have hpointer : (Json.obj members).pointer? "/components/schemas" = some place := by
        have htext : Json.pointerText ["components", "schemas"] = "/components/schemas" := by
          decide
        rw [← htext, Json.pointer?_pointerText]
        exact Json.foldlM_step?_of_get? hplace
      rw [hpointer]
      exact contains_addSection (contains_addSection_of_get? hname)
  | _ => cases dialect <;> cases hplace

theorem schemaReference?_of_getText? {raw : Json} {reference : String}
    (h : raw.getText? "$ref" = some reference) :
    schemaReference? raw = some (referenceName reference) := by
  rw [schemaReference?, h, Option.map_some]

end Api

open Api

theorem target_ne_unresolved {scope : Scope} {name : String}
    (h : scope.declared.contains name) : scope.target name ≠ .unresolved := by
  unfold Scope.target
  split
  · exact nofun
  · exact fun hmodel => nomatch hmodel

def isMarkedNullable (raw : Json) : Bool := raw.flag "nullable" || raw.flag "x-nullable"

theorem compileAt_reference {scope : Scope} {raw : Json} {reference : String}
    (h : raw.getText? "$ref" = some reference) {depth : Nat} (hdepth : depth ≤ maxDepth)
    (location : String) :
    compileAt scope depth raw location = do
      let schema ← compileReference scope location (referenceName reference)
      return if isMarkedNullable raw then schema.orNull else schema := by
  obtain ⟨levels, hlevels⟩ : ∃ levels, maxDepth + 1 - depth = levels + 1 :=
    ⟨maxDepth - depth, by omega⟩
  cases raw with
  | obj members =>
    cases members with
    | nil => cases h
    | cons member rest =>
      rw [compileAt, hlevels, compileLevels]
      simp only [compileShape, h, isMarkedNullable]
      rfl
  | _ => cases h

/-- The raw schemas that may be what a wrapper wraps, in the order in which they are asked. -/
def wrappedItems (schema : Json) : List Json :=
  let itemsOf (key : String) : List Json :=
    (((schema.get? "properties").bind (·.get? key)).bind (·.get? "items")).toList
  itemsOf "results" ++
    (if (schema.get? "properties").isSome then [] else (schema.get? "items").toList) ++
    itemsOf "data"

theorem findSome?_toList {α β : Type} (f : α → Option β) (place : Option α) :
    place.toList.findSome? f = place.bind f := by
  cases place with
  | none => rfl
  | some a => cases h : f a <;> simp [h]

theorem wrappedType?_eq (schema : Json) :
    wrappedType? schema = (wrappedItems schema).findSome? schemaReference? := by
  have hown : (if (schema.get? "properties").isSome then []
        else (schema.get? "items").toList).findSome? schemaReference? =
      if (schema.get? "properties").isSome then none
        else (schema.get? "items").bind schemaReference? := by
    split
    · rfl
    · exact findSome?_toList _ _
  rw [wrappedItems, List.findSome?_append, List.findSome?_append, findSome?_toList,
    findSome?_toList, hown]
  unfold wrappedType?
  simp only
  split
  · rename_i hresults
    rw [hresults]
    rfl
  · rename_i hresults
    rw [hresults, Option.none_or]
    split
    · rename_i hitems
      rw [hitems]
      rfl
    · rename_i hitems
      rw [hitems, Option.none_or]

def mentionedParts (schema : Json) : List Json :=
  schema :: ((schema.get? "items").toList ++
    ["anyOf", "oneOf", "allOf"].flatMap fun key => (schema.getItems? key).getD [])

theorem mentions_iff {schema : Json} {name : String} :
    mentions schema name ↔ ∃ part ∈ mentionedParts schema, schemaReference? part = some name := by
  rw [mentionedParts, List.exists_mem_cons_iff]
  simp only [List.mem_append, or_and_right, exists_or]
  simp [mentions, or_assoc, or_and_right, exists_or, Option.bind_eq_some_iff]

/-- Everything that reads a reference as that of a type reads it as that of one declared type. -/
structure ReadsAs (scope : Scope) (reference name : String) : Prop where
  compiled : ∀ raw location depth, raw.getText? "$ref" = some reference → depth ≤ maxDepth →
    ∃ target, target ≠ .unresolved ∧ compileAt scope depth raw location =
      ⟨if isMarkedNullable raw then .nullable (.reference name target) else .reference name target,
        [.mention name]⟩
  collected : ∀ value, HasReference reference value → name ∈ collectReferences value
  collectedOnly : collectReferences (.obj [("$ref", .str reference)]) = [name]
  wrapped : ∀ schema raw, raw.getText? "$ref" = some reference →
    (wrappedItems schema).find? (fun raw => (raw.getText? "$ref").isSome) = some raw →
    wrappedType? schema = some name
  mentioned : ∀ schema, ∀ part ∈ mentionedParts schema, part.getText? "$ref" = some reference →
    mentions schema name
  mentionedOnly : ∀ other, mentions (.obj [("$ref", .str reference)]) other → other = name

theorem collectReferences_bare (reference : String) :
    collectReferences (.obj [("$ref", .str reference)]) = [referenceName reference] := by
  simp [collectReferences, searchReferences, memberReference?, insertOrdered, memberValues]

theorem readsAs_referenceName {scope : Scope} {reference : String}
    (h : scope.declared.contains (referenceName reference)) :
    ReadsAs scope reference (referenceName reference) where
  compiled raw location depth hraw hdepth := by
    have htarget := target_ne_unresolved h
    refine ⟨scope.target (referenceName reference), htarget, ?_⟩
    rw [compileAt_reference hraw hdepth, compileReference, if_neg htarget]
    rfl
  collected value hvalue := mem_collectReferences.2 ⟨reference, hvalue, rfl⟩
  collectedOnly := collectReferences_bare reference
  wrapped schema raw hraw hfirst := by
    obtain ⟨-, before, after, hparts, hbefore⟩ := List.find?_eq_some_iff_append.1 hfirst
    have hnone : before.findSome? schemaReference? = none := by
      refine List.findSome?_eq_none_iff.2 fun other hother => ?_
      have htext : other.getText? "$ref" = none := by simpa using hbefore other hother
      rw [schemaReference?, htext, Option.map_none]
    rw [wrappedType?_eq, hparts, List.findSome?_append, hnone, List.findSome?_cons,
      schemaReference?_of_getText? hraw]
    rfl
  mentioned schema part hpart hraw :=
    mentions_iff.2 ⟨part, hpart, schemaReference?_of_getText? hraw⟩
  mentionedOnly other hother := by
    obtain ⟨part, hpart, hname⟩ := mentions_iff.1 hother
    have hbare : part = .obj [("$ref", .str reference)] := by
      simpa [mentionedParts, Json.get?, Json.getItems?, List.lookup_cons, List.lookup_nil]
        using hpart
    rw [hbare] at hname
    exact (Option.some.inj hname).symm

/-- A reference to a declared type leads to its schema, and whoever reads it takes its name in its
escaped form, which is that of the type if and only if there is nothing to escape. -/
theorem declared_reference_read_iff {document schema : Json} {dialect : Dialect} {name : String}
    (h : Declares document dialect name schema) :
    (∀ entry : Json, entry.getText? "$ref" = some (typeReference dialect name) →
      resolve? document entry = some schema ∧
        schemaReference? entry = some (String.ofList (Json.escapeStep name.toList))) ∧
    (normalize document).value.types.contains name ∧
    (ReadsAs (Scope.of (normalize document).value.types) (typeReference dialect name) name ↔
      '~' ∉ name.toList ∧ '/' ∉ name.toList) := by
  have hdeclared := contains_of_declares h
  refine ⟨fun entry hentry => ⟨resolve?_typeReference h hentry, ?_⟩, hdeclared, ?_, ?_⟩
  · rw [schemaReference?_of_getText? hentry, referenceName_typeReference]
  · intro hreads
    have hread := hreads.collectedOnly
    rw [collectReferences_bare, List.singleton_inj] at hread
    exact referenceName_typeReference_eq_iff.1 hread
  · intro hplain
    have hread : referenceName (typeReference dialect name) = name :=
      referenceName_typeReference_eq_iff.2 hplain
    have hscope : (Scope.of (normalize document).value.types).declared.contains
        (referenceName (typeReference dialect name)) := by rw [hread]; exact hdeclared
    have hreads := readsAs_referenceName hscope
    rwa [hread] at hreads

/-- A document with one type that has a plain name and one that has a slash in its name. -/
def petsDocument : Json :=
  .obj [("definitions", .obj [("Dog", .obj [("type", .str "object")]),
    ("pets/Cat", .obj [("type", .str "object"), ("properties", .obj [])])])]

theorem dog_reference_read :
    Declares petsDocument .legacy "Dog" (.obj [("type", .str "object")]) ∧
    typeReference .legacy "Dog" = "#/definitions/Dog" ∧
    ReadsAs (Scope.of (normalize petsDocument).value.types) "#/definitions/Dog" "Dog" := by
  have hdeclares : Declares petsDocument .legacy "Dog" (.obj [("type", .str "object")]) := by
    rfl
  have htext : typeReference .legacy "Dog" = "#/definitions/Dog" := by decide
  refine ⟨hdeclares, htext, ?_⟩
  rw [← htext]
  exact (declared_reference_read_iff hdeclares).2.2.2 (by decide)

theorem cat_reference_misread :
    Declares petsDocument .legacy "pets/Cat"
      (.obj [("type", .str "object"), ("properties", .obj [])]) ∧
    typeReference .legacy "pets/Cat" = "#/definitions/pets~1Cat" ∧
    resolve? petsDocument (.obj [("$ref", .str "#/definitions/pets~1Cat")]) =
      some (.obj [("type", .str "object"), ("properties", .obj [])]) ∧
    (normalize petsDocument).value.types.contains "pets/Cat" ∧
    compileAt (Scope.of (normalize petsDocument).value.types) 0
        (.obj [("$ref", .str "#/definitions/pets~1Cat")]) "schema" =
      ⟨.reference "pets~1Cat" .unresolved, [.warning (.unresolvable "schema" "pets~1Cat")]⟩ ∧
    ¬ReadsAs (Scope.of (normalize petsDocument).value.types) "#/definitions/pets~1Cat"
      "pets/Cat" := by
  refine ⟨by rfl, by decide, by rfl, by decide, by rfl, fun hreads => ?_⟩
  have hread := hreads.collectedOnly
  rw [collectReferences_bare] at hread
  exact absurd hread (by decide)

end ClientGen
