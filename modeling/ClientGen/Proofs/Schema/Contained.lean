import ClientGen.Proofs.Text.Brackets
import ClientGen.Proofs.Text.PlainKey
import ClientGen.Schema.TypeText
import ClientGen.Schema.Validator

/-!
# Expressions that keep to themselves

Names, literals, patterns, formats and bounds come from the document. Whatever they are, the
validator expression and the type expression of a schema close every literal and every bracket
that they open, and stay on one line.
-/

namespace ClientGen
open Text

theorem neutral_identifier (name : String) : Neutral (identifier name) :=
  neutral_of_inert fun _ hc => isInert_of_isNameChar (isNameChar_of_mem_identifier hc)

theorem neutral_schemaIdent (name : String) : Neutral (schemaIdent name) :=
  (neutral_identifier name).append ⟨fun _ => rfl, by decide⟩

theorem neutral_typeIdent? {name ident : String} {target : Target}
    (h : typeIdent? name target = some ident) : Neutral ident := by
  cases target with
  | model =>
    cases h
    have hopening : Neutral "I" := ⟨fun _ => rfl, by decide⟩
    exact (hopening.append (neutral_identifier name)).append ⟨fun _ => rfl, by decide⟩
  | enum =>
    cases h
    exact neutral_identifier name
  | unresolved => cases h

theorem isInert_of_mem_natDigits {n : Nat} {c : Char} (h : c ∈ Number.natDigits n) :
    isInert c = true :=
  isInert_of_isDigit (Nat.isDigit_of_mem_toDigits (by omega) (by omega) h)

theorem isInert_of_mem_positional {digits : List Char} {exponent : Int} {unit : Bool}
    (hdigits : ∀ c ∈ digits, isInert c = true) :
    ∀ c ∈ Number.positional digits exponent unit, isInert c = true := by
  have hzeros (n : Nat) : ∀ c ∈ List.replicate n '0', isInert c = true := by
    intro c hc
    rw [List.eq_of_mem_replicate hc]
    decide
  intro c hc
  simp only [Number.positional] at hc
  split at hc
  · rw [List.mem_append, List.mem_append] at hc
    rcases hc with (hc | hc) | hc
    · exact hdigits c hc
    · exact hzeros _ c hc
    · split at hc
      · revert c; decide
      · cases hc
  · split at hc
    · rw [List.mem_append, List.mem_cons] at hc
      rcases hc with hc | rfl | hc
      · exact hdigits c (List.mem_of_mem_take hc)
      · decide
      · exact hdigits c (List.mem_of_mem_drop hc)
    · rw [List.mem_cons, List.mem_cons, List.mem_append] at hc
      rcases hc with rfl | rfl | hc | hc
      · decide
      · decide
      · exact hzeros _ c hc
      · exact hdigits c hc

theorem isInert_of_mem_scientific {digits : List Char} {first : Int}
    (hdigits : ∀ c ∈ digits, isInert c = true) :
    ∀ c ∈ Number.scientific digits first, isInert c = true := by
  intro c hc
  unfold Number.scientific at hc
  rw [List.mem_append, List.mem_cons, List.mem_cons] at hc
  rcases hc with hc | rfl | hc | hc
  · split at hc
    · exact hdigits c hc
    · rcases List.mem_cons.1 hc with rfl | hc
      · exact hdigits _ (List.mem_cons_self ..)
      · rcases List.mem_cons.1 hc with rfl | hc
        · decide
        · exact hdigits c (List.mem_cons_of_mem _ hc)
    · cases hc
  · decide
  · subst hc
    split <;> decide
  · exact isInert_of_mem_natDigits hc

theorem isInert_of_mem_sign {negative : Prop} [Decidable negative] {c : Char}
    (h : c ∈ if negative then ['-'] else []) : isInert c = true := by
  split at h
  · rw [List.mem_singleton.1 h]
    decide
  · cases h

theorem neutral_number (n : Number) : Neutral n.text := by
  apply neutral_of_inert
  intro c hc
  cases n with
  | int n =>
    rw [Number.text, Number.intText, String.toList_ofList, List.mem_append] at hc
    rcases hc with hc | hc
    · exact isInert_of_mem_sign hc
    · exact isInert_of_mem_natDigits hc
  | real x =>
    rw [Number.text, Number.realText, String.toList_ofList, List.mem_append] at hc
    rcases hc with hc | hc
    · exact isInert_of_mem_sign hc
    · split at hc
      · revert c; decide
      · dsimp only at hc
        split at hc
        · exact isInert_of_mem_positional (fun _ => isInert_of_mem_natDigits) c hc
        · exact isInert_of_mem_scientific (fun _ => isInert_of_mem_natDigits) c hc

theorem neutral_quotedAll {separator : String} (hseparator : Neutral separator)
    (texts : List String) : Neutral (String.intercalate separator (texts.map quoted)) := by
  apply neutral_intercalate hseparator
  intro text htext
  obtain ⟨s, -, rfl⟩ := List.mem_map.1 htext
  exact neutral_quoted s

theorem neutral_formatCheck (format : String) : Neutral (formatCheck format) := by
  unfold formatCheck
  split
  · have hopening : Passes [] [')'] ".regex(" := ⟨fun _ => rfl, by decide⟩
    have hcheck : Neutral dateCheck := ⟨fun _ => rfl, by decide⟩
    exact hcheck.between hopening ⟨fun _ => rfl, by decide⟩
  all_goals exact ⟨fun _ => rfl, by decide⟩

theorem neutral_checkOf {name : String} (hname : Neutral name) {α : Type} {f : α → String}
    (hf : ∀ a, Neutral (f a)) (value : Option α) : Neutral (checkOf name (value.map f)) := by
  cases value with
  | none => exact neutral_empty
  | some a =>
    have hpoint : Neutral "." := ⟨fun _ => rfl, by decide⟩
    have hopening : Passes [] [')'] "(" := ⟨fun _ => rfl, by decide⟩
    exact (hf a).between ((hpoint.append hname).append hopening) ⟨fun _ => rfl, by decide⟩

theorem neutral_maxCheck {α : Type} {f : α → String} (hf : ∀ a, Neutral (f a))
    (value : Option α) : Neutral (checkOf "max" (value.map f)) :=
  neutral_checkOf ⟨fun _ => rfl, by decide⟩ hf value

theorem neutral_minCheck {α : Type} {f : α → String} (hf : ∀ a, Neutral (f a))
    (value : Option α) : Neutral (checkOf "min" (value.map f)) :=
  neutral_checkOf ⟨fun _ => rfl, by decide⟩ hf value

theorem neutral_patternCheck (pattern? : Option String) :
    Neutral (checkOf "regex" (pattern?.map fun p => "new RegExp(" ++ quoted p ++ ")")) := by
  have hopening : Passes [] [')'] "new RegExp(" := ⟨fun _ => rfl, by decide⟩
  exact neutral_checkOf ⟨fun _ => rfl, by decide⟩
    (fun p => (neutral_quoted p).between hopening ⟨fun _ => rfl, by decide⟩) pattern?

theorem neutral_stringValidator (c : Constraints) : Neutral (stringValidator c) := by
  unfold stringValidator
  split
  · have hopening : Passes [] [']', ')'] "z.enum([" := ⟨fun _ => rfl, by decide⟩
    exact (neutral_quotedAll neutral_comma c.literals).between hopening ⟨fun _ => rfl, by decide⟩
  · have hstring : Neutral "z.string()" := ⟨fun _ => rfl, by decide⟩
    have hformat := hstring.append (neutral_formatCheck (c.format.getD ""))
    have hmax := hformat.append (neutral_maxCheck neutral_numeral c.maxLength)
    have hmin := hmax.append (neutral_minCheck neutral_numeral c.minLength)
    exact hmin.append (neutral_patternCheck c.pattern)

theorem neutral_boundChecks (c : Constraints) : Neutral (boundChecks c) :=
  (neutral_maxCheck neutral_number c.maximum).append (neutral_minCheck neutral_number c.minimum)

theorem neutral_primitiveValidator (kind : PrimitiveKind) (c : Constraints) :
    Neutral (primitiveValidator kind c) := by
  cases kind with
  | string => exact neutral_stringValidator c
  | integer =>
    have hnumber : Neutral "z.number().int()" := ⟨fun _ => rfl, by decide⟩
    exact hnumber.append (neutral_boundChecks c)
  | number =>
    have hnumber : Neutral "z.number()" := ⟨fun _ => rfl, by decide⟩
    exact hnumber.append (neutral_boundChecks c)
  | boolean =>
    have hboolean : Neutral "z.boolean()" := ⟨fun _ => rfl, by decide⟩
    exact hboolean
  | file =>
    have hfile : Neutral "z.instanceof(File)" := ⟨fun _ => rfl, by decide⟩
    exact hfile

theorem neutral_referenceValidator (name : String) (target : Target) :
    Neutral (referenceValidator name target) := by
  cases target with
  | model =>
    have hopening : Passes [] [')'] "z.lazy(() => " := ⟨fun _ => rfl, by decide⟩
    exact (neutral_schemaIdent name).between hopening ⟨fun _ => rfl, by decide⟩
  | enum => exact neutral_schemaIdent name
  | unresolved =>
    have hany : Neutral "z.any()" := ⟨fun _ => rfl, by decide⟩
    exact hany

theorem neutral_optionalUnless (required : Bool) {expression : String}
    (h : Neutral expression) : Neutral (optionalUnless required expression) := by
  unfold optionalUnless
  split
  · exact h
  · exact h.append ⟨fun _ => rfl, by decide⟩

theorem neutral_foldl_and {members : List String} (h : ∀ member ∈ members, Neutral member)
    {all : String} (hall : Neutral all) :
    Neutral (members.foldl (fun all next => all ++ ".and(" ++ next ++ ")") all) := by
  -- whatever has been put together so far is read like no code at all
  induction members generalizing all with
  | nil => exact hall
  | cons next rest ih =>
    have hopening : Passes [] [')'] ".and(" := ⟨fun _ => rfl, by decide⟩
    have hending : Passes [')'] [] ")" := ⟨fun _ => rfl, by decide⟩
    have hnext := (h next (List.mem_cons_self ..)).between hopening hending
    have hstep := hall.append hnext
    rw [← String.append_assoc, ← String.append_assoc] at hstep
    exact ih (fun member hm => h member (List.mem_cons_of_mem _ hm)) hstep

theorem neutral_intersectionValidator {members : List String}
    (h : ∀ member ∈ members, Neutral member) : Neutral (intersectionValidator members) := by
  cases members with
  | nil => exact ⟨fun _ => rfl, by decide⟩
  | cons first rest =>
    exact neutral_foldl_and (fun member hm => h member (List.mem_cons_of_mem _ hm))
      (h first (List.mem_cons_self ..))

mutual

theorem neutral_validator (schema : Schema) : Neutral (validator schema) := by
  cases schema with
  | primitive kind c =>
    rw [validator]
    exact neutral_primitiveValidator kind c
  | reference name target =>
    rw [validator]
    exact neutral_referenceValidator name target
  | array element =>
    rw [validator]
    have hopening : Passes [] [')'] "z.array(" := ⟨fun _ => rfl, by decide⟩
    exact (neutral_validator element).between hopening ⟨fun _ => rfl, by decide⟩
  | object fields =>
    have hfields := neutral_fieldValidators fields
    rw [validator]
    split
    · exact ⟨fun _ => rfl, by decide⟩
    · have hopening : Passes [] ['\x7d', ')'] "z.object(\x7b " := ⟨fun _ => rfl, by decide⟩
      exact (neutral_intercalate neutral_comma hfields).between hopening ⟨fun _ => rfl, by decide⟩
  | union branches =>
    rw [validator]
    have hopening : Passes [] [']', ')'] "z.union([" := ⟨fun _ => rfl, by decide⟩
    exact (neutral_intercalate neutral_comma (neutral_validators branches)).between hopening
      ⟨fun _ => rfl, by decide⟩
  | intersection members =>
    rw [validator]
    exact neutral_intersectionValidator (neutral_validators members)
  | nullable inner =>
    rw [validator]
    exact (neutral_validator inner).append ⟨fun _ => rfl, by decide⟩
  | unknown =>
    rw [validator]
    exact ⟨fun _ => rfl, by decide⟩

theorem neutral_validators (schemas : List Schema) :
    ∀ text ∈ validators schemas, Neutral text := by
  cases schemas with
  | nil =>
    rw [validators]
    exact List.forall_mem_nil _
  | cons schema rest =>
    rw [validators, List.forall_mem_cons]
    exact ⟨neutral_validator schema, neutral_validators rest⟩

theorem neutral_fieldValidators (fields : List Field) :
    ∀ text ∈ fieldValidators fields, Neutral text := by
  cases fields with
  | nil =>
    rw [fieldValidators]
    exact List.forall_mem_nil _
  | cons field rest =>
    rw [fieldValidators, List.forall_mem_cons]
    exact ⟨((neutral_propertyKey field.name).append neutral_colon).append
      (neutral_optionalUnless field.required (neutral_validator field.schema)),
      neutral_fieldValidators rest⟩

end

theorem neutral_primitiveType (kind : PrimitiveKind) (c : Constraints) :
    Neutral (primitiveType kind c) := by
  cases kind with
  | string =>
    rw [primitiveType]
    split
    · exact neutral_quotedAll ⟨fun _ => rfl, by decide⟩ c.literals
    · exact ⟨fun _ => rfl, by decide⟩
  | _ =>
    rw [primitiveType]
    exact ⟨fun _ => rfl, by decide⟩

theorem neutral_arrayType (compound : Bool) {element : String} (h : Neutral element) :
    Neutral (arrayType compound element) := by
  unfold arrayType
  split
  · have hopening : Passes [] [')'] "(" := ⟨fun _ => rfl, by decide⟩
    exact h.between hopening ⟨fun _ => rfl, by decide⟩
  · exact h.append ⟨fun _ => rfl, by decide⟩

mutual

theorem neutral_typeText (schema : Schema) : Neutral (typeText schema) := by
  cases schema with
  | primitive kind c =>
    rw [typeText]
    exact neutral_primitiveType kind c
  | reference name target =>
    rw [typeText]
    cases hident : typeIdent? name target with
    | none => exact ⟨fun _ => rfl, by decide⟩
    | some ident => exact neutral_typeIdent? hident
  | array element =>
    rw [typeText]
    exact neutral_arrayType _ (neutral_typeText element)
  | object fields =>
    have hfields := neutral_fieldTypes fields
    rw [typeText]
    split
    · exact ⟨fun _ => rfl, by decide⟩
    · have hopening : Passes [] ['\x7d'] "\x7b " := ⟨fun _ => rfl, by decide⟩
      have hsemicolon : Neutral "; " := ⟨fun _ => rfl, by decide⟩
      exact (neutral_intercalate hsemicolon hfields).between hopening ⟨fun _ => rfl, by decide⟩
  | union branches =>
    rw [typeText]
    exact neutral_intercalate ⟨fun _ => rfl, by decide⟩ (neutral_typeTexts branches)
  | intersection members =>
    rw [typeText]
    exact neutral_intercalate ⟨fun _ => rfl, by decide⟩ (neutral_typeTexts members)
  | nullable inner =>
    rw [typeText]
    exact (neutral_typeText inner).append ⟨fun _ => rfl, by decide⟩
  | unknown =>
    rw [typeText]
    exact ⟨fun _ => rfl, by decide⟩

theorem neutral_typeTexts (schemas : List Schema) :
    ∀ text ∈ typeTexts schemas, Neutral text := by
  cases schemas with
  | nil =>
    rw [typeTexts]
    exact List.forall_mem_nil _
  | cons schema rest =>
    rw [typeTexts, List.forall_mem_cons]
    exact ⟨neutral_typeText schema, neutral_typeTexts rest⟩

theorem neutral_fieldTypes (fields : List Field) :
    ∀ text ∈ fieldTypes fields, Neutral text := by
  cases fields with
  | nil =>
    rw [fieldTypes]
    exact List.forall_mem_nil _
  | cons field rest =>
    rw [fieldTypes, List.forall_mem_cons]
    have hmark : Neutral (if field.required then "" else "?") := by
      split <;> exact ⟨fun _ => rfl, by decide⟩
    exact ⟨(((neutral_propertyKey field.name).append hmark).append neutral_colon).append
      (neutral_typeText field.schema), neutral_fieldTypes rest⟩

end

/-- Whatever names, literals, patterns and formats a schema has, its validator and its type close
every literal and every bracket that they open, and have no line break. -/
theorem expressions_contained (schema : Schema) :
    Contained (validator schema) ∧ Contained (typeText schema) :=
  ⟨(neutral_validator schema).contained, (neutral_typeText schema).contained⟩

/-- A key that looks like the end of its object, and a literal that ends in a backslash. -/
example : Contained (validator (.object [⟨"a'\x7d)", .primitive .string { literals := ["\\"] },
    false, none⟩])) := by decide

end ClientGen
