import ClientGen.Proofs.Related
import ClientGen.Proofs.Schema.TypeReader
import ClientGen.Proofs.Schema.TypeStructure
import ClientGen.Proofs.Text.PlainKey

/-!
# What a reader makes of printed types

What is read of a type expression can be told from the schema without its text. A scan says which
alternatives and factors a text adds to the union at its place, and which operand it leaves at its
end. The text of every proper schema is read as its scan says, at any place and before anything
that does not go on with a word.
-/

namespace ClientGen
open TypeExpr

/-- What a text adds to the union at its place: the union before the last operand, and the last
operand. -/
abbrev Scan := OpenUnion → OpenUnion × TypeExpr

namespace TypeOperator

def separator : TypeOperator → String
  | .union => " | "
  | .intersection => " & "

def close : TypeOperator → OpenUnion → OpenUnion
  | .union, u => u.next
  | .intersection, u => u

end TypeOperator

namespace Scan

def single (type : TypeExpr) : Scan := fun u => (u, type)

def after (scan : Scan) (u : OpenUnion) : OpenUnion := (scan u).1.add (scan u).2

/-- The type of a text at a place of its own. -/
def whole (scan : Scan) : TypeExpr := (scan.after .empty).whole

/-- A text with brackets behind it. -/
def array (scan : Scan) : Scan := fun u => ((scan u).1, .array (scan u).2)

def inTurn (operator : TypeOperator) : List Scan → Scan
  | [] => single anyType
  | [scan] => scan
  | scan :: next :: scans => fun u =>
    inTurn operator (next :: scans) (operator.close (scan.after u))

end Scan

mutual

def Schema.scan : Schema → Scan
  | .primitive kind c =>
    if isCompound (.primitive kind c) then
      .inTurn .union (c.literals.map fun text => .single (.literal text))
    else .single (Schema.primitive kind c).typeExpr
  | .reference name target => .single (Schema.reference name target).typeExpr
  | .array element =>
    if isCompound element then .array (.single element.scan.whole) else .array element.scan
  | .object fields => .single (objectType (scannedMembers fields))
  | .union branches => .inTurn .union (itemScans branches)
  | .intersection members => .inTurn .intersection (itemScans members)
  | .nullable inner => .inTurn .union [inner.scan, .single nullType]
  | .unknown => .single anyType

def itemScans : List Schema → List Scan
  | [] => []
  | schema :: schemas => schema.scan :: itemScans schemas

def scannedMembers : List (FieldOf Schema) → List (TypeMember TypeExpr)
  | [] => []
  | ⟨name, schema, required, _⟩ :: fields =>
    ⟨name, !required, schema.scan.whole⟩ :: scannedMembers fields

end

theorem itemScans_eq (schemas : List Schema) : itemScans schemas = schemas.map Schema.scan := by
  induction schemas with
  | nil => rfl
  | cons schema rest ih => rw [itemScans, ih, List.map_cons]

def scannedMember (field : Field) : TypeMember TypeExpr :=
  ⟨field.name, !field.required, field.schema.scan.whole⟩

theorem scannedMembers_eq (fields : List Field) :
    scannedMembers fields = fields.map scannedMember := by
  induction fields with
  | nil => rfl
  | cons field rest ih =>
    rw [scannedMembers, ih, List.map_cons]
    rfl

theorem typeTexts_eq (schemas : List Schema) : typeTexts schemas = schemas.map typeText := by
  induction schemas with
  | nil => simp [typeTexts]
  | cons schema rest ih => rw [typeTexts, ih, List.map_cons]

/-- A text is read as a scan says, wherever an operand is due and no word goes on behind it. -/
def Reads (text : List Char) (scan : Scan) : Prop :=
  ∀ u around rest, EndsWord rest →
    TypeReader.run ⟨.due, u, around⟩ (text ++ rest) =
      TypeReader.run ⟨.read (scan u).2, (scan u).1, around⟩ rest

namespace Reads

theorem word (text : String) (h : Text.isPlainKey text.toList = true) :
    Reads text.toList (.single (.named text)) :=
  fun _ _ _ hrest => TypeReader.run_word h hrest rfl

theorem quoted (text : String) : Reads (Text.quoted text).toList (.single (.literal text)) :=
  fun _ _ rest _ => TypeReader.run_quoted rfl rest

theorem array {text : List Char} {scan : Scan} (h : Reads text scan) :
    Reads (text ++ ['[', ']']) scan.array := by
  intro u around rest _
  calc TypeReader.run ⟨.due, u, around⟩ (text ++ ['[', ']'] ++ rest)
    _ = TypeReader.run ⟨.due, u, around⟩ (text ++ ('[' :: ']' :: rest)) := by
      rw [List.append_assoc]
      rfl
    _ = TypeReader.run ⟨.read (scan u).2, (scan u).1, around⟩ ('[' :: ']' :: rest) :=
      h _ _ _ (endsWord_cons (by decide))
    _ = TypeReader.run ⟨.indexed (scan u).2, (scan u).1, around⟩ (']' :: rest) :=
      TypeReader.run_mark '[' (by decide) rfl _
    _ = TypeReader.run ⟨.read (.array (scan u).2), (scan u).1, around⟩ rest :=
      TypeReader.run_mark ']' (by decide) rfl _

theorem group {text : List Char} {scan : Scan} (h : Reads text scan) :
    Reads ('(' :: (text ++ [')'])) (.single scan.whole) := by
  intro u around rest _
  calc TypeReader.run ⟨.due, u, around⟩ ('(' :: (text ++ [')']) ++ rest)
    _ = TypeReader.run ⟨.due, u, around⟩ ('(' :: (text ++ (')' :: rest))) := by simp
    _ = TypeReader.run ⟨.due, .empty, (.group, u) :: around⟩ (text ++ (')' :: rest)) :=
      TypeReader.run_mark '(' (by decide) rfl _
    _ = TypeReader.run ⟨.read (scan .empty).2, (scan .empty).1, (.group, u) :: around⟩
          (')' :: rest) := h _ _ _ (endsWord_cons (by decide))
    _ = TypeReader.run ⟨.read scan.whole, u, around⟩ rest :=
      TypeReader.run_mark ')' (by decide) rfl _

theorem run_separator (operator : TypeOperator) (u : OpenUnion) (operand : TypeExpr)
    (around : List (TypeFrame × OpenUnion)) (rest : List Char) :
    TypeReader.run ⟨.read operand, u, around⟩ (operator.separator.toList ++ rest) =
      TypeReader.run ⟨.due, operator.close (u.add operand), around⟩ rest := by
  cases operator with
  | union =>
    calc TypeReader.run ⟨.read operand, u, around⟩ (' ' :: '|' :: ' ' :: rest)
      _ = TypeReader.run ⟨.read operand, u, around⟩ ('|' :: ' ' :: rest) :=
        TypeReader.run_blank _ _
      _ = TypeReader.run ⟨.due, (u.add operand).next, around⟩ (' ' :: rest) :=
        TypeReader.run_mark '|' (by decide) rfl _
      _ = TypeReader.run ⟨.due, (u.add operand).next, around⟩ rest := TypeReader.run_blank _ _
  | intersection =>
    calc TypeReader.run ⟨.read operand, u, around⟩ (' ' :: '&' :: ' ' :: rest)
      _ = TypeReader.run ⟨.read operand, u, around⟩ ('&' :: ' ' :: rest) :=
        TypeReader.run_blank _ _
      _ = TypeReader.run ⟨.due, u.add operand, around⟩ (' ' :: rest) :=
        TypeReader.run_mark '&' (by decide) rfl _
      _ = TypeReader.run ⟨.due, u.add operand, around⟩ rest := TypeReader.run_blank _ _

theorem endsWord_separator (operator : TypeOperator) (rest : List Char) :
    EndsWord (operator.separator.toList ++ rest) := by
  cases operator with
  | union => exact endsWord_cons (by decide)
  | intersection => exact endsWord_cons (by decide)

theorem inTurn (operator : TypeOperator) {texts : List (List Char)} {scans : List Scan}
    (h : List.Forall₂ Reads texts scans) (hne : texts ≠ []) :
    Reads (List.intercalate operator.separator.toList texts) (.inTurn operator scans) := by
  induction h with
  | nil => exact absurd rfl hne
  | @cons text scan texts scans hfirst hothers ih =>
    cases hothers with
    | nil =>
      rw [List.intercalate_singleton]
      exact hfirst
    | cons hsecond hothers =>
      intro u around rest hrest
      rw [List.intercalate_cons_cons, List.append_assoc, List.append_assoc,
        hfirst u around _ (endsWord_separator operator _), run_separator,
        ih (List.cons_ne_nil _ _) _ _ _ hrest]
      rfl

end Reads

def fieldChars (field : Field) : List Char :=
  (Text.propertyKey field.name ++ (if field.required then "" else "?") ++ ": " ++
    typeText field.schema).toList

theorem fieldTypes_eq (fields : List Field) :
    (fieldTypes fields).map String.toList = fields.map fieldChars := by
  induction fields with
  | nil => simp [fieldTypes]
  | cons field rest ih =>
    rw [fieldTypes, List.map_cons, ih]
    rfl

theorem run_propertyKey (name : String) (before : List (TypeMember TypeExpr)) (u : OpenUnion)
    (around : List (TypeFrame × OpenUnion)) {rest : List Char} (hrest : EndsWord rest) :
    TypeReader.run ⟨.members before, u, around⟩ ((Text.propertyKey name).toList ++ rest) =
      TypeReader.run ⟨.named before name false, u, around⟩ rest := by
  unfold Text.propertyKey
  split
  · rename_i hname
    exact TypeReader.run_word hname hrest rfl
  · exact TypeReader.run_quoted rfl rest

theorem run_colon (required : Bool) (name : String) (before : List (TypeMember TypeExpr))
    (u : OpenUnion) (around : List (TypeFrame × OpenUnion)) (rest : List Char) :
    TypeReader.run ⟨.named before name false, u, around⟩
        ((if required then "" else "?").toList ++ ": ".toList ++ rest) =
      TypeReader.run ⟨.due, .empty, (.member before name !required, u) :: around⟩ rest := by
  have hcolon : ∀ isOptional,
      TypeReader.run ⟨.named before name isOptional, u, around⟩ (':' :: ' ' :: rest) =
        TypeReader.run ⟨.due, .empty, (.member before name isOptional, u) :: around⟩ rest :=
    fun _ => (TypeReader.run_mark ':' (by decide) rfl _).trans (TypeReader.run_blank _ _)
  cases required with
  | true => exact hcolon false
  | false =>
    calc TypeReader.run ⟨.named before name false, u, around⟩ ('?' :: ':' :: ' ' :: rest)
      _ = TypeReader.run ⟨.named before name true, u, around⟩ (':' :: ' ' :: rest) :=
        TypeReader.run_mark '?' (by decide) rfl _
      _ = TypeReader.run ⟨.due, .empty, (.member before name true, u) :: around⟩ rest :=
        hcolon true

theorem endsWord_colon (required : Bool) (rest : List Char) :
    EndsWord ((if required then "" else "?").toList ++ ": ".toList ++ rest) := by
  cases required with
  | true => exact endsWord_cons (by decide)
  | false => exact endsWord_cons (by decide)

theorem run_fieldChars {field : Field}
    (h : Reads (typeText field.schema).toList field.schema.scan)
    (before : List (TypeMember TypeExpr)) (u : OpenUnion)
    (around : List (TypeFrame × OpenUnion)) {rest : List Char} (hrest : EndsWord rest) :
    TypeReader.run ⟨.members before, u, around⟩ (fieldChars field ++ rest) =
      TypeReader.run ⟨.read (field.schema.scan .empty).2, (field.schema.scan .empty).1,
        (.member before field.name !field.required, u) :: around⟩ rest := by
  have hchars : fieldChars field ++ rest =
      (Text.propertyKey field.name).toList ++
        ((if field.required then "" else "?").toList ++ ": ".toList ++
          ((typeText field.schema).toList ++ rest)) := by
    simp only [fieldChars, String.toList_append, List.append_assoc]
  rw [hchars, run_propertyKey _ _ _ _ (endsWord_colon _ _), run_colon, h _ _ _ hrest]

theorem run_fields {fields : List Field}
    (h : ∀ field ∈ fields, Reads (typeText field.schema).toList field.schema.scan)
    (hne : fields ≠ []) (before : List (TypeMember TypeExpr)) (u : OpenUnion)
    (around : List (TypeFrame × OpenUnion)) (rest : List Char) :
    TypeReader.run ⟨.members before, u, around⟩
        (List.intercalate [';', ' '] (fields.map fieldChars) ++ ' ' :: '\x7d' :: rest) =
      TypeReader.run ⟨.read (.object (before ++ fields.map scannedMember)), u, around⟩ rest := by
  -- on the fields that are left, with any members before them
  induction fields generalizing before with
  | nil => exact absurd rfl hne
  | cons field fields ih =>
    have hfield := h field (List.mem_cons_self ..)
    cases fields with
    | nil =>
      calc TypeReader.run ⟨.members before, u, around⟩
            (List.intercalate [';', ' '] [fieldChars field] ++ ' ' :: '\x7d' :: rest)
        _ = TypeReader.run ⟨.members before, u, around⟩
              (fieldChars field ++ ' ' :: '\x7d' :: rest) := by rw [List.intercalate_singleton]
        _ = TypeReader.run ⟨.read (field.schema.scan .empty).2, (field.schema.scan .empty).1,
              (.member before field.name !field.required, u) :: around⟩ (' ' :: '\x7d' :: rest) :=
          run_fieldChars hfield _ _ _ (endsWord_cons (by decide))
        _ = TypeReader.run ⟨.read (field.schema.scan .empty).2, (field.schema.scan .empty).1,
              (.member before field.name !field.required, u) :: around⟩ ('\x7d' :: rest) :=
          TypeReader.run_blank _ _
        _ = TypeReader.run ⟨.read (.object (before ++ [scannedMember field])), u, around⟩ rest :=
          TypeReader.run_mark '\x7d' (by decide) rfl _
    | cons second fields =>
      have hothers := ih (fun f hf => h f (List.mem_cons_of_mem _ hf)) (List.cons_ne_nil _ _)
        (before ++ [scannedMember field])
      rw [List.append_assoc] at hothers
      refine Eq.trans ?_ hothers
      rw [List.map_cons, List.map_cons, List.intercalate_cons_cons, List.append_assoc,
        List.append_assoc]
      generalize List.intercalate [';', ' '] (fieldChars second :: fields.map fieldChars) ++
        ' ' :: '\x7d' :: rest = others
      calc TypeReader.run ⟨.members before, u, around⟩ (fieldChars field ++ ';' :: ' ' :: others)
        _ = TypeReader.run ⟨.read (field.schema.scan .empty).2, (field.schema.scan .empty).1,
              (.member before field.name !field.required, u) :: around⟩ (';' :: ' ' :: others) :=
          run_fieldChars hfield _ _ _ (endsWord_cons (by decide))
        _ = TypeReader.run ⟨.members (before ++ [scannedMember field]), u, around⟩
              (' ' :: others) := TypeReader.run_mark ';' (by decide) rfl _
        _ = TypeReader.run ⟨.members (before ++ [scannedMember field]), u, around⟩ others :=
          TypeReader.run_blank _ _

theorem Reads.generic {name first second : String} (hname : Text.isPlainKey name.toList = true)
    (hfirst : Text.isPlainKey first.toList = true)
    (hsecond : Text.isPlainKey second.toList = true) :
    Reads (name ++ "<" ++ first ++ ", " ++ second ++ ">").toList
      (.single (.generic name [.named first, .named second])) := by
  intro u around rest _
  have hchars : (name ++ "<" ++ first ++ ", " ++ second ++ ">").toList ++ rest =
      name.toList ++ '<' :: (first.toList ++ ',' :: ' ' :: (second.toList ++ '>' :: rest)) := by
    simp
  rw [hchars]
  calc TypeReader.run ⟨.due, u, around⟩
        (name.toList ++ '<' :: (first.toList ++ ',' :: ' ' :: (second.toList ++ '>' :: rest)))
    _ = TypeReader.run ⟨.read (.named name), u, around⟩
          ('<' :: (first.toList ++ ',' :: ' ' :: (second.toList ++ '>' :: rest))) :=
      TypeReader.run_word hname (endsWord_cons (by decide)) rfl
    _ = TypeReader.run ⟨.due, .empty, (.arguments name [], u) :: around⟩
          (first.toList ++ ',' :: ' ' :: (second.toList ++ '>' :: rest)) :=
      TypeReader.run_mark '<' (by decide) rfl _
    _ = TypeReader.run ⟨.read (.named first), .empty, (.arguments name [], u) :: around⟩
          (',' :: ' ' :: (second.toList ++ '>' :: rest)) :=
      TypeReader.run_word hfirst (endsWord_cons (by decide)) rfl
    _ = TypeReader.run ⟨.due, .empty, (.arguments name [.named first], u) :: around⟩
          (' ' :: (second.toList ++ '>' :: rest)) :=
      TypeReader.run_mark ',' (by decide) rfl _
    _ = TypeReader.run ⟨.due, .empty, (.arguments name [.named first], u) :: around⟩
          (second.toList ++ '>' :: rest) := TypeReader.run_blank _ _
    _ = TypeReader.run
          ⟨.read (.named second), .empty, (.arguments name [.named first], u) :: around⟩
          ('>' :: rest) :=
      TypeReader.run_word hsecond (endsWord_cons (by decide)) rfl
    _ = TypeReader.run ⟨.read (.generic name [.named first, .named second]), u, around⟩ rest :=
      TypeReader.run_mark '>' (by decide) rfl _

theorem Reads.object {fields : List Field}
    (h : ∀ field ∈ fields, Reads (typeText field.schema).toList field.schema.scan) :
    Reads (typeText (.object fields)).toList (.single (objectType (scannedMembers fields))) := by
  cases fields with
  | nil =>
    have htext : typeText (.object []) = "Record" ++ "<" ++ "string" ++ ", " ++ "any" ++ ">" := by
      rw [typeText, fieldTypes]
      rfl
    rw [htext]
    exact .generic (by decide) (by decide) (by decide)
  | cons field fields =>
    intro u around rest _
    have hchars : (typeText (.object (field :: fields))).toList ++ rest =
        '\x7b' :: ' ' :: (List.intercalate [';', ' '] ((field :: fields).map fieldChars) ++
          ' ' :: '\x7d' :: rest) := by
      have hseparator : ("; ".toList : List Char) = [';', ' '] := rfl
      rw [typeText, ← fieldTypes_eq, ← hseparator, ← String.toList_intercalate, fieldTypes]
      simp
    rw [hchars]
    rw [scannedMembers_eq]
    calc TypeReader.run ⟨.due, u, around⟩ ('\x7b' :: ' ' :: _)
      _ = TypeReader.run ⟨.members [], u, around⟩ (' ' :: _) :=
        TypeReader.run_mark '\x7b' (by decide) rfl _
      _ = TypeReader.run ⟨.members [], u, around⟩ _ := TypeReader.run_blank _ _
      _ = TypeReader.run ⟨.read (.object ((field :: fields).map scannedMember)), u, around⟩ rest :=
        run_fields h (List.cons_ne_nil _ _) [] u around rest

theorem Reads.items (operator : TypeOperator) {schemas : List Schema} (hne : schemas ≠ [])
    (h : ∀ schema ∈ schemas, Reads (typeText schema).toList schema.scan) :
    Reads (String.intercalate operator.separator (typeTexts schemas)).toList
      (.inTurn operator (itemScans schemas)) := by
  rw [String.toList_intercalate, typeTexts_eq, itemScans_eq, List.map_map]
  refine .inTurn operator (forall₂_map_map h) ?_
  simpa using hne

theorem Reads.literals {literals : List String} (hne : literals ≠ []) :
    Reads (String.intercalate " | " (literals.map Text.quoted)).toList
      (.inTurn .union (literals.map fun text => .single (.literal text))) := by
  rw [String.toList_intercalate, List.map_map]
  refine .inTurn .union (forall₂_map_map fun text _ => .quoted text) ?_
  simpa using hne

theorem Reads.nullable {inner : Schema} (h : Reads (typeText inner).toList inner.scan) :
    Reads (typeText (.nullable inner)).toList (.inTurn .union [inner.scan, .single nullType]) := by
  have hnull : Reads "null".toList (.single nullType) := .word "null" (by decide)
  have hboth := Reads.inTurn .union (.cons h (.cons hnull .nil)) (List.cons_ne_nil _ _)
  rw [List.intercalate_cons_cons, List.intercalate_singleton] at hboth
  have hseparator : " | null".toList = TypeOperator.union.separator.toList ++ "null".toList := rfl
  rw [typeText, String.toList_append, hseparator, ← List.append_assoc]
  exact hboth

theorem Reads.strings (c : Constraints) :
    Reads (typeText (.primitive .string c)).toList (Schema.primitive .string c).scan := by
  rw [typeText, Schema.scan, Schema.typeExpr, primitiveStructure, primitiveType, isCompound]
  generalize c.literals = literals
  cases literals with
  | nil => exact .word "string" (by decide)
  | cons text rest =>
    rw [if_pos (List.cons_ne_nil _ _), if_pos (List.cons_ne_nil _ _)]
    cases rest with
    | nil =>
      rw [if_neg (by simp)]
      exact .quoted text
    | cons next rest =>
      rw [if_pos (by simp)]
      exact .literals (List.cons_ne_nil _ _)

/-- What a reader makes of the type expression of a schema. -/
theorem reads_typeText {schema : Schema} (h : schema.Proper) :
    Reads (typeText schema).toList schema.scan := by
  induction h with
  | primitive kind c =>
    cases kind with
    | string => exact .strings c
    | integer => exact .word "number" (by decide)
    | number => exact .word "number" (by decide)
    | boolean => exact .word "boolean" (by decide)
    | file => exact .word "File" (by decide)
  | reference name target =>
    rw [typeText, Schema.scan, Schema.typeExpr]
    cases hident : typeIdent? name target with
    | none => exact .word "any" (by decide)
    | some ident => exact .word ident (isPlainKey_of_typeIdent? hident)
  | @array element _ ih =>
    rw [typeText, Schema.scan, arrayType]
    split
    · have hchars : ("(" ++ typeText element ++ ")[]").toList =
          '(' :: ((typeText element).toList ++ [')']) ++ ['[', ']'] := by simp
      rw [hchars]
      exact ih.group.array
    · rw [String.toList_append]
      exact ih.array
  | object hfields ih =>
    rw [Schema.scan]
    exact .object ih
  | union hlength hbranches ih =>
    rw [typeText, Schema.scan]
    exact .items .union (List.ne_nil_of_length_pos (by omega)) ih
  | intersection hlength hmembers ih =>
    rw [typeText, Schema.scan]
    exact .items .intersection (List.ne_nil_of_length_pos (by omega)) ih
  | nullable hinner ih =>
    rw [Schema.scan]
    exact .nullable ih
  | unknown => exact .word "any" (by decide)

end ClientGen
