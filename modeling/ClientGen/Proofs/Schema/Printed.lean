import ClientGen.Proofs.Schema.Nodes
import ClientGen.Proofs.Text.Pieces
import ClientGen.Schema.TypeText
import ClientGen.Schema.Validator

/-!
# Identifiers in printed expressions

Type and validator expressions are made of fixed text and of identifiers of declared types. Here
an expression is cut into such pieces: run together they are the expression, and their identifiers
are those of the resolved reference nodes, in order.
-/

namespace ClientGen

/-- A piece of an expression: text, or the identifier of a declared type. -/
inductive Piece where
  | text (s : String)
  | ident (s : String)
deriving DecidableEq, Repr, Inhabited

def Piece.printed : Piece → String
  | .text s => s
  | .ident s => s

def Piece.ident? : Piece → Option String
  | .text _ => none
  | .ident s => some s

def printed (pieces : List Piece) : String := String.join (pieces.map Piece.printed)

def usedIdents (pieces : List Piece) : List String := pieces.filterMap Piece.ident?

/-- Some expressions with a text between them. -/
def between (separator : String) (parts : List (List Piece)) : List Piece :=
  List.intercalate [.text separator] parts

@[simp] theorem printed_nil : printed [] = "" := rfl

@[simp] theorem printed_text (s : String) (pieces : List Piece) :
    printed (.text s :: pieces) = s ++ printed pieces := by
  simp [printed, Piece.printed, String.join_cons]

@[simp] theorem printed_ident (s : String) (pieces : List Piece) :
    printed (.ident s :: pieces) = s ++ printed pieces := by
  simp [printed, Piece.printed, String.join_cons]

@[simp] theorem printed_append (first second : List Piece) :
    printed (first ++ second) = printed first ++ printed second := by
  simp [printed]

theorem printed_between (separator : String) (parts : List (List Piece)) :
    printed (between separator parts) = String.intercalate separator (parts.map printed) := by
  unfold between
  induction parts with
  | nil => simp [List.intercalate_nil]
  | cons part rest ih =>
    cases rest with
    | nil => simp
    | cons next rest =>
      rw [List.intercalate_cons_cons, printed_append, printed_append, ih]
      simp [String.append_assoc]

@[simp] theorem usedIdents_nil : usedIdents [] = [] := rfl

@[simp] theorem usedIdents_text (s : String) (pieces : List Piece) :
    usedIdents (.text s :: pieces) = usedIdents pieces := rfl

@[simp] theorem usedIdents_ident (s : String) (pieces : List Piece) :
    usedIdents (.ident s :: pieces) = s :: usedIdents pieces := rfl

@[simp] theorem usedIdents_append (first second : List Piece) :
    usedIdents (first ++ second) = usedIdents first ++ usedIdents second :=
  List.filterMap_append

theorem usedIdents_between (separator : String) (parts : List (List Piece)) :
    usedIdents (between separator parts) = parts.flatMap usedIdents :=
  filterMap_intercalate rfl parts

mutual

/-- The pieces of a type expression. -/
def typePieces : Schema → List Piece
  | .primitive kind c => [.text (primitiveType kind c)]
  | .reference name target =>
    match typeIdent? name target with
    | some ident => [.ident ident]
    | none => [.text "any"]
  | .array element =>
    if isCompound element then .text "(" :: (typePieces element ++ [.text ")[]"])
    else typePieces element ++ [.text "[]"]
  | .object fields =>
    match fieldTypePieces fields with
    | [] => [.text "Record<string, any>"]
    | parts => .text "\x7b " :: (between "; " parts ++ [.text " \x7d"])
  | .union branches => between " | " (typePiecesOf branches)
  | .intersection members => between " & " (typePiecesOf members)
  | .nullable inner => typePieces inner ++ [.text " | null"]
  | .unknown => [.text "any"]

def typePiecesOf : List Schema → List (List Piece)
  | [] => []
  | schema :: schemas => typePieces schema :: typePiecesOf schemas

def fieldTypePieces : List (FieldOf Schema) → List (List Piece)
  | [] => []
  | ⟨name, schema, required, _⟩ :: fields =>
    (.text (Text.propertyKey name ++ (if required then "" else "?") ++ ": ") ::
      typePieces schema) :: fieldTypePieces fields

end

mutual

theorem printed_typePieces (schema : Schema) : printed (typePieces schema) = typeText schema := by
  cases schema with
  | primitive kind c => simp [typePieces, typeText]
  | reference name target =>
    rw [typePieces, typeText]
    cases typeIdent? name target <;> simp
  | array element =>
    rw [typePieces, typeText, arrayType, ← printed_typePieces element]
    split <;> simp [String.append_assoc]
  | object fields =>
    have hfields := printed_fieldTypePieces fields
    rw [typePieces, typeText]
    cases hparts : fieldTypePieces fields with
    | nil =>
      rw [← hfields, hparts]
      simp
    | cons part rest =>
      rw [← hfields, hparts]
      simp [printed_between, String.append_assoc]
  | union branches => rw [typePieces, typeText, printed_between, printed_typePiecesOf]
  | intersection members => rw [typePieces, typeText, printed_between, printed_typePiecesOf]
  | nullable inner =>
    rw [typePieces, typeText, printed_append, printed_typePieces inner]
    simp
  | unknown => simp [typePieces, typeText]

theorem printed_typePiecesOf (schemas : List Schema) :
    (typePiecesOf schemas).map printed = typeTexts schemas := by
  cases schemas with
  | nil => simp [typePiecesOf, typeTexts]
  | cons schema rest =>
    rw [typePiecesOf, typeTexts, List.map_cons, printed_typePieces, printed_typePiecesOf]

theorem printed_fieldTypePieces (fields : List Field) :
    (fieldTypePieces fields).map printed = fieldTypes fields := by
  cases fields with
  | nil => simp [fieldTypePieces, fieldTypes]
  | cons field rest =>
    rw [fieldTypePieces, fieldTypes, List.map_cons, printed_text, printed_typePieces,
      printed_fieldTypePieces]

end

mutual

theorem usedIdents_typePieces (schema : Schema) :
    usedIdents (typePieces schema) =
      schema.resolvedNodes.filterMap fun node => typeIdent? node.1 node.2 := by
  cases schema with
  | primitive kind c => simp [typePieces, Schema.resolvedNodes]
  | reference name target =>
    cases target <;> simp [typePieces, Schema.resolvedNodes, typeIdent?]
  | array element =>
    rw [typePieces, Schema.resolvedNodes, ← usedIdents_typePieces element]
    split <;> simp
  | object fields =>
    have hfields := usedIdents_fieldTypePieces fields
    rw [typePieces, Schema.resolvedNodes, ← hfields]
    cases fieldTypePieces fields with
    | nil => simp
    | cons part rest => simp [usedIdents_between]
  | union branches =>
    rw [typePieces, Schema.resolvedNodes, usedIdents_between, usedIdents_typePiecesOf]
  | intersection members =>
    rw [typePieces, Schema.resolvedNodes, usedIdents_between, usedIdents_typePiecesOf]
  | nullable inner =>
    rw [typePieces, Schema.resolvedNodes, usedIdents_append, usedIdents_typePieces inner]
    simp
  | unknown => simp [typePieces, Schema.resolvedNodes]

theorem usedIdents_typePiecesOf (schemas : List Schema) :
    (typePiecesOf schemas).flatMap usedIdents =
      (Schema.resolvedItemNodes schemas).filterMap fun node => typeIdent? node.1 node.2 := by
  cases schemas with
  | nil => simp [typePiecesOf, Schema.resolvedItemNodes]
  | cons schema rest =>
    rw [typePiecesOf, Schema.resolvedItemNodes, List.flatMap_cons, usedIdents_typePieces,
      usedIdents_typePiecesOf, List.filterMap_append]

theorem usedIdents_fieldTypePieces (fields : List Field) :
    (fieldTypePieces fields).flatMap usedIdents =
      (Schema.resolvedFieldNodes fields).filterMap fun node => typeIdent? node.1 node.2 := by
  cases fields with
  | nil => simp [fieldTypePieces, Schema.resolvedFieldNodes]
  | cons field rest =>
    rw [fieldTypePieces, Schema.resolvedFieldNodes, List.flatMap_cons, usedIdents_text,
      usedIdents_typePieces, usedIdents_fieldTypePieces, List.filterMap_append]

end

/-- The pieces of an expression that may be absent unless it is required. -/
def optionalPieces (required : Bool) (pieces : List Piece) : List Piece :=
  pieces ++ if required then [] else [.text ".optional()"]

/-- The pieces of an expression of all members at once. -/
def intersectionPieces : List (List Piece) → List Piece
  | [] => [.text "z.any()"]
  | first :: rest =>
    rest.foldl (fun all next => all ++ .text ".and(" :: (next ++ [.text ")"])) first

mutual

/-- The pieces of a validator expression. -/
def validatorPieces : Schema → List Piece
  | .primitive kind c => [.text (primitiveValidator kind c)]
  | .reference name .model => [.text "z.lazy(() => ", .ident (schemaIdent name), .text ")"]
  | .reference name .enum => [.ident (schemaIdent name)]
  | .reference _ .unresolved => [.text "z.any()"]
  | .array element => .text "z.array(" :: (validatorPieces element ++ [.text ")"])
  | .object fields =>
    match fieldValidatorPieces fields with
    | [] => [.text "z.record(z.string(), z.any())"]
    | parts => .text "z.object(\x7b " :: (between ", " parts ++ [.text " \x7d)"])
  | .union branches =>
    .text "z.union([" :: (between ", " (validatorPiecesOf branches) ++ [.text "])"])
  | .intersection members => intersectionPieces (validatorPiecesOf members)
  | .nullable inner => validatorPieces inner ++ [.text ".nullable()"]
  | .unknown => [.text "z.any()"]

def validatorPiecesOf : List Schema → List (List Piece)
  | [] => []
  | schema :: schemas => validatorPieces schema :: validatorPiecesOf schemas

def fieldValidatorPieces : List (FieldOf Schema) → List (List Piece)
  | [] => []
  | ⟨name, schema, required, _⟩ :: fields =>
    (.text (Text.propertyKey name ++ ": ") :: optionalPieces required (validatorPieces schema)) ::
      fieldValidatorPieces fields

end

theorem printed_optionalPieces (required : Bool) (pieces : List Piece) :
    printed (optionalPieces required pieces) = optionalUnless required (printed pieces) := by
  cases required <;> simp [optionalPieces, optionalUnless]

theorem usedIdents_optionalPieces (required : Bool) (pieces : List Piece) :
    usedIdents (optionalPieces required pieces) = usedIdents pieces := by
  cases required <;> simp [optionalPieces]

theorem printed_intersectionPieces (parts : List (List Piece)) :
    printed (intersectionPieces parts) = intersectionValidator (parts.map printed) := by
  cases parts with
  | nil => simp [intersectionPieces, intersectionValidator]
  | cons first rest =>
    rw [intersectionPieces, List.map_cons, intersectionValidator]
    induction rest generalizing first with
    | nil => rfl
    | cons next rest ih =>
      rw [List.foldl_cons, ih, List.map_cons, List.foldl_cons]
      simp [String.append_assoc]

theorem usedIdents_intersectionPieces (parts : List (List Piece)) :
    usedIdents (intersectionPieces parts) = parts.flatMap usedIdents := by
  cases parts with
  | nil => simp [intersectionPieces]
  | cons first rest =>
    rw [intersectionPieces]
    induction rest generalizing first with
    | nil => simp
    | cons next rest ih =>
      rw [List.foldl_cons, ih]
      simp

mutual

theorem printed_validatorPieces (schema : Schema) :
    printed (validatorPieces schema) = validator schema := by
  cases schema with
  | primitive kind c => simp [validatorPieces, validator]
  | reference name target =>
    cases target <;> simp [validatorPieces, validator, referenceValidator, String.append_assoc]
  | array element =>
    rw [validatorPieces, validator, ← printed_validatorPieces element]
    simp [String.append_assoc]
  | object fields =>
    have hfields := printed_fieldValidatorPieces fields
    rw [validatorPieces, validator]
    cases hparts : fieldValidatorPieces fields with
    | nil =>
      rw [← hfields, hparts]
      simp
    | cons part rest =>
      rw [← hfields, hparts]
      simp [printed_between, String.append_assoc]
  | union branches =>
    rw [validatorPieces, validator, ← printed_validatorPiecesOf]
    simp [printed_between, String.append_assoc]
  | intersection members =>
    rw [validatorPieces, validator, printed_intersectionPieces, printed_validatorPiecesOf]
  | nullable inner =>
    rw [validatorPieces, validator, printed_append, printed_validatorPieces inner]
    simp
  | unknown => simp [validatorPieces, validator]

theorem printed_validatorPiecesOf (schemas : List Schema) :
    (validatorPiecesOf schemas).map printed = validators schemas := by
  cases schemas with
  | nil => simp [validatorPiecesOf, validators]
  | cons schema rest =>
    rw [validatorPiecesOf, validators, List.map_cons, printed_validatorPieces,
      printed_validatorPiecesOf]

theorem printed_fieldValidatorPieces (fields : List Field) :
    (fieldValidatorPieces fields).map printed = fieldValidators fields := by
  cases fields with
  | nil => simp [fieldValidatorPieces, fieldValidators]
  | cons field rest =>
    rw [fieldValidatorPieces, fieldValidators, List.map_cons, printed_text,
      printed_optionalPieces, printed_validatorPieces, printed_fieldValidatorPieces]

end

mutual

theorem usedIdents_validatorPieces (schema : Schema) :
    usedIdents (validatorPieces schema) =
      schema.resolvedNodes.map fun node => schemaIdent node.1 := by
  cases schema with
  | primitive kind c => simp [validatorPieces, Schema.resolvedNodes]
  | reference name target => cases target <;> simp [validatorPieces, Schema.resolvedNodes]
  | array element =>
    rw [validatorPieces, Schema.resolvedNodes, ← usedIdents_validatorPieces element]
    simp
  | object fields =>
    have hfields := usedIdents_fieldValidatorPieces fields
    rw [validatorPieces, Schema.resolvedNodes, ← hfields]
    cases fieldValidatorPieces fields with
    | nil => simp
    | cons part rest => simp [usedIdents_between]
  | union branches =>
    rw [validatorPieces, Schema.resolvedNodes, ← usedIdents_validatorPiecesOf]
    simp [usedIdents_between]
  | intersection members =>
    rw [validatorPieces, Schema.resolvedNodes, usedIdents_intersectionPieces,
      usedIdents_validatorPiecesOf]
  | nullable inner =>
    rw [validatorPieces, Schema.resolvedNodes, usedIdents_append,
      usedIdents_validatorPieces inner]
    simp
  | unknown => simp [validatorPieces, Schema.resolvedNodes]

theorem usedIdents_validatorPiecesOf (schemas : List Schema) :
    (validatorPiecesOf schemas).flatMap usedIdents =
      (Schema.resolvedItemNodes schemas).map fun node => schemaIdent node.1 := by
  cases schemas with
  | nil => simp [validatorPiecesOf, Schema.resolvedItemNodes]
  | cons schema rest =>
    rw [validatorPiecesOf, Schema.resolvedItemNodes, List.flatMap_cons,
      usedIdents_validatorPieces, usedIdents_validatorPiecesOf, List.map_append]

theorem usedIdents_fieldValidatorPieces (fields : List Field) :
    (fieldValidatorPieces fields).flatMap usedIdents =
      (Schema.resolvedFieldNodes fields).map fun node => schemaIdent node.1 := by
  cases fields with
  | nil => simp [fieldValidatorPieces, Schema.resolvedFieldNodes]
  | cons field rest =>
    rw [fieldValidatorPieces, Schema.resolvedFieldNodes, List.flatMap_cons, usedIdents_text,
      usedIdents_optionalPieces, usedIdents_validatorPieces, usedIdents_fieldValidatorPieces,
      List.map_append]

end

end ClientGen
