/-!
# Warnings

Problems with single entries of a document never end a run. Each is recorded as a warning with
the place where it was found, and something safe takes the entry's place.
-/

namespace ClientGen

/-- What is wrong with an entry of the document. -/
inductive Malformation where
  | rootNotObject
  | schemasNotObject
  | pathItemNotObject
  | operationNotObject
  | undeclaredPathParameter (name : String)
  | namelessParameter
  | bodyWithoutContent
  | bodyWithoutSchema
  | noResponses
  | emptySchema
  | objectWithoutProperties
  | propertiesNotObject
  | tooDeep (levels : Nat)
  | arrayWithoutItems
  | unknownType (name : String)
deriving DecidableEq, Repr

def Malformation.message : Malformation → String
  | .rootNotObject => "root is not an object"
  | .schemasNotObject => "schema section is not an object"
  | .pathItemNotObject => "path item is not an object"
  | .operationNotObject => "operation is not an object"
  | .undeclaredPathParameter name =>
    "path parameter '" ++ name ++ "' is not declared; assuming string"
  | .namelessParameter => "parameter without a name"
  | .bodyWithoutContent => "request body without content"
  | .bodyWithoutSchema => "request body declares no schema"
  | .noResponses => "operation without responses"
  | .emptySchema => "empty schema"
  | .objectWithoutProperties => "object without properties; treating as a free-form record"
  | .propertiesNotObject => "properties is not an object"
  | .tooDeep levels => "nesting deeper than " ++ toString levels ++ " levels"
  | .arrayWithoutItems => "array without items"
  | .unknownType name => "unknown type '" ++ name ++ "'"

/-- A problem that did not end the run. -/
inductive Warning where
  | malformed (location : String) (problem : Malformation)
  /-- A reference names something that the document does not declare. -/
  | unresolvable (location name : String)
  /-- Types were left without a domain. -/
  | exhausted (names : List String)
deriving DecidableEq, Repr

def Warning.message : Warning → String
  | .malformed location problem => "malformed input at " ++ location ++ ": " ++ problem.message
  | .unresolvable location name => "unresolvable reference '" ++ name ++ "' at " ++ location
  | .exhausted names =>
    toString names.length ++ " schemas remain uncategorized: " ++ String.intercalate ", " names

end ClientGen
