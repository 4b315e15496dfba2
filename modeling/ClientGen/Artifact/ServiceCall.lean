import ClientGen.Plan.Endpoint

/-!
# Service calls

The service of an endpoint puts its parameters into the address, the query and the body of the
request. Every parameter is read from the object `params`.
-/

namespace ClientGen

open Api

/-- A piece of a path inside the template literal of an address: a placeholder becomes the
encoded parameter. -/
def addressPiece (piece : String) : String :=
  match placeholder? piece with
  | some name => "$\x7bencodeURIComponent(String(" ++ Text.paramAccess name ++ "))\x7d"
  | none => piece

/-- A field as a member of an object literal, such as `page: params.page`. -/
def passedMember (field : ParameterField) : String :=
  Text.propertyKey field.name ++ ": " ++ Text.paramAccess field.name

namespace Endpoint

/-- The inside of the template literal of the address. -/
def address (endpoint : Endpoint) : String :=
  String.intercalate "/" ((pieces endpoint.path).map addressPiece)

def passedMembers (endpoint : Endpoint) (location : Location) : List String :=
  (endpoint.interface.toList.flatMap (·.fieldsAt location)).map passedMember

def query (endpoint : Endpoint) : List String := endpoint.passedMembers .query

/-- The expression of the body: an object of the form fields, else the field `body`. -/
def sentBody? (endpoint : Endpoint) : Option String :=
  match endpoint.passedMembers .form with
  | [] =>
    (endpoint.interface.bind (·.field? bodyField)).map fun _ => Text.paramAccess bodyField
  | members => some ("\x7b " ++ String.intercalate ", " members ++ " \x7d")

end Endpoint

end ClientGen
