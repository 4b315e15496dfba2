import ClientGen.Text.Trim

/-!
# Names mangled with the base path

Some servers name schemas after the whole route, as in
`Body_upload_photo_api_v1_projects_photos_post`. The base path, written with underscores, and
the pieces between it and the last HTTP verb are cut out, which leaves
`Body_upload_photo_post`.
-/

namespace ClientGen.Text

/-- The base path as it occurs in a mangled name, in lower case: `api/v1` gives `_api_v1_`. -/
def baseMarker (base : List Char) : List Char :=
  '_' :: (base.map (fun c => if c == '/' then '_' else c.toLower) ++ ['_'])

/-- What follows `marker` at the start of a text, if the text starts with it up to ASCII case;
`marker` is in lower case. -/
def afterMarker? : (marker text : List Char) → Option (List Char)
  | [], text => some text
  | _ :: _, [] => none
  | m :: marker, c :: text => if c.toLower == m then afterMarker? marker text else none

def cutAtMarker? (marker : List Char) : List Char → Option (List Char × List Char)
  | [] => (afterMarker? marker []).map ([], ·)
  | c :: text =>
    match afterMarker? marker (c :: text) with
    | some after => some ([], after)
    | none => (cutAtMarker? marker text).map fun (before, after) => (c :: before, after)

/-- The HTTP verbs that a mangled name may end in. -/
def verbs : List String := ["get", "post", "put", "patch", "delete"]

def isVerb (piece : List Char) : Bool := verbs.contains (String.ofList (piece.map Char.toLower))

def fromLastVerb? : List (List Char) → Option (List (List Char))
  | [] => none
  | piece :: pieces =>
    match fromLastVerb? pieces with
    | some tail => some tail
    | none => if isVerb piece then some (piece :: pieces) else none

/-- What stays of the text after the base path: its pieces from the last HTTP verb on, or all of
it where no piece is a verb. -/
def keptTail (after : List Char) : List Char :=
  match fromLastVerb? (after.splitOn '_') with
  | some tail => List.intercalate ['_'] tail
  | none => after

/-- The name without the base path and the pieces up to the last HTTP verb after it. A name is
left as it is where the base path is empty, missing, or there more than once. -/
def stripBasePath (name base : String) : String :=
  let base := trimWhile (· == '/') base.toList
  if base.isEmpty then name
  else
    let marker := baseMarker base
    match cutAtMarker? marker name.toList with
    | none => name
    | some (before, after) =>
      match cutAtMarker? marker after with
      | some _ => name
      | none => String.ofList (before ++ '_' :: keptTail after)

end ClientGen.Text
