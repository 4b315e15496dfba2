import ClientGen.Proofs.Artifact.Address
import ClientGen.Proofs.Artifact.ServiceCall
import ClientGen.Proofs.Plan.PathParameters
import ClientGen.Proofs.Text.Access

/-!
# Parameters that a service call reads

A parameter is written into the address of a call for every placeholder segment of the path, while
the fields are made from the parameters of the operation, of which only the first of a name gets
one. Still no access is written that has no field: an operation has a path parameter for every
placeholder segment, and path parameters ask for their fields before all others. The query and the
body are made from the fields themselves. Text of the path that is no placeholder is copied into the
address; where it says nothing in a template literal, the address is read with the written accesses
and no others.
-/

namespace ClientGen
open Api Text

theorem accessedIn_passedMember (field : ParameterField) {rest : List Char}
    (hrest : EndsWord rest) :
    accessedIn (typeTokens ((passedMember field).toList ++ rest)) =
      field.name :: accessedIn (typeTokens rest) := by
  have hchars : (passedMember field).toList ++ rest = (propertyKey field.name).toList ++
      ':' :: ' ' :: ((paramAccess field.name).toList ++ rest) := by
    simp [passedMember]
  rw [hchars, typeTokens_propertyKey _ (endsWord_cons (by decide)), typeTokens_mark (by decide),
    accessedIn_key, typeTokens_blank, typeTokens_paramAccess _ hrest, accessedIn_accessTokens]

theorem accessedNames_passedMember (field : ParameterField) :
    accessedNames (passedMember field) = [field.name] := by
  have hnames := accessedIn_passedMember field endsWord_nil
  rwa [List.append_nil] at hnames

theorem accessedIn_passedMembers (fields : List ParameterField) {rest : List Char}
    (hrest : EndsWord rest) :
    accessedIn (typeTokens ((String.intercalate ", " (fields.map passedMember)).toList ++ rest)) =
      fields.map (·.name) ++ accessedIn (typeTokens rest) := by
  have hcomma : (", ".toList : List Char) = [',', ' '] := rfl
  rw [String.toList_intercalate, hcomma]
  induction fields with
  | nil => rfl
  | cons first others ih =>
    cases others with
    | nil => simpa using accessedIn_passedMember first hrest
    | cons second others =>
      simp only [List.map_cons, List.intercalate_cons_cons, List.append_assoc, List.cons_append,
        List.nil_append] at ih ⊢
      rw [accessedIn_passedMember first (endsWord_cons (by decide)), typeTokens_mark (by decide),
        accessedIn_mark, typeTokens_blank, ih]

def Text.TemplatePart.code? : TemplatePart → Option String
  | .char _ => none
  | .value code => some code

namespace Endpoint

/-- The codes that are substituted in the address. -/
def addressCodes (endpoint : Endpoint) : List String :=
  (addressParts endpoint.path).filterMap TemplatePart.code?

def field? (endpoint : Endpoint) (name : String) : Option ParameterField :=
  endpoint.interface.bind (·.field? name)

/-- The accesses that are written into a call name fields of its interface. Into the address one is
written for each placeholder segment of the path in turn, and these are required path parameters. -/
structure ReadsItsFields (endpoint : Endpoint) : Prop where
  written : endpoint.address.toList = written (addressParts endpoint.path)
  placeholders : endpoint.addressCodes.flatMap accessedNames =
    (pieces endpoint.path).filterMap placeholder?
  address : ∀ code ∈ endpoint.addressCodes, ∀ name ∈ accessedNames code,
    ∃ field ∈ endpoint.field? name, field.location = .path ∧ field.required = true
  query : ∀ member ∈ endpoint.query, ∀ name ∈ accessedNames member, (endpoint.field? name).isSome
  body : ∀ code ∈ endpoint.sentBody?, ∀ name ∈ accessedNames code, (endpoint.field? name).isSome

end Endpoint

theorem accessedNames_calls {outer inner : String} (houter : isPlainKey outer.toList = true)
    (hinner : isPlainKey inner.toList = true) (name : String) :
    accessedNames (outer ++ "(" ++ inner ++ "(" ++ paramAccess name ++ "))") = [name] := by
  have hopening : "(".toList = ['('] := rfl
  have hending : "))".toList = [')', ')'] := rfl
  simp only [accessedNames, String.toList_append, hopening, hending, List.append_assoc,
    List.cons_append, List.nil_append]
  rw [accessedIn_call houter, accessedIn_call hinner,
    typeTokens_paramAccess name (endsWord_cons (by decide)), accessedIn_accessTokens,
    typeTokens_mark (by decide), typeTokens_mark (by decide), accessedIn_mark, accessedIn_mark]
  rfl

theorem accessedNames_encodingCode (name : String) :
    accessedNames (encodingCode name) = [name] := by
  have houter : isPlainKey "encodeURIComponent".toList = true := by decide
  have hinner : isPlainKey "String".toList = true := by decide
  have hcut : "encodeURIComponent(String(" = "encodeURIComponent" ++ "(" ++ "String" ++ "(" := by
    decide
  have hcode : encodingCode name =
      "encodeURIComponent" ++ "(" ++ "String" ++ "(" ++ paramAccess name ++ "))" := by
    unfold encodingCode
    rw [hcut]
  rw [hcode]
  exact accessedNames_calls houter hinner name

theorem addressCodes_eq (endpoint : Endpoint) :
    endpoint.addressCodes =
      ((pieces endpoint.path).filterMap placeholder?).map encodingCode := by
  rw [Endpoint.addressCodes, addressParts, filterMap_intercalate rfl, List.flatMap_map]
  induction pieces endpoint.path with
  | nil => rfl
  | cons piece rest ih =>
    rw [List.flatMap_cons, ih, pieceParts]
    cases hname : placeholder? piece with
    | some name => rw [List.filterMap_cons_some hname, List.map_cons]; rfl
    | none =>
      have hchars : (piece.toList.map TemplatePart.char).filterMap TemplatePart.code? = [] := by
        simp [TemplatePart.code?]
      rw [List.filterMap_cons_none hname, hchars, List.nil_append]

/-- What is read of a placeholder is a path parameter, since these ask for their fields first. -/
theorem field?_of_placeholder {document : Json} {config : Config} {planned : Plan} {entry : Entry}
    {endpoint : Endpoint} (hentry : entry ∈ sourceEntries document)
    (hserves : planned.Serves config entry endpoint) {piece name : String}
    (hpiece : piece ∈ pieces entry.path) (hname : placeholder? piece = some name) :
    ∃ field ∈ endpoint.field? name, field.location = .path ∧ field.required = true := by
  have hgets : entry.operation.Gets .path name :=
    ⟨mem_parameterNames_of_placeholder hentry hpiece hname, nofun⟩
  obtain ⟨hfind, hsome⟩ := find?_fieldCandidates planned.catalog.scope hgets
  obtain ⟨c, hc⟩ := Option.isSome_iff_exists.1 hsome
  have hfield := field?_of_serves hserves name
  rw [hfind, hc, Option.map_some] at hfield
  have hmem := List.mem_of_find?_eq_some hc
  refine ⟨c.field, hfield, location_of_mem_candidatesAt hmem, ?_⟩
  rcases mem_candidatesAt.1 hmem with ⟨p, hp, rfl⟩ | ⟨hbody, _⟩
  · obtain ⟨hp, hpath⟩ := List.mem_filter.1 hp
    exact pathRequired_of_mem_sourceEntries hentry p hp (of_decide_eq_true hpath)
  · cases hbody

theorem isSome_field?_of_mem {endpoint : Endpoint} {location : Location} {field : ParameterField}
    (h : field ∈ endpoint.interface.toList.flatMap (·.fieldsAt location)) :
    (endpoint.field? field.name).isSome := by
  obtain ⟨interface, hinterface, hfield⟩ := List.mem_flatMap.1 h
  rw [Endpoint.field?, Option.mem_toList.1 hinterface, Option.bind_some, Interface.field?,
    List.find?_isSome]
  exact ⟨field, (List.mem_filter.1 hfield).1, decide_eq_true rfl⟩

theorem isSome_field?_of_mem_sentKeys {endpoint : Endpoint} {location : Location} {name : String}
    (h : name ∈ endpoint.sentKeys location) : (endpoint.field? name).isSome := by
  rw [Endpoint.sentKeys_eq] at h
  obtain ⟨field, hfield, rfl⟩ := List.mem_map.1 h
  exact isSome_field?_of_mem hfield

theorem accessedNames_formObject (endpoint : Endpoint) :
    accessedNames endpoint.formObject = endpoint.sentKeys .form := by
  have hopening : "\x7b ".toList = ['\x7b', ' '] := rfl
  have hending : " \x7d".toList = [' ', '\x7d'] := rfl
  rw [accessedNames, Endpoint.formObject, String.toList_append, String.toList_append, hopening,
    hending, List.append_assoc, List.cons_append, List.singleton_append,
    typeTokens_mark (by decide), accessedIn_mark, typeTokens_blank, Endpoint.passedMembers,
    accessedIn_passedMembers _ (endsWord_cons (by decide)), Endpoint.sentKeys_eq]
  exact List.append_nil _

theorem isSome_field?_of_query {endpoint : Endpoint} {member name : String}
    (hmember : member ∈ endpoint.query) (hname : name ∈ accessedNames member) :
    (endpoint.field? name).isSome := by
  obtain ⟨field, hfield, rfl⟩ := List.mem_map.1 hmember
  rw [accessedNames_passedMember, List.mem_singleton] at hname
  rw [hname]
  exact isSome_field?_of_mem hfield

theorem isSome_field?_of_body {endpoint : Endpoint} {code name : String}
    (hcode : code ∈ endpoint.sentBody?) (hname : name ∈ accessedNames code) :
    (endpoint.field? name).isSome := by
  by_cases hform : endpoint.sentKeys .form = []
  · rw [Endpoint.sentBody?_of_no_form hform] at hcode
    obtain ⟨field, hfield, rfl⟩ := Option.map_eq_some_iff.1 hcode
    rw [accessedNames_paramAccess, List.mem_singleton] at hname
    rw [hname]
    exact Option.isSome_of_eq_some hfield
  · obtain ⟨key, hkey⟩ := List.exists_mem_of_ne_nil _ hform
    rw [Endpoint.sentBody?_of_mem_form hkey] at hcode
    rw [← Option.some_inj.1 hcode, accessedNames_formObject] at hname
    exact isSome_field?_of_mem_sentKeys hname

section
variable {document : Json} {config : Config} {planned : Plan}
  (hplan : plan document config = .ok planned) {endpoint : Endpoint}
  (hendpoint : endpoint ∈ planned.endpoints)
include hplan hendpoint

theorem field?_of_addressCode {code name : String} (hcode : code ∈ endpoint.addressCodes)
    (hname : name ∈ accessedNames code) :
    ∃ field ∈ endpoint.field? name, field.location = .path ∧ field.required = true := by
  have hserved := servesEach hplan (R := fun _ _ => True) fun _ _ _ => trivial
  obtain ⟨entry, hentry, hserves, -⟩ := hserved.exists_entry hendpoint
  have hcall : endpoint.call = entry.call := by
    obtain ⟨tag, name, rfl⟩ := hserves
    exact call_planEndpoint tag name entry
  have hpath : endpoint.path = entry.path := (Prod.mk.inj hcall).1
  rw [addressCodes_eq] at hcode
  obtain ⟨placeholder, hplaceholder, rfl⟩ := List.mem_map.1 hcode
  obtain ⟨piece, hpiece, hpieceName⟩ := List.mem_filterMap.1 hplaceholder
  rw [accessedNames_encodingCode, List.mem_singleton] at hname
  rw [hpath] at hpiece
  rw [hname]
  exact field?_of_placeholder hentry hserves hpiece hpieceName

/-- However the address of a path is read whose other text says nothing in a template literal, what
it reads are required path parameters. -/
theorem read_address_reads_fields (hpath : VerbatimPath endpoint.path) :
    (∃ parts, ReadsParts endpoint.address.toList parts) ∧
    ∀ parts, ReadsParts endpoint.address.toList parts → ∀ code, .value code ∈ parts →
      ∀ name ∈ accessedNames code,
        ∃ field ∈ endpoint.field? name, field.location = .path ∧ field.required = true := by
  have hread := (readsParts_address_iff endpoint).2 hpath
  refine ⟨⟨_, hread⟩, fun parts hparts code hcode name hname => ?_⟩
  rw [← written_addressParts] at hread hparts
  rw [hparts.eq_of_plain (readsParts_written_iff.1 hread)] at hcode
  refine field?_of_addressCode hplan hendpoint ?_ hname
  exact List.mem_filterMap.2 ⟨_, hcode, rfl⟩

end

/-- Every access that is written into a call names a field of its parameters, and those in its
address name required path parameters, whether the document declares them or not. -/
theorem calls_read_their_fields {document : Json} {config : Config} {planned : Plan}
    (hplan : plan document config = .ok planned) :
    ∀ endpoint ∈ planned.endpoints, endpoint.ReadsItsFields := by
  intro endpoint hendpoint
  constructor
  · exact (written_addressParts endpoint).symm
  · rw [addressCodes_eq, List.flatMap_map]
    simp only [accessedNames_encodingCode, List.flatMap_singleton']
  · exact fun code hcode name hname => field?_of_addressCode hplan hendpoint hcode hname
  · exact fun member hmember name hname => isSome_field?_of_query hmember hname
  · exact fun code hcode name hname => isSome_field?_of_body hcode hname

/-- A path with a parameter that is declared only at another place, with one that is not declared at
all, and with a name that is no plain key, and forms whose names meet those of the path. -/
def memberCalls : Json :=
  .obj [("paths", .obj [
    ("/api/teams/{id}/members/{member-id}", .obj [("post", .obj [
      ("parameters", .arr [
        .obj [("name", .str "id"), ("in", .str "query"), ("type", .str "integer")],
        .obj [("name", .str "member-id"), ("in", .str "path"), ("type", .str "string")],
        .obj [("name", .str "notify"), ("in", .str "query"), ("type", .str "boolean")],
        .obj [("name", .str "member-id"), ("in", .str "formData"), ("type", .str "string")],
        .obj [("name", .str "role"), ("in", .str "formData"), ("type", .str "string")]]),
      ("responses", .obj [("204", .obj [])])])])])]

theorem memberCalls_read_their_fields :
    plan memberCalls { domainPatterns := [] } =
      .ok (planWith [] memberCalls { domainPatterns := [] }) ∧
    (planWith [] memberCalls { domainPatterns := [] }).endpoints.map (fun endpoint =>
        (endpoint.addressCodes.flatMap accessedNames, endpoint.query.flatMap accessedNames,
          endpoint.sentBody?.toList.flatMap accessedNames)) =
      [(["id", "member-id"], ["notify"], ["role"])] ∧
    ∀ endpoint ∈ (planWith [] memberCalls { domainPatterns := [] }).endpoints,
      endpoint.ReadsItsFields := by
  have hplan : plan memberCalls { domainPatterns := [] } =
      .ok (planWith [] memberCalls { domainPatterns := [] }) := rfl
  exact ⟨hplan, by decide +kernel, calls_read_their_fields hplan⟩

end ClientGen
