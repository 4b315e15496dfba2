import ClientGen.Proofs.Plan.References
import ClientGen.Proofs.Schema.Locations

/-!
# Fields of parameter interfaces

The fields of an interface are asked for location by location: path, query, form, body. A name
goes to the first location that asks for it, and the later ones get no field of that name.
-/

namespace ClientGen
open Api

def fieldOrder : List Location := [.path, .query, .form, .body]

def Api.Location.before : Location → List Location
  | .path => []
  | .query => [.path]
  | .form => [.path, .query]
  | .body => [.path, .query, .form]

theorem exists_fieldOrder_eq (location : Location) :
    ∃ after, fieldOrder = location.before ++ location :: after := by
  cases location <;> exact ⟨_, rfl⟩

theorem not_mem_before (location : Location) : location ∉ location.before := by
  cases location <;> decide

/-- Whether an operation asks for a field of a name at a location. A request body asks only where
there are no body and form parameters. -/
def Api.Operation.Asks (operation : Operation) : Location → String → Prop
  | .path, name => name ∈ parameterNames operation .path
  | .query, name => name ∈ parameterNames operation .query
  | .form, name => name ∈ parameterNames operation .form
  | .body, name => name = bodyField ∧ (operation.parametersAt .body ≠ [] ∨
      hasBodyParameters operation = false ∧ (operation.body.bind RequestBody.schema?).isSome)

def Api.Operation.Gets (operation : Operation) (location : Location) (name : String) : Prop :=
  operation.Asks location name ∧ ∀ earlier ∈ location.before, ¬ operation.Asks earlier name

section
variable {scope : Scope} {entry : Entry} {location : Location} {name : String}

def candidatesAt (scope : Scope) (entry : Entry) (location : Location) : List Candidate :=
  (entry.operation.parametersAt location).map
      (fun p => (compileParameter scope (site entry.method entry.path) p).value) ++
    if location = .body then
      (compileBody scope (site entry.method entry.path) entry.operation).value
    else []

theorem fieldCandidates_eq (scope : Scope) (entry : Entry) :
    fieldCandidates scope entry =
      firstOccurrences (·.name) (fieldOrder.flatMap (candidatesAt scope entry)) := by
  simp [fieldCandidates, keepFirst_eq, Traced.value_each, orderedParameters, candidatesAt,
    fieldOrder]

theorem mem_compileBody {site : String} {operation : Operation} {c : Candidate} :
    c ∈ (compileBody scope site operation).value ↔
      hasBodyParameters operation = false ∧ ∃ body raw, operation.body = some body ∧
        body.schema? = some raw ∧
        c = ⟨bodyField, .body, body.required, (compileSchema scope raw (site ++ " body")).value,
          none⟩ := by
  unfold compileBody
  cases operation.body with
  | none => simp
  | some body =>
    cases hschema : body.schema? with
    | none => simp [Compiling.malformed, hschema]
    | some raw => cases hasBodyParameters operation <;> simp [hschema]

theorem mem_candidatesAt {c : Candidate} :
    c ∈ candidatesAt scope entry location ↔
      (∃ p ∈ entry.operation.parametersAt location,
        (compileParameter scope (site entry.method entry.path) p).value = c) ∨
      location = .body ∧
        c ∈ (compileBody scope (site entry.method entry.path) entry.operation).value := by
  rw [candidatesAt, List.mem_append, List.mem_map]
  by_cases h : location = .body <;> simp [h]

theorem location_of_mem_candidatesAt {c : Candidate} (h : c ∈ candidatesAt scope entry location) :
    c.location = location := by
  rcases mem_candidatesAt.1 h with ⟨p, hp, rfl⟩ | ⟨rfl, hbody⟩
  · exact of_decide_eq_true (List.mem_filter.1 hp).2
  · obtain ⟨_, _, _, _, _, rfl⟩ := mem_compileBody.1 hbody
    rfl

theorem compileParameter_name {site : String} {p : Parameter}
    (hp : p ∈ entry.operation.parametersAt location) :
    (compileParameter scope site p).value.name =
      if location = .body then bodyField else p.name := by
  have hplace : p.location = location := of_decide_eq_true (List.mem_filter.1 hp).2
  rw [← hplace]
  rfl

theorem exists_mem_candidatesAt_of_ne (hlocation : location ≠ .body) :
    (∃ c ∈ candidatesAt scope entry location, c.name = name) ↔
      name ∈ parameterNames entry.operation location := by
  rw [parameterNames, List.mem_map]
  constructor
  · rintro ⟨c, hc, rfl⟩
    rcases mem_candidatesAt.1 hc with ⟨p, hp, rfl⟩ | ⟨hbody, _⟩
    · exact ⟨p, hp, by rw [compileParameter_name hp, if_neg hlocation]⟩
    · exact absurd hbody hlocation
  · rintro ⟨p, hp, rfl⟩
    exact ⟨_, mem_candidatesAt.2 (.inl ⟨p, hp, rfl⟩),
      by rw [compileParameter_name hp, if_neg hlocation]⟩

theorem exists_mem_candidatesAt_iff (scope : Scope) :
    (∃ c ∈ candidatesAt scope entry location, c.name = name) ↔
      entry.operation.Asks location name := by
  cases location with
  | path => exact exists_mem_candidatesAt_of_ne (by decide)
  | query => exact exists_mem_candidatesAt_of_ne (by decide)
  | form => exact exists_mem_candidatesAt_of_ne (by decide)
  | body =>
    rw [Operation.Asks]
    constructor
    · rintro ⟨c, hc, rfl⟩
      rcases mem_candidatesAt.1 hc with ⟨p, hp, rfl⟩ | ⟨_, hbody⟩
      · exact ⟨compileParameter_name hp, .inl (List.ne_nil_of_mem hp)⟩
      · obtain ⟨hnone, body, raw, hsome, hschema, rfl⟩ := mem_compileBody.1 hbody
        exact ⟨rfl, .inr ⟨hnone, by rw [hsome, Option.bind_some, hschema]; rfl⟩⟩
    · rintro ⟨rfl, hparameter | ⟨hnone, hsome⟩⟩
      · obtain ⟨p, hp⟩ := List.exists_mem_of_ne_nil _ hparameter
        exact ⟨_, mem_candidatesAt.2 (.inl ⟨p, hp, rfl⟩), compileParameter_name hp⟩
      · obtain ⟨raw, hraw⟩ := Option.isSome_iff_exists.1 hsome
        obtain ⟨body, hbody, hschema⟩ := Option.bind_eq_some_iff.1 hraw
        exact ⟨_, mem_candidatesAt.2 (.inr ⟨rfl, mem_compileBody.2
          ⟨hnone, body, raw, hbody, hschema, rfl⟩⟩), rfl⟩

theorem exists_find?_eq (scope : Scope) (entry : Entry) (location : Location) (name : String) :
    ∃ behind : List Candidate, (fieldCandidates scope entry).find? (·.name = name) =
      (((location.before.flatMap (candidatesAt scope entry)).find? (·.name = name)).or
        ((candidatesAt scope entry location).find? (·.name = name))).or
          (behind.find? (·.name = name)) := by
  obtain ⟨after, horder⟩ := exists_fieldOrder_eq location
  refine ⟨after.flatMap (candidatesAt scope entry), ?_⟩
  rw [fieldCandidates_eq, find?_firstOccurrences, horder, List.flatMap_append, List.flatMap_cons,
    List.find?_append, List.find?_append, Option.or_assoc]

/-- The field of a name is made from what asks for it at the location that gets it. -/
theorem find?_fieldCandidates (scope : Scope) (h : entry.operation.Gets location name) :
    (fieldCandidates scope entry).find? (·.name = name) =
        (candidatesAt scope entry location).find? (·.name = name) ∧
      ((candidatesAt scope entry location).find? (·.name = name)).isSome := by
  have hbefore : (location.before.flatMap (candidatesAt scope entry)).find? (·.name = name) =
      none := by
    refine List.find?_eq_none.2 fun c hc hname => ?_
    obtain ⟨earlier, hearlier, hc⟩ := List.mem_flatMap.1 hc
    have hasks := (exists_mem_candidatesAt_iff scope).1 ⟨c, hc, of_decide_eq_true hname⟩
    exact h.2 earlier hearlier hasks
  obtain ⟨c, hc, hname⟩ := (exists_mem_candidatesAt_iff scope).2 h.1
  have hsome : ((candidatesAt scope entry location).find? (·.name = name)).isSome :=
    List.find?_isSome.2 ⟨c, hc, decide_eq_true hname⟩
  obtain ⟨behind, hfind⟩ := exists_find?_eq scope entry location name
  rw [hfind, hbefore, Option.none_or, Option.or_of_isSome hsome]
  exact ⟨rfl, hsome⟩

theorem find?_of_mem_fieldCandidates {c : Candidate} (h : c ∈ fieldCandidates scope entry) :
    (fieldCandidates scope entry).find? (·.name = c.name) = some c := by
  rw [fieldCandidates_eq] at h ⊢
  exact find?_of_mem_firstOccurrences h

theorem gets_of_mem_fieldCandidates {c : Candidate} (h : c ∈ fieldCandidates scope entry) :
    entry.operation.Gets c.location c.name := by
  have hmem : c ∈ candidatesAt scope entry c.location := by
    rw [fieldCandidates_eq] at h
    obtain ⟨location, _, hc⟩ := List.mem_flatMap.1 (mem_of_mem_firstOccurrences h)
    rwa [location_of_mem_candidatesAt hc]
  refine ⟨(exists_mem_candidatesAt_iff scope).1 ⟨c, hmem, rfl⟩, fun earlier hearlier hasks => ?_⟩
  -- a candidate of an earlier location would be found first
  obtain ⟨d, hd, hname⟩ := (exists_mem_candidatesAt_iff scope).2 hasks
  have hsome : ((c.location.before.flatMap (candidatesAt scope entry)).find?
      (·.name = c.name)).isSome :=
    List.find?_isSome.2 ⟨d, List.mem_flatMap.2 ⟨earlier, hearlier, hd⟩, decide_eq_true hname⟩
  obtain ⟨behind, hfind⟩ := exists_find?_eq scope entry c.location c.name
  rw [find?_of_mem_fieldCandidates h, Option.or_of_isSome hsome, Option.or_of_isSome hsome] at hfind
  obtain ⟨place, hplace, hc⟩ := List.mem_flatMap.1 (List.mem_of_find?_eq_some hfind.symm)
  rw [← location_of_mem_candidatesAt hc] at hplace
  exact not_mem_before c.location hplace

theorem exists_find?_iff (scope : Scope) :
    (∃ c, (fieldCandidates scope entry).find? (·.name = name) = some c ∧ c.location = location) ↔
      entry.operation.Gets location name := by
  constructor
  · rintro ⟨c, hfind, rfl⟩
    have hname : c.name = name := by simpa using List.find?_some hfind
    rw [← hname]
    exact gets_of_mem_fieldCandidates (List.mem_of_find?_eq_some hfind)
  · intro h
    obtain ⟨hfind, hsome⟩ := find?_fieldCandidates scope h
    obtain ⟨c, hc⟩ := Option.isSome_iff_exists.1 hsome
    exact ⟨c, hfind.trans hc, location_of_mem_candidatesAt (List.mem_of_find?_eq_some hc)⟩

theorem schema_of_find?_body {c : Candidate}
    (h : (candidatesAt scope entry .body).find? (·.name = bodyField) = some c) :
    ∃ raw, requestSchema? entry.operation = some raw ∧
      ∀ place, c.schema = (compileSchema scope raw place).value := by
  unfold candidatesAt at h
  unfold requestSchema?
  cases hparameters : entry.operation.parametersAt .body with
  | nil =>
    rw [hparameters, List.map_nil, List.nil_append, if_pos rfl] at h
    obtain ⟨_, body, raw, hbody, hschema, rfl⟩ := mem_compileBody.1 (List.mem_of_find?_eq_some h)
    refine ⟨raw, ?_, fun place => compileSchema_value_location scope raw _ place⟩
    rw [hbody, Option.bind_some, hschema]
  | cons p rest =>
    have hname : (compileParameter scope (site entry.method entry.path) p).value.name =
        bodyField := by
      have hp : p ∈ entry.operation.parametersAt .body := by simp [hparameters]
      exact compileParameter_name hp
    rw [hparameters, List.map_cons, List.cons_append, List.find?_cons_of_pos (by simp [hname])] at h
    injection h with h
    rw [← h]
    exact ⟨p.schema, rfl, fun place => compileSchema_value_location scope p.schema _ place⟩

theorem field?_synthesize (scope : Scope) (basePath : String) (entry : Entry) (name : String) :
    (synthesize scope basePath entry).value.bind (·.field? name) =
      ((fieldCandidates scope entry).find? (·.name = name)).map Candidate.field := by
  rw [synthesize_value]
  split
  · rename_i hempty
    rw [List.isEmpty_iff.1 hempty]
    rfl
  · rw [Option.bind_some, Interface.field?, List.find?_map]
    rfl

theorem fieldsAt_synthesize (scope : Scope) (basePath : String) (entry : Entry)
    (location : Location) :
    (synthesize scope basePath entry).value.toList.flatMap (·.fieldsAt location) =
      ((fieldCandidates scope entry).filter (·.location = location)).map Candidate.field := by
  rw [synthesize_value]
  split
  · rename_i hempty
    rw [List.isEmpty_iff.1 hempty]
    rfl
  · rw [Option.toList_some, List.flatMap_singleton, Interface.fieldsAt, List.filter_map]
    rfl

theorem exists_fieldsAt_iff (scope : Scope) (basePath : String) :
    (∃ field ∈ (synthesize scope basePath entry).value.toList.flatMap (·.fieldsAt location),
      field.name = name) ↔ entry.operation.Gets location name := by
  rw [fieldsAt_synthesize, ← exists_find?_iff scope]
  constructor
  · rintro ⟨_, hfield, rfl⟩
    obtain ⟨c, hc, rfl⟩ := List.mem_map.1 hfield
    obtain ⟨hc, hlocation⟩ := List.mem_filter.1 hc
    exact ⟨c, find?_of_mem_fieldCandidates hc, of_decide_eq_true hlocation⟩
  · rintro ⟨c, hfind, rfl⟩
    have hmem := List.mem_of_find?_eq_some hfind
    have hname : c.name = name := by simpa using List.find?_some hfind
    exact ⟨c.field, List.mem_map_of_mem (List.mem_filter.2 ⟨hmem, decide_eq_true rfl⟩), hname⟩

end

end ClientGen
