import ClientGen.Proofs.Api.RedirectedEntries
import ClientGen.Proofs.Plan.Redirected

/-!
# Dialects plan alike

A legacy document becomes a modern one by moving its types from `definitions` to
`components/schemas` and redirecting the references to them. Both are planned alike.
-/

namespace ClientGen
open Api Json

/-- A reference text with the prefix of modern types in the place of that of legacy ones. -/
def modernReference (text : String) : String :=
  match "#/definitions/".toList.isPrefixOf? text.toList with
  | some name => "#/components/schemas/" ++ String.ofList name
  | none => text

theorem referenceName_modernReference (text : String) :
    referenceName (modernReference text) = referenceName text := by
  unfold modernReference
  split
  · rename_i name hprefix
    have htext : text = "#/definitions" ++ "/" ++ String.ofList name := by
      rw [← String.toList_inj, ← List.isPrefixOf?_eq_some_iff_append_eq.1 hprefix]
      simp
    have hmodern : "#/components/schemas/" ++ String.ofList name =
        "#/components/schemas" ++ "/" ++ String.ofList name := rfl
    rw [hmodern, htext, referenceName_below, referenceName_below]
  · rfl

/-- A document that has its types under `definitions`. -/
structure LegacyDocument (document schemas paths : Json) : Prop where
  definitions : document.get? "definitions" = some schemas
  components : document.pointer? "/components/schemas" = none
  paths : document.get? "paths" = some paths

/-- A document that has its types under `components/schemas`. -/
structure ModernDocument (document schemas paths : Json) : Prop where
  definitions : document.get? "definitions" = none
  components : document.pointer? "/components/schemas" = some schemas
  paths : document.get? "paths" = some paths

theorem isSome_members?_of_get? {document value : Json} {key : String}
    (h : document.get? key = some value) : document.members?.isSome := by
  cases document with
  | obj members => rfl
  | _ => cases h

theorem addTypes_redirect {change : String → String} (schemas : Json) :
    addTypes .empty (redirect change schemas) =
      (addTypes .empty schemas).mapValue (redirectTypes change) := by
  have hinsert : ∀ (types : Dict Json) name schema,
      (redirectTypes change types).insertNew name (redirectAt change schema name) =
        redirectTypes change (types.insertNew name schema) := by
    intro types name schema
    have hcontains : (redirectTypes change types).contains name = types.contains name :=
      Dict.contains_mapValues _ _ _
    rw [Dict.insertNew, Dict.insertNew, hcontains]
    split
    · rfl
    · exact (Dict.mapValues_insert (fun name schema => redirectAt change schema name) ..).symm
  have hfold : ∀ (members : List (String × Json)) (types : Dict Json),
      (members.map fun member => (member.1, redirectAt change member.2 member.1)).foldl
          (fun types member => types.insertNew member.1 member.2) (redirectTypes change types) =
        redirectTypes change
          (members.foldl (fun types member => types.insertNew member.1 member.2) types) := by
    intro members
    induction members with
    | nil => exact fun types => rfl
    | cons member rest ih =>
      intro types
      rw [List.map_cons, List.foldl_cons, List.foldl_cons, ← ih]
      simp only [hinsert]
  cases schemas with
  | obj members =>
    rw [redirect, redirectAt_obj, addTypes, addTypes]
    exact congrArg Traced.clean (hfold members .empty)
  | _ => rfl

theorem readRedirected_of_dialects {change : String → String} {legacy modern schemas paths : Json}
    (hlegacy : LegacyDocument legacy schemas paths)
    (hmodern : ModernDocument modern (redirect change schemas) (redirect change paths))
    (hassumed : ∀ name,
      (assumedParameter name).mapSchema (redirect change) = assumedParameter name)
    (hentries : ∀ entry ∈ documentEntries legacy, entry.getText? "$ref" = none) :
    ReadRedirected change legacy modern := by
  have htypes : readTypes modern = (readTypes legacy).mapValue (redirectTypes change) := by
    have hold : readTypes legacy = addTypes .empty schemas := by
      rw [readTypes, hlegacy.components, hlegacy.definitions]
      rfl
    have hnew : readTypes modern = addTypes .empty (redirect change schemas) := by
      rw [readTypes, hmodern.components, hmodern.definitions]
      show Traced.mk _ (_ ++ []) = _
      rw [List.append_nil]
      rfl
    rw [hnew, hold, addTypes_redirect]
  have halike : PathsAlike (ReadAlike (redirect change) legacy modern) legacy modern := by
    refine (pathsAlike_redirect hlegacy.paths hmodern.paths).imp_mem ?_
    rintro entry hentry _ - ⟨key, rfl⟩
    exact readAlike_redirectAt (hentries entry hentry) legacy modern key
  have hroutes := readRoutes_alike hassumed halike
  have hobject := isSome_members?_of_get? hlegacy.paths
  have hobject' := isSome_members?_of_get? hmodern.paths
  refine ⟨?_, ?_, ?_⟩
  · rw [normalize_eq hobject', normalize_eq hobject, htypes]
    rfl
  · rw [normalize_eq hobject', normalize_eq hobject, hroutes]
    rfl
  · rw [normalize_eq hobject', normalize_eq hobject, htypes, hroutes]
    rfl

/-- A legacy document and its modern form plan alike: both plans fail with the same problem or have
the same types, domains, groups, endpoints and warnings. -/
theorem dialects_plan_alike {legacy modern schemas paths : Json}
    (hlegacy : LegacyDocument legacy schemas paths)
    (hmodern : ModernDocument modern (redirect modernReference schemas)
      (redirect modernReference paths))
    (hentries : ∀ entry ∈ documentEntries legacy, entry.getText? "$ref" = none)
    (config : Config) :
    (∀ problem, plan legacy config = .error problem ↔ plan modern config = .error problem) ∧
      ∀ planned, plan legacy config = .ok planned →
        ∃ planned', plan modern config = .ok planned' ∧ PlannedAlike planned planned' := by
  have hread := readRedirected_of_dialects hlegacy hmodern (fun _ => rfl) hentries
  unfold plan
  cases readDomainPatterns config.domainPatterns with
  | error problem => exact ⟨fun _ => Iff.rfl, nofun⟩
  | ok rules =>
    refine ⟨fun _ => ⟨nofun, nofun⟩, fun planned hplanned => ⟨_, rfl, ?_⟩⟩
    obtain rfl : planWith rules legacy config = planned := Except.ok.inj hplanned
    exact planWith_redirected referenceName_modernReference hread rules config

/-- Leads with a state, pages of leads, and a state with a literal that looks like a reference; the
types are referenced by texts that start with a prefix. -/
def leadTypes (front : String) : Json :=
  .obj [
    ("Lead", .obj [("properties", .obj [
      ("state", .obj [("$ref", .str (front ++ "State"))]),
      ("owner", .obj [("$ref", .str (front ++ "Owner"))])])]),
    ("LeadPage", .obj [("properties", .obj [
      ("results", .obj [("items", .obj [("$ref", .str (front ++ "Lead"))])])])]),
    ("State", .obj [("type", .str "string"), ("enum", .arr [.str "open", .str "#/definitions/x"])])]

def leadPaths (front : String) : Json :=
  .obj [("/api/leads", .obj [("get", .obj [
    ("tags", .arr [.str "Leads"]),
    ("parameters", .arr [.obj [("name", .str "state"), ("in", .str "query"),
      ("schema", .obj [("$ref", .str (front ++ "State"))])]]),
    ("responses", .obj [("200", .obj [("content", .obj [("application/json", .obj [
      ("schema", .obj [("$ref", .str (front ++ "LeadPage"))])])])])])])])]

def legacyLeads : Json :=
  .obj [("swagger", .str "2.0"), ("definitions", leadTypes "#/definitions/"),
    ("paths", leadPaths "#/definitions/")]

def modernLeads : Json :=
  .obj [("openapi", .str "3.0.0"), ("paths", leadPaths "#/components/schemas/"),
    ("components", .obj [("schemas", leadTypes "#/components/schemas/")])]

theorem leads_plan_alike :
    ∃ planned planned', plan legacyLeads { domainPatterns := [] } = .ok planned ∧
      plan modernLeads { domainPatterns := [] } = .ok planned' ∧ PlannedAlike planned planned' ∧
      planned'.domains.types.entries =
        [("Lead", "leads"), ("LeadPage", "leads"), ("State", "leads")] ∧
      planned'.warnings = [.unresolvable "Lead.owner" "Owner"] := by
  have htypes : redirect modernReference (leadTypes "#/definitions/") =
      leadTypes "#/components/schemas/" := by rfl
  have hpaths : redirect modernReference (leadPaths "#/definitions/") =
      leadPaths "#/components/schemas/" := by rfl
  have hlegacy : LegacyDocument legacyLeads (leadTypes "#/definitions/")
      (leadPaths "#/definitions/") := ⟨rfl, rfl, rfl⟩
  have hmodern : ModernDocument modernLeads (redirect modernReference (leadTypes "#/definitions/"))
      (redirect modernReference (leadPaths "#/definitions/")) := by
    rw [htypes, hpaths]
    exact ⟨rfl, rfl, rfl⟩
  have hentries : ∀ entry ∈ documentEntries legacyLeads, entry.getText? "$ref" = none := by
    have hboth : (documentEntries legacyLeads).map (·.getText? "$ref") = [none, none] := rfl
    intro entry hentry
    have hmem : entry.getText? "$ref" ∈ [none, none] := hboth ▸ List.mem_map_of_mem hentry
    simpa using hmem
  obtain ⟨planned', hplanned', halike⟩ := (dialects_plan_alike hlegacy hmodern hentries
    { domainPatterns := [] }).2 (planWith [] legacyLeads { domainPatterns := [] }) rfl
  obtain rfl : planWith [] modernLeads { domainPatterns := [] } = planned' :=
    Except.ok.inj hplanned'
  exact ⟨_, _, rfl, rfl, halike, by decide +kernel, by decide +kernel⟩

end ClientGen
