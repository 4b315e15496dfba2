import ClientGen.Proofs.Api.Entries
import ClientGen.Proofs.Api.TypeReference
import ClientGen.Proofs.Json.Place

/-!
# Local references of entries

An entry of a document may be a reference to a part of the document. Putting the part in the place
of the reference changes nothing for the routes and the warnings, as long as the part is no
reference itself: a reference is followed once, and what it leads to is read as it stands.
-/

namespace ClientGen.Api

inductive OperationPlace where
  | parameter (position : Nat)
  | body
  | response (status : String)
deriving DecidableEq

def OperationPlace.steps : OperationPlace → List Json.Step
  | .parameter position => [.member "parameters", .item position]
  | .body => [.member "requestBody"]
  | .response status => [.member "responses", .member status]

/-- Where a document has an entry: among the shared parameters of a path or in an operation. -/
inductive EntryPlace where
  | shared (path : String) (position : Nat)
  | own (path : String) (method : Method) (place : OperationPlace)
deriving DecidableEq

namespace EntryPlace

def itemSteps : EntryPlace → List Json.Step
  | .shared _ position => [.member "parameters", .item position]
  | .own _ method place => .member method.name :: place.steps

def path : EntryPlace → String
  | .shared path _ => path
  | .own path _ _ => path

def steps (place : EntryPlace) : List Json.Step :=
  .member "paths" :: .member place.path :: place.itemSteps

end EntryPlace

def Replaced (entry target e e' : Json) : Prop := e' = e ∨ e = entry ∧ e' = target

theorem Replaced.refl (entry target e : Json) : Replaced entry target e e := .inl rfl

section
variable {R : Json → Json → Prop} (hrefl : ∀ e, R e e)
include hrefl

theorem forall₂_set {xs : List Json} {position : Nat} {a b : Json} (h : xs[position]? = some a)
    (hab : R a b) : List.Forall₂ R xs (xs.set position b) := by
  induction xs generalizing position with
  | nil => exact .nil
  | cons x rest ih =>
    cases position with
    | zero =>
      rw [List.getElem?_cons_zero, Option.some_inj] at h
      exact .cons (h ▸ hab) (List.forall₂_same.2 fun e _ => hrefl e)
    | succ position => exact .cons (hrefl x) (ih h)

theorem membersAlike_refl (members : List (String × Json)) : MembersAlike R members members :=
  List.forall₂_same.2 fun member _ => ⟨rfl, hrefl member.2⟩

theorem membersAlike_replaceOrAppend {members : List (String × Json)} {key : String}
    {inner new : Json} (h : members.lookup key = some inner) (hnew : R inner new) :
    MembersAlike R members (replaceOrAppend Prod.fst (key, new) members) := by
  induction members with
  | nil => cases h
  | cons member rest ih =>
    obtain ⟨k, v⟩ := member
    rw [Dict.lookup_cons_eq] at h
    rw [replaceOrAppend]
    by_cases hk : k = key
    · rw [if_pos hk.symm, Option.some_inj] at h
      rw [if_pos hk]
      exact .cons ⟨hk.symm, h ▸ hnew⟩ (membersAlike_refl hrefl rest)
    · rw [if_neg fun hkey => hk hkey.symm] at h
      rw [if_neg hk]
      exact .cons ⟨rfl, hrefl v⟩ (ih h)

theorem membersAlike_put {j inner : Json} {key : String} {rest : List Json.Step} {new : Json}
    (h : j.get? key = some inner) (hnew : R inner (inner.put rest new)) :
    MembersAlike R (membersOf (some j)) (membersOf (some (j.put (.member key :: rest) new))) := by
  cases j with
  | obj members =>
    have hmembers := Json.members?_put h rest new
    simp only [membersOf, Option.bind_some, hmembers]
    exact membersAlike_replaceOrAppend hrefl h hnew
  | _ => cases h

theorem listed_put {j list entry target : Json} {key : String} {position : Nat}
    (h : j.get? key = some list) (hentry : list.child? (.item position) = some entry)
    (hnew : R entry target) :
    List.Forall₂ R (listed (j.get? key))
      (listed ((j.put [.member key, .item position] target).get? key)) := by
  rw [Json.get?_put h, h]
  cases list with
  | arr items =>
    rw [listed, listed, Option.bind_some, Option.bind_some, Json.items?_put hentry]
    exact forall₂_set hrefl hentry hnew
  | _ => cases hentry

theorem rel_refl (raw : Option Json) : Option.Rel R raw raw := by
  cases raw with
  | none => exact .none
  | some e => exact .some (hrefl e)

theorem OperationsAlike.refl (operation : Json) : OperationsAlike R operation operation where
  object := rfl
  parameters := List.forall₂_same.2 fun e _ => hrefl e
  body := rel_refl hrefl _
  declared := rfl
  responses := membersAlike_refl hrefl _
  operationId := rfl
  summary := rfl
  tags := rfl

theorem ItemsAlike.refl (item : Json) : ItemsAlike R item item where
  object := rfl
  parameters := List.forall₂_same.2 fun e _ => hrefl e
  operations _ := rel_refl (OperationsAlike.refl hrefl) _

theorem OperationsAlike.of_member {first second : Json} {key : String}
    (hkey : key ∈ ["parameters", "requestBody", "responses"])
    (hobject : second.members?.isSome = first.members?.isSome)
    (hothers : ∀ other, other ≠ key → second.get? other = first.get? other)
    (hparameters : key = "parameters" →
      List.Forall₂ R (listed (first.get? key)) (listed (second.get? key)))
    (hbody : key = "requestBody" → Option.Rel R (first.get? key) (second.get? key))
    (hresponses : key = "responses" → (second.get? key).isSome = (first.get? key).isSome ∧
      MembersAlike R (membersOf (first.get? key)) (membersOf (second.get? key))) :
    OperationsAlike R first second := by
  have hframe : ∀ other, other ∉ ["parameters", "requestBody", "responses"] →
      second.get? other = first.get? other := by
    intro other hother
    refine hothers other fun hsame => hother ?_
    rw [hsame]
    exact hkey
  refine { object := hobject, parameters := ?_, body := ?_, declared := ?_, responses := ?_,
           operationId := ?_, summary := ?_, tags := ?_ }
  · by_cases h : key = "parameters"
    · exact h ▸ hparameters h
    · rw [hothers _ fun hsame => h hsame.symm]
      exact List.forall₂_same.2 fun e _ => hrefl e
  · by_cases h : key = "requestBody"
    · exact h ▸ hbody h
    · rw [hothers _ fun hsame => h hsame.symm]
      exact rel_refl hrefl _
  · by_cases h : key = "responses"
    · exact h ▸ (hresponses h).1
    · rw [hothers _ fun hsame => h hsame.symm]
  · by_cases h : key = "responses"
    · exact h ▸ (hresponses h).2
    · rw [hothers _ fun hsame => h hsame.symm]
      exact membersAlike_refl hrefl _
  · rw [Json.getText?, hframe _ (by decide)]
    rfl
  · rw [Json.getText?, hframe _ (by decide)]
    rfl
  · rw [Json.getItems?, hframe _ (by decide)]
    rfl

end

section
variable {R : Json → Json → Prop} (hrefl : ∀ e, R e e) {entry target : Json} (hR : R entry target)
include hrefl hR

theorem operationsAlike_put {operation : Json} {place : OperationPlace}
    (h : operation.at? place.steps = some entry) :
    OperationsAlike R operation (operation.put place.steps target) := by
  cases place with
  | parameter position =>
    obtain ⟨list, hlist, h⟩ := Json.at?_cons.1 h
    obtain ⟨e, he, h⟩ := Json.at?_cons.1 h
    obtain rfl : e = entry := Option.some.inj h
    exact .of_member hrefl (by decide) (Json.isSome_members?_put ..)
      (fun other hne => Json.get?_put_ne hne ..) (fun _ => listed_put hrefl hlist he hR)
      (nomatch ·) (nomatch ·)
  | body =>
    obtain ⟨e, he, h⟩ := Json.at?_cons.1 h
    obtain rfl : e = entry := Option.some.inj h
    have hput : (operation.put OperationPlace.body.steps target).get? "requestBody" =
        some target := Json.get?_put he [] target
    refine .of_member hrefl (by decide) (Json.isSome_members?_put ..)
      (fun other hne => Json.get?_put_ne hne ..) (nomatch ·) (fun _ => ?_) (nomatch ·)
    rw [hput, show operation.get? "requestBody" = some e from he]
    exact .some hR
  | response status =>
    obtain ⟨responses, hresponses, h⟩ := Json.at?_cons.1 h
    obtain ⟨e, he, h⟩ := Json.at?_cons.1 h
    obtain rfl : e = entry := Option.some.inj h
    have hput : (operation.put (OperationPlace.response status).steps target).get? "responses" =
        some (responses.put [.member status] target) := Json.get?_put hresponses _ target
    refine .of_member hrefl (by decide) (Json.isSome_members?_put ..)
      (fun other hne => Json.get?_put_ne hne ..) (nomatch ·) (nomatch ·) (fun _ => ?_)
    rw [hput, show operation.get? "responses" = some responses from hresponses]
    exact ⟨rfl, membersAlike_put hrefl he hR⟩

theorem itemsAlike_put {item : Json} {place : EntryPlace}
    (h : item.at? place.itemSteps = some entry) :
    ItemsAlike R item (item.put place.itemSteps target) := by
  cases place with
  | shared path position =>
    obtain ⟨list, hlist, h⟩ := Json.at?_cons.1 h
    obtain ⟨e, he, h⟩ := Json.at?_cons.1 h
    obtain rfl : e = entry := Option.some.inj h
    have hmethod : ∀ method : Method, method.name ≠ "parameters" := by
      intro method
      cases method <;> decide
    refine ⟨Json.isSome_members?_put .., listed_put hrefl hlist he hR, fun method => ?_⟩
    rw [EntryPlace.itemSteps, Json.get?_put_ne (hmethod method)]
    exact rel_refl (OperationsAlike.refl hrefl) _
  | own path method place =>
    obtain ⟨operation, hoperation, hentry⟩ := Json.at?_cons.1 h
    have hmethod : "parameters" ≠ method.name := by
      cases method <;> decide
    refine ⟨Json.isSome_members?_put .., ?_, fun other => ?_⟩
    · rw [EntryPlace.itemSteps, Json.get?_put_ne hmethod]
      exact List.forall₂_same.2 fun e _ => hrefl e
    · by_cases hother : other = method
      · subst hother
        have hput := Json.get?_put hoperation place.steps target
        rw [EntryPlace.itemSteps, hput, show item.get? other.name = some operation from hoperation]
        exact .some (operationsAlike_put hrefl hR hentry)
      · have hname : other.name ≠ method.name := by
          cases other <;> cases method <;> first | exact absurd rfl hother | decide
        rw [EntryPlace.itemSteps, Json.get?_put_ne hname]
        exact rel_refl (OperationsAlike.refl hrefl) _

theorem pathsAlike_put {document : Json} {place : EntryPlace}
    (h : document.at? place.steps = some entry) :
    PathsAlike R document (document.put place.steps target) := by
  obtain ⟨paths, hpaths, h⟩ := Json.at?_cons.1 h
  obtain ⟨item, hitem, h⟩ := Json.at?_cons.1 h
  have hget : document.get? "paths" = some paths := hpaths
  rw [PathsAlike, EntryPlace.steps, Json.get?_put hget, hget]
  refine membersAlike_put (ItemsAlike.refl hrefl) hitem ?_
  exact itemsAlike_put hrefl hR h

end

theorem readAlike_of_resolve {document other entry entry' : Json}
    (h : resolve? other entry' = resolve? document entry)
    (hname : resolve? document entry = none → danglingName entry' = danglingName entry) :
    ReadAlike (fun schema => schema) document other entry entry' where
  parameter location := by
    have hid : Option.map (Parameter.mapSchema fun schema => schema) = id := by
      funext found
      cases found <;> rfl
    rw [hid]
    show readParameter other location entry' = readParameter document location entry
    unfold readParameter
    rw [h]
    split
    · rename_i hnone
      rw [hname hnone]
    · rfl
  body location := by
    have hid : Option.map (RequestBody.mapSchemas fun schema => schema) = id := by
      funext found
      cases found with
      | none => rfl
      | some body => rw [Option.map_some, body.mapSchemas_id, id]
    rw [hid]
    show readBody other location (some entry') = readBody document location (some entry)
    unfold readBody
    simp only [h]
    split
    · rename_i hnone
      rw [hname hnone]
    · rfl
  response := by rw [readResponse?, h, Option.map_id', readResponse?]

def LeadsElsewhere (entry : Json) : Prop :=
  ∀ reference, entry.getText? "$ref" = some reference →
    ∃ first steps, first ≠ "paths" ∧ reference = "#" ++ Json.pointerText (first :: steps)

theorem resolve?_put_of_leadsElsewhere {entry : Json} (h : LeadsElsewhere entry)
    (document new : Json) (rest : List Json.Step) :
    resolve? (document.put (.member "paths" :: rest) new) entry = resolve? document entry := by
  cases htext : entry.getText? "$ref" with
  | none => rw [resolve?_plain htext, resolve?_plain htext]
  | some reference =>
    obtain ⟨first, steps, hfirst, rfl⟩ := h reference htext
    rw [resolve?_local htext, resolve?_local htext]
    exact Json.pointer?_put_ne hfirst steps rest new document

theorem readTypes_put (document new : Json) (rest : List Json.Step) :
    readTypes (document.put (.member "paths" :: rest) new) = readTypes document := by
  have hcomponents : Json.pointerText ["components", "schemas"] = "/components/schemas" := by decide
  have hne : "components" ≠ "paths" := by decide
  have hschemas := Json.pointer?_put_ne hne ["schemas"] rest new document
  rw [hcomponents] at hschemas
  rw [readTypes, hschemas, Json.get?_put_ne (by decide), readTypes]

/-- Putting what an entry refers to in its place changes nothing, unless that is a reference
itself, or the references of other entries lead somewhere else then. -/
theorem local_reference_transparent {document entry target : Json} {place : EntryPlace}
    {pointer : String} (hplace : document.at? place.steps = some entry)
    (hentry : entry.getText? "$ref" = some ("#" ++ pointer))
    (hpointer : document.pointer? pointer = some target)
    (htarget : target.getText? "$ref" = none)
    (hothers : ∀ other ∈ documentEntries (document.put place.steps target),
      resolve? (document.put place.steps target) other = resolve? document other) :
    normalize (document.put place.steps target) = normalize document := by
  have halike : PathsAlike (Replaced entry target) document (document.put place.steps target) :=
    pathsAlike_put (Replaced.refl entry target) (.inr ⟨rfl, rfl⟩) hplace
  have hread := halike.imp_mem
      (S := ReadAlike (fun schema => schema) document (document.put place.steps target)) <| by
    rintro e - e' he' (rfl | ⟨rfl, rfl⟩)
    · exact readAlike_of_resolve (hothers _ he') fun _ => rfl
    · have hleads : resolve? document e = some e' := (resolve?_local hentry).trans hpointer
      refine readAlike_of_resolve ((resolve?_plain htarget _).trans hleads.symm) fun hnone => ?_
      rw [hleads] at hnone
      cases hnone
  have hroutes : readRoutes (document.put place.steps target) = readRoutes document := by
    have hmapped := readRoutes_alike (fun _ => rfl) hread
    have hid : List.map (Route.mapSchemas fun schema => schema) = id := by
      funext routes
      rw [List.map_congr_left fun route _ => route.mapSchemas_id, List.map_id', id]
    rw [hmapped, hid]
    rfl
  have htypes : readTypes (document.put place.steps target) = readTypes document :=
    readTypes_put document target _
  have hobject : document.members?.isSome := by
    obtain ⟨paths, hpaths, -⟩ := Json.at?_cons.1 hplace
    cases document with
    | obj members => rfl
    | _ => cases hpaths
  have hobject' : (document.put place.steps target).members?.isSome :=
    (Json.isSome_members?_put ..).trans hobject
  rw [normalize_eq hobject', normalize_eq hobject, hroutes, EntryPlace.steps, readTypes_put]

def reference (text : String) : Json := .obj [("$ref", .str text)]

def limitParameter : Json := .obj [("name", .str "limit"), ("in", .str "query")]

/-- A document in which a parameter is shared under two names, the second by a reference to the
first. -/
def ordersDocument (parameter : Json) : Json :=
  .obj [
    ("paths", .obj [("/orders", .obj [("get", .obj [
      ("parameters", .arr [parameter]),
      ("responses", .obj [("200", reference "#/components/responses/Orders")])])])]),
    ("components", .obj [
      ("parameters", .obj [("Limit", limitParameter),
        ("PageSize", reference "#/components/parameters/Limit")]),
      ("responses", .obj [("Orders", .obj [("description", .str "orders")])])])]

def orderPlace : EntryPlace := .own "/orders" .get (.parameter 0)

theorem reference_leadsElsewhere {first : String} (hfirst : first ≠ "paths")
    (steps : List String) :
    LeadsElsewhere (reference ("#" ++ Json.pointerText (first :: steps))) := by
  intro found hfound
  exact ⟨first, steps, hfirst, (Option.some.inj hfound).symm⟩

theorem limit_reference_transparent :
    (ordersDocument (reference "#/components/parameters/Limit")).put orderPlace.steps
        limitParameter = ordersDocument limitParameter ∧
    normalize (ordersDocument limitParameter) =
      normalize (ordersDocument (reference "#/components/parameters/Limit")) := by
  let document := ordersDocument (reference "#/components/parameters/Limit")
  have hput : document.put orderPlace.steps limitParameter = ordersDocument limitParameter := rfl
  have hplace : document.at? orderPlace.steps =
      some (reference ("#" ++ "/components/parameters/Limit")) := rfl
  have hpointer : document.pointer? "/components/parameters/Limit" = some limitParameter := rfl
  have hentries : documentEntries (ordersDocument limitParameter) =
      [limitParameter, reference "#/components/responses/Orders"] := rfl
  have hresponse : LeadsElsewhere (reference "#/components/responses/Orders") := by
    have htext : "#" ++ Json.pointerText ["components", "responses", "Orders"] =
        "#/components/responses/Orders" := by decide
    rw [← htext]
    exact reference_leadsElsewhere (by decide) _
  refine ⟨hput, ?_⟩
  rw [← hput]
  refine local_reference_transparent hplace rfl hpointer rfl fun other hother => ?_
  rw [hput, hentries] at hother
  refine resolve?_put_of_leadsElsewhere ?_ _ _ _
  rcases List.mem_cons.1 hother with rfl | hother
  · exact nofun
  · exact List.mem_singleton.1 hother ▸ hresponse

theorem pageSize_reference_not_transparent :
    (ordersDocument (reference "#/components/parameters/PageSize")).pointer?
        "/components/parameters/PageSize" = some (reference "#/components/parameters/Limit") ∧
    (ordersDocument (reference "#/components/parameters/PageSize")).put orderPlace.steps
        (reference "#/components/parameters/Limit") =
      ordersDocument (reference "#/components/parameters/Limit") ∧
    (normalize (ordersDocument (reference "#/components/parameters/PageSize"))).trace =
      [.malformed "GET /orders" .namelessParameter] ∧
    (normalize (ordersDocument (reference "#/components/parameters/Limit"))).trace = [] :=
  ⟨rfl, rfl, rfl, rfl⟩

end ClientGen.Api
