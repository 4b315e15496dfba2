import ClientGen.Proofs.Api.Entries
import ClientGen.Proofs.Api.TypeReference
import ClientGen.Proofs.Json.Redirect

/-!
# Entries with redirected references

The references in a document are redirected below its paths and its types. An entry that is no
reference itself reads as before, but for the references in its schemas.
-/

namespace ClientGen.Api
open Json

variable {change : String → String}

def Redirects (change : String → String) (entry entry' : Json) : Prop :=
  ∃ key, entry' = redirectAt change entry key

theorem listed_redirectAt (value : Json) {key member : String} (h : member ≠ "enum") :
    List.Forall₂ (Redirects change) (listed (value.get? member))
      (listed ((redirectAt change value key).get? member)) := by
  show List.Forall₂ _ ((value.getItems? member).getD [])
    (((redirectAt change value key).getItems? member).getD [])
  rw [getItems?_redirectAt value key h]
  cases value.getItems? member with
  | none => exact .nil
  | some items =>
    rw [Option.map_some, Option.getD_some, Option.getD_some, List.forall₂_map_right_iff]
    exact List.forall₂_same.2 fun item _ => ⟨"", rfl⟩

theorem membersAlike_redirectAt {R : Json → Json → Prop}
    (hR : ∀ value key, R value (redirectAt change value key)) (raw : Option Json) (key : String) :
    MembersAlike R (membersOf raw)
      (membersOf (raw.map fun value => redirectAt change value key)) := by
  cases raw with
  | none => exact .nil
  | some value =>
    rw [membersOf, membersOf, Option.map_some, Option.bind_some, Option.bind_some,
      members?_redirectAt]
    cases value.members? with
    | none => exact .nil
    | some members =>
      rw [Option.map_some, Option.getD_some, Option.getD_some, MembersAlike,
        List.forall₂_map_right_iff]
      exact List.forall₂_same.2 fun member _ => ⟨rfl, hR member.2 member.1⟩

theorem rel_redirectAt {R : Json → Json → Prop}
    (hR : ∀ value key, R value (redirectAt change value key)) (raw : Option Json) (key : String) :
    Option.Rel R raw (raw.map fun value => redirectAt change value key) := by
  cases raw with
  | none => exact .none
  | some value => exact .some (hR value key)

theorem isSome_members?_redirectAt (value : Json) (key : String) :
    (redirectAt change value key).members?.isSome = value.members?.isSome := by
  rw [members?_redirectAt, Option.isSome_map]

theorem operationsAlike_redirectAt (operation : Json) (key : String) :
    OperationsAlike (Redirects change) operation (redirectAt change operation key) where
  object := isSome_members?_redirectAt operation key
  parameters := listed_redirectAt operation (by decide)
  body := by
    rw [get?_redirectAt]
    exact rel_redirectAt (fun _ key => ⟨key, rfl⟩) _ _
  declared := isSome_get?_redirectAt operation key _
  responses := by
    rw [get?_redirectAt]
    exact membersAlike_redirectAt (fun _ key => ⟨key, rfl⟩) _ _
  operationId := getText?_redirectAt operation key (by decide)
  summary := getText?_redirectAt operation key (by decide)
  tags := by
    rw [getItems?_redirectAt operation key (by decide)]
    cases operation.getItems? "tags" with
    | none => rfl
    | some items => exact texts_redirect items

theorem itemsAlike_redirectAt (item : Json) (key : String) :
    ItemsAlike (Redirects change) item (redirectAt change item key) where
  object := isSome_members?_redirectAt item key
  parameters := listed_redirectAt item (by decide)
  operations method := by
    rw [get?_redirectAt]
    exact rel_redirectAt operationsAlike_redirectAt _ _

theorem pathsAlike_redirect {document other paths : Json} (h : document.get? "paths" = some paths)
    (hother : other.get? "paths" = some (redirect change paths)) :
    PathsAlike (Redirects change) document other := by
  rw [PathsAlike, h, hother]
  exact membersAlike_redirectAt itemsAlike_redirectAt (some paths) ""

theorem resolve?_redirectAt {entry : Json} (hplain : entry.getText? "$ref" = none) (key : String)
    (document : Json) :
    resolve? document (redirectAt change entry key) = some (redirectAt change entry key) := by
  refine resolve?_plain ?_ document
  rw [getText?_redirectAt_ref, hplain, Option.map_none]

theorem parameterSchema_redirectAt (parameter : Json) (key : String) :
    parameterSchema (redirectAt change parameter key) =
      redirect change (parameterSchema parameter) := by
  rw [parameterSchema, parameterSchema, get?_redirectAt]
  cases parameter.get? "schema" with
  | some schema => exact redirectAt_of_ne (by decide) (by decide) schema
  | none =>
    have hmembers : (redirectAt change parameter key).members?.getD [] =
        (parameter.members?.getD []).map fun member =>
          (member.1, redirectAt change member.2 member.1) := by
      rw [members?_redirectAt]
      cases parameter.members? <;> rfl
    rw [Option.map_none, hmembers, List.filter_map, redirect, redirectAt_obj]
    rfl

theorem map_get?_schema (media : Json) (type : String) :
    (redirectAt change media type).get? "schema" =
      (media.get? "schema").map (redirect change) := by
  rw [get?_redirectAt]
  congr 1
  funext schema
  exact redirectAt_of_ne (by decide) (by decide) schema

theorem contentMembers_redirectAt (body : Json) (key : String) :
    ((redirectAt change body key).get? "content").bind members? =
      ((body.get? "content").bind members?).map fun members =>
        members.map fun member => (member.1, redirectAt change member.2 member.1) := by
  rw [get?_redirectAt]
  cases body.get? "content" with
  | none => rfl
  | some content => exact members?_redirectAt content "content"

theorem responseSchema?_redirectAt (response : Json) (key : String) :
    responseSchema? (redirectAt change response key) =
      (responseSchema? response).map (redirect change) := by
  rw [responseSchema?, responseSchema?, map_get?_schema]
  cases response.get? "schema" with
  | some schema => rfl
  | none =>
    rw [Option.map_none, contentMembers_redirectAt]
    cases (response.get? "content").bind members? with
    | none => rfl
    | some content =>
      -- the schema for JSON is asked for first, then any other
      have hjson : ((content.map fun member =>
          (member.1, redirectAt change member.2 member.1)).lookup jsonContent).bind
            (·.get? "schema") =
          ((content.lookup jsonContent).bind (·.get? "schema")).map (redirect change) := by
        rw [lookup_redirected]
        cases content.lookup jsonContent with
        | none => rfl
        | some media => exact map_get?_schema media jsonContent
      have hfirst : (content.map fun member =>
          (member.1, redirectAt change member.2 member.1)).findSome?
            (fun member => member.2.get? "schema") =
          (content.findSome? fun member => member.2.get? "schema").map (redirect change) := by
        rw [List.findSome?_map, List.map_findSome?]
        congr 1
        funext member
        exact map_get?_schema member.2 member.1
      simp only [Option.map_some, Option.bind_eq_bind, Option.bind_some, hjson]
      cases (content.lookup jsonContent).bind (·.get? "schema") with
      | some schema => rfl
      | none => exact hfirst

theorem readAlike_redirectAt {entry : Json} (hplain : entry.getText? "$ref" = none)
    (document other : Json) (key : String) :
    ReadAlike (redirect change) document other entry (redirectAt change entry key) where
  parameter location := by
    have htext : ∀ member, member ≠ "$ref" →
        (redirectAt change entry key).getText? member = entry.getText? member :=
      fun _ => getText?_redirectAt entry key
    have hrequired : (redirectAt change entry key).flag "required" = entry.flag "required" :=
      flag_redirectAt entry key _
    unfold readParameter
    rw [resolve?_redirectAt hplain, resolve?_plain hplain]
    simp only [htext "name" (by decide), htext "in" (by decide), htext "description" (by decide),
      hrequired, parameterSchema_redirectAt]
    split
    · rfl
    · split <;> rfl
  body location := by
    have hrequired : ((redirectAt change entry key).get? "required").bind bool? =
        (entry.get? "required").bind bool? :=
      bind_get?_redirectAt entry key (fun _ => rfl) (fun _ => rfl) (fun _ => rfl) _
    have hcontent : ∀ members : List (String × Json),
        (members.map fun member => (member.1, redirectAt change member.2 member.1)).map
            (fun media => (media.1, media.2.get? "schema")) =
          (members.map fun media => (media.1, media.2.get? "schema")).map
            fun entry => (entry.1, entry.2.map (redirect change)) := by
      intro members
      rw [List.map_map, List.map_map]
      refine List.map_congr_left fun member _ => ?_
      exact congrArg (Prod.mk member.1) (map_get?_schema member.2 member.1)
    unfold readBody
    simp only [resolve?_redirectAt hplain, resolve?_plain hplain, contentMembers_redirectAt,
      hrequired]
    cases (entry.get? "content").bind members? with
    | none => rfl
    | some members =>
      simp only [Option.map_some, hcontent, Dict.ofList_map]
      rfl
  response := by
    rw [readResponse?, resolve?_redirectAt hplain, readResponse?, resolve?_plain hplain]
    exact responseSchema?_redirectAt entry key

end ClientGen.Api
