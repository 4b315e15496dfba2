import ClientGen.Proofs.Dict
import ClientGen.Proofs.Json.PointerText

/-!
# Redirected references

The references in a value are redirected by changing the text of every `$ref` at any depth. A list
under `enum` holds literals and no schemas, so it stays as it is.
-/

namespace ClientGen.Json

mutual

def redirectAt (change : String → String) : Json → String → Json
  | .str text, key => if key = "$ref" then .str (change text) else .str text
  | .arr items, key => if key = "enum" then .arr items else .arr (redirectItems change items)
  | .obj members, _ => .obj (redirectMembers change members)
  | value, _ => value

def redirectItems (change : String → String) : List Json → List Json
  | [] => []
  | item :: rest => redirectAt change item "" :: redirectItems change rest

def redirectMembers (change : String → String) : List (String × Json) → List (String × Json)
  | [] => []
  | (key, value) :: rest => (key, redirectAt change value key) :: redirectMembers change rest

end

/-- A value with its references redirected. -/
def redirect (change : String → String) (value : Json) : Json := redirectAt change value ""

variable {change : String → String}

theorem redirectAt_str (text key : String) : redirectAt change (.str text) key =
    if key = "$ref" then .str (change text) else .str text := rfl

theorem redirectAt_arr (items : List Json) (key : String) : redirectAt change (.arr items) key =
    if key = "enum" then .arr items else .arr (items.map (redirect change)) := by
  have hitems : redirectItems change items = items.map (redirect change) := by
    induction items with
    | nil => rfl
    | cons item rest ih => exact congrArg (redirect change item :: ·) ih
  rw [← hitems]
  rfl

theorem redirectAt_obj (members : List (String × Json)) (key : String) :
    redirectAt change (.obj members) key =
      .obj (members.map fun member => (member.1, redirectAt change member.2 member.1)) := by
  have hmembers : redirectMembers change members =
      members.map fun member => (member.1, redirectAt change member.2 member.1) := by
    induction members with
    | nil => rfl
    | cons member rest ih =>
      exact congrArg ((member.1, redirectAt change member.2 member.1) :: ·) ih
  rw [← hmembers]
  rfl

theorem redirectAt_of_ne {key : String} (href : key ≠ "$ref") (henum : key ≠ "enum")
    (value : Json) : redirectAt change value key = redirect change value := by
  have hempty : "" ≠ "$ref" ∧ "" ≠ "enum" := by decide
  cases value with
  | str text => rw [redirect, redirectAt_str, redirectAt_str, if_neg href, if_neg hempty.1]
  | arr items => rw [redirect, redirectAt_arr, redirectAt_arr, if_neg henum, if_neg hempty.2]
  | _ => rfl

section
variable (value : Json) (key : String)

theorem members?_redirectAt : (redirectAt change value key).members? =
    value.members?.map fun members =>
      members.map fun member => (member.1, redirectAt change member.2 member.1) := by
  cases value with
  | obj members => rw [redirectAt_obj]; rfl
  | str text => rw [redirectAt_str]; split <;> rfl
  | arr items => rw [redirectAt_arr]; split <;> rfl
  | _ => rfl

theorem items?_redirectAt {key : String} (h : key ≠ "enum") :
    (redirectAt change value key).items? = value.items?.map (List.map (redirect change)) := by
  cases value with
  | arr items => rw [redirectAt_arr, if_neg h]; rfl
  | str text => rw [redirectAt_str]; split <;> rfl
  | _ => rfl

theorem text?_redirectAt {key : String} (h : key ≠ "$ref") :
    (redirectAt change value key).text? = value.text? := by
  cases value with
  | str text => rw [redirectAt_str, if_neg h]
  | arr items => rw [redirectAt_arr]; split <;> rfl
  | _ => rfl

theorem text?_redirectAt_ref :
    (redirectAt change value "$ref").text? = value.text?.map change := by
  cases value with
  | str text => rw [redirectAt_str, if_pos rfl]; rfl
  | _ => rfl

theorem bind_redirectAt {α : Type} {read : Json → Option α} (hstr : ∀ s, read (.str s) = none)
    (harr : ∀ items, read (.arr items) = none) (hobj : ∀ members, read (.obj members) = none) :
    read (redirectAt change value key) = read value := by
  cases value with
  | str text => rw [redirectAt_str]; split <;> simp only [hstr]
  | arr items => rw [redirectAt_arr]; split <;> simp only [harr]
  | obj members => rw [redirectAt_obj, hobj, hobj]
  | _ => rfl

theorem lookup_redirected (members : List (String × Json)) :
    (members.map fun member => (member.1, redirectAt change member.2 member.1)).lookup key =
      (members.lookup key).map fun value => redirectAt change value key :=
  Dict.lookup_map (fun key value => redirectAt change value key) members key

theorem get?_eq_bind (member : String) :
    value.get? member = value.members?.bind fun members => members.lookup member := by
  cases value <;> rfl

theorem get?_redirectAt (member : String) : (redirectAt change value key).get? member =
    (value.get? member).map fun inner => redirectAt change inner member := by
  rw [get?_eq_bind, members?_redirectAt, get?_eq_bind]
  cases value.members? with
  | none => rfl
  | some members => exact lookup_redirected member members

theorem isSome_get?_redirectAt (member : String) :
    ((redirectAt change value key).get? member).isSome = (value.get? member).isSome := by
  rw [get?_redirectAt, Option.isSome_map]

theorem getText?_redirectAt {member : String} (h : member ≠ "$ref") :
    (redirectAt change value key).getText? member = value.getText? member := by
  rw [getText?, get?_redirectAt, getText?]
  cases value.get? member with
  | none => rfl
  | some inner => exact text?_redirectAt inner h

theorem getText?_redirectAt_ref : (redirectAt change value key).getText? "$ref" =
    (value.getText? "$ref").map change := by
  rw [getText?, get?_redirectAt, getText?]
  cases value.get? "$ref" with
  | none => rfl
  | some inner => exact text?_redirectAt_ref inner

theorem getItems?_redirectAt {member : String} (h : member ≠ "enum") :
    (redirectAt change value key).getItems? member =
      (value.getItems? member).map (List.map (redirect change)) := by
  rw [getItems?, get?_redirectAt, getItems?]
  cases value.get? member with
  | none => rfl
  | some inner => exact items?_redirectAt inner h

theorem getItems?_redirectAt_enum :
    (redirectAt change value key).getItems? "enum" = value.getItems? "enum" := by
  rw [getItems?, get?_redirectAt, getItems?]
  cases value.get? "enum" with
  | none => rfl
  | some inner =>
    cases inner with
    | arr items => rw [Option.map_some, redirectAt_arr, if_pos rfl]
    | _ => rfl

theorem bind_get?_redirectAt {α : Type} {read : Json → Option α}
    (hstr : ∀ s, read (.str s) = none) (harr : ∀ items, read (.arr items) = none)
    (hobj : ∀ members, read (.obj members) = none) (member : String) :
    ((redirectAt change value key).get? member).bind read = (value.get? member).bind read := by
  rw [get?_redirectAt]
  cases value.get? member with
  | none => rfl
  | some inner => exact bind_redirectAt inner member hstr harr hobj

theorem flag_redirectAt (member : String) :
    (redirectAt change value key).flag member = value.flag member := by
  rw [flag, bind_get?_redirectAt value key (fun _ => rfl) (fun _ => rfl) (fun _ => rfl), flag]

theorem texts_redirect (items : List Json) :
    (items.map (redirect change)).filterMap text? = items.filterMap text? := by
  rw [List.filterMap_map]
  exact List.filterMap_congr fun item _ => text?_redirectAt item (by decide)

end

def Redirected (change : String → String) (value value' : Json) : Prop :=
  value' = value ∨ ∃ key, value' = redirectAt change value key

theorem Redirected.at (value : Json) (key : String) :
    Redirected change value (redirectAt change value key) := .inr ⟨key, rfl⟩

theorem Redirected.step? {value value' : Json} (h : Redirected change value value')
    (step : List Char) : Option.Rel (Redirected change) (value.step? step) (value'.step? step) := by
  have hsame : ∀ found : Option Json, Option.Rel (Redirected change) found found := by
    intro found
    cases found with
    | none => exact .none
    | some inner => exact .some (.inl rfl)
  obtain rfl | ⟨key, rfl⟩ := h
  · exact hsame _
  · cases value with
    | obj members =>
      rw [redirectAt_obj, Json.step?, Json.step?, lookup_redirected]
      cases members.lookup (String.ofList step) with
      | none => exact .none
      | some inner => exact .some (.at inner _)
    | arr items =>
      rw [redirectAt_arr]
      split
      · exact hsame _
      · rw [Json.step?, Json.step?]
        cases position? step with
        | none => exact .none
        | some position =>
          rw [Option.bind_some, Option.bind_some, List.getElem?_map]
          cases items[position]? with
          | none => exact .none
          | some inner => exact .some (.at inner "")
    | str text =>
      rw [redirectAt_str]
      split <;> exact .none
    | _ => exact .none

theorem Redirected.pointer? {value value' : Json} (h : Redirected change value value')
    (steps : List String) : Option.Rel (Redirected change) (value.pointer? (pointerText steps))
      (value'.pointer? (pointerText steps)) := by
  rw [pointer?_pointerText, pointer?_pointerText]
  induction steps generalizing value value' with
  | nil => exact .some h
  | cons step rest ih =>
    rw [List.foldlM_cons, List.foldlM_cons]
    have hstep := h.step? step.toList
    generalize value.step? step.toList = found at hstep ⊢
    generalize value'.step? step.toList = found' at hstep ⊢
    cases hstep with
    | none => exact .none
    | some hinner => exact ih hinner

end ClientGen.Json
