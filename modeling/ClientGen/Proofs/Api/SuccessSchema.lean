import ClientGen.Api.Operation
import ClientGen.Proofs.Dict

/-!
# The response of a successful call

Statuses for success have ranks: four statuses come one after the other, all others share the last
rank. The search for the response of a call goes through the ranks and through the responses of one
rank as they are declared. A response without a schema is passed over and never ends the search. So
what is found is the schema of the best rank, and of those the one declared first.
-/

namespace ClientGen

section
variable {α β : Type}

theorem findSome?_congr {f g : α → Option β} {xs : List α} (h : ∀ a ∈ xs, f a = g a) :
    xs.findSome? f = xs.findSome? g := by
  rw [← List.head?_filterMap, ← List.head?_filterMap, List.filterMap_congr h]

theorem findSome?_filterMap {γ : Type} (f : α → Option β) (g : β → Option γ) (xs : List α) :
    (xs.filterMap f).findSome? g = xs.findSome? fun a => (f a).bind g := by
  rw [← List.head?_filterMap, ← List.head?_filterMap, List.filterMap_filterMap]

theorem findSome?_range_eq_some_iff {f : Nat → Option β} {n : Nat} {b : β} :
    (List.range n).findSome? f = some b ↔ ∃ r < n, f r = some b ∧ ∀ q < r, f q = none := by
  induction n with
  | zero => simp
  | succ n ih =>
    rw [List.range_succ, List.findSome?_append, Option.or_eq_some_iff, ih,
      List.findSome?_eq_none_iff, List.findSome?_singleton]
    constructor
    · rintro (⟨r, hr, h⟩ | ⟨hnone, h⟩)
      · exact ⟨r, by omega, h⟩
      · exact ⟨n, by omega, h, fun q hq => hnone q (List.mem_range.2 hq)⟩
    · rintro ⟨r, hr, h, hnone⟩
      rcases Nat.lt_or_eq_of_le (Nat.le_of_lt_succ hr) with hr | rfl
      · exact .inl ⟨r, hr, h, hnone⟩
      · exact .inr ⟨fun q hq => hnone q (List.mem_range.1 hq), h⟩

variable (rank : α → Nat) (value : α → Option β)

def valueAtRank (r : Nat) (a : α) : Option β := if rank a = r then value a else none

def firstByRank (bound : Nat) (xs : List α) : Option β :=
  (List.range bound).findSome? fun r => xs.findSome? (valueAtRank rank value r)

variable {rank value} {bound : Nat} {xs : List α}

theorem valueAtRank_eq_none_iff {r : Nat} {a : α} :
    valueAtRank rank value r a = none ↔ (rank a = r → value a = none) := by
  unfold valueAtRank
  split <;> simp_all

theorem valueAtRank_eq_some_iff {r : Nat} {a : α} {b : β} :
    valueAtRank rank value r a = some b ↔ rank a = r ∧ value a = some b := by
  unfold valueAtRank
  split <;> simp_all

theorem firstByRank_eq_none_iff :
    firstByRank rank value bound xs = none ↔ ∀ a ∈ xs, rank a < bound → value a = none := by
  simp only [firstByRank, List.findSome?_eq_none_iff, List.mem_range, valueAtRank_eq_none_iff]
  exact ⟨fun h a ha hlt => h (rank a) hlt a ha rfl, fun h r hr a ha hrank => h a ha (hrank ▸ hr)⟩

/-- What is found has its place where no value in front is as good and none behind is better. -/
theorem firstByRank_eq_some_iff {b : β} :
    firstByRank rank value bound xs = some b ↔
      ∃ before a after, xs = before ++ a :: after ∧ value a = some b ∧ rank a < bound ∧
        (∀ c ∈ before, value c ≠ none → rank a < rank c) ∧
        ∀ c ∈ after, value c ≠ none → rank a ≤ rank c := by
  rw [firstByRank, findSome?_range_eq_some_iff]
  constructor
  · rintro ⟨r, hr, hfound, hlower⟩
    obtain ⟨before, a, after, rfl, hat, hbefore⟩ := List.findSome?_eq_some_iff.1 hfound
    obtain ⟨rfl, ha⟩ := valueAtRank_eq_some_iff.1 hat
    simp only [List.findSome?_eq_none_iff, valueAtRank_eq_none_iff] at hlower hbefore
    have hle : ∀ c ∈ before ++ a :: after, value c ≠ none → rank a ≤ rank c := by
      intro c hc hvalue
      by_contra hlt
      exact hvalue (hlower (rank c) (by omega) c hc rfl)
    rw [List.forall_mem_append, List.forall_mem_cons] at hle
    refine ⟨before, a, after, rfl, ha, hr, fun c hc hvalue => ?_, hle.2.2⟩
    have hne : rank c ≠ rank a := fun hsame => hvalue (hbefore c hc hsame)
    have hrank := hle.1 c hc hvalue
    omega
  · rintro ⟨before, a, after, rfl, ha, hbound, hbefore, hafter⟩
    have hle : ∀ c ∈ before ++ a :: after, value c ≠ none → rank a ≤ rank c := by
      rw [List.forall_mem_append, List.forall_mem_cons]
      exact ⟨fun c hc hvalue => Nat.le_of_lt (hbefore c hc hvalue), fun _ => Nat.le_refl _, hafter⟩
    refine ⟨rank a, hbound, ?_, fun q hq => List.findSome?_eq_none_iff.2 fun c hc => ?_⟩
    · refine List.findSome?_eq_some_iff.2
        ⟨before, a, after, rfl, valueAtRank_eq_some_iff.2 ⟨rfl, ha⟩, fun c hc => ?_⟩
      rw [valueAtRank_eq_none_iff]
      intro hsame
      by_contra hvalue
      exact Nat.ne_of_gt (hbefore c hc hvalue) hsame
    · rw [valueAtRank_eq_none_iff]
      intro hsame
      by_contra hvalue
      have hrank := hle c hc hvalue
      omega

theorem firstByRank_filter {p : α → Bool} (h : ∀ a ∈ xs, value a ≠ none → p a) :
    firstByRank rank value bound (xs.filter p) = firstByRank rank value bound xs := by
  refine findSome?_congr fun r _ => ?_
  rw [← List.filterMap_eq_filter, findSome?_filterMap]
  refine findSome?_congr fun a ha => ?_
  cases hp : p a with
  | true => simp [Option.guard, hp]
  | false =>
    have hvalue : value a = none := by
      by_contra hvalue
      rw [h a ha hvalue] at hp
      cases hp
    rw [valueAtRank_eq_none_iff.2 fun _ => hvalue]
    simp [Option.guard, hp]

end

namespace Api

def IsSuccess (status : String) : Prop := status = "default" ∨ status.toList.head? = some '2'

instance : DecidablePred IsSuccess := fun _ => inferInstanceAs (Decidable (_ ∨ _))

def successRank (status : String) : Nat :=
  if status = "200" then 0
  else if status = "201" then 1
  else if status = "202" then 2
  else if status = "default" then 3
  else 4

def offeredSchema? (response : String × Option Json) : Option Json :=
  if IsSuccess response.1 then response.2 else none

/-- A response of a status for success that has a schema. -/
def OffersSchema (response : String × Option Json) : Prop :=
  IsSuccess response.1 ∧ response.2.isSome

instance : DecidablePred OffersSchema := fun _ => inferInstanceAs (Decidable (_ ∧ _))

theorem offeredSchema?_ne_none_iff {response : String × Option Json} :
    offeredSchema? response ≠ none ↔ OffersSchema response := by
  unfold offeredSchema? OffersSchema
  split <;> simp_all [Option.isSome_iff_ne_none]

theorem offeredSchema?_eq_some_iff {response : String × Option Json} {schema : Json} :
    offeredSchema? response = some schema ↔ IsSuccess response.1 ∧ response.2 = some schema := by
  unfold offeredSchema?
  split <;> simp_all

theorem successRank_lt (status : String) : successRank status < 5 := by
  unfold successRank
  split_ifs <;> omega

theorem isSuccess_of_mem_preferredStatuses {status : String}
    (h : status ∈ Operation.preferredStatuses) : IsSuccess status := by
  revert status
  decide

theorem map_successRank_preferredStatuses :
    Operation.preferredStatuses.map successRank = List.range 4 := by decide

theorem successRank_eq_iff {status other : String} (h : status ∈ Operation.preferredStatuses) :
    successRank other = successRank status ↔ other = status := by
  refine ⟨fun hrank => ?_, fun heq => by rw [heq]⟩
  have hlt : successRank status ∈ List.range 4 := by
    rw [← map_successRank_preferredStatuses]
    exact List.mem_map_of_mem h
  rw [List.mem_range] at hlt
  unfold successRank at hrank hlt
  split_ifs at hrank hlt <;> simp_all

theorem successRank_eq_four_iff {status : String} :
    successRank status = 4 ↔ status ∉ Operation.preferredStatuses := by
  unfold successRank Operation.preferredStatuses
  split_ifs <;> simp_all

theorem join_lookup {α : Type} {entries : List (String × Option α)}
    (h : (entries.map Prod.fst).Nodup) (key : String) :
    (entries.lookup key).join =
      entries.findSome? fun entry => if entry.1 = key then entry.2 else none := by
  induction entries with
  | nil => rfl
  | cons entry rest ih =>
    obtain ⟨k, value⟩ := entry
    obtain ⟨hnew, hrest⟩ := List.nodup_cons.1 h
    rw [Dict.lookup_cons_eq, List.findSome?_cons]
    by_cases hkey : key = k
    · have hnone : rest.findSome? (fun entry => if entry.1 = key then entry.2 else none) = none :=
        List.findSome?_eq_none_iff.2 fun other hother => if_neg fun hsame =>
          hnew (List.mem_map.2 ⟨other, hother, hsame.trans hkey⟩)
      rw [if_pos hkey, if_pos hkey.symm, hnone]
      cases value <;> rfl
    · rw [if_neg hkey, if_neg fun hsame => hkey hsame.symm, ih hrest]

/-- The schema for success is searched for by rank. -/
theorem successSchema?_eq (op : Operation) : op.successSchema? =
    firstByRank (fun response => successRank response.1) offeredSchema? 5
      op.responses.entries := by
  have hpreferred : (Operation.preferredStatuses.filterMap op.responses.get?).findSome? id =
      (List.range 4).findSome? fun r => op.responses.entries.findSome?
        (valueAtRank (fun response => successRank response.1) offeredSchema? r) := by
    rw [← map_successRank_preferredStatuses, List.findSome?_map, findSome?_filterMap]
    refine findSome?_congr fun status hstatus => ?_
    have hjoin : (op.responses.get? status).bind id = (op.responses.get? status).join := rfl
    rw [hjoin, Dict.get?, join_lookup op.responses.distinct]
    refine findSome?_congr fun response _ => ?_
    simp only [valueAtRank, successRank_eq_iff hstatus]
    split
    · rename_i hsame
      rw [offeredSchema?, hsame, if_pos (isSuccess_of_mem_preferredStatuses hstatus)]
    · rfl
  have hothers : op.responses.entries.findSome?
      (valueAtRank (fun response => successRank response.1) offeredSchema? 4) =
      (op.responses.entries.filterMap fun response =>
        if response.1.toList.head? = some '2' &&
          !Operation.preferredStatuses.contains response.1
        then some response.2 else none).findSome? id := by
    rw [findSome?_filterMap]
    refine findSome?_congr fun response _ => ?_
    obtain ⟨status, schema⟩ := response
    simp only [valueAtRank, successRank_eq_four_iff, offeredSchema?]
    by_cases hmem : status ∈ Operation.preferredStatuses
    · simp [hmem]
    · have hdefault : status ≠ "default" := by
        rintro rfl
        exact hmem (by decide)
      by_cases htwo : status.toList.head? = some '2' <;> simp [hmem, IsSuccess, hdefault, htwo]
  rw [Operation.successSchema?, firstByRank, List.range_succ, List.findSome?_append,
    List.findSome?_append, hpreferred, List.findSome?_singleton, hothers]

/-- Of the responses that offer a schema one is the best: every one declared in front of it ranks
behind it, and none declared behind it ranks in front of it. -/
def IsBestResponse (responses : Dict (Option Json)) (status : String) (schema : Json) : Prop :=
  IsSuccess status ∧ ∃ before after, responses.entries = before ++ (status, some schema) :: after ∧
    (∀ other ∈ before, OffersSchema other → successRank status < successRank other.1) ∧
    ∀ other ∈ after, OffersSchema other → successRank status ≤ successRank other.1

/-- An operation has a schema for success just where a response of a status for success has one. It
is that of the best such response, and all other responses make no difference. -/
theorem success_schema_best (op : Operation) :
    (op.successSchema? = none ↔ ∀ response ∈ op.responses.entries, ¬OffersSchema response) ∧
    (∀ schema, op.successSchema? = some schema ↔
      ∃ status, IsBestResponse op.responses status schema) ∧
    ∀ other : Operation, other.responses.entries.filter (fun r => OffersSchema r) =
      op.responses.entries.filter (fun r => OffersSchema r) →
      other.successSchema? = op.successSchema? := by
  refine ⟨?_, fun schema => ?_, fun other hother => ?_⟩
  · rw [successSchema?_eq, firstByRank_eq_none_iff]
    refine forall₂_congr fun response _ => ?_
    rw [← offeredSchema?_ne_none_iff, not_not]
    exact forall_prop_of_true (successRank_lt response.1)
  · rw [successSchema?_eq, firstByRank_eq_some_iff]
    simp only [offeredSchema?_ne_none_iff, offeredSchema?_eq_some_iff]
    constructor
    · rintro ⟨before, ⟨status, _⟩, after, hentries, ⟨hsuccess, rfl⟩, -, hbefore, hafter⟩
      exact ⟨status, hsuccess, before, after, hentries, hbefore, hafter⟩
    · rintro ⟨status, hsuccess, before, after, hentries, hbefore, hafter⟩
      exact ⟨before, _, after, hentries, ⟨hsuccess, rfl⟩, successRank_lt status, hbefore, hafter⟩
  · have hfilter (op : Operation) : op.successSchema? =
        firstByRank (fun response => successRank response.1) offeredSchema? 5
          (op.responses.entries.filter fun response => OffersSchema response) := by
      rw [successSchema?_eq, firstByRank_filter]
      exact fun response _ h => decide_eq_true (offeredSchema?_ne_none_iff.1 h)
    rw [hfilter, hfilter op, hother]

/-- An operation that answers with an error, with nothing, or with one of several pages. -/
def pagedOperation : Operation where
  operationId := none
  summary := none
  tags := []
  parameters := []
  body := none
  responses := .ofList [("404", some (.str "error")), ("206", some (.str "page")),
    ("default", none), ("201", none), ("203", some (.str "other page"))]

/-- The same operation with another error, which is declared at the end. -/
def turnedPagedOperation : Operation :=
  { pagedOperation with responses := .ofList [("206", some (.str "page")), ("201", none),
    ("203", some (.str "other page")), ("404", some (.str "other error"))] }

theorem pagedOperation_page :
    (∃ response ∈ pagedOperation.responses.entries, OffersSchema response) ∧
    pagedOperation.successSchema? ≠ none ∧
    IsBestResponse pagedOperation.responses "206" (.str "page") ∧
    pagedOperation.successSchema? = some (.str "page") ∧
    turnedPagedOperation.responses.entries.filter (fun r => OffersSchema r) =
      pagedOperation.responses.entries.filter (fun r => OffersSchema r) ∧
    turnedPagedOperation.successSchema? = pagedOperation.successSchema? := by
  obtain ⟨hnone, hsome, hother⟩ := success_schema_best pagedOperation
  have hoffers : ∃ response ∈ pagedOperation.responses.entries, OffersSchema response :=
    ⟨("206", some (.str "page")), List.mem_cons_of_mem _ (List.mem_cons_self ..), by decide⟩
  have hbest : IsBestResponse pagedOperation.responses "206" (.str "page") :=
    ⟨by decide, [("404", some (.str "error"))], _, rfl, by decide, by decide⟩
  have hsame : turnedPagedOperation.responses.entries.filter (fun r => OffersSchema r) =
      pagedOperation.responses.entries.filter (fun r => OffersSchema r) := rfl
  refine ⟨hoffers, fun h => ?_, hbest, (hsome _).2 ⟨_, hbest⟩, hsame, hother _ hsame⟩
  obtain ⟨response, hmem, hresponse⟩ := hoffers
  exact hnone.1 h response hmem hresponse

end Api

end ClientGen
