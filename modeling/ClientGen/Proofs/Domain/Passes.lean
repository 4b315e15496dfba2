import ClientGen.Domain.Classify
import ClientGen.Proofs.Dict

/-!
# What the first two passes give a type

Every step of a pass changes the domain of one type only, and every type is declared once. So the
domain of a type after a pass is what its own step gives it: its direct evidence where it wraps
nothing, and its tag or the domain of what it wraps otherwise.
-/

namespace ClientGen
open Api

/-- The domains after the direct pass and the pass over the wrappers. -/
def firstDomains (routes : List Route) (rules : List DomainRule) (types : Dict Json) :
    Dict String :=
  assignWrappers routes types (assignDirect routes rules types)

section
variable {routes : List Route} {rules : List DomainRule} {types : Dict Json}
  {name : String} {schema : Json}

theorem local_assignDirect (routes : List Route) (rules : List DomainRule) :
    Dict.Local Prod.fst fun (assigned : Dict String) (entry : String × Json) =>
      if (wrappedType? entry.2).isSome then assigned
      else assigned.insert entry.1 (directDomain routes rules entry.1) := by
  intro assigned entry other hne
  dsimp only
  split
  · rfl
  · rw [Dict.get?_insert, if_neg hne]

theorem get?_assignDirect (h : types.get? name = some schema) :
    (assignDirect routes rules types).get? name =
      if (wrappedType? schema).isSome then none else some (directDomain routes rules name) := by
  obtain ⟨before, hbefore, hget⟩ :=
    Dict.exists_get?_foldl_entries (local_assignDirect routes rules) h .empty
  refine hget.trans ?_
  dsimp only
  split
  · exact hbefore
  · rw [Dict.get?_insert, if_pos rfl]

def wrapperStep (routes : List Route) (assigned : Dict String) (entry : String × Json) :
    Dict String :=
  match wrappedType? entry.2 with
  | some wrapped => assignWrapper routes assigned entry.1 wrapped
  | none => assigned

theorem assignWrappers_eq (routes : List Route) (types : Dict Json) (assigned : Dict String) :
    assignWrappers routes types assigned = types.entries.foldl (wrapperStep routes) assigned :=
  rfl

theorem local_assignWrappers (routes : List Route) :
    Dict.Local Prod.fst (wrapperStep routes) := by
  intro assigned entry other hne
  unfold wrapperStep
  split
  · rw [assignWrapper, Dict.get?_insert, if_neg hne]
  · rfl

theorem exists_get?_assignWrappers (routes : List Route) (h : types.get? name = some schema)
    (assigned : Dict String) :
    ∃ before : Dict String, before.get? name = assigned.get? name ∧
      (assignWrappers routes types assigned).get? name =
        (wrapperStep routes before (name, schema)).get? name :=
  Dict.exists_get?_foldl_entries (local_assignWrappers routes) h assigned

theorem get?_firstDomains_of_plain (h : types.get? name = some schema)
    (hplain : wrappedType? schema = none) :
    (firstDomains routes rules types).get? name = some (directDomain routes rules name) := by
  obtain ⟨before, hbefore, hget⟩ :=
    exists_get?_assignWrappers routes h (assignDirect routes rules types)
  rw [wrapperStep, hplain] at hget
  rw [firstDomains, hget, hbefore, get?_assignDirect h, hplain]
  rfl

theorem get?_firstDomains_of_wrapper (rules : List DomainRule) {wrapped : String}
    (h : types.get? name = some schema)
    (hwrapped : wrappedType? schema = some wrapped) :
    ∃ before, (firstDomains routes rules types).get? name =
      some (match directTag? routes name with
        | some domain => domain
        | none => (wrappedDomain? before wrapped).getD uncategorized) := by
  obtain ⟨before, _, hget⟩ :=
    exists_get?_assignWrappers routes h (assignDirect routes rules types)
  rw [wrapperStep, hwrapped] at hget
  dsimp only at hget
  rw [assignWrapper, Dict.get?_insert, if_pos rfl] at hget
  exact ⟨before, hget⟩

theorem exists_firstDomain (h : name ∈ types.keys) :
    ∃ domain, (firstDomains routes rules types).get? name = some domain := by
  obtain ⟨schema, hschema⟩ := Dict.exists_get?_of_mem_keys h
  cases hwrapped : wrappedType? schema with
  | none => exact ⟨_, get?_firstDomains_of_plain hschema hwrapped⟩
  | some wrapped =>
    obtain ⟨before, hget⟩ := get?_firstDomains_of_wrapper rules hschema hwrapped
    exact ⟨_, hget⟩

theorem get?_firstDomains_of_tag {domain : String} (h : name ∈ types.keys)
    (htag : directTag? routes name = some domain) :
    (firstDomains routes rules types).get? name = some domain := by
  obtain ⟨schema, hschema⟩ := Dict.exists_get?_of_mem_keys h
  cases hwrapped : wrappedType? schema with
  | none => rw [get?_firstDomains_of_plain hschema hwrapped, directDomain, htag]
  | some wrapped =>
    obtain ⟨before, hget⟩ := get?_firstDomains_of_wrapper rules hschema hwrapped
    rw [hget, htag]

end

theorem typeDomain_classify (types : Dict Json) (routes : List Route) (rules : List DomainRule)
    (basePath : String) {name : String} (h : name ∈ types.keys) :
    (classify types routes rules basePath).value.typeDomain name =
      ((adoptFor (referenceTable types) adoptionRounds (firstDomains routes rules types)).get?
        name).getD uncategorized := by
  obtain ⟨schema, hschema⟩ := Dict.exists_get?_of_mem_keys h
  have htypes : (classify types routes rules basePath).value.types.get? name =
      some (((adoptFor (referenceTable types) adoptionRounds
        (firstDomains routes rules types)).get? name).getD uncategorized) :=
    Dict.get?_mapValues hschema
  rw [DomainMap.typeDomain, htypes]

end ClientGen
