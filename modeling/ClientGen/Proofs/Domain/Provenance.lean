import ClientGen.Proofs.Domain.Passes
import Mathlib.Logic.Function.Iterate

/-!
# Where domains come from

Only direct evidence makes a domain: the tag of an operation or the yield of a name pattern. The
later passes hand on what is there, to a wrapper from a type of the name that it wraps, and to a
type without a domain from one that refers to it. What all evidence has, and what is kept where a
domain is handed on, is had by every domain that classification gives a type.
-/

namespace ClientGen
open Api

def AllDomains (P : String → Prop) (domains : Dict String) : Prop :=
  ∀ domain ∈ domains.values, P domain

def Assigned (P : String → String → Prop) (assigned : Dict String) : Prop :=
  ∀ name domain, assigned.get? name = some domain → P name domain

/-- A property of the sentinel and of all domains that evidence gives the declared types. -/
structure Grounds (routes : List Route) (rules : List DomainRule) (types : Dict Json)
    (P : String → Prop) : Prop where
  nowhere : P uncategorized
  tagged : ∀ name ∈ types.keys, ∀ domain, directTag? routes name = some domain → P domain
  named : ∀ name domain, domainByName? rules name = some domain → P domain

def GoesWithReferences (types : Dict Json) (P : String → String → Prop) : Prop :=
  ∀ ⦃giver taker domain : String⦄ ⦃schema : Json⦄, P giver domain → domain ≠ uncategorized →
    types.get? giver = some schema → taker ∈ collectReferences schema → taker ∈ types.keys →
    P taker domain

/-- A property of a type and its domain that holds of all evidence, and that goes over wherever a
domain is handed on. -/
structure Inherited (routes : List Route) (rules : List DomainRule) (types : Dict Json)
    (P : String → String → Prop) : Prop where
  nowhere : ∀ name, P name uncategorized
  tagged : ∀ name ∈ types.keys, ∀ domain, directTag? routes name = some domain → P name domain
  named : ∀ name ∈ types.keys, ∀ domain, domainByName? rules name = some domain → P name domain
  wrapped : ∀ ⦃giver taker domain wrapped : String⦄ ⦃schema : Json⦄, P giver domain →
    domain ≠ uncategorized → types.get? taker = some schema →
    wrappedType? schema = some wrapped →
    giver = wrapped ∨ wrapped.toList <:+ giver.toList → P taker domain
  referred : GoesWithReferences types P

theorem wrappedDomain?_eq_some {assigned : Dict String} {wrapped domain : String}
    (h : wrappedDomain? assigned wrapped = some domain) :
    domain ≠ uncategorized ∧ ∃ other, assigned.get? other = some domain ∧
      (other = wrapped ∨ wrapped.toList <:+ other.toList) := by
  unfold wrappedDomain? at h
  split at h
  · rename_i found hfound
    injection h with h
    subst h
    obtain ⟨hget, hne⟩ := Option.filter_eq_some_iff.1 hfound
    exact ⟨of_decide_eq_true hne, wrapped, hget, .inl rfl⟩
  · obtain ⟨⟨other, found⟩, hentry, hdomain⟩ := List.exists_of_findSome?_eq_some h
    dsimp only at hdomain
    split at hdomain
    · rename_i hcond
      simp only [Bool.and_eq_true, decide_eq_true_eq, List.isSuffixOf_iff_suffix] at hcond
      injection hdomain with hdomain
      subst hdomain
      exact ⟨hcond.1, other, Dict.get?_of_mem hentry, .inr hcond.2⟩
    · cases hdomain

theorem adoptedDomain?_eq_some {table : List (String × List String)} {assigned : Dict String}
    {name domain : String} (h : adoptedDomain? table assigned name = some domain) :
    domain ≠ uncategorized ∧
      ∃ row ∈ table, assigned.get? row.1 = some domain ∧ name ∈ row.2 := by
  obtain ⟨⟨referrer, references⟩, hrow, hentry⟩ := List.exists_of_findSome?_eq_some h
  dsimp only at hentry
  split at hentry
  · rename_i found hget
    split at hentry
    · rename_i hcond
      simp only [Bool.and_eq_true, decide_eq_true_eq, List.contains_iff_mem] at hcond
      injection hentry with hentry
      subst hentry
      exact ⟨hcond.1, _, hrow, hget, hcond.2⟩
    · cases hentry
  · cases hentry

/-- A step of adoption changes nothing, or gives a type without a place the domain it found. -/
theorem adopt_cases (table : List (String × List String)) (assigned : Dict String)
    (name : String) :
    adopt table assigned name = assigned ∨
      assigned.get? name = some uncategorized ∧ ∃ domain,
        adoptedDomain? table assigned name = some domain ∧
        adopt table assigned name = assigned.insert name domain := by
  unfold adopt
  split
  · rename_i hnowhere
    split
    · rename_i domain hfound
      exact .inr ⟨hnowhere, domain, hfound, rfl⟩
    · exact .inl rfl
  · exact .inl rfl

theorem map_fst_referenceTable (types : Dict Json) :
    (referenceTable types).map Prod.fst = types.keys := by
  simp [referenceTable, Dict.keys, Function.comp_def]

theorem mem_referenceTable {types : Dict Json} {row : String × List String} :
    row ∈ referenceTable types ↔
      ∃ schema, types.get? row.1 = some schema ∧ row.2 = collectReferences schema := by
  constructor
  · intro h
    obtain ⟨⟨name, schema⟩, hentry, rfl⟩ := List.mem_map.1 h
    exact ⟨schema, Dict.get?_of_mem hentry, rfl⟩
  · rintro ⟨schema, hget, hrow⟩
    exact List.mem_map.2 ⟨(row.1, schema), Dict.mem_of_get? hget, Prod.ext rfl hrow.symm⟩

/-- Ending early loses nothing: a round that changes nothing would be repeated. -/
theorem adoptFor_eq_iterate (table : List (String × List String)) (rounds : Nat)
    (assigned : Dict String) :
    adoptFor table rounds assigned = (adoptionRound table)^[rounds] assigned := by
  induction rounds generalizing assigned with
  | zero => rfl
  | succ rounds ih =>
    rw [adoptFor, Function.iterate_succ_apply]
    split
    · rename_i hstable
      rw [hstable, Function.iterate_fixed hstable]
    · exact ih _

section
variable {types : Dict Json} {assigned : Dict String} {name domain : String}

namespace Assigned

variable {P : String → String → Prop}

theorem empty : Assigned P .empty := by
  intro name domain hget
  cases hget

theorem insert (h : Assigned P assigned) (hnew : P name domain) :
    Assigned P (assigned.insert name domain) := by
  intro other found hget
  rw [Dict.get?_insert] at hget
  split at hget
  · rename_i hsame
    injection hget with hget
    rw [hsame, ← hget]
    exact hnew
  · exact h other found hget

theorem adopt (h : Assigned P assigned) (hreferred : GoesWithReferences types P)
    (hname : name ∈ types.keys) :
    Assigned P (adopt (referenceTable types) assigned name) := by
  obtain hsame | ⟨_, domain, hfound, hnew⟩ := adopt_cases (referenceTable types) assigned name
  · rw [hsame]
    exact h
  · obtain ⟨hne, row, hrow, hget, href⟩ := adoptedDomain?_eq_some hfound
    obtain ⟨schema, hschema, hreferences⟩ := mem_referenceTable.1 hrow
    rw [hreferences] at href
    rw [hnew]
    exact h.insert (hreferred (h row.1 domain hget) hne hschema href hname)

theorem adoptionRound (h : Assigned P assigned) (hreferred : GoesWithReferences types P) :
    Assigned P (adoptionRound (referenceTable types) assigned) := by
  unfold ClientGen.adoptionRound
  rw [map_fst_referenceTable]
  exact List.foldlRecOn types.keys _ h fun _ h _ hname => h.adopt hreferred hname

theorem iterate (h : Assigned P assigned) (hreferred : GoesWithReferences types P)
    (rounds : Nat) :
    Assigned P ((ClientGen.adoptionRound (referenceTable types))^[rounds] assigned) :=
  Function.Iterate.rec (Assigned P) h (fun _ h => h.adoptionRound hreferred) rounds

theorem adoptFor (h : Assigned P assigned) (hreferred : GoesWithReferences types P)
    (rounds : Nat) : Assigned P (adoptFor (referenceTable types) rounds assigned) := by
  rw [adoptFor_eq_iterate]
  exact h.iterate hreferred rounds

end Assigned

theorem getD_uncategorized {P : String → Prop} {domain? : Option String}
    (hnowhere : P uncategorized) (h : ∀ domain, domain? = some domain → P domain) :
    P (domain?.getD uncategorized) := by
  cases domain? with
  | none => exact hnowhere
  | some domain => exact h domain rfl

namespace Inherited

variable {routes : List Route} {rules : List DomainRule} {P : String → String → Prop}

theorem directDomain (hP : Inherited routes rules types P) (hname : name ∈ types.keys) :
    P name (directDomain routes rules name) := by
  unfold ClientGen.directDomain
  split
  · rename_i htag
    exact hP.tagged name hname _ htag
  · exact getD_uncategorized (hP.nowhere name) (hP.named name hname)

theorem assignDirect (hP : Inherited routes rules types P) :
    Assigned P (assignDirect routes rules types) := by
  unfold ClientGen.assignDirect
  refine List.foldlRecOn types.entries _ Assigned.empty ?_
  intro assigned hassigned ⟨name, schema⟩ hentry
  dsimp only
  split
  · exact hassigned
  · exact hassigned.insert (hP.directDomain (List.mem_map_of_mem hentry))

theorem wrapperStep (hP : Inherited routes rules types P) (hassigned : Assigned P assigned)
    {entry : String × Json} (hentry : entry ∈ types.entries) :
    Assigned P (wrapperStep routes assigned entry) := by
  unfold ClientGen.wrapperStep
  split
  · rename_i wrapped hwraps
    refine hassigned.insert ?_
    split
    · rename_i htag
      exact hP.tagged _ (List.mem_map_of_mem hentry) _ htag
    · refine getD_uncategorized (hP.nowhere _) fun domain hfound => ?_
      obtain ⟨hne, giver, hgiver, hends⟩ := wrappedDomain?_eq_some hfound
      exact hP.wrapped (hassigned giver domain hgiver) hne (Dict.get?_of_mem hentry) hwraps hends
  · exact hassigned

theorem firstDomains (hP : Inherited routes rules types P) :
    Assigned P (firstDomains routes rules types) := by
  rw [ClientGen.firstDomains, assignWrappers_eq]
  exact List.foldlRecOn types.entries _ hP.assignDirect fun _ h _ hentry =>
    hP.wrapperStep h hentry

theorem assignDomains (hP : Inherited routes rules types P) :
    Assigned P (assignDomains routes rules types) := by
  intro name domain hget
  obtain ⟨schema, hschema⟩ : ∃ schema, types.get? name = some schema := by
    refine Dict.exists_get?_of_mem_keys ?_
    rw [← Dict.keys_mapValues _ types]
    exact List.mem_map_of_mem (f := Prod.fst) (Dict.mem_of_get? hget)
  have hlast := hP.firstDomains.adoptFor hP.referred adoptionRounds
  rw [ClientGen.assignDomains, Dict.get?_mapValues hschema] at hget
  injection hget with hget
  rw [← hget]
  exact getD_uncategorized (hP.nowhere name) (hlast name)

end Inherited

end

section
variable {P : String → Prop}

namespace AllDomains

theorem empty : AllDomains P .empty := List.forall_mem_nil _

theorem get? {domains : Dict String} (h : AllDomains P domains) {name domain : String}
    (hget : domains.get? name = some domain) : P domain :=
  h domain (Dict.mem_values_of_get? hget)

theorem insertNew {domains : Dict String} (h : AllDomains P domains) (name : String)
    {domain : String} (hdomain : P domain) : AllDomains P (domains.insertNew name domain) := by
  intro other hother
  rcases Dict.mem_values_insertNew hother with rfl | hother
  · exact hdomain
  · exact h other hother

theorem cleanedAliases (basePath : String) {domains : Dict String}
    (hdomains : AllDomains P domains) : AllDomains P (cleanedAliases basePath domains) := by
  unfold ClientGen.cleanedAliases
  refine List.foldlRecOn domains.entries _ empty ?_
  intro aliases haliases entry hentry
  dsimp only
  split
  · exact haliases
  · exact haliases.insertNew _ (hdomains _ (List.mem_map_of_mem hentry))

end AllDomains

namespace Grounds

variable {routes : List Route} {rules : List DomainRule} {types : Dict Json}

theorem inherited (grounds : Grounds routes rules types P) :
    Inherited routes rules types fun _ => P where
  nowhere _ := grounds.nowhere
  tagged := grounds.tagged
  named name _ := grounds.named name
  wrapped _ _ _ _ _ h _ _ _ _ := h
  referred _ _ _ _ h _ _ _ _ := h

theorem assignDomains (grounds : Grounds routes rules types P) :
    AllDomains P (assignDomains routes rules types) := by
  intro domain hdomain
  obtain ⟨⟨name, _⟩, hentry, rfl⟩ := List.mem_map.1 hdomain
  exact grounds.inherited.assignDomains name _ (Dict.get?_of_mem hentry)

/-- What holds of the evidence holds of every domain that can be looked up. -/
theorem typeDomain (grounds : Grounds routes rules types P) (basePath name : String) :
    P ((classify types routes rules basePath).value.typeDomain name) := by
  have htypes := grounds.assignDomains
  unfold DomainMap.typeDomain
  split
  · rename_i hget
    exact htypes.get? hget
  · exact getD_uncategorized grounds.nowhere fun _ h => (htypes.cleanedAliases basePath).get? h

end Grounds

end

end ClientGen
