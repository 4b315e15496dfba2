import ClientGen.Api.Document
import ClientGen.Proofs.Domain.Passes
import ClientGen.Proofs.Domain.Provenance

/-!
# How far adoption reaches

A type that nothing has placed takes the domain of a type that refers to it. A round treats the
types in declaration order, each on top of those before it, and the rounds end early once one of
them places nothing. Neither matters for what is reached: after a number of rounds at least the
types within that many references of a placed one are placed, and no round places a type that no
chain of references reaches.
-/

namespace ClientGen
open Api

/-- The type has a domain other than that of whatever belongs nowhere. -/
def Placed (assigned : Dict String) (name : String) : Prop :=
  ∃ domain, assigned.get? name = some domain ∧ domain ≠ uncategorized

/-- What adoption may do: a type that is nowhere is placed, and every other entry stays. -/
def Adopts (before after : Dict String) : Prop :=
  ∀ name, after.get? name = before.get? name ∨
    before.get? name = some uncategorized ∧ Placed after name

namespace Adopts

variable {first second third : Dict String} {name domain : String}

theorem refl (assigned : Dict String) : Adopts assigned assigned := fun _ => .inl rfl

theorem trans (h : Adopts first second) (h' : Adopts second third) : Adopts first third := by
  intro name
  rcases h' name with hsame | ⟨hnowhere, hplaced⟩
  · rcases h name with hfirst | ⟨hfirst, domain, hget, hne⟩
    · exact .inl (hsame.trans hfirst)
    · exact .inr ⟨hfirst, domain, hsame.trans hget, hne⟩
  · rcases h name with hfirst | ⟨hfirst, _⟩
    · exact .inr ⟨hfirst ▸ hnowhere, hplaced⟩
    · exact .inr ⟨hfirst, hplaced⟩

theorem get?_of_ne (h : Adopts first second) (hget : first.get? name = some domain)
    (hne : domain ≠ uncategorized) : second.get? name = some domain := by
  rcases h name with hsame | ⟨hnowhere, _⟩
  · rw [hsame, hget]
  · rw [hget, Option.some_inj] at hnowhere
    exact absurd hnowhere hne

theorem placed (h : Adopts first second) (hplaced : Placed first name) : Placed second name := by
  obtain ⟨domain, hget, hne⟩ := hplaced
  exact ⟨domain, h.get?_of_ne hget hne, hne⟩

theorem exists_get? (h : Adopts first second) (hget : ∃ domain, first.get? name = some domain) :
    ∃ domain, second.get? name = some domain := by
  rcases h name with hsame | ⟨_, domain, hplaced, _⟩
  · rw [hsame]
    exact hget
  · exact ⟨domain, hplaced⟩

end Adopts

section
variable (table : List (String × List String)) (assigned : Dict String)

theorem adopts_adopt (name : String) : Adopts assigned (adopt table assigned name) := by
  obtain hsame | ⟨hnowhere, domain, hfound, hnew⟩ := adopt_cases table assigned name
  · rw [hsame]
    exact .refl assigned
  · intro other
    rw [hnew, Dict.get?_insert]
    by_cases hother : other = name
    · subst hother
      refine .inr ⟨hnowhere, domain, ?_, (adoptedDomain?_eq_some hfound).1⟩
      rw [Dict.get?_insert, if_pos rfl]
    · rw [if_neg hother]
      exact .inl rfl

theorem adopts_foldl (names : List String) :
    Adopts assigned (names.foldl (adopt table) assigned) :=
  List.foldlRecOn (motive := Adopts assigned) names _ (.refl assigned)
    fun after h name _ => h.trans (adopts_adopt table after name)

theorem adopts_iterate (rounds : Nat) :
    Adopts assigned ((adoptionRound table)^[rounds] assigned) :=
  Function.Iterate.rec (Adopts assigned) (.refl assigned)
    (fun after h => h.trans (adopts_foldl table after _)) rounds

end

theorem Placed.iterate {assigned : Dict String} {name : String} (h : Placed assigned name)
    (table : List (String × List String)) (rounds : Nat) :
    Placed ((adoptionRound table)^[rounds] assigned) name :=
  (adopts_iterate table assigned rounds).placed h

theorem get?_adoptFor_of_placed {table : List (String × List String)} {assigned : Dict String}
    {name domain : String} (h : assigned.get? name = some domain) (hne : domain ≠ uncategorized)
    (rounds : Nat) : (adoptFor table rounds assigned).get? name = some domain := by
  rw [adoptFor_eq_iterate]
  exact (adopts_iterate table assigned rounds).get?_of_ne h hne

section
variable {table : List (String × List String)} {assigned : Dict String}

theorem local_adopt (table : List (String × List String)) :
    Dict.Local (fun name : String => name) (adopt table) := by
  intro assigned name other hne
  obtain hsame | ⟨_, domain, _, hnew⟩ := adopt_cases table assigned name
  · rw [hsame]
  · rw [hnew, Dict.get?_insert, if_neg hne]

theorem exists_adoptedDomain? {name : String} {row : String × List String} (hrow : row ∈ table)
    (hplaced : Placed assigned row.1) (hname : name ∈ row.2) :
    ∃ domain, adoptedDomain? table assigned name = some domain := by
  obtain ⟨domain, hget, hne⟩ := hplaced
  rw [← Option.isSome_iff_exists, adoptedDomain?, List.findSome?_isSome_iff]
  refine ⟨row, hrow, ?_⟩
  simp [hget, hne, hname]

theorem placed_adopt {name : String} (hname : ∃ domain, assigned.get? name = some domain)
    {row : String × List String} (hrow : row ∈ table) (hplaced : Placed assigned row.1)
    (href : name ∈ row.2) : Placed (adopt table assigned name) name := by
  obtain ⟨domain, hget⟩ := hname
  by_cases hnowhere : domain = uncategorized
  · obtain ⟨adopted, hadopted⟩ := exists_adoptedDomain? hrow hplaced href
    have hne := (adoptedDomain?_eq_some hadopted).1
    refine ⟨adopted, ?_, hne⟩
    unfold adopt
    rw [if_pos (by rw [hget, hnowhere]), hadopted]
    dsimp only
    rw [Dict.get?_insert, if_pos rfl]
  · exact (adopts_adopt table assigned name).placed ⟨domain, hget, hnowhere⟩

theorem placed_adoptionRound (hdistinct : (table.map Prod.fst).Nodup) {name : String}
    (hlisted : name ∈ table.map Prod.fst) (hname : ∃ domain, assigned.get? name = some domain)
    {row : String × List String} (hrow : row ∈ table) (hplaced : Placed assigned row.1)
    (href : name ∈ row.2) : Placed (adoptionRound table assigned) name := by
  obtain ⟨before, after, hnames⟩ := List.append_of_mem hlisted
  have hkeys : ((before ++ name :: after).map fun name => name).Nodup := by
    rwa [List.map_id', ← hnames]
  -- when the turn of the type comes, its own entry is untouched and the referrer is still placed
  obtain ⟨hlast, hfirst⟩ :=
    Dict.get?_foldl_of_split (local_adopt table) hkeys assigned
  have hturn : Placed (adopt table (before.foldl (adopt table) assigned) name) name := by
    refine placed_adopt ?_ hrow ((adopts_foldl table assigned before).placed hplaced) href
    rw [hfirst]
    exact hname
  obtain ⟨domain, hget, hne⟩ := hturn
  refine ⟨domain, ?_, hne⟩
  rw [adoptionRound, hnames, hlast, hget]

end

/-- A chain of references between declared types, from the referrer to what it refers to, with the
number of references. -/
inductive ReferenceChain (types : Dict Json) (first : String) : Nat → String → Prop where
  | start : ReferenceChain types first 0 first
  | refer {length : Nat} {referrer name : String} {schema : Json} :
      ReferenceChain types first length referrer → types.get? referrer = some schema →
      name ∈ collectReferences schema → ReferenceChain types first (length + 1) name

section
variable {types : Dict Json} {assigned : Dict String}

/-- After as many rounds as a chain has references, the type at its end is placed. -/
theorem ReferenceChain.placed {first name : String} {length : Nat}
    (chain : ReferenceChain types first length name) (hfirst : Placed assigned first)
    (hpresent : ∀ name ∈ types.keys, ∃ domain, assigned.get? name = some domain)
    (hname : name ∈ types.keys) :
    Placed ((adoptionRound (referenceTable types))^[length] assigned) name := by
  induction chain with
  | start => exact hfirst
  | @refer length referrer name schema _ hschema href ih =>
    have hreferrer : referrer ∈ types.keys :=
      List.mem_map_of_mem (f := Prod.fst) (Dict.mem_of_get? hschema)
    have hkeys := map_fst_referenceTable types
    rw [Function.iterate_succ_apply']
    have hrow : (referrer, collectReferences schema) ∈ referenceTable types :=
      mem_referenceTable.2 ⟨schema, hschema, rfl⟩
    refine placed_adoptionRound ?_ ?_
      ((adopts_iterate _ assigned length).exists_get? (hpresent name hname)) hrow
      (ih hreferrer) href
    · rw [hkeys]
      exact types.distinct
    · rw [hkeys]
      exact hname

def EndsChain (types : Dict Json) (assigned : Dict String) (name domain : String) : Prop :=
  domain ≠ uncategorized →
    ∃ first length, Placed assigned first ∧ ReferenceChain types first length name

theorem goesWithReferences_endsChain :
    GoesWithReferences types (EndsChain types assigned) := by
  intro giver taker domain schema hgiver hne hschema href _ _
  obtain ⟨first, length, hfirst, chain⟩ := hgiver hne
  exact ⟨first, length + 1, hfirst, chain.refer hschema href⟩

/-- Whatever the rounds place is at the end of a chain from a type that was placed before. -/
theorem exists_chain_of_placed (rounds : Nat) {name : String}
    (h : Placed ((adoptionRound (referenceTable types))^[rounds] assigned) name) :
    ∃ first length, Placed assigned first ∧ ReferenceChain types first length name := by
  have hstart : Assigned (EndsChain types assigned) assigned := fun name domain hget hne =>
    ⟨name, 0, ⟨domain, hget, hne⟩, .start⟩
  obtain ⟨domain, hget, hne⟩ := h
  exact hstart.iterate goesWithReferences_endsChain rounds name domain hget hne

end

theorem placed_getD {assigned : Dict String} {name : String} :
    (assigned.get? name).getD uncategorized ≠ uncategorized ↔ Placed assigned name := by
  cases hget : assigned.get? name with
  | none => simp [Placed, hget]
  | some domain => simp [Placed, hget]

/-- Every declared type within five references of one that tags, patterns or wrapping have placed
ends in a domain, and one that no chain of references leads to ends without. -/
theorem adoption_reaches_within_bound (types : Dict Json) (routes : List Route)
    (rules : List DomainRule) (basePath : String) {name : String} (hname : name ∈ types.keys) :
    ((∃ first length, Placed (firstDomains routes rules types) first ∧ length ≤ 5 ∧
        ReferenceChain types first length name) →
      (classify types routes rules basePath).value.typeDomain name ≠ uncategorized) ∧
    ((∀ first length, Placed (firstDomains routes rules types) first →
        ¬ ReferenceChain types first length name) →
      (classify types routes rules basePath).value.typeDomain name = uncategorized) := by
  have hpresent : ∀ name ∈ types.keys,
      ∃ domain, (firstDomains routes rules types).get? name = some domain :=
    fun _ h => exists_firstDomain h
  rw [typeDomain_classify types routes rules basePath hname, adoptFor_eq_iterate]
  constructor
  · rintro ⟨first, length, hfirst, hbound, chain⟩
    have hrounds : adoptionRounds - length + length = adoptionRounds := Nat.sub_add_cancel hbound
    have hplaced := (chain.placed hfirst hpresent hname).iterate (referenceTable types)
      (adoptionRounds - length)
    rw [← Function.iterate_add_apply, hrounds] at hplaced
    exact placed_getD.2 hplaced
  · intro hunreached
    by_contra hne
    obtain ⟨first, length, hfirst, chain⟩ :=
      exists_chain_of_placed adoptionRounds (placed_getD.1 hne)
    exact hunreached first length hfirst chain

/-- Types that refer to each other in a circle, declared the wrong way round, and one apart. Only
the order is named by an operation. -/
def orderLines : Json :=
  .obj [
    ("definitions", .obj [
      ("Sku", .obj [("properties", .obj [])]),
      ("Line", .obj [("properties", .obj [
        ("sku", .obj [("$ref", .str "#/definitions/Sku")]),
        ("order", .obj [("$ref", .str "#/definitions/Order")])])]),
      ("Order", .obj [("properties", .obj [("line", .obj [("$ref", .str "#/definitions/Line")])])]),
      ("Lone", .obj [("properties", .obj [])])]),
    ("paths", .obj [("/api/orders", .obj [("post", .obj [
      ("tags", .arr [.str "Orders"]),
      ("responses", .obj [("201", .obj [
        ("schema", .obj [("$ref", .str "#/definitions/Order")])])])])])])]

def orderLinesRead : Normalized := (normalize orderLines).value

theorem orderLines_placed :
    Placed (firstDomains orderLinesRead.routes [] orderLinesRead.types) "Order" :=
  ⟨"orders", by decide +kernel, by decide⟩

theorem orderLines_chain : ReferenceChain orderLinesRead.types "Order" 2 "Sku" := by
  have hline : ReferenceChain orderLinesRead.types "Order" 1 "Line" :=
    ReferenceChain.start.refer rfl (by decide +kernel)
  exact hline.refer rfl (by decide +kernel)

theorem orderLines_lone {first : String} {length : Nat}
    (hfirst : Placed (firstDomains orderLinesRead.routes [] orderLinesRead.types) first) :
    ¬ ReferenceChain orderLinesRead.types first length "Lone" := by
  have hunplaced : (firstDomains orderLinesRead.routes [] orderLinesRead.types).get? "Lone" =
      some uncategorized := by decide +kernel
  have hunreferenced : ∀ entry ∈ orderLinesRead.types.entries,
      "Lone" ∉ collectReferences entry.2 := by decide +kernel
  rintro (_ | ⟨_, hschema, href⟩)
  · obtain ⟨domain, hget, hne⟩ := hfirst
    rw [hunplaced] at hget
    exact hne (Option.some_inj.1 hget).symm
  · exact hunreferenced _ (Dict.mem_of_get? hschema) href

theorem orderLines_reached :
    "Sku" ∈ orderLinesRead.types.keys ∧ "Lone" ∈ orderLinesRead.types.keys ∧
    Placed (firstDomains orderLinesRead.routes [] orderLinesRead.types) "Order" ∧
    ReferenceChain orderLinesRead.types "Order" 2 "Sku" ∧
    (classify orderLinesRead.types orderLinesRead.routes [] "api").value.typeDomain "Sku" ≠
      uncategorized ∧
    (classify orderLinesRead.types orderLinesRead.routes [] "api").value.typeDomain "Lone" =
      uncategorized :=
  have hsku : "Sku" ∈ orderLinesRead.types.keys := by decide +kernel
  have hlone : "Lone" ∈ orderLinesRead.types.keys := by decide +kernel
  ⟨hsku, hlone, orderLines_placed, orderLines_chain,
    (adoption_reaches_within_bound orderLinesRead.types orderLinesRead.routes [] "api" hsku).1
      ⟨"Order", 2, orderLines_placed, by decide, orderLines_chain⟩,
    (adoption_reaches_within_bound orderLinesRead.types orderLinesRead.routes [] "api" hlone).2
      fun _ _ hfirst => orderLines_lone hfirst⟩

end ClientGen
