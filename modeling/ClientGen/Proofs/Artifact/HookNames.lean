import ClientGen.Proofs.Artifact.Exports
import ClientGen.Proofs.Endpoint.NameParts
import ClientGen.Proofs.Plan.Endpoints
import ClientGen.Proofs.Text.Capitals

/-!
# Names of hooks

A hook is named after its call, with a capital at the start of the name. The names of the calls of a
group are distinct, but some of them may meet in their capitals: a name may start with a capital as
it is, and different characters may share one. Names made of ASCII text start with a small letter or
a digit, but for the names of actions without a word, and so do not meet.
-/

namespace ClientGen
open Api Text

namespace NameBasis

/-- What names a call is ASCII text, and an action that names it has a word. -/
structure IsPlain (basis : NameBasis) : Prop where
  summary : ∀ summary ∈ basis.summary, IsAsciiText summary
  path : IsAsciiText basis.path
  action : basis.summaryName = "" → basis.method.isMutation →
    ∀ action ∈ basis.action?, camelCase action ≠ ""

instance (basis : NameBasis) : Decidable basis.IsPlain :=
  decidable_of_iff
    ((∀ summary ∈ basis.summary, IsAsciiText summary) ∧ IsAsciiText basis.path ∧
      (basis.summaryName = "" → basis.method.isMutation →
        ∀ action ∈ basis.action?, camelCase action ≠ ""))
    ⟨fun h => ⟨h.1, h.2.1, h.2.2⟩, fun h => ⟨h.summary, h.path, h.action⟩⟩

variable {basis : NameBasis} (h : basis.IsPlain)
include h

theorem startsSmall_plainName (hne : basis.plainName ≠ "") : StartsSmall basis.plainName :=
  startsSmall_camelCase (isAsciiText_joined h.path) hne

theorem startsSmall_mutationName (hsummary : basis.summaryName = "")
    (hmutation : basis.method.isMutation) (hne : basis.mutationName ≠ "") :
    StartsSmall basis.mutationName := by
  have hinsert : StartsSmall "insert" := ⟨'i', _, rfl, by decide⟩
  have hupdate : StartsSmall "update" := ⟨'u', _, rfl, by decide⟩
  have hdelete : StartsSmall "delete" := ⟨'d', _, rfl, by decide⟩
  unfold mutationName at hne ⊢
  dsimp only at hne ⊢
  cases haction : basis.action? with
  | some action =>
    have hword := h.action hsummary hmutation action haction
    have hascii := isAsciiText_of_mem_literals h.path (mem_literals_of_action? haction)
    exact ((startsSmall_camelCase hascii hword).append _).append _
  | none =>
    rw [haction] at hne
    dsimp only at hne ⊢
    split at hne
    · split at hne
      · rename_i hsingle
        rw [if_pos hsingle]
        exact hinsert.append _
      · rename_i hlonger
        rw [if_neg hlonger]
        exact startsSmall_plainName h hne
    · exact (hupdate.append _).append _
    · exact (hupdate.append _).append _
    · exact (hdelete.append _).append _
    · exact startsSmall_plainName h hne

theorem startsSmall_shapeName (hsummary : basis.summaryName = "") (hne : basis.shapeName ≠ "") :
    StartsSmall basis.shapeName := by
  have hlist : StartsSmall "list" := ⟨'l', _, rfl, by decide⟩
  have hget : StartsSmall "get" := ⟨'g', _, rfl, by decide⟩
  unfold shapeName at hne ⊢
  split at hne
  · rename_i hisList
    rw [if_pos hisList]
    exact hlist.append _
  · rename_i hnoList
    rw [if_neg hnoList]
    split at hne
    · rename_i hsingle
      rw [if_pos hsingle]
      exact hget.append _
    · rename_i hnoSingle
      rw [if_neg hnoSingle]
      split at hne
      · rename_i hmutation
        rw [if_pos hmutation]
        exact startsSmall_mutationName h hsummary hmutation hne
      · rename_i hplain
        rw [if_neg hplain]
        exact startsSmall_plainName h hne

theorem startsSmall_name : StartsSmall basis.name := by
  refine StartsSmall.append ?_ _
  unfold stem
  by_cases hsummary : basis.summaryName = ""
  · rw [if_neg (not_not.2 hsummary)]
    by_cases hshape : basis.shapeName = ""
    · rw [if_neg (not_not.2 hshape)]
      exact ⟨'e', _, rfl, by decide⟩
    · rw [if_pos hshape]
      exact startsSmall_shapeName h hsummary hshape
  · rw [if_pos hsummary]
    unfold summaryName at hsummary ⊢
    cases hsome : basis.summary with
    | none => exact absurd (by rw [hsome]; rfl) hsummary
    | some summary =>
      rw [hsome] at hsummary
      exact startsSmall_camelCase (h.summary summary hsome) hsummary

end NameBasis

namespace PlannedGroup

/-- No two calls of a group have names that become one when they are capitalized. -/
def StartsApart (group : PlannedGroup) : Prop :=
  group.endpoints.Pairwise fun a b => ¬ MeetAtStart a.name b.name

theorem exports_hooksFragment (config : Config) (links : Linking) (group : PlannedGroup) :
    (hooksFragment config links group).exports =
      (group.endpoints.map Endpoint.exportName).map ("use" ++ ·) := by
  rw [List.map_map]
  rfl

theorem hooks_nodup_iff (config : Config) (links : Linking) (group : PlannedGroup) :
    (hooksFragment config links group).exports.Nodup ↔
      (group.endpoints.map Endpoint.exportName).Nodup := by
  rw [exports_hooksFragment]
  exact List.nodup_map_iff fun _ _ h => (String.append_right_inj _).1 h

end PlannedGroup

/-- What names the call of an operation is ASCII text, and an action that names it has a word. -/
def Entry.NamedPlainly (entry : Entry) (basePath : String) : Prop :=
  (entry.nameBasis basePath).IsPlain

instance (entry : Entry) (basePath : String) : Decidable (entry.NamedPlainly basePath) :=
  inferInstanceAs (Decidable (entry.nameBasis basePath).IsPlain)

section
variable {document : Json} {config : Config} {planned : Plan}
  (hplan : plan document config = .ok planned) {group : PlannedGroup}
  (hgroup : group ∈ planned.groups)
include hplan hgroup

theorem exists_entry_of_endpoint {endpoint : Endpoint} (hendpoint : endpoint ∈ group.endpoints) :
    ∃ entry ∈ sourceEntries document,
      groupKey entry.path config.groupingDepth = group.key ∧
        ∃ n, endpoint.name = numberedName (entry.nameBasis config.trimmedBase).name n := by
  rw [plan_groups hplan] at hgroup
  obtain ⟨source, hsource, rfl⟩ := List.mem_map.1 hgroup
  have hname := List.mem_map_of_mem (f := (·.name)) hendpoint
  rw [planned_endpoint_names, source.names_eq] at hname
  obtain ⟨name, hplain, n, -, hnumbered⟩ := mem_numberFrom hname
  obtain ⟨entry, hentry, rfl⟩ := List.mem_map.1 hplain
  refine ⟨entry, ?_, ?_, n, hnumbered⟩
  · exact (perm_sourceGroups document config).mem_iff.1
      (List.mem_flatMap.2 ⟨source, hsource, hentry⟩)
  · rw [planGroup_value]
    exact (key_of_mem_groupRoutes hsource hentry).symm

theorem endpoint_name_ne_empty {endpoint : Endpoint} (hendpoint : endpoint ∈ group.endpoints) :
    endpoint.name ≠ "" := by
  obtain ⟨entry, -, -, n, hname⟩ := exists_entry_of_endpoint hplan hgroup hendpoint
  rw [hname]
  exact numberedName_ne_empty (NameBasis.name_ne_empty _) n

theorem exportNames_nodup_iff :
    (group.endpoints.map Endpoint.exportName).Nodup ↔ group.StartsApart := by
  have hne : ∀ endpoint ∈ group.endpoints, endpoint.name ≠ "" := fun _ =>
    endpoint_name_ne_empty hplan hgroup
  have hnames := List.pairwise_map.1 (endpoint_names_nodup hplan hgroup)
  rw [List.Nodup, List.pairwise_map]
  constructor
  · intro h
    refine (hnames.and h).imp_of_mem fun {a b} ha hb hdistinct hmeet => ?_
    exact hdistinct.2 ((capitalize_eq_iff (hne a ha) (hne b hb) hdistinct.1).2 hmeet)
  · intro h
    refine (hnames.and h).imp_of_mem fun {a b} ha hb hdistinct hsame => ?_
    exact hdistinct.2 ((capitalize_eq_iff (hne a ha) (hne b hb) hdistinct.1).1 hsame)

theorem startsApart_of_namedPlainly
    (h : ∀ entry ∈ sourceEntries document, groupKey entry.path config.groupingDepth = group.key →
      entry.NamedPlainly config.trimmedBase) : group.StartsApart := by
  have hsmall : ∀ endpoint ∈ group.endpoints, StartsSmall endpoint.name := by
    intro endpoint hendpoint
    obtain ⟨entry, hentry, hkey, n, hname⟩ := exists_entry_of_endpoint hplan hgroup hendpoint
    have hplain := NameBasis.startsSmall_name (h entry hentry hkey)
    rw [hname, numberedName]
    split
    · exact hplain
    · exact hplain.append _
  exact List.pairwise_of_forall_mem_list fun a ha b hb =>
    (hsmall a ha).not_meetAtStart (hsmall b hb)

end

/-- The hooks of a group are distinct, as their export names are, exactly if no two of its calls
have names that become one when they are capitalized. Where the operations of the group are named by
ASCII text, and no action without a word names one of them, they are. -/
theorem hooks_distinct_iff {document : Json} {config : Config} {planned : Plan}
    (hplan : plan document config = .ok planned) :
    ∀ group ∈ planned.groups,
      ((group.endpoints.map Endpoint.exportName).Nodup ↔ group.StartsApart) ∧
      ((hooksFragment config (linking planned config) group).exports.Nodup ↔
        group.StartsApart) ∧
      ((∀ entry ∈ sourceEntries document,
          groupKey entry.path config.groupingDepth = group.key →
            entry.NamedPlainly config.trimmedBase) →
        (hooksFragment config (linking planned config) group).exports.Nodup) := by
  intro group hgroup
  have hnames := exportNames_nodup_iff hplan hgroup
  have hhooks := (PlannedGroup.hooks_nodup_iff config (linking planned config) group).trans hnames
  exact ⟨hnames, hhooks, fun h => hhooks.2 (startsApart_of_namedPlainly hplan hgroup h)⟩

/-- Two calls of which one is named by an action without a word, and two whose names start with
characters that share a capital. -/
def meetingCalls : Json :=
  .obj [("paths", .obj [
    ("/api/users/-", .obj [("post", .obj [])]),
    ("/api/users/import", .obj [("post", .obj [("summary", .str "Users")])]),
    ("/api/users/a", .obj [("get", .obj [("summary", .str "ıd")])]),
    ("/api/users/b", .obj [("get", .obj [("summary", .str "id")])])])]

/-- Calls of different names may have one export name, and so a module two hooks of one name. -/
theorem meetingCalls_share_hooks :
    plan meetingCalls { domainPatterns := [] } =
      .ok (planWith [] meetingCalls { domainPatterns := [] }) ∧
    ({ domainPatterns := [] } : Config).problem? = none ∧
    (planWith [] meetingCalls { domainPatterns := [] }).groups.map (fun group =>
      group.endpoints.map fun endpoint => (endpoint.name, endpoint.exportName)) =
        [[("UsersPost", "UsersPost"), ("usersPost", "UsersPost"), ("ıdGet", "IdGet"),
          ("idGet", "IdGet")]] ∧
    ¬ ∀ group ∈ (planWith [] meetingCalls { domainPatterns := [] }).groups,
      (group.endpoints.map Endpoint.exportName).Nodup :=
  ⟨rfl, by decide, by decide +kernel, by decide +kernel⟩

/-- Calls that are named by a summary, an action and a shape, one of them with a number. -/
def invoiceCalls : Json :=
  .obj [("paths", .obj [
    ("/api/invoices", .obj [("get", .obj [("summary", .str "List Invoices")]),
      ("post", .obj [])]),
    ("/api/invoices/\x7bid\x7d/void", .obj [("post", .obj [])]),
    ("/api/invoices/open", .obj [("get", .obj [("summary", .str "list invoices")])])])]

theorem invoiceCalls_hooks_distinct :
    plan invoiceCalls { domainPatterns := [] } =
      .ok (planWith [] invoiceCalls { domainPatterns := [] }) ∧
    (planWith [] invoiceCalls { domainPatterns := [] }).groups.map (fun group =>
      group.endpoints.map Endpoint.exportName) =
        [["ListInvoicesGet", "InsertInvoicesPost", "VoidInvoicesIdPost", "ListInvoicesGet2"]] ∧
    ∀ group ∈ (planWith [] invoiceCalls { domainPatterns := [] }).groups,
      (∀ entry ∈ sourceEntries invoiceCalls,
        entry.NamedPlainly ({ domainPatterns := [] } : Config).trimmedBase) ∧
      (hooksFragment { domainPatterns := [] }
        (linking (planWith [] invoiceCalls { domainPatterns := [] }) { domainPatterns := [] })
        group).exports.Nodup := by
  have hplain : ∀ entry ∈ sourceEntries invoiceCalls,
      entry.NamedPlainly ({ domainPatterns := [] } : Config).trimmedBase := by
    decide +kernel
  have hhooks := hooks_distinct_iff
    (show plan invoiceCalls { domainPatterns := [] } =
      .ok (planWith [] invoiceCalls { domainPatterns := [] }) from rfl)
  refine ⟨rfl, by decide +kernel, fun group hgroup => ⟨hplain, ?_⟩⟩
  exact (hhooks group hgroup).2.2 fun entry hentry _ => hplain entry hentry

end ClientGen
