import ClientGen.Proofs.Module.Imports
import ClientGen.Proofs.Ordered
import Mathlib.Data.Prod.Lex
import Mathlib.Data.String.Basic

/-!
# Import lines as a partition

The imports of a module are a sorted set: what the resolved references stand for, whatever their
order. The lines sort them a second time, by path and then by name. A list of lines in this form is
determined by the imports on it, so that equal sets of imports are written in the same way.
-/

namespace ClientGen

theorem Import.lt_iff_toLex_lt {a b : Import} :
    a < b ↔ toLex (a.name, a.path) < toLex (b.name, b.path) := by
  rw [Prod.Lex.toLex_lt_toLex]
  exact Iff.rfl

instance : IsTrans Import (· < ·) := ⟨fun a b c hab hbc => by
  rw [Import.lt_iff_toLex_lt] at hab hbc ⊢
  exact hab.trans hbc⟩

instance : Std.Irrefl (α := Import) (· < ·) := ⟨fun a h => by
  rw [Import.lt_iff_toLex_lt] at h
  exact lt_irrefl _ h⟩

instance : Std.Trichotomous (α := Import) (· < ·) := ⟨fun a b hab hba => by
  rw [Import.lt_iff_toLex_lt, not_lt] at hab hba
  have hsame : toLex (a.name, a.path) = toLex (b.name, b.path) := le_antisymm hba hab
  obtain ⟨hname, hpath⟩ := Prod.mk.inj (toLex_inj.1 hsame)
  cases a
  cases b
  cases hname
  cases hpath
  rfl⟩

/-- The import of a resolved reference: its identifier and the module of its type. -/
structure Linking.Gives (links : Linking) (origin : Origin) (binding : Binding)
    (reference : Reference) (imported : Import) : Prop where
  resolved : reference.2 ≠ .unresolved
  name : binding.ident? reference = some imported.name
  path : imported.path = modelModule origin (links.domains.typeDomain reference.1) reference.1
    links.aliasRoot?

theorem ident?_eq_none_iff {binding : Binding} {reference : Reference} :
    binding.ident? reference = none ↔ reference.2 = .unresolved := by
  obtain ⟨name, target⟩ := reference
  cases binding <;> cases target <;> simp [Binding.ident?, typeIdent?]

section
variable {links : Linking} {origin : Origin} {binding : Binding}

theorem import?_eq_some_iff_gives {reference : Reference} {imported : Import} :
    links.import? origin binding reference = some imported ↔
      links.Gives origin binding reference imported := by
  rw [import?_eq_some]
  constructor
  · rintro ⟨hname, hpath⟩
    have hresolved : reference.2 ≠ .unresolved := by
      intro hunresolved
      rw [ident?_eq_none_iff.2 hunresolved] at hname
      cases hname
    exact ⟨hresolved, hname, hpath⟩
  · intro h
    exact ⟨h.name, h.path⟩

theorem existsUnique_gives {reference : Reference} (h : reference.2 ≠ .unresolved) :
    ∃! imported, links.Gives origin binding reference imported := by
  obtain ⟨name, hname⟩ := Option.ne_none_iff_exists'.1 (mt ident?_eq_none_iff.1 h)
  obtain ⟨imported, himport⟩ : ∃ imported, links.import? origin binding reference = some imported :=
    ⟨_, Option.map_eq_some_iff.2 ⟨name, hname, rfl⟩⟩
  refine ⟨imported, import?_eq_some_iff_gives.1 himport, fun other hother => ?_⟩
  have hsame := import?_eq_some_iff_gives.2 hother
  exact Option.some.inj (hsame.symm.trans himport)

theorem mem_resolve_iff_gives {references : List Reference} {imported : Import} :
    imported ∈ links.resolve origin binding references ↔
      ∃ reference ∈ references, links.Gives origin binding reference imported := by
  simp only [mem_resolve, import?_eq_some_iff_gives]

theorem resolve_congr {references references' : List Reference}
    (h : ∀ reference, reference ∈ references ↔ reference ∈ references') :
    links.resolve origin binding references = links.resolve origin binding references' := by
  refine orderedSet_congr fun imported => ?_
  simp only [List.mem_filterMap, h]

end

/-- Lines with increasing paths, each with increasing names, on which some imports stand. -/
structure Partitions (lines : List ImportLine) (imports : List Import) : Prop where
  paths : lines.Pairwise fun first second => first.path < second.path
  nonempty : ∀ line ∈ lines, line.names ≠ []
  names : ∀ line ∈ lines, line.names.Pairwise (· < ·)
  members : ∀ name path, ⟨name, path⟩ ∈ imports ↔
    ∃ line ∈ lines, line.path = path ∧ name ∈ line.names

theorem partitions_importLines (imports : List Import) :
    Partitions (importLines imports) imports where
  paths := by
    rw [importLines, List.pairwise_map]
    exact orderedSet_increasing _
  nonempty line hline := by
    obtain ⟨imported, himported, hpath⟩ := path_of_mem_importLines hline
    have hname : imported.name ∈ line.names := by
      rw [mem_names_of_mem_importLines hline, ← hpath]
      exact himported
    exact List.ne_nil_of_mem hname
  names line hline := by
    obtain ⟨path, -, rfl⟩ := List.mem_map.1 hline
    exact orderedSet_increasing _
  members name path := by
    constructor
    · intro himported
      obtain ⟨line, hline, hpath, hname⟩ := exists_line_of_mem himported
      exact ⟨line, hline, hpath, hname⟩
    · rintro ⟨line, hline, rfl, hname⟩
      exact (mem_names_of_mem_importLines hline).1 hname

namespace Partitions

variable {lines lines' : List ImportLine} {imports imports' : List Import}

theorem eq_of_path_eq (h : Partitions lines imports) {first second : ImportLine}
    (hfirst : first ∈ lines) (hsecond : second ∈ lines) (hpath : first.path = second.path) :
    first = second := by
  have hnodup : (lines.map (·.path)).Nodup := by
    rw [List.Nodup, List.pairwise_map]
    exact h.paths.imp fun hlt => ne_of_lt hlt
  exact List.inj_on_of_nodup_map hnodup hfirst hsecond hpath

theorem mem_names_iff (h : Partitions lines imports) {line : ImportLine} (hline : line ∈ lines)
    (name : String) : name ∈ line.names ↔ ⟨name, line.path⟩ ∈ imports := by
  rw [h.members]
  constructor
  · intro hname
    exact ⟨line, hline, rfl, hname⟩
  · rintro ⟨other, hother, hpath, hname⟩
    rwa [← h.eq_of_path_eq hother hline hpath]

theorem subset (h : Partitions lines imports) (h' : Partitions lines' imports')
    (hsame : ∀ imported, imported ∈ imports ↔ imported ∈ imports') : lines ⊆ lines' := by
  intro line hline
  obtain ⟨name, hname⟩ := List.exists_mem_of_ne_nil _ (h.nonempty line hline)
  have himported := (hsame _).1 ((h.mem_names_iff hline name).1 hname)
  obtain ⟨other, hother, hpath, -⟩ := (h'.members _ _).1 himported
  have hnames : line.names = other.names := by
    refine (h.names line hline).eq_of_mem_iff (h'.names other hother) fun name => ?_
    rw [h.mem_names_iff hline, h'.mem_names_iff hother, hpath, hsame]
  have heq : line = other := by
    cases line
    cases other
    cases hpath
    cases hnames
    rfl
  rwa [heq]

/-- The lines are determined by the imports that stand on them. -/
theorem unique (h : Partitions lines imports) (h' : Partitions lines' imports')
    (hsame : ∀ imported, imported ∈ imports ↔ imported ∈ imports') : lines = lines' := by
  have hirrefl : Std.Irrefl fun first second : ImportLine => first.path < second.path :=
    ⟨fun line => lt_irrefl line.path⟩
  have hantisymm : Std.Antisymm fun first second : ImportLine => first.path < second.path :=
    ⟨fun _ _ hlt hgt => absurd hgt (lt_asymm hlt)⟩
  have hback := h'.subset h fun imported => (hsame imported).symm
  exact h.paths.eq_of_mem_iff h'.paths fun line => ⟨fun hline => h.subset h' hsame hline,
    fun hline => hback hline⟩

end Partitions

/-- The imports of some references are the imports that the resolved ones give, each once and in
increasing order, whatever the order of the references. Their lines partition them, and imports with
the same elements have the same lines. -/
theorem import_lines_canonical (links : Linking) (origin : Origin) (binding : Binding) :
    (∀ reference : Reference, reference.2 ≠ .unresolved →
      ∃! imported, links.Gives origin binding reference imported) ∧
    (∀ references, (links.resolve origin binding references).Pairwise (· < ·) ∧
      ∀ imported, imported ∈ links.resolve origin binding references ↔
        ∃ reference ∈ references, links.Gives origin binding reference imported) ∧
    (∀ references references', (∀ reference, reference ∈ references ↔ reference ∈ references') →
      links.resolve origin binding references = links.resolve origin binding references') ∧
    (∀ imports, Partitions (importLines imports) imports) ∧
    ∀ imports imports', (∀ imported, imported ∈ imports ↔ imported ∈ imports') →
      importLines imports = importLines imports' := by
  refine ⟨fun _ => existsUnique_gives, fun references => ⟨orderedSet_increasing _, fun imported =>
    mem_resolve_iff_gives⟩, fun _ _ => resolve_congr, partitions_importLines, ?_⟩
  intro imports imports' hsame
  exact (partitions_importLines imports).unique (partitions_importLines imports') hsame

/-- Two models in domains of their own. -/
def salesLinks : Linking where
  domains := ⟨Dict.ofList [("Lead", "leads"), ("Branch", "branches")], .empty, .empty⟩
  aliasRoot? := none

/-- References of a service with one that is repeated and one that leads nowhere. -/
def salesReferences : List Reference :=
  [("Lead", .model), ("Ghost", .unresolved), ("Branch", .model), ("Lead", .model)]

theorem salesReferences_lines_canonical :
    (∃! imported, salesLinks.Gives (.artifact 2) .type ("Branch", .model) imported) ∧
    salesLinks.resolve (.artifact 2) .type salesReferences =
      [⟨"IBranchSerializer", "../../models/branches/Branch"⟩,
        ⟨"ILeadSerializer", "../../models/leads/Lead"⟩] ∧
    salesLinks.resolve (.artifact 2) .type salesReferences =
      salesLinks.resolve (.artifact 2) .type salesReferences.reverse ∧
    importLines (salesLinks.resolve (.artifact 2) .type salesReferences) =
      importLines (salesLinks.resolve (.artifact 2) .type salesReferences).reverse := by
  obtain ⟨hgives, -, hresolve, -, hlines⟩ := import_lines_canonical salesLinks (.artifact 2) .type
  refine ⟨hgives ("Branch", .model) (by decide), by decide +kernel, ?_, ?_⟩
  · exact hresolve _ _ fun _ => List.mem_reverse.symm
  · exact hlines _ _ fun _ => List.mem_reverse.symm

end ClientGen
