import ClientGen.Proofs.Module.Imports
import ClientGen.Proofs.Module.Relative
import ClientGen.Proofs.Ordered
import Mathlib.Data.String.Basic

/-!
# Paths below an alias

A path below an alias of the output folder names a module by its place in the output folder, which
is the place that the relative path leads to. Only the models of one domain are named by relative
paths either way. Modules that have one path in one style have one path in the other, so the names
that are imported from one path stay together on one line: the lines of the two styles differ in
their paths, and for that in their order.
-/

namespace ClientGen
open Text

/-- The path below an alias root that stands for a relative path of an importing file: the place
that the relative path leads to. A path within the folder of the file stays. -/
def aliasPath (root importer path : String) : String :=
  if (Files.pieces path).head? = some "." then path
  else match (Files.importedFile? importer path).bind (dropEnding? ".ts") with
    | some module => trimEndSlashes root ++ "/" ++ module
    | none => path

def ImportLine.onPath (style : String → String) (line : ImportLine) : ImportLine :=
  { line with path := style line.path }

theorem dropEnding?_append (ending stem : String) :
    dropEnding? ending (stem ++ ending) = some stem := by
  have hlength : (stem.toList ++ ending.toList).length - ending.length = stem.toList.length := by
    rw [List.length_append, String.length_toList, String.length_toList, Nat.add_sub_cancel]
  rw [dropEnding?, String.toList_append]
  simp only [List.isSuffixOf_iff_suffix, List.suffix_append, if_true, hlength, List.take_left']
  rw [String.ofList_toList]

theorem aliasPath_here (root importer file : String) :
    aliasPath root importer ("." ++ "/" ++ file) = "." ++ "/" ++ file := by
  rw [aliasPath, Files.pieces_below (by decide), List.head?_cons, if_pos rfl]

section
variable {origin : Origin} {importer module module' path path' : String}

/-- A path that leads out of the folder becomes the alias path of its module. -/
theorem aliasPath_up (root : String) (hup : (Files.pieces path).head? = some "..")
    (hleads : Files.importedFile? importer path = some (module ++ ".ts")) :
    aliasPath root importer path = trimEndSlashes root ++ "/" ++ module := by
  have hhead : (Files.pieces path).head? ≠ some "." := by
    rw [hup]
    decide
  rw [aliasPath, if_neg hhead, hleads]
  simp only [Option.bind_some, dropEnding?_append]

theorem head?_pieces_up (path : String) :
    (Files.pieces (".." ++ "/" ++ path)).head? = some ".." := by
  rw [Files.pieces_below (by decide), List.head?_cons]

theorem Origin.Reaches.aliasPath_eq (root : String) (h : origin.Reaches module path)
    (hplace : origin.Holds importer) :
    aliasPath root importer path = trimEndSlashes root ++ "/" ++ module ∨
      (∃ file, '/' ∉ file.toList ∧ path = "." ++ "/" ++ file) ∧
        aliasPath root importer path = path := by
  have hleads := h.importedFile? hplace
  cases h with
  | climbing hplain => exact .inl (aliasPath_up root (Files.head?_pieces_upwards hplace.1 _) hleads)
  | sibling hfile => exact .inr ⟨⟨_, hfile.noSlash, rfl⟩, aliasPath_here root importer _⟩
  | cousin hdomain hfile => exact .inl (aliasPath_up root (head?_pieces_up _) hleads)

theorem here_ne_alias {file : String} (hfile : '/' ∉ file.toList) (root path : String) :
    "." ++ "/" ++ file ≠ root ++ "/" ++ ("models" ++ "/" ++ path) := by
  intro hsame
  have hcount := congrArg (fun text => text.toList.count '/') hsame
  have hslash : "/".toList.count '/' = 1 := by decide
  have hpoint : ".".toList.count '/' = 0 := by decide
  simp only [String.toList_append, List.count_append, hslash, hpoint,
    List.count_eq_zero.2 hfile] at hcount
  omega

theorem Origin.Reaches.eq_of_aliasPath_eq {root : String} (h : origin.Reaches module path)
    (h' : origin.Reaches module' path') (hplace : origin.Holds importer)
    (hsame : aliasPath root importer path = aliasPath root importer path') : path = path' := by
  have hleads := h.importedFile? hplace
  have hleads' := h'.importedFile? hplace
  -- a path that stays and one that does not are told apart by their slashes
  cases h with
  | climbing =>
    cases h' with
    | climbing =>
      rw [aliasPath_up root (Files.head?_pieces_upwards hplace.1 _) hleads,
        aliasPath_up root (Files.head?_pieces_upwards hplace.1 _) hleads', String.append_right_inj]
        at hsame
      rw [hsame]
  | sibling hfile =>
    rw [aliasPath_here] at hsame
    cases h' with
    | sibling => rw [hsame, aliasPath_here]
    | cousin =>
      rw [aliasPath_up root (head?_pieces_up _) hleads'] at hsame
      exact absurd hsame (here_ne_alias hfile.noSlash _ _)
  | cousin =>
    rw [aliasPath_up root (head?_pieces_up _) hleads] at hsame
    cases h' with
    | sibling hfile =>
      rw [aliasPath_here] at hsame
      exact absurd hsame.symm (here_ne_alias hfile.noSlash _ _)
    | cousin =>
      rw [aliasPath_up root (head?_pieces_up _) hleads', String.append_right_inj,
        String.append_right_inj] at hsame
      rw [hsame]

theorem modelModule_alias (root : String) (hplace : origin.Holds importer) {domain : String}
    (htag : IsTag domain) (hne : domain ≠ "") (name : String) :
    modelModule origin domain name (some root) =
      aliasPath root importer (modelModule origin domain name none) := by
  have hleads := (reaches_modelModule origin htag hne name).importedFile? hplace
  cases origin with
  | artifact depth =>
    rw [modelModule_artifact] at hleads ⊢
    rw [aliasPath_up root (Files.head?_pieces_upwards hplace.1 _) hleads]
    simp [modelModule, ← String.toList_inj]
  | model own =>
    by_cases hown : own = domain
    · rw [hown, modelModule_sibling, modelModule_sibling, aliasPath_here]
    · rw [modelModule_cousin hown] at hleads ⊢
      rw [aliasPath_up root (head?_pieces_up _) hleads]
      simp [modelModule, hown, ← String.toList_inj]

end

def lineOf (imports : List Import) (path : String) : ImportLine :=
  { path, names := orderedSet ((imports.filter (·.path = path)).map (·.name)) }

theorem importLines_eq (imports : List Import) :
    importLines imports = (orderedSet (imports.map (·.path))).map (lineOf imports) := rfl

section
variable {style : String → String} {imports restyled : List Import}
  (hmem : ∀ imported, imported ∈ restyled ↔
    ∃ original ∈ imports, imported = ⟨original.name, style original.path⟩)
  (hinj : ∀ a ∈ imports, ∀ b ∈ imports, style a.path = style b.path → a.path = b.path)
include hmem hinj

theorem paths_perm : (orderedSet (restyled.map (·.path))).Perm
    ((orderedSet (imports.map (·.path))).map style) := by
  have hnodup : ((orderedSet (imports.map (·.path))).map style).Nodup := by
    refine (orderedSet_nodup _).map_on fun p hp q hq hsame => ?_
    obtain ⟨a, ha, rfl⟩ := List.mem_map.1 (mem_orderedSet.1 hp)
    obtain ⟨b, hb, rfl⟩ := List.mem_map.1 (mem_orderedSet.1 hq)
    exact hinj a ha b hb hsame
  refine (List.perm_ext_iff_of_nodup (orderedSet_nodup _) hnodup).2 fun path => ?_
  simp only [mem_orderedSet, List.mem_map, hmem]
  constructor
  · rintro ⟨_, ⟨original, horiginal, rfl⟩, rfl⟩
    exact ⟨_, ⟨original, horiginal, rfl⟩, rfl⟩
  · rintro ⟨_, ⟨original, horiginal, rfl⟩, rfl⟩
    exact ⟨_, ⟨original, horiginal, rfl⟩, rfl⟩

theorem lineOf_restyled {first : Import} (hfirst : first ∈ imports) :
    lineOf restyled (style first.path) = (lineOf imports first.path).onPath style := by
  have hnames : orderedSet ((restyled.filter (·.path = style first.path)).map (·.name)) =
      orderedSet ((imports.filter (·.path = first.path)).map (·.name)) := by
    refine orderedSet_congr fun name => ?_
    simp only [List.mem_map, List.mem_filter, hmem, decide_eq_true_eq]
    constructor
    · rintro ⟨_, ⟨⟨original, horiginal, rfl⟩, hsame⟩, rfl⟩
      exact ⟨original, ⟨horiginal, hinj original horiginal first hfirst hsame⟩, rfl⟩
    · rintro ⟨original, ⟨horiginal, hsame⟩, rfl⟩
      exact ⟨_, ⟨⟨original, horiginal, rfl⟩, by rw [hsame]⟩, rfl⟩
  rw [lineOf, hnames, ImportLine.onPath, lineOf]

/-- Imports whose paths are exchanged one for one are on the same lines, on the other paths. -/
theorem importLines_perm :
    (importLines restyled).Perm ((importLines imports).map (ImportLine.onPath style)) := by
  have hlines : ((orderedSet (imports.map (·.path))).map style).map (lineOf restyled) =
      (importLines imports).map (ImportLine.onPath style) := by
    rw [importLines_eq, List.map_map, List.map_map]
    refine List.map_congr_left fun path hpath => ?_
    obtain ⟨first, hfirst, rfl⟩ := List.mem_map.1 (mem_orderedSet.1 hpath)
    exact lineOf_restyled hmem hinj hfirst
  rw [← hlines]
  exact (paths_perm hmem hinj).map (lineOf restyled)

end

/-- The alias style has the imports of the relative style, each from the path in the place of its
own. -/
theorem mem_resolve_alias {root importer : String} {origin : Origin}
    (hplace : origin.Holds importer) {domains : DomainMap} {binding : Binding}
    {references : List Reference}
    (hdomains : ∀ reference ∈ references, IsTag (domains.typeDomain reference.1) ∧
      domains.typeDomain reference.1 ≠ "") {imported : Import} :
    imported ∈ Linking.resolve ⟨domains, some root⟩ origin binding references ↔
      ∃ original ∈ Linking.resolve ⟨domains, none⟩ origin binding references,
        imported = ⟨original.name, aliasPath root importer original.path⟩ := by
  rw [mem_resolve]
  constructor
  · rintro ⟨reference, hreference, himport⟩
    obtain ⟨hident, hpath⟩ := import?_eq_some.1 himport
    obtain ⟨htag, hne⟩ := hdomains reference hreference
    rw [modelModule_alias root hplace htag hne] at hpath
    have hrelative : ⟨imported.name,
        modelModule origin (domains.typeDomain reference.1) reference.1 none⟩ ∈
        Linking.resolve ⟨domains, none⟩ origin binding references :=
      mem_resolve.2 ⟨reference, hreference, import?_eq_some.2 ⟨hident, rfl⟩⟩
    exact ⟨_, hrelative, by rw [← hpath]⟩
  · rintro ⟨original, horiginal, rfl⟩
    obtain ⟨reference, hreference, himport⟩ := mem_resolve.1 horiginal
    obtain ⟨hident, hpath⟩ := import?_eq_some.1 himport
    obtain ⟨htag, hne⟩ := hdomains reference hreference
    refine ⟨reference, hreference, import?_eq_some.2 ⟨hident, ?_⟩⟩
    rw [modelModule_alias root hplace htag hne, hpath]

theorem exists_reaches_of_mem_resolve {origin : Origin} {domains : DomainMap} {binding : Binding}
    {references : List Reference}
    (hdomains : ∀ reference ∈ references, IsTag (domains.typeDomain reference.1) ∧
      domains.typeDomain reference.1 ≠ "") {imported : Import}
    (h : imported ∈ Linking.resolve ⟨domains, none⟩ origin binding references) :
    ∃ module, origin.Reaches module imported.path := by
  obtain ⟨reference, hreference, himport⟩ := mem_resolve.1 h
  obtain ⟨htag, hne⟩ := hdomains reference hreference
  rw [(import?_eq_some.1 himport).2]
  exact ⟨_, reaches_modelModule origin htag hne reference.1⟩

/-- Lines of the alias style that are those of the relative style on other paths. -/
structure Restyled (root importer : String) (origin : Origin) (aliased relative : List ImportLine) :
    Prop where
  perm : aliased.Perm (relative.map (ImportLine.onPath (aliasPath root importer)))
  reached : ∀ line ∈ relative, ∃ module, origin.Reaches module line.path

namespace Restyled

variable {root importer : String} {origin : Origin}

theorem nil : Restyled root importer origin [] [] :=
  ⟨.nil, List.forall_mem_nil _⟩

theorem append {aliased relative aliased' relative' : List ImportLine}
    (h : Restyled root importer origin aliased relative)
    (h' : Restyled root importer origin aliased' relative') :
    Restyled root importer origin (aliased ++ aliased') (relative ++ relative') := by
  refine ⟨?_, fun line hline => ?_⟩
  · rw [List.map_append]
    exact h.perm.append h'.perm
  · exact (List.mem_append.1 hline).elim (h.reached line) (h'.reached line)

theorem resolve (hplace : origin.Holds importer) (domains : DomainMap) (binding : Binding)
    {references : List Reference}
    (hdomains : ∀ reference ∈ references, IsTag (domains.typeDomain reference.1) ∧
      domains.typeDomain reference.1 ≠ "") :
    Restyled root importer origin
      (importLines (Linking.resolve ⟨domains, some root⟩ origin binding references))
      (importLines (Linking.resolve ⟨domains, none⟩ origin binding references)) := by
  refine ⟨importLines_perm (fun _ => mem_resolve_alias hplace hdomains)
    fun a ha b hb hsame => ?_, fun line hline => ?_⟩
  · obtain ⟨_, ha⟩ := exists_reaches_of_mem_resolve hdomains ha
    obtain ⟨_, hb⟩ := exists_reaches_of_mem_resolve hdomains hb
    exact ha.eq_of_aliasPath_eq hb hplace hsame
  · obtain ⟨imported, himported, hpath⟩ := path_of_mem_importLines hline
    rw [← hpath]
    exact exists_reaches_of_mem_resolve hdomains himported

theorem importLine? {depth : Nat} (hplace : (Origin.artifact depth).Holds importer)
    (domains : DomainMap) {module : String}
    (hplain : ∀ piece ∈ Files.pieces module, PlainName piece) (names : List String) :
    Restyled root importer (.artifact depth)
      (ClientGen.importLine? (Linking.artifact ⟨domains, some root⟩ depth module) names).toList
      (ClientGen.importLine? (Linking.artifact ⟨domains, none⟩ depth module) names).toList := by
  have hreaches := @Origin.Reaches.climbing depth module hplain
  unfold ClientGen.importLine?
  split
  · exact .nil
  · refine ⟨List.Perm.of_eq ?_, List.forall_mem_singleton.2 ⟨module, hreaches⟩⟩
    have hpath := aliasPath_up root (Files.head?_pieces_upwards hplace.1 module)
      (hreaches.importedFile? hplace)
    simp only [Option.toList_some, List.map_singleton, ImportLine.onPath, Linking.artifact,
      artifactModule, hpath]

end Restyled

end ClientGen
