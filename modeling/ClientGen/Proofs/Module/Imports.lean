import ClientGen.Artifact.Fragment

/-!
# Import lines

References become imports and imports become lines. An identifier is on a line exactly if some
reference gives that identifier and the path of that line.
-/

namespace ClientGen

def Imported (lines : List ImportLine) (ident : String) : Prop :=
  ∃ line ∈ lines, ident ∈ line.names

theorem Imported.mono {lines more : List ImportLine} {ident : String}
    (hsub : ∀ line ∈ lines, line ∈ more) (h : Imported lines ident) : Imported more ident := by
  obtain ⟨line, hline, hident⟩ := h
  exact ⟨line, hsub line hline, hident⟩

theorem mem_resolve {links : Linking} {origin : Origin} {binding : Binding}
    {references : List Reference} {imported : Import} :
    imported ∈ links.resolve origin binding references ↔
      ∃ reference ∈ references, links.import? origin binding reference = some imported := by
  rw [Linking.resolve, mem_orderedSet, List.mem_filterMap]

theorem import?_eq_some {links : Linking} {origin : Origin} {binding : Binding}
    {reference : Reference} {imported : Import} :
    links.import? origin binding reference = some imported ↔
      binding.ident? reference = some imported.name ∧
        imported.path = modelModule origin (links.domains.typeDomain reference.1) reference.1
          links.aliasRoot? := by
  obtain ⟨name, path⟩ := imported
  rw [Linking.import?, Option.map_eq_some_iff]
  constructor
  · rintro ⟨ident, hident, heq⟩
    injection heq with hname hpath
    exact ⟨by rw [hident, hname], hpath.symm⟩
  · rintro ⟨hident, hpath⟩
    exact ⟨name, hident, by rw [← hpath]⟩

theorem path_of_mem_importLines {imports : List Import} {line : ImportLine}
    (h : line ∈ importLines imports) : ∃ imported ∈ imports, imported.path = line.path := by
  obtain ⟨path, hpath, rfl⟩ := List.mem_map.1 h
  exact List.mem_map.1 (mem_orderedSet.1 hpath)

theorem mem_names_of_mem_importLines {imports : List Import} {line : ImportLine}
    (h : line ∈ importLines imports) {name : String} :
    name ∈ line.names ↔ ⟨name, line.path⟩ ∈ imports := by
  obtain ⟨path, _, rfl⟩ := List.mem_map.1 h
  rw [mem_orderedSet, List.mem_map]
  constructor
  · rintro ⟨⟨name, path'⟩, himported, rfl⟩
    obtain ⟨himported, hpath⟩ := List.mem_filter.1 himported
    have hsame : path' = path := by simpa using hpath
    rwa [← hsame]
  · intro himported
    exact ⟨⟨name, path⟩, List.mem_filter.2 ⟨himported, by simp⟩, rfl⟩

theorem exists_line_of_mem {imports : List Import} {imported : Import} (h : imported ∈ imports) :
    ∃ line ∈ importLines imports, line.path = imported.path ∧ imported.name ∈ line.names := by
  have hpath : imported.path ∈ orderedSet (imports.map (·.path)) :=
    mem_orderedSet.2 (List.mem_map_of_mem h)
  obtain ⟨line, hline, hsame⟩ : ∃ line ∈ importLines imports, line.path = imported.path :=
    ⟨_, List.mem_map.2 ⟨imported.path, hpath, rfl⟩, rfl⟩
  refine ⟨line, hline, hsame, (mem_names_of_mem_importLines hline).2 ?_⟩
  rw [hsame]
  exact h

theorem importLine?_eq_some {path : String} {names : List String} {line : ImportLine}
    (h : importLine? path names = some line) :
    line.path = path ∧ names ≠ [] ∧ ∀ name, name ∈ line.names ↔ name ∈ names := by
  unfold importLine? at h
  split at h
  · cases h
  · rename_i sorted hne
    injection h with h
    rw [← h]
    refine ⟨rfl, ?_, fun name => mem_orderedSet⟩
    rintro rfl
    exact hne rfl

end ClientGen
