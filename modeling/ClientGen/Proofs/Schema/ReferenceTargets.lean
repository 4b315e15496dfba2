import ClientGen.Proofs.Schema.Independence
import ClientGen.Proofs.Schema.Nodes

/-!
# Targets of references

References are told apart before anything is compiled, by looking at raw schemas only, and what a
declared type becomes is decided later. The two agree: at every depth of every compiled schema a
reference to an enumeration, to a model or to nothing names a type that was compiled to an
enumeration, to something else, or not at all.
-/

namespace ClientGen
open Api

theorem isEnum_iff {type : DeclaredType} :
    type.isEnum = true ↔ ∃ values, type.kind = .enum values := by
  unfold DeclaredType.isEnum
  split <;> simp_all

theorem not_isEnum_iff {type : DeclaredType} :
    type.isEnum = false ↔
      (∃ fields, type.kind = .object fields) ∨ ∃ schema, type.kind = .alias schema := by
  unfold DeclaredType.isEnum
  split
  · simp_all
  · cases hkind : type.kind <;> simp_all

theorem target_eq_unresolved_iff {declared : Dict Json} {name : String} :
    (Scope.of declared).target name = .unresolved ↔ name ∉ declared.keys := by
  constructor
  · intro htarget hname
    obtain ⟨raw, hget⟩ := Dict.exists_get?_of_mem_keys hname
    rw [target_of_mem (Dict.mem_of_get? hget)] at htarget
    split at htarget <;> cases htarget
  · intro hname
    by_contra htarget
    obtain ⟨type, htype, rfl, _⟩ := exists_type_of_target htarget
    obtain ⟨name, raw, hentry, rfl⟩ := mem_types_compile.1 htype
    exact hname (List.mem_map_of_mem hentry)

/-- What a reference says of its name is what the name was compiled to. -/
structure TargetAgrees (declared : Dict Json) (node : Reference) : Prop where
  enum : node.2 = .enum ↔ ∃ type, (compile declared).types.get? node.1 = some type ∧
    ∃ values, type.kind = .enum values
  model : node.2 = .model ↔ ∃ type, (compile declared).types.get? node.1 = some type ∧
    ((∃ fields, type.kind = .object fields) ∨ ∃ schema, type.kind = .alias schema)
  unresolved : node.2 = .unresolved ↔ node.1 ∉ declared.keys

theorem targetAgrees_of_target {declared : Dict Json} {node : Reference}
    (h : node.2 = (Scope.of declared).target node.1) : TargetAgrees declared node := by
  have hunresolved : node.2 = .unresolved ↔ node.1 ∉ declared.keys := by
    rw [h]
    exact target_eq_unresolved_iff
  cases hget : declared.get? node.1 with
  | none =>
    have htarget : node.2 = .unresolved := hunresolved.2 (Dict.get?_eq_none_iff.1 hget)
    have htype : (compile declared).types.get? node.1 = none := by rw [get?_types, hget]; rfl
    refine ⟨?_, ?_, hunresolved⟩
    · simp [htarget, htype]
    · simp [htarget, htype]
  | some raw =>
    have htype : (compile declared).types.get? node.1 =
        some (compileDeclaration (Scope.of declared) node.1 raw).1 := by rw [get?_types, hget]; rfl
    have hkind := isEnum_compileDeclaration (Scope.of declared) node.1 raw
    rw [target_of_mem (Dict.mem_of_get? hget)] at h
    refine ⟨?_, ?_, hunresolved⟩
    · rw [htype, h]
      cases henum : isEnumSchema raw <;> simp [← isEnum_iff, hkind, henum]
    · rw [htype, h]
      cases henum : isEnumSchema raw <;> simp [← not_isEnum_iff, hkind, henum]

/-- Every reference of every compiled type, and of every schema that is compiled beside them, says
of its name what the name was compiled to, and in whatever order the types are declared the same
references are made. -/
theorem reference_targets_agree (declared : Dict Json) :
    (∀ type ∈ (compile declared).types.values, ∀ node ∈ type.kind.nodes,
      TargetAgrees declared node) ∧
    (∀ raw location, ∀ node ∈ (compileSchema (compile declared).scope raw location).value.nodes,
      TargetAgrees declared node) ∧
    ∀ reordered : Dict Json, declared.entries.Perm reordered.entries →
      (∀ name, (compile reordered).types.get? name = (compile declared).types.get? name) ∧
      ∀ raw location, compileSchema (compile reordered).scope raw location =
        compileSchema (compile declared).scope raw location := by
  refine ⟨?_, ?_, ?_⟩
  · intro type htype node hnode
    obtain ⟨name, raw, _, rfl⟩ := mem_types_compile.1 htype
    exact targetAgrees_of_target ((tracks_compileKind _ name raw).target hnode)
  · intro raw location node hnode
    exact targetAgrees_of_target ((tracks_compileSchema _ raw location).target hnode)
  · intro reordered hperm
    have htarget : ∀ name, (Scope.of reordered).target name = (Scope.of declared).target name :=
      target_of_perm hperm.symm
    refine ⟨fun name => ?_, fun raw location => compileSchema_of_target htarget raw location⟩
    rw [get?_types, get?_types, Dict.get?_of_perm hperm name]
    simp only [compileDeclaration_of_target htarget]

/-- A pet extends an animal and has a mood and an owner. Of these the animal is declared before
it, the mood behind it, and the owner nowhere. -/
def petTypes : Dict Json :=
  .ofList [("Animal", .obj [("type", .str "object")]),
    ("Pet", .obj [("allOf", .arr [.obj [("$ref", .str "#/definitions/Animal")],
      .obj [("properties", .obj [("mood", .obj [("$ref", .str "#/definitions/Mood")]),
        ("owner", .obj [("anyOf", .arr [.obj [("$ref", .str "#/definitions/Owner")],
          .obj [("type", .str "null")]])])])]])]),
    ("Mood", .obj [("type", .str "string"), ("enum", .arr [.str "calm"])])]

/-- The same types the other way round. -/
def turnedPetTypes : Dict Json := .ofList petTypes.entries.reverse

/-- A list of moods, which stands beside the declared types. -/
def moods : Json := .obj [("items", .obj [("$ref", .str "#/definitions/Mood")])]

theorem petTypes_targets_agree :
    (∃ pet ∈ (compile petTypes).types.values,
      pet.kind.nodes = [("Animal", .model), ("Mood", .enum), ("Owner", .unresolved)] ∧
      TargetAgrees petTypes ("Animal", .model) ∧ TargetAgrees petTypes ("Mood", .enum) ∧
      TargetAgrees petTypes ("Owner", .unresolved)) ∧
    ("Mood", Target.enum) ∈ (compileSchema (compile petTypes).scope moods "x").value.nodes ∧
    TargetAgrees petTypes ("Mood", .enum) ∧
    petTypes.entries.Perm turnedPetTypes.entries ∧
    (compile turnedPetTypes).types.get? "Pet" = (compile petTypes).types.get? "Pet" := by
  obtain ⟨pet, hpet⟩ : ∃ pet, (compile petTypes).types.get? "Pet" = some pet := ⟨_, rfl⟩
  have hnodes : pet.kind.nodes = [("Animal", .model), ("Mood", .enum), ("Owner", .unresolved)] := by
    injection hpet with hpet
    rw [← hpet]
    rfl
  have hagrees := (reference_targets_agree petTypes).1 pet (Dict.mem_values_of_get? hpet)
  rw [hnodes] at hagrees
  have hturned : turnedPetTypes.entries = petTypes.entries.reverse := rfl
  have hperm : petTypes.entries.Perm turnedPetTypes.entries := by
    rw [hturned]
    exact (List.reverse_perm _).symm
  have hmood : ("Mood", Target.enum) ∈
      (compileSchema (compile petTypes).scope moods "x").value.nodes := List.mem_singleton_self _
  refine ⟨⟨pet, Dict.mem_values_of_get? hpet, hnodes, ?_, ?_, ?_⟩, hmood, ?_, hperm, ?_⟩
  · exact hagrees _ (List.mem_cons_self ..)
  · exact hagrees _ (List.mem_cons_of_mem _ (List.mem_cons_self ..))
  · exact hagrees _ (by simp)
  · exact (reference_targets_agree petTypes).2.1 moods "x" _ hmood
  · exact ((reference_targets_agree petTypes).2.2 turnedPetTypes hperm).1 "Pet"

end ClientGen
