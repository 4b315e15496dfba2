import ClientGen.Proofs.Domain.Tags
import ClientGen.Proofs.Plan.Groups

/-!
# The types of a plan

The types of a plan are the declared types of the document, compiled one by one against the scope
of all of them. What a reference leads to is told by the type of its name.
-/

namespace ClientGen
open Api

def sourceTypes (document : Json) : Dict Json := (normalize document).value.types

theorem values_types_compile (declared : Dict Json) :
    (compile declared).types.values = declared.entries.map fun entry =>
      (compileDeclaration (Scope.of declared) entry.1 entry.2).1 := by
  unfold compile
  rw [Dict.values_mapValues]
  simp [Dict.mapValues, List.map_map, Function.comp_def]

theorem mem_types_compile {declared : Dict Json} {type : DeclaredType} :
    type ∈ (compile declared).types.values ↔
      ∃ name raw, (name, raw) ∈ declared.entries ∧
        type = (compileDeclaration (Scope.of declared) name raw).1 := by
  rw [values_types_compile, List.mem_map]
  constructor
  · rintro ⟨⟨name, raw⟩, hentry, rfl⟩
    exact ⟨name, raw, hentry, rfl⟩
  · rintro ⟨name, raw, hentry, rfl⟩
    exact ⟨(name, raw), hentry, rfl⟩

theorem compileDeclaration_name (scope : Scope) (name : String) (raw : Json) :
    (compileDeclaration scope name raw).1.name = name := rfl

theorem isEnum_compileDeclaration (scope : Scope) (name : String) (raw : Json) :
    (compileDeclaration scope name raw).1.isEnum = isEnumSchema raw := by
  cases raw with
  | obj members =>
    cases members with
    | nil => rfl
    | cons member rest =>
      simp only [compileDeclaration, compileKind]
      cases henum : isEnumSchema (.obj (member :: rest)) with
      | true => rfl
      | false =>
        simp only [Bool.false_eq_true, if_false]
        split
        · rfl
        · split <;> rfl
  | _ => rfl

theorem mem_enums {declared : Dict Json} {name : String} :
    name ∈ (Scope.of declared).enums ↔
      ∃ raw, (name, raw) ∈ declared.entries ∧ isEnumSchema raw := by
  simp [Scope.of]

theorem mem_enums_iff {declared : Dict Json} {name : String} {raw : Json}
    (h : (name, raw) ∈ declared.entries) :
    name ∈ (Scope.of declared).enums ↔ isEnumSchema raw := by
  rw [mem_enums]
  constructor
  · rintro ⟨other, hother, henum⟩
    have hsame := (Dict.get?_of_mem hother).symm.trans (Dict.get?_of_mem h)
    injection hsame with hsame
    rwa [← hsame]
  · exact fun henum => ⟨raw, h, henum⟩

theorem target_of_mem {declared : Dict Json} {name : String} {raw : Json}
    (h : (name, raw) ∈ declared.entries) :
    (Scope.of declared).target name = if isEnumSchema raw then .enum else .model := by
  have hcontains : (Scope.of declared).declared.contains name :=
    Dict.contains_iff.2 (List.mem_map_of_mem h)
  rw [Scope.target, if_pos hcontains]
  exact if_congr (List.contains_iff_mem.trans (mem_enums_iff h)) rfl rfl

theorem exists_type_of_target {declared : Dict Json} {name : String}
    (h : (Scope.of declared).target name ≠ .unresolved) :
    ∃ type ∈ (compile declared).types.values, type.name = name ∧
      (type.isEnum = true ↔ (Scope.of declared).target name = .enum) := by
  have hraw : ∃ raw, (name, raw) ∈ declared.entries := by
    unfold Scope.target at h
    split at h
    · rename_i henum
      obtain ⟨raw, hentry, _⟩ := mem_enums.1 (List.contains_iff_mem.1 henum)
      exact ⟨raw, hentry⟩
    · split at h
      · rename_i hdeclared
        obtain ⟨⟨_, raw⟩, hentry, rfl⟩ := List.mem_map.1 (Dict.contains_iff.1 hdeclared)
        exact ⟨raw, hentry⟩
      · exact absurd rfl h
  obtain ⟨raw, hentry⟩ := hraw
  refine ⟨_, mem_types_compile.2 ⟨name, raw, hentry, rfl⟩, rfl, ?_⟩
  rw [isEnum_compileDeclaration, target_of_mem hentry]
  split <;> simp_all

section
variable {document : Json} {config : Config} {planned : Plan}

theorem plan_catalog (h : plan document config = .ok planned) :
    planned.catalog = compile (sourceTypes document) := by
  obtain ⟨rules, rfl⟩ := plan_ok h
  rfl

theorem plan_scope (h : plan document config = .ok planned) :
    planned.catalog.scope = Scope.of (sourceTypes document) := by
  rw [plan_catalog h]
  rfl

/-- The types of a plan are the declared types, each compiled against the scope of all. -/
theorem exists_source_of_mem_types (hplan : plan document config = .ok planned)
    {type : DeclaredType} (htype : type ∈ planned.types) :
    ∃ name raw, (name, raw) ∈ (sourceTypes document).entries ∧
      type = (compileDeclaration planned.catalog.scope name raw).1 := by
  rw [Plan.types, plan_catalog hplan] at htype
  obtain ⟨name, raw, hentry, rfl⟩ := mem_types_compile.1 htype
  exact ⟨name, raw, hentry, by rw [plan_scope hplan]⟩

theorem isTag_typeDomain {rule? : DomainPattern → Option DomainRule}
    (h : plan document config rule? = .ok planned) (name : String) :
    Text.IsTag (planned.domains.typeDomain name) := by
  obtain ⟨rules, rfl⟩ := plan_ok h
  exact isTag_typeDomain_classify _ _ rules _ name

end

end ClientGen
