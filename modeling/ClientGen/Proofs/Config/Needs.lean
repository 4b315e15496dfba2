import ClientGen.Config.Basic

/-!
# What generated kinds need

A configuration without a problem generates every kind that a generated kind needs.
-/

namespace ClientGen

theorem missingNeed?_eq_none {config : Config} (h : config.problem? = none) :
    config.missingNeed? = none := by
  unfold Config.problem? at h
  cases hmissing : config.missingNeed? with
  | none => rfl
  | some pair =>
    rw [hmissing] at h
    cases h

theorem needed_enabled {config : Config} (h : config.problem? = none)
    {needed dependent : ArtifactKind} (hpair : (needed, dependent) ∈ Config.needs)
    (hdependent : config.isEnabled dependent) : config.isEnabled needed := by
  have hnone := List.find?_eq_none.1 (missingNeed?_eq_none h) (needed, dependent) hpair
  simpa [hdependent] using hnone

theorem services_enabled_of_calls {config : Config} (h : config.problem? = none)
    {kind : ArtifactKind} (hkind : kind = .thunks ∨ kind = .hooks)
    (henabled : config.isEnabled kind) : config.isEnabled .services := by
  rcases hkind with rfl | rfl
  · exact needed_enabled h (by simp [Config.needs]) henabled
  · exact needed_enabled h (by simp [Config.needs]) henabled

end ClientGen
