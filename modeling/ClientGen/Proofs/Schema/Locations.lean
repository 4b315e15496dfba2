import ClientGen.Schema.Compile

/-!
# Locations of schemas

The location that a schema is compiled under stands in its warnings only: what the schema compiles
to is the same under every location.
-/

namespace ClientGen
open Api

section
variable {inner : Json → String → Compiling Schema}
  (hinner : ∀ raw location other, (inner raw location).value = (inner raw other).value)
include hinner

theorem value_each_location (raws : List Json) (location other : String) :
    (Traced.each (inner · location) raws).value = (Traced.each (inner · other) raws).value := by
  rw [Traced.value_each, Traced.value_each]
  exact List.map_congr_left fun raw _ => hinner raw location other

theorem compileFields_value_location (location other : String) (raw properties : Json) :
    (compileFields inner location raw properties).value =
      (compileFields inner other raw properties).value := by
  unfold compileFields
  split
  · rw [Traced.value_each, Traced.value_each]
    refine List.map_congr_left fun property _ => ?_
    simp only [Traced.value_bind, Traced.value_pure]
    rw [hinner property.2 (location ++ "." ++ property.1) (other ++ "." ++ property.1)]
  · rfl

theorem compileType_value_location (location other : String) (raw : Json) (type : Option String) :
    (compileType inner location raw type).value = (compileType inner other raw type).value := by
  unfold compileType
  split
  -- only arrays and objects have schemas below them
  case h_7 =>
    split
    · rename_i items _
      simp only [Traced.value_bind, Traced.value_pure]
      rw [hinner items location other]
    · rfl
  case h_8 =>
    split
    · rename_i properties _
      simp only [Traced.value_bind, Traced.value_pure]
      rw [compileFields_value_location hinner location other raw properties]
    · rfl
  all_goals rfl

theorem compileTyped_value_location (location other : String) (raw : Json) :
    (compileTyped inner location raw).value = (compileTyped inner other raw).value := by
  simp only [compileTyped, Traced.value_bind, Traced.value_pure]
  rw [compileType_value_location hinner location other]

theorem compileShape_value_location (scope : Scope) (location other : String) (raw : Json) :
    (compileShape scope inner location raw).value =
      (compileShape scope inner other raw).value := by
  unfold compileShape
  split
  · rfl
  · split
    · simp only [Traced.value_bind, Traced.value_pure]
      rw [value_each_location hinner _ location other]
    · split
      · simp only [Traced.value_bind, Traced.value_pure]
        rw [value_each_location hinner _ location other]
      · exact compileTyped_value_location hinner location other raw

end

theorem compileLevels_value_location (scope : Scope) (levels : Nat) (raw : Json)
    (location other : String) :
    (compileLevels scope levels raw location).value =
      (compileLevels scope levels raw other).value := by
  -- on the levels that are left: one level keeps what those below it have
  induction levels generalizing raw location other with
  | zero => rfl
  | succ levels ih =>
    unfold compileLevels
    split
    · simp only [Traced.value_bind, Traced.value_pure]
      rw [compileShape_value_location ih scope location other]
    · rfl

theorem compileSchema_value_location (scope : Scope) (raw : Json) (location other : String) :
    (compileSchema scope raw location).value = (compileSchema scope raw other).value :=
  compileLevels_value_location scope _ raw location other

end ClientGen
