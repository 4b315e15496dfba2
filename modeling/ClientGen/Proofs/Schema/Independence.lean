import ClientGen.Proofs.Plan.Types

/-!
# Declared types are compiled independently

All that compiling asks of the other declared types is where a name leads: whether it is declared,
and whether as an enumeration. A type therefore compiles to the same kind with the same warnings
whatever the others hold and in whatever order they stand.
-/

namespace ClientGen
open Api

section
variable {scope other : Scope} (htarget : ∀ name, scope.target name = other.target name)
include htarget

theorem compileShape_of_target (inner : Json → String → Compiling Schema) (location : String)
    (raw : Json) :
    compileShape scope inner location raw = compileShape other inner location raw := by
  unfold compileShape
  split
  · simp only [compileReference, htarget]
  · rfl

theorem compileLevels_of_target (levels : Nat) :
    compileLevels scope levels = compileLevels other levels := by
  -- on the levels that are left: only a reference looks at the scope
  induction levels with
  | zero => rfl
  | succ levels ih =>
    funext raw location
    unfold compileLevels
    split
    · rw [ih, compileShape_of_target htarget]
    · rfl

theorem compileSchema_of_target (raw : Json) (location : String) :
    compileSchema scope raw location = compileSchema other raw location :=
  congrFun (congrFun (compileLevels_of_target htarget _) raw) location

theorem compileDeclaration_of_target (name : String) (raw : Json) :
    compileDeclaration scope name raw = compileDeclaration other name raw := by
  have hat : ∀ depth, compileAt scope depth = compileAt other depth :=
    fun depth => compileLevels_of_target htarget _
  have hkind : compileKind scope name raw = compileKind other name raw := by
    simp only [compileKind, hat]
  simp only [compileDeclaration, hkind]

end

section
variable {first second : Dict Json}

theorem target_of_names (hnames : ∀ name, name ∈ first.keys ↔ name ∈ second.keys)
    (henums : ∀ name, name ∈ (Scope.of first).enums ↔ name ∈ (Scope.of second).enums)
    (name : String) : (Scope.of first).target name = (Scope.of second).target name := by
  have henum : (Scope.of first).enums.contains name = (Scope.of second).enums.contains name :=
    Bool.eq_iff_iff.2 (by simpa using henums name)
  have hdeclared : first.contains name = second.contains name :=
    Bool.eq_iff_iff.2 (Dict.contains_iff.trans ((hnames name).trans Dict.contains_iff.symm))
  show (if _ then _ else if first.contains name then _ else _) =
    (if _ then _ else if second.contains name then _ else _)
  rw [henum, hdeclared]

theorem target_of_perm (h : first.entries.Perm second.entries) (name : String) :
    (Scope.of first).target name = (Scope.of second).target name :=
  target_of_names (fun _ => (h.map Prod.fst).mem_iff)
    (fun _ => ((h.filter _).map Prod.fst).mem_iff) name

end

theorem get?_types (declared : Dict Json) (name : String) :
    (compile declared).types.get? name =
      (declared.get? name).map fun raw => (compileDeclaration (Scope.of declared) name raw).1 := by
  refine (Dict.get?_mapValues_eq_map _ _ name).trans ?_
  rw [Dict.get?_mapValues_eq_map, Option.map_map]
  rfl

/-- The warnings that are raised while the type of a name is compiled. -/
def warningsOf (declared : Dict Json) (name : String) : List Warning :=
  ((declared.get? name).map fun raw =>
    (compileDeclaration (Scope.of declared) name raw).2).getD []

theorem warningsOf_of_get? {declared : Dict Json} {name : String} {raw : Json}
    (h : declared.get? name = some raw) :
    warningsOf declared name = (compileDeclaration (Scope.of declared) name raw).2 := by
  rw [warningsOf, h, Option.map_some, Option.getD_some]

theorem warnings_compile (declared : Dict Json) :
    (compile declared).warnings = declared.keys.flatMap (warningsOf declared) := by
  have hwarnings : (compile declared).warnings =
      (declared.entries.map fun entry =>
        compileDeclaration (Scope.of declared) entry.1 entry.2).flatMap Prod.snd :=
    congrArg (List.flatMap Prod.snd) (Dict.values_mapValues _ declared)
  rw [hwarnings, List.flatMap_map, Dict.keys, List.flatMap_map]
  refine List.flatMap_congr fun entry hentry => ?_
  exact (warningsOf_of_get? (Dict.get?_of_mem hentry)).symm

/-- A name is declared in both, and compiles to the same type with the same warnings. -/
structure CompilesAlike (first second : Dict Json) (name : String) : Prop where
  type : ∃ type, (compile first).types.get? name = some type ∧
    (compile second).types.get? name = some type
  warnings : warningsOf first name = warningsOf second name

theorem compilesAlike_of_target {first second : Dict Json} {name : String} {raw : Json}
    (htarget : ∀ name, (Scope.of first).target name = (Scope.of second).target name)
    (hfirst : first.get? name = some raw) (hsecond : second.get? name = some raw) :
    CompilesAlike first second name := by
  have hsame : compileDeclaration (Scope.of first) name raw =
      compileDeclaration (Scope.of second) name raw := compileDeclaration_of_target htarget name raw
  have hfirstType : (compile first).types.get? name =
      some (compileDeclaration (Scope.of second) name raw).1 := by
    rw [get?_types, hfirst, Option.map_some, hsame]
  have hsecondType : (compile second).types.get? name =
      some (compileDeclaration (Scope.of second) name raw).1 := by
    rw [get?_types, hsecond, Option.map_some]
  refine ⟨⟨_, hfirstType, hsecondType⟩, ?_⟩
  rw [warningsOf_of_get? hfirst, warningsOf_of_get? hsecond, hsame]

theorem enums_mapValues {declared : Dict Json} {replace : String → Json → Json}
    (hkeeps : ∀ entry ∈ declared.entries,
      isEnumSchema (replace entry.1 entry.2) = isEnumSchema entry.2) :
    (Scope.of (declared.mapValues replace)).enums = (Scope.of declared).enums := by
  show ((declared.entries.map _).filter _).map Prod.fst = (declared.entries.filter _).map _
  rw [List.filter_map, List.map_map]
  congr 1
  exact List.filter_congr hkeeps

theorem compilesAlike_of_replaced {declared : Dict Json} {replace : String → Json → Json}
    (hkeeps : ∀ entry ∈ declared.entries,
      isEnumSchema (replace entry.1 entry.2) = isEnumSchema entry.2)
    {name : String} {raw : Json} (hget : declared.get? name = some raw)
    (hraw : replace name raw = raw) :
    CompilesAlike declared (declared.mapValues replace) name := by
  have henums := enums_mapValues hkeeps
  refine compilesAlike_of_target (target_of_names ?_ ?_) hget ?_
  · intro other
    rw [Dict.keys_mapValues]
  · intro other
    rw [henums]
  · rw [Dict.get?_mapValues hget, hraw]

/-- What a type compiles to and the warnings it raises depend on its own schema, on the names of
the declared types, and on which of them are enumerations, and on nothing else: not on their order
nor on what the schemas of the others hold. -/
theorem declarations_independent :
    (∀ declared : Dict Json,
      (compile declared).warnings = declared.keys.flatMap (warningsOf declared)) ∧
    (∀ first second : Dict Json,
      (∀ name, name ∈ first.keys ↔ name ∈ second.keys) →
      (∀ name, name ∈ (Scope.of first).enums ↔ name ∈ (Scope.of second).enums) →
      ∀ name raw, first.get? name = some raw → second.get? name = some raw →
        CompilesAlike first second name) ∧
    (∀ first second : Dict Json, first.entries.Perm second.entries →
      ∀ name ∈ first.keys, CompilesAlike first second name) ∧
    ∀ (declared : Dict Json) (replace : String → Json → Json),
      (∀ entry ∈ declared.entries,
        isEnumSchema (replace entry.1 entry.2) = isEnumSchema entry.2) →
      ∀ name raw, declared.get? name = some raw → replace name raw = raw →
        CompilesAlike declared (declared.mapValues replace) name := by
  refine ⟨warnings_compile, ?_, ?_, ?_⟩
  · intro first second hnames henums name raw hfirst hsecond
    exact compilesAlike_of_target (target_of_names hnames henums) hfirst hsecond
  · intro first second hperm name hname
    obtain ⟨raw, hfirst⟩ := Dict.exists_get?_of_mem_keys hname
    have hsecond : second.get? name = some raw := (Dict.get?_of_perm hperm name).symm.trans hfirst
    exact compilesAlike_of_target (target_of_perm hperm) hfirst hsecond
  · intro declared replace hkeeps name raw hget hraw
    exact compilesAlike_of_replaced hkeeps hget hraw

/-- An order with a state, with lines, and with a gift that is not declared. -/
def order : Json :=
  .obj [("properties", .obj [("state", .obj [("$ref", .str "#/definitions/State")]),
    ("lines", .obj [("items", .obj [("$ref", .str "#/definitions/Line")])]),
    ("gift", .obj [("$ref", .str "#/definitions/Gift")])])]

/-- The order in front of its state and its lines. -/
def orderTypes : Dict Json :=
  .ofList [("Order", order),
    ("State", .obj [("type", .str "string"), ("enum", .arr [.str "open"])]),
    ("Line", .obj [("properties", .obj [("item", .obj [("$ref", .str "#/definitions/State")])])])]

/-- The order behind other states and behind lines that are no schema. -/
def brokenTypes : Dict Json :=
  .ofList [("Line", .null),
    ("State", .obj [("type", .str "string"), ("enum", .arr [.str "paid", .str "sent"])]),
    ("Order", order)]

/-- The same types the other way round. -/
def turnedTypes : Dict Json := .ofList orderTypes.entries.reverse

/-- The lines are no schema any more, all else is as it was. -/
def breakLines (name : String) (raw : Json) : Json := if name = "Line" then .null else raw

theorem order_compiled_alike :
    (∀ name, name ∈ orderTypes.keys ↔ name ∈ brokenTypes.keys) ∧
    (∀ name, name ∈ (Scope.of orderTypes).enums ↔ name ∈ (Scope.of brokenTypes).enums) ∧
    orderTypes.get? "Order" = some order ∧ brokenTypes.get? "Order" = some order ∧
    CompilesAlike orderTypes brokenTypes "Order" ∧
    warningsOf brokenTypes "Order" = [.unresolvable "Order.gift" "Gift"] ∧
    (compile brokenTypes).warnings =
      [.malformed "Line" .emptySchema, .unresolvable "Order.gift" "Gift"] ∧
    (∀ entry ∈ orderTypes.entries,
      isEnumSchema (breakLines entry.1 entry.2) = isEnumSchema entry.2) ∧
    CompilesAlike orderTypes (orderTypes.mapValues breakLines) "Order" ∧
    orderTypes.entries.Perm turnedTypes.entries ∧
    CompilesAlike orderTypes turnedTypes "Line" := by
  have hkeys : orderTypes.keys = ["Order", "State", "Line"] := rfl
  have hbroken : brokenTypes.keys = ["Line", "State", "Order"] := rfl
  have hnames : ∀ name, name ∈ orderTypes.keys ↔ name ∈ brokenTypes.keys := by
    intro name
    rw [hkeys, hbroken]
    simp only [List.mem_cons, List.not_mem_nil, or_false]
    tauto
  have henums : ∀ name,
      name ∈ (Scope.of orderTypes).enums ↔ name ∈ (Scope.of brokenTypes).enums :=
    fun name => Iff.rfl
  have hkeeps : ∀ entry ∈ orderTypes.entries,
      isEnumSchema (breakLines entry.1 entry.2) = isEnumSchema entry.2 := by decide +kernel
  have hturned : turnedTypes.entries = orderTypes.entries.reverse := rfl
  have hperm : orderTypes.entries.Perm turnedTypes.entries := by
    rw [hturned]
    exact (List.reverse_perm _).symm
  have hline : "Line" ∈ orderTypes.keys := by
    rw [hkeys]
    decide
  refine ⟨hnames, henums, rfl, rfl, ?_, rfl, rfl, hkeeps, ?_, hperm, ?_⟩
  · exact declarations_independent.2.1 _ _ hnames henums "Order" order rfl rfl
  · exact declarations_independent.2.2.2 orderTypes breakLines hkeeps "Order" order rfl rfl
  · exact declarations_independent.2.2.1 _ _ hperm "Line" hline

end ClientGen
