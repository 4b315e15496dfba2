import ClientGen.Proofs.Dict
import ClientGen.Proofs.Schema.Declared
import ClientGen.Proofs.Schema.Shapes

/-!
# Normal form of compiled schemas

A compiled schema says what it says in one way only: null is added once and never to what admits
everything, unions and intersections have several parts, and a primitive carries the constraints of
its kind and no others. Raw schemas may nest as deep as a document likes, but every level of theirs
takes one of a limited number of levels, so there is a bound on the way from the root of a compiled
schema to its leaves.
-/

namespace ClientGen
open Api

namespace Schema

def children : Schema → List Schema
  | .array element => [element]
  | .object fields => fields.map (·.schema)
  | .union branches => branches
  | .intersection members => members
  | .nullable inner => [inner]
  | _ => []

/-- The nodes of a schema are the schema itself and the nodes of those below it. -/
inductive HasNode : Schema → Schema → Prop
  | root (schema : Schema) : HasNode schema schema
  | under {schema child node : Schema} (hchild : child ∈ schema.children)
      (hnode : HasNode child node) : HasNode schema node

/-- The nodes on the way from the root of a schema to one of its leaves. -/
inductive HasPath : Schema → List Schema → Prop
  | leaf {schema : Schema} (hleaf : schema.children = []) : HasPath schema [schema]
  | step {schema child : Schema} {path : List Schema} (hchild : child ∈ schema.children)
      (hpath : HasPath child path) : HasPath schema (schema :: path)

/-- Whether a node does nothing but add null to the one below it. -/
def addsNull : Schema → Bool
  | .nullable _ => true
  | _ => false

end Schema

/-- The number of nodes on a path, without those that only add null. -/
def pathLevels (path : List Schema) : Nat := path.countP fun node => !node.addsNull

/-- The constraints that a kind of primitive values can have. -/
def PrimitiveKind.Admits : PrimitiveKind → Constraints → Prop
  | .string, c => c.minimum = none ∧ c.maximum = none
  | .integer, c | .number, c =>
    c.minLength = none ∧ c.maxLength = none ∧ c.pattern = none ∧ c.format = none ∧ c.literals = []
  | .boolean, c | .file, c => c = {}

/-- What a single node must be like in a schema in normal form. -/
def Schema.NormalNode : Schema → Prop
  | .primitive kind constraints => kind.Admits constraints
  | .union branches => 2 ≤ branches.length
  | .intersection members => 2 ≤ members.length
  | .nullable (.nullable _) => False
  | .nullable .unknown => False
  | _ => True

/-- A schema in normal form, none of whose paths has too many levels. -/
structure Schema.Normal (schema : Schema) : Prop where
  nodes : ∀ node, schema.HasNode node → node.NormalNode
  bounded : ∀ path, schema.HasPath path → pathLevels path ≤ maxDepth + 2

namespace Schema.Compiled

variable {scope : Scope} {schema : Schema}

theorem of_mem_children (h : schema.Compiled scope) {child : Schema}
    (hchild : child ∈ schema.children) : child.Compiled scope := by
  cases h with
  | array helement =>
    rw [List.mem_singleton.1 hchild]
    exact helement
  | object hfields =>
    obtain ⟨field, hfield, rfl⟩ := List.mem_map.1 hchild
    exact hfields field hfield
  | union _ hbranches => exact hbranches child hchild
  | intersection _ hmembers => exact hmembers child hchild
  | nullable _ hinner =>
    rw [List.mem_singleton.1 hchild]
    exact hinner
  | _ => exact absurd hchild List.not_mem_nil

theorem of_hasNode (h : schema.Compiled scope) {node : Schema} (hnode : schema.HasNode node) :
    node.Compiled scope := by
  induction hnode with
  | root => exact h
  | under hchild _ ih => exact ih (h.of_mem_children hchild)

theorem normalNode (h : schema.Compiled scope) : schema.NormalNode := by
  cases h with
  | text raw => exact ⟨rfl, rfl⟩
  | integer raw => exact ⟨rfl, rfl, rfl, rfl, rfl⟩
  | number raw => exact ⟨rfl, rfl, rfl, rfl, rfl⟩
  | boolean => exact rfl
  | file => exact rfl
  | union hlength _ => exact hlength
  | intersection hlength _ => exact hlength
  | @nullable inner hadded _ =>
    cases inner with
    | nullable _ => cases hadded
    | unknown => cases hadded
    | _ => trivial
  | _ => trivial

end Schema.Compiled

def Schema.Within (levels : Nat) (schema : Schema) : Prop :=
  ∀ path, schema.HasPath path → pathLevels path ≤ levels

namespace Schema.Within

variable {levels : Nat} {schema : Schema}

/-- A schema takes one level more than those below it. -/
theorem of_children (h : ∀ child ∈ schema.children, child.Within levels) :
    schema.Within (levels + 1) := by
  intro path hpath
  have hnode : (if (!schema.addsNull) = true then 1 else 0) ≤ 1 := by split <;> omega
  cases hpath with
  | leaf _ =>
    rw [pathLevels, List.countP_singleton]
    omega
  | step hchild hpath =>
    have hbelow := h _ hchild _ hpath
    rw [pathLevels] at hbelow ⊢
    rw [List.countP_cons]
    omega

theorem nullable (h : schema.Within levels) : (Schema.nullable schema).Within levels := by
  intro path hpath
  cases hpath with
  | leaf hleaf => cases hleaf
  | step hchild hpath =>
    obtain rfl := List.mem_singleton.1 hchild
    rw [pathLevels, List.countP_cons_of_neg (by simp [addsNull])]
    exact h _ hpath

theorem orNull (h : schema.Within levels) : schema.orNull.Within levels := by
  cases schema with
  | nullable _ => exact h
  | unknown => exact h
  | _ => exact h.nullable

theorem orNullIf (h : schema.Within levels) (hasNull : Bool) :
    (if hasNull then schema.orNull else schema).Within levels := by
  cases hasNull with
  | true => exact h.orNull
  | false => exact h

theorem mono (h : schema.Within levels) {more : Nat} (hle : levels ≤ more) :
    schema.Within more :=
  fun path hpath => Nat.le_trans (h path hpath) hle

theorem of_leaf (hleaf : schema.children = []) : schema.Within (levels + 1) :=
  of_children fun child hchild => by
    rw [hleaf] at hchild
    cases hchild

theorem of_unionOf {schemas : List Schema} (h : ∀ schema ∈ schemas, schema.Within levels)
    (hasNull : Bool) : (unionOf hasNull schemas).Within (levels + 1) := by
  unfold ClientGen.unionOf
  split
  · exact .of_leaf rfl
  · exact ((h _ (List.mem_singleton_self _)).orNullIf hasNull).mono (Nat.le_succ levels)
  · have hunion : (Schema.union schemas).Within (levels + 1) := .of_children h
    exact hunion.orNullIf hasNull

theorem of_intersectionOf {schemas : List Schema} (h : ∀ schema ∈ schemas, schema.Within levels) :
    (intersectionOf schemas).Within (levels + 1) := by
  unfold ClientGen.intersectionOf
  split
  · exact .of_leaf rfl
  · exact (h _ (List.mem_singleton_self _)).mono (Nat.le_succ levels)
  · exact .of_children h

end Schema.Within

section
variable {scope : Scope} {levels : Nat} {inner : Json → String → Compiling Schema}
  (hinner : ∀ raw location, (inner raw location).value.Within (levels + 1))
include hinner

theorem within_compileType (location : String) (raw : Json) (type : Option String) :
    (compileType inner location raw type).value.Within (levels + 2) := by
  unfold compileType
  split
  -- only arrays and objects have schemas below them
  case h_7 =>
    split
    · exact .of_children (List.forall_mem_singleton.2 (hinner _ _))
    · exact .of_children (List.forall_mem_singleton.2 (.of_leaf rfl))
  case h_8 =>
    split
    · refine .of_children fun child hchild => ?_
      obtain ⟨field, hfield, rfl⟩ := List.mem_map.1 hchild
      exact of_mem_compileFields hinner hfield
    · exact .of_leaf rfl
  all_goals exact .of_leaf rfl

theorem within_compileShape (location : String) (raw : Json) :
    (compileShape scope inner location raw).value.Within (levels + 2) := by
  unfold compileShape
  split
  · exact .of_leaf rfl
  · split
    · exact .of_unionOf (fun _ hschema => of_mem_each hinner hschema) _
    · split
      · exact .of_intersectionOf fun _ hschema => of_mem_each hinner hschema
      · exact (within_compileType hinner location raw _).orNullIf _

end

theorem within_compileLevels (scope : Scope) (levels : Nat) (raw : Json) (location : String) :
    (compileLevels scope levels raw location).value.Within (levels + 1) := by
  -- on the levels that are left: one level takes one more than those below it
  induction levels generalizing raw location with
  | zero => exact .of_leaf rfl
  | succ levels ih =>
    unfold compileLevels
    split
    · exact (within_compileShape ih location _).orNullIf _
    · exact .of_leaf rfl

theorem normal_compileAt (scope : Scope) (depth : Nat) (raw : Json) (location : String) :
    (compileAt scope depth raw location).value.Normal where
  nodes _ hnode := ((compiled_compileAt scope depth raw location).of_hasNode hnode).normalNode
  bounded :=
    (within_compileLevels scope _ raw location).mono
      (Nat.add_le_add_right (Nat.sub_le (maxDepth + 1) depth) 1)

/-- The schemas of a declared type: those of its fields, or the one that it names. -/
def TypeKind.schemas : TypeKind → List Schema
  | .object fields => fields.map (·.schema)
  | .enum _ => []
  | .alias schema => [schema]

theorem normal_compileKind {scope : Scope} {name : String} {raw : Json} {schema : Schema}
    (h : schema ∈ (compileKind scope name raw).value.schemas) : schema.Normal := by
  cases henum : isEnumSchema raw with
  | true =>
    rw [compileKind_enum henum] at h
    cases h
  | false =>
    cases hproperties : raw.get? "properties" with
    | some properties =>
      rw [compileKind_object henum hproperties] at h
      obtain ⟨field, hfield, rfl⟩ := List.mem_map.1 h
      exact of_mem_compileFields (normal_compileAt scope 1) hfield
    | none =>
      have hother : isOwnKind raw = false := by rw [isOwnKind, henum, hproperties]; rfl
      rw [compileKind_alias hother] at h
      rw [List.mem_singleton.1 h]
      exact normal_compileAt scope 0 raw name

/-- Whatever a document declares, the schemas of its compiled types and of its parameters and bodies
are in normal form and have a limited number of levels. -/
theorem compiled_schemas_normal (declared : Dict Json) :
    (∀ raw location, (compileSchema (Scope.of declared) raw location).value.Normal) ∧
      ∀ type ∈ (compile declared).types.values, ∀ schema ∈ type.kind.schemas, schema.Normal := by
  refine ⟨fun raw location => normal_compileAt _ 0 raw location, ?_⟩
  intro type htype schema hschema
  rw [compile, Dict.values_mapValues] at htype
  obtain ⟨⟨name, result⟩, hresult, rfl⟩ := List.mem_map.1 htype
  obtain ⟨⟨_, raw⟩, _, hsame⟩ := List.mem_map.1 hresult
  injection hsame with _ hsame
  rw [← hsame] at hschema
  exact normal_compileKind hschema

def nestedArrays : Nat → Json
  | 0 => .obj [("type", .str "array")]
  | n + 1 => .obj [("type", .str "array"), ("items", nestedArrays n)]

theorem exists_path_nestedArrays (scope : Scope) (levels : Nat) (location : String) :
    ∃ path, (compileLevels scope (levels + 1) (nestedArrays levels) location).value.HasPath path ∧
      pathLevels path = levels + 2 := by
  induction levels with
  | zero => exact ⟨_, .step (List.mem_singleton_self _) (.leaf rfl), rfl⟩
  | succ levels ih =>
    obtain ⟨path, hpath, hlevels⟩ := ih
    have hmade : (compileLevels scope (levels + 2) (nestedArrays (levels + 1)) location).value =
      .array (compileLevels scope (levels + 1) (nestedArrays levels) location).value := rfl
    rw [hmade]
    refine ⟨_, .step (List.mem_singleton_self _) hpath, ?_⟩
    rw [pathLevels] at hlevels ⊢
    rw [List.countP_cons_of_pos rfl, hlevels]

/-- No smaller number of levels would do. -/
theorem levels_reached (scope : Scope) (location : String) :
    ∃ raw path, (compileSchema scope raw location).value.HasPath path ∧
      pathLevels path = maxDepth + 2 :=
  ⟨nestedArrays maxDepth, exists_path_nestedArrays scope maxDepth location⟩

end ClientGen
