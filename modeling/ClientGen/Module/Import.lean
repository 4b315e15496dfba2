import ClientGen.Domain.Classify
import ClientGen.Module.Path
import ClientGen.Ordered
import ClientGen.Schema.Basic

/-!
# Imports

The references of a module become imports: an identifier and the module that exports it. Imports
are written with one line for each module. Lines and the names on them are sorted.
-/

namespace ClientGen

structure Import where
  name : String
  path : String
deriving DecidableEq, Repr, Inhabited

instance : LT Import := ⟨fun a b => a.name < b.name ∨ (a.name = b.name ∧ a.path < b.path)⟩

instance : DecidableLT Import := fun a b =>
  inferInstanceAs (Decidable (a.name < b.name ∨ (a.name = b.name ∧ a.path < b.path)))

structure ImportLine where
  path : String
  names : List String
deriving DecidableEq, Repr, Inhabited

inductive Binding where
  | validator | type
deriving DecidableEq, Repr, Inhabited

/-- The identifier of a reference, nothing for one that leads nowhere. -/
def Binding.ident? (binding : Binding) (reference : Reference) : Option String :=
  match binding with
  | .validator => if reference.2 = .unresolved then none else some (schemaIdent reference.1)
  | .type => typeIdent? reference.1 reference.2

/-- Where the imports of a run come from. -/
structure Linking where
  domains : DomainMap
  aliasRoot? : Option String
deriving Inhabited

namespace Linking

def import? (linking : Linking) (origin : Origin) (binding : Binding) (reference : Reference) :
    Option Import :=
  (binding.ident? reference).map fun name =>
    { name
      path := modelModule origin (linking.domains.typeDomain reference.1) reference.1
        linking.aliasRoot? }

/-- The imports of some references, in increasing order. -/
def resolve (linking : Linking) (origin : Origin) (binding : Binding)
    (references : List Reference) : List Import :=
  orderedSet (references.filterMap (linking.import? origin binding))

/-- The path of a module named relative to the output folder. -/
def artifact (linking : Linking) (depth : Nat) (target : String) : String :=
  artifactModule depth target linking.aliasRoot?

end Linking

/-- The lines of some imports, by increasing path. -/
def importLines (imports : List Import) : List ImportLine :=
  (orderedSet (imports.map (·.path))).map fun path =>
    { path, names := orderedSet ((imports.filter (·.path = path)).map (·.name)) }

end ClientGen
