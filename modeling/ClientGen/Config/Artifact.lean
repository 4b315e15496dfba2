import ClientGen.Text.Trim

/-!
# Kinds of generated artifacts

Every generated file is an artifact of one kind. A run emits the kinds in a fixed order.
-/

namespace ClientGen

inductive ArtifactKind where
  | models | services | thunks | slices | params | tags | hooks | store
deriving DecidableEq, Repr, Inhabited

namespace ArtifactKind

def all : List ArtifactKind :=
  [.models, .params, .services, .thunks, .slices, .tags, .hooks, .store]

def name : ArtifactKind → String
  | .models => "models"
  | .services => "services"
  | .thunks => "thunks"
  | .slices => "slices"
  | .params => "params"
  | .tags => "tags"
  | .hooks => "hooks"
  | .store => "store"

def ofName? (name : String) : Option ArtifactKind := all.find? fun kind => kind.name = name

/-- The form of a name on a command line that is looked up: in lower case, without white space
around it. -/
def spokenName (text : String) : String := Unicode.lowercaseText (Text.trim text)

def ofSpoken? (text : String) : Option ArtifactKind := ofName? (spokenName text)

end ArtifactKind

end ClientGen
