import ClientGen.Pattern.Expand
import ClientGen.Pattern.Reader
import ClientGen.Text.Tag
import ClientGen.Text.Words

/-!
# Domains by name

A list of name patterns places types whose names give their domain away. The first pattern that
matches and yields a domain decides; a domain may be put together from the groups of the match.
-/

namespace ClientGen

/-- A name pattern and the domain of the names that match it. -/
structure DomainPattern where
  pattern : String
  domain : String
deriving DecidableEq, Repr, Inhabited

/-- A name pattern, read: what it makes of a name, before that is cleaned, and nothing where the
name does not match. -/
structure DomainRule where
  expand? : String → Option String

/-- The patterns for names that carry the module of their schema. -/
def defaultDomainPatterns : List DomainPattern :=
  [⟨"^app__schemas__([a-z_]+?)_schemas__", "$1"⟩, ⟨"^App_schemas_([a-z]+?)Schemas_", "$1"⟩]

def DomainPattern.rule? (p : DomainPattern) : Option DomainRule :=
  (NamedPattern.read? p.pattern).map fun pattern =>
    { expand? := fun name => (pattern.pattern.search name).map (pattern.expand · p.domain) }

/-- Reads name patterns, up to the first that cannot be read. -/
def readDomainPatterns (patterns : List DomainPattern)
    (rule? : DomainPattern → Option DomainRule := DomainPattern.rule?) :
    Except DomainPattern (List DomainRule) :=
  match patterns with
  | [] => .ok []
  | p :: rest =>
    match rule? p with
    | none => .error p
    | some rule => (readDomainPatterns rest rule?).map (rule :: ·)

def DomainRule.domain? (rule : DomainRule) (name : String) : Option String :=
  match rule.expand? name with
  | none => none
  | some text =>
    let domain := Text.normalizeTag (String.intercalate " " (Text.words text))
    if domain = "" then none else some domain

/-- The domain that the first deciding pattern gives a name. -/
def domainByName? (rules : List DomainRule) (name : String) : Option String :=
  rules.findSome? (·.domain? name)

end ClientGen
