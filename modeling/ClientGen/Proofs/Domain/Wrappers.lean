import ClientGen.Proofs.Domain.Evidence

/-!
# Whom wrappers follow

The wrappers are assigned once, in declaration order, between the direct pass and adoption. What a
wrapper finds when its turn comes is settled by then: the direct domains of all types that wrap
nothing, wherever they are declared, and those of the wrappers in front of it. A wrapper follows
what it wraps if that has a domain among these. What adoption places hands nothing on to it, nor
does an untagged wrapper behind it.
-/

namespace ClientGen
open Api

def plainNames (types : Dict Json) : List String :=
  (types.entries.filter fun entry => (wrappedType? entry.2).isNone).map Prod.fst

section
variable {routes : List Route} {rules : List DomainRule} {types : Dict Json}
  {name : String} {schema : Json}

variable {wrapped : String}

end

section
variable {routes : List Route} {rules : List DomainRule} {types : Dict Json}
  {name wrapped : String} {schema : Json}

end

end ClientGen
