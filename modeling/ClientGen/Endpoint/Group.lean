import ClientGen.Api.Operation
import ClientGen.Api.Path
import ClientGen.Dict

/-!
# Groups of endpoints

An endpoint is one method on one path. Endpoints are grouped by the path segment that follows the
base path, in the order in which the document first reaches each group. A group has an endpoint for
each method on each path: of two for the same the later one counts, in the place of the earlier.
-/

namespace ClientGen

open Api

structure Entry where
  path : String
  method : Method
  operation : Operation
deriving Inhabited

abbrev Call : Type := String × Method

def Entry.call (entry : Entry) : Call := (entry.path, entry.method)

/-- The endpoints that share a group segment. -/
structure Group where
  key : String
  entries : List Entry
deriving Inhabited

def fallbackGroup : String := "api"

/-- The group of a path: its segment after `depth` others, without braces. -/
def groupKey (path : String) (depth : Nat) : String :=
  match (pieces path)[1 + depth]? with
  | none => fallbackGroup
  | some piece => if bareSegment piece = "" then fallbackGroup else bareSegment piece

def Api.Route.entries (route : Route) : List Entry :=
  route.operations.map fun (method, operation) => { path := route.path, method, operation }

def addRoute (depth : Nat) (groups : Dict (List Entry)) (route : Route) : Dict (List Entry) :=
  let key := groupKey route.path depth
  groups.insert key (mergeByKey Entry.call ((groups.get? key).getD []) route.entries)

def groupRoutes (depth : Nat) (routes : List Route) : List Group :=
  (routes.foldl (addRoute depth) .empty).entries.map fun (key, entries) => { key, entries }

end ClientGen
