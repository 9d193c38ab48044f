import BillOfMaterials.Http.Url

/-!
# Routes

Each method has a tree of routes, the one a radix router builds from the registered
patterns: a static node holds a run of path bytes, its children keyed by their first byte, and
at most one parameter child; a parameter node takes the bytes up to the next slash (possibly
none) and may go on into one static child.

`RouteTree.lookup` walks a tree along a path. It finds the endpoint whose pattern the path
matches with the parameters taken on the way, or else tells whether the same path with one
trailing slash more or less would be worth a redirect. That advice is the router's own
heuristic, read off the node where the walk stopped; it is not a second lookup, and it may
advise a path that itself matches nothing.

No node of these trees has both static children and a parameter child, so the walk never has
to back out of a static child to try a parameter.
-/

namespace BillOfMaterials

open Http

/-- The endpoints of the service. -/
inductive Endpoint where
  | index
  | health
  | metrics
  | listParts
  | createPart
  | getPart
  | deletePart
  | getChildren
  | updateChildren
  | getContained
  | getDescendants
  deriving DecidableEq, Inhabited

/-- The pattern an endpoint was registered under, as request metrics name its route. -/
def Endpoint.pattern : Endpoint → String
  | .index => "/"
  | .health => "/health"
  | .metrics => "/metrics"
  | .listParts | .createPart => "/v1/parts"
  | .getPart | .deletePart => "/v1/parts/:id"
  | .getChildren | .updateChildren => "/v1/parts/:id/children"
  | .getContained => "/v1/parts/:id/contained"
  | .getDescendants => "/v1/parts/:id/descendants"

mutual

/-- A node of a route tree. -/
inductive RouteTree where
  /-- A run of path bytes; whether it is the root; the endpoint ending here; the static
  children; the parameter child, the only tree of `wild` if there is one. -/
  | static (run : List UInt8) (root : Bool) (endpoint : Option Endpoint)
      (children : RouteForest) (wild : RouteForest)
  /-- A parameter; the endpoint ending here; the static node after it, the only tree of
  `next` if there is one. -/
  | param (name : String) (endpoint : Option Endpoint) (next : RouteForest)

/-- The children of a node, in order. -/
inductive RouteForest where
  | nil
  | cons (t : RouteTree) (rest : RouteForest)

end

instance : Inhabited RouteTree := ⟨.param "" none .nil⟩

/-- What a walk found: the endpoint and its parameters, or whether to redirect. -/
structure RouteMatch where
  endpoint : Option Endpoint := none
  params : List (String × List UInt8) := []
  redirect : Bool := false
  deriving Inhabited

/-- The trees of a forest, in order. -/
def RouteForest.toList : RouteForest → List RouteTree
  | .nil => []
  | .cons t rest => t :: rest.toList

/-- A forest of the trees of a list. -/
def RouteForest.ofList : List RouteTree → RouteForest
  | [] => .nil
  | t :: ts => .cons t (ofList ts)

namespace RouteTree

/-- The first byte of a node's run. -/
def first? : RouteTree → Option UInt8
  | .static run _ _ _ _ => run.head?
  | .param _ _ _ => some (byte ':')

/-- Whether a node is the one-slash leaf that ends a route, or an empty node leading only to a
slash: a path missing that slash is worth a redirect. -/
def endsWithSlash : RouteTree → Bool
  | .static run _ endpoint children _ =>
    (run = [byte '/'] && endpoint.isSome) ||
      (run.isEmpty && children.toList.map first? = [some (byte '/')])
  | .param _ _ _ => false

/-- Whether the child starting with a slash is a one-slash leaf ending a route. -/
def slashLeaf (children : RouteForest) : Bool :=
  match children.toList.find? (·.first? = some (byte '/')) with
  | some (.static run _ endpoint _ _) => run.length = 1 && endpoint.isSome
  | _ => false

/-- What a static node answers when the path does not go past its run: its endpoint when the
path is the run, else whether the path with one trailing slash more or less is worth a
redirect. -/
def staticMatch (run : List UInt8) (root : Bool) (endpoint : Option Endpoint)
    (children wild : RouteForest) (path : List UInt8) : RouteMatch :=
  if path = run then
    if endpoint.isSome then { endpoint }
    else if path = [byte '/'] && wild.toList.length = 1 && !root then { redirect := true }
    else if path = [byte '/'] && !root then { redirect := true }
    else { redirect := slashLeaf children }
  else
    { redirect := path = [byte '/'] ||
        (run.length = path.length + 1 && run.getLast? = some (byte '/') &&
          path = run.dropLast && endpoint.isSome) }

/-- What a parameter answers when the path ends with its value. -/
def paramMatch (endpoint : Option Endpoint) (next : RouteForest) : RouteMatch :=
  if endpoint.isSome then { endpoint }
  else
    match next with
    | .cons n _ => { redirect := n.endsWithSlash }
    | .nil => {}

mutual

/-- Walks a tree along a path. -/
def lookup : RouteTree → List UInt8 → RouteMatch
  | .static run root endpoint children wild, path =>
    if run.length < path.length && run.isPrefixOf path then
      lookupChild children (path.drop run.length)
        (lookupWild endpoint wild (path.drop run.length))
    else staticMatch run root endpoint children wild path
  | .param name endpoint next, path =>
    let value := path.takeWhile (· ≠ byte '/')
    let found : RouteMatch :=
      if (path.drop value.length).isEmpty then paramMatch endpoint next
      else lookupNext next (path.drop value.length)
    { found with params := (name, value) :: found.params }

/-- Walks the rest of a path into the parameter child of a static node, or, without one, tells
whether the rest is the one slash a redirect would drop. -/
def lookupWild (endpoint : Option Endpoint) : RouteForest → List UInt8 → RouteMatch
  | .cons p _, rest => lookup p rest
  | .nil, rest => { redirect := rest = [byte '/'] && endpoint.isSome }

/-- Walks the rest of a path after a parameter into the static node that follows it. -/
def lookupNext : RouteForest → List UInt8 → RouteMatch
  | .cons n _, rest => lookup n rest
  | .nil, rest => { redirect := rest.length = 1 }

/-- Walks into the child whose run starts with the first byte of the path, or gives `other`
when there is none. -/
def lookupChild : RouteForest → List UInt8 → RouteMatch → RouteMatch
  | .nil, _, other => other
  | .cons t ts, path, other =>
    if t.first? = path.head? then lookup t path else lookupChild ts path other

end

end RouteTree

/-- A static leaf ending at an endpoint. -/
def leaf (run : String) (e : Endpoint) : RouteTree := .static (bytesOf run) false (some e) .nil .nil

/-- A static node without endpoint. -/
def inner (run : String) (children : List RouteTree) (wild : Option RouteTree) : RouteTree :=
  .static (bytesOf run) false none (.ofList children) (.ofList wild.toList)

/-- The routes of `GET`. -/
def getRoutes : RouteTree :=
  .static (bytesOf "/") true (some .index)
    (.ofList [leaf "health" .health, leaf "metrics" .metrics,
      .static (bytesOf "v1/parts") false (some .listParts)
        (.ofList [inner "/" []
          (some (.param "id" (some .getPart)
            (.ofList [inner "/"
              [inner "c" [leaf "hildren" .getChildren, leaf "ontained" .getContained] none,
               leaf "descendants" .getDescendants] none])))])
        .nil])
    .nil

/-- The routes of `POST`. -/
def postRoutes : RouteTree :=
  .static (bytesOf "/v1/parts") true (some .createPart)
    (.ofList [inner "/" [] (some (.param "id" none (.ofList [leaf "/children" .updateChildren])))])
    .nil

/-- The routes of `DELETE`. -/
def deleteRoutes : RouteTree :=
  .static (bytesOf "/v1/parts/") true none .nil (.ofList [.param "id" (some .deletePart) .nil])

/-- The route tree of a method, if it has routes. -/
def routesFor : String → Option RouteTree
  | "GET" => some getRoutes
  | "POST" => some postRoutes
  | "DELETE" => some deleteRoutes
  | _ => none

end BillOfMaterials
