import BillOfMaterials.Store.Codec
import BillOfMaterials.Http.Url
import BillOfMaterials.Log.Entry

/-!
# A graph server

A graph database holding the parts as nodes (`id`, `name` and `seq`, any JSON values) and the
children edges (`parent`, `child`, `position`), that can be told to fail any request a store
makes. A failure carries a code and a message, written `Neo4jError: code (message)`.

* connecting: the address must have a supported scheme, and a direct scheme takes no query;
  then the greeting; then two schema statements whose failures are only logged;
* `GraphServer.read`: the parts by `seq`, then the edges whose ends are both parts (every edge
  when the server is `unfiltered`) by the `seq` of the parent and `position`. An id that is not
  a string reads as the empty text, and every id must read as a part id; an edge must start at
  a part read before. A part with no edges has no children list at all;
* `GraphServer.write`: in one transaction, removes every node, then creates the parts with
  `seq` their position and the edges with `position` theirs.
-/

namespace BillOfMaterials

/-- A node of the graph. -/
structure GraphNode where
  id : Json
  name : Json
  seq : Json
  deriving Inhabited

/-- An edge of the graph. -/
structure GraphEdge where
  parent : Json
  child : Json
  position : Json
  deriving Inhabited

/-- The requests a store makes that a server can fail; a read fails when it is run, or with
`Pull` when its records are fetched. -/
inductive GraphStep where
  | hello
  | constraint
  | index
  | readParts
  | readPartsPull
  | readEdges
  | readEdgesPull
  | clear
  | createParts
  | createEdges
  | begin
  | commit
  deriving DecidableEq, Inhabited

/-- A failure a server answers with. -/
structure GraphFailure where
  code : String
  message : String
  deriving DecidableEq, Inhabited

/-- How the client writes a failure. -/
def GraphFailure.render (f : GraphFailure) : String := "Neo4jError: " ++ f.code ++ " (" ++ f.message ++ ")"

/-- A graph server: its contents and the requests it fails. -/
structure GraphServer where
  nodes : List GraphNode := []
  edges : List GraphEdge := []
  /-- Whether the edge query returns edges whose ends are not parts. -/
  unfiltered : Bool := false
  failures : List (GraphStep × GraphFailure) := []
  deriving Inhabited

/-- A JSON number as a fraction: numerator and a power of ten below it; `none` for any other
value. -/
def Json.decimal? : Json → Option (Int × Nat)
  | .number lit =>
    let cs := lit.toList
    let (neg, cs) := if cs.head? = some '-' then (true, cs.drop 1) else (false, cs)
    let digitsOf (ds : List Char) : Nat := ds.foldl (fun acc c => acc * 10 + (c.toNat - '0'.toNat)) 0
    let (mant, expo) : List Char × Int := match cs.span (fun c => c ≠ 'e' && c ≠ 'E') with
      | (m, _ :: '-' :: e) => (m, -(digitsOf e : Int))
      | (m, _ :: '+' :: e) => (m, digitsOf e)
      | (m, _ :: e) => (m, digitsOf e)
      | (m, []) => (m, 0)
    let (whole, frac) := match mant.span (· ≠ '.') with
      | (w, _ :: f) => (w, f)
      | (w, []) => (w, [])
    let digits := digitsOf (whole ++ frac)
    let shift : Int := expo - frac.length
    let shift := max (-400) (min 400 shift)
    let n : Int := if shift ≥ 0 then digits * Int.pow 10 shift.toNat else digits
    let d : Nat := if shift ≥ 0 then 0 else (-shift).toNat
    some (if neg then -n else n, d)
  | _ => none

/-- Orders two sort keys: numbers by value, before anything that is not a number. -/
def sortKeyLe (a b : Json) : Bool :=
  match a.decimal?, b.decimal? with
  | some (x, dx), some (y, dy) => x * Int.pow 10 dy ≤ y * Int.pow 10 dx
  | some _, none => true
  | none, some _ => false
  | none, none => true

/-- The text of a value, the empty text for anything but a string. -/
def Json.textOrEmpty : Json → String
  | .string s => s
  | _ => ""

/-- JSON values compared by their compact text. -/
def Json.same (a b : Json) : Bool := a.render {} == b.render {}

namespace GraphServer

/-- The failure a server gives for a request, if it is told to fail it. -/
def failure? (srv : GraphServer) (k : GraphStep) : Option GraphFailure := srv.failures.lookup k

/-- The first node with an id. -/
def node? (srv : GraphServer) (id : Json) : Option GraphNode := srv.nodes.find? (Json.same ·.id id)

/-- The part query: nodes by `seq`. -/
def partRows (srv : GraphServer) : List GraphNode := srv.nodes.mergeSort fun a b => sortKeyLe a.seq b.seq

/-- The edge query: edges with both ends among the nodes, or every edge when unfiltered, by
the `seq` of the parent, then `position`. -/
def edgeRows (srv : GraphServer) : List GraphEdge :=
  let kept := if srv.unfiltered then srv.edges
    else srv.edges.filter fun e => (srv.node? e.parent).isSome && (srv.node? e.child).isSome
  let seqOf (e : GraphEdge) : Json := ((srv.node? e.parent).map (·.seq)).getD .null
  kept.mergeSort fun a b =>
    if sortKeyLe (seqOf a) (seqOf b) && sortKeyLe (seqOf b) (seqOf a) then
      sortKeyLe a.position b.position
    else sortKeyLe (seqOf a) (seqOf b)

/-- Reads a part id from a record value, naming the field when it does not read. -/
def idOf (key : String) (v : Json) : Except String PartId :=
  let raw := v.textOrEmpty
  (PartId.parse? raw).mapError fun e => "bad " ++ key ++ " " ++ Text.quote raw ++ ": " ++ e.message

/-- Adds a child to the last part of an id. -/
def addChild (parts : List StoredPart) (parent child : PartId) : Option (List StoredPart) :=
  match parts.zipIdx.reverse.find? (·.1.id == parent) with
  | some (p, i) => some (parts.set i { p with children := some (p.children.getD [] ++ [child]) })
  | none => none

/-- Reads the snapshot, in a read transaction. The client sends the transaction's `BEGIN` with
its first query, so a refused `BEGIN` fails that query. -/
def read (srv : GraphServer) : Except String StoredSnapshot := do
  if let some f := srv.failure? .begin then throw ("failed to execute query: " ++ f.render)
  if let some f := srv.failure? .readParts then throw ("failed to execute query: " ++ f.render)
  if let some f := srv.failure? .readPartsPull then throw ("failed to read parts: " ++ f.render)
  let parts ← srv.partRows.mapM fun n => do
    let id ← idOf "id" n.id
    pure ({ id, name := n.name.textOrEmpty } : StoredPart)
  if let some f := srv.failure? .readEdges then throw ("failed to execute query: " ++ f.render)
  if let some f := srv.failure? .readEdgesPull then throw ("failed to read edges: " ++ f.render)
  let parts ← srv.edgeRows.foldlM (fun parts e => do
    let parent ← idOf "parent" e.parent
    let child ← idOf "child" e.child
    match addChild parts parent child with
    | some parts => pure parts
    | none => throw ("edge from unknown part " ++ parent.toString)) parts
  if let some f := srv.failure? .commit then throw f.render
  pure { parts := if parts.isEmpty then none else some parts }

/-- Replaces the graph by a snapshot, in a write transaction whose `BEGIN` goes with its first
statement. -/
def write (srv : GraphServer) (s : Snapshot) : Except String GraphServer := do
  if let some f := srv.failure? .begin then throw ("failed to clear parts: " ++ f.render)
  if let some f := srv.failure? .clear then throw ("failed to clear parts: " ++ f.render)
  if let some f := srv.failure? .createParts then throw ("failed to create parts: " ++ f.render)
  if let some f := srv.failure? .createEdges then throw ("failed to create edges: " ++ f.render)
  if let some f := srv.failure? .commit then throw f.render
  let nodes := s.parts.zipIdx.map fun (p, i) =>
    ({ id := .string p.id.toString, name := .string p.name, seq := .ofNat i } : GraphNode)
  let edges := s.parts.flatMap fun p => p.children.zipIdx.map fun (c, i) =>
    ({ parent := .string p.id.toString, child := .string c.toString, position := .ofNat i } : GraphEdge)
  pure { srv with nodes, edges }

/-- The schema statements a store applies after connecting, in order. -/
def schemaStatements : List (GraphStep × String) :=
  [(.constraint, "CREATE CONSTRAINT part_id_unique IF NOT EXISTS FOR (p:Part) REQUIRE p.id IS UNIQUE"),
   (.index, "CREATE INDEX part_seq IF NOT EXISTS FOR (p:Part) ON (p.seq)")]

/-- Connects to the server at an address: the scheme must be one the client speaks, a direct
scheme takes no query, and the server must accept the greeting. The answer is the warnings a
logger gets for the schema statements that fail. -/
def connect (srv : GraphServer) (uri : String) (logger : Logger) :
    Except String (List LogEntry) := do
  let u ← (Http.Url.parse uri).mapError (·.message)
  let scheme := Http.textOf u.scheme
  if ["bolt", "bolt+unix", "bolt+s", "bolt+ssc"].contains scheme then
    if !u.rawQuery.isEmpty then
      throw ("Routing context is not supported for URL scheme " ++ scheme)
  else if !(["neo4j", "neo4j+s", "neo4j+ssc"].contains scheme) then
    throw ("URI scheme " ++ scheme ++ " is not supported")
  if let some f := srv.failure? .hello then throw ("verify connectivity: " ++ f.render)
  pure (schemaStatements.filterMap fun (k, stmt) => do
    let f ← srv.failure? k
    logger.entry? .warn "Failed to apply neo4j schema statement"
      [("statement", .string stmt), ("error", .string f.render)])

/-- The JSON object of a graph. -/
def toJson (srv : GraphServer) : Json :=
  .object ([("parts", .array (srv.nodes.map fun n =>
      .object [("id", n.id), ("name", n.name), ("seq", n.seq)])),
    ("edges", .array (srv.edges.map fun e =>
      .object [("parent", e.parent), ("child", e.child), ("position", e.position)]))] ++
    if srv.unfiltered then [("unfiltered", .bool true)] else [])

end GraphServer

end BillOfMaterials
