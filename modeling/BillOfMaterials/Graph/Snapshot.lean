import BillOfMaterials.Graph.Edges
import BillOfMaterials.Graph.Invariants

/-!
# Snapshots

A `Snapshot` is the whole graph as data: the parts in the order they entered, each with its id,
name and children; parents follow from children.

* `Graph.snapshot`: the snapshot of a graph;
* `Snapshot.build`: the graph of a snapshot, refused when it would break an invariant of the
  graph. The checks run in a fixed order and the first that fails is the answer: per part, an
  id, a new id, a name that is not blank, a name the index does not hold; then per part and
  child, no part its own child and every child a part of the snapshot; then no cycle
  (`Graph.findCycle`), and last the invariant check (`Graph.checkInvariants`).
-/

namespace BillOfMaterials

/-- One part of a snapshot. -/
structure SnapshotPart where
  id : PartId
  name : String
  children : List PartId
  deriving DecidableEq, Inhabited

/-- The whole graph as data. -/
structure Snapshot where
  parts : List SnapshotPart := []
  deriving DecidableEq, Inhabited

/-- The number of edges of a snapshot. -/
def Snapshot.edgeCount (s : Snapshot) : Nat := s.parts.foldr (fun p n => p.children.length + n) 0

namespace Graph

/-- The snapshot of a graph. -/
def snapshot (g : Graph) : Snapshot :=
  ⟨g.nodes.map fun n => ⟨n.id, n.name, n.children.toList⟩⟩

end Graph

namespace Snapshot

/-- Adds the part at position `i` of a snapshot, with no edges, after checking its id and
name. -/
def addPart (g : Graph) (p : SnapshotPart) (i : Nat) : Except Fault Graph := do
  if p.id == PartId.nil then
    throw (.invalid "snapshot" ("part " ++ toString i ++ " has no id"))
  if g.isLive p.id then
    throw (.invalid "snapshot" ("duplicate part id " ++ p.id.toString))
  if Text.isBlank p.name then
    throw (.invalid "snapshot" ("part " ++ p.id.toString ++ " has an empty name"))
  match g.names.lookup p.name with
  | some existing => throw (.duplicateName p.name existing.toString)
  | none => pure (g.insert p.id p.name)

/-- Adds the edge from a part of a snapshot to one of its children, after checking it. -/
def addEdge (p : SnapshotPart) (g : Graph) (c : PartId) : Except Fault Graph := do
  if c == p.id then
    throw (.invalid "snapshot" ("part " ++ p.id.toString ++ " is its own child"))
  if !g.isLive c then throw (.notFound c.toString)
  pure (g.link p.id c)

/-- The graph of a snapshot, or the first check it fails. -/
def build (s : Snapshot) : Except Fault Graph := do
  let g ← s.parts.zipIdx.foldlM (fun g (p, i) => addPart g p i) {}
  let g ← s.parts.foldlM (fun g p => p.children.foldlM (addEdge p) g) g
  match g.findCycle with
  | some id => throw (.cycle id.toString id.toString)
  | none => pure ()
  g.checkInvariants
  pure g

end Snapshot

end BillOfMaterials
