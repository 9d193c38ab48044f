import BillOfMaterials.Graph.Filter
import BillOfMaterials.Graph.Snapshot
import BillOfMaterials.Graph.Closure
import BillOfMaterials.Graph.Edit

/-!
# The engine

The `Engine` is what requests act on: a graph, the stream its new ids come from, and a change
hook that hears of every successful create, delete and update (never of a restore, whose data
comes from a store, nor of a read). A failing call changes nothing.

* mutations: `createPart`, `deletePart`, `updateChildren`, `restore`;
* reads: `getPart`, `listParts`, `listChildren`, `contained`, `listDescendants`, `snapshot`,
  `stats`, `checkInvariants`;
* the mutations as the service makes them, in place and step by step (`editCreate`,
  `editDelete`, `editChildren`, `editRestore`), which `Engine.run` carries out.
-/

namespace BillOfMaterials

/-- The number of parts of each kind. -/
structure Stats where
  parts : Nat := 0
  edges : Nat := 0
  topLevel : Nat := 0
  subassembly : Nat := 0
  component : Nat := 0
  orphan : Nat := 0
  deriving DecidableEq, Inhabited

/-- A graph with its id stream and change hook. -/
structure Engine where
  graph : Graph := {}
  ids : IdStream := {}
  /-- Whether a change hook is installed. -/
  hooked : Bool := true
  /-- How often the hook has fired. -/
  changes : Nat := 0
  deriving Inhabited

namespace Engine

/-- A fresh engine drawing ids from `ids`. -/
def fresh (ids : IdStream) : Engine := { ids }

/-- Removes the change hook. -/
def clearHook (e : Engine) : Engine := { e with hooked := false }

/-- Fires the change hook, if one is installed. -/
def changed (e : Engine) : Engine := if e.hooked then { e with changes := e.changes + 1 } else e

/-- Adds a part with no edges. -/
def createPart (e : Engine) (name : String) : Except Fault (Part × Engine) := do
  let (id, g, ids) ← e.graph.create e.ids name
  let p ← g.get id
  pure (p, changed { e with graph := g, ids })

/-- A copy of one part. -/
def getPart (e : Engine) (id : PartId) : Except Fault Part := e.graph.get id

/-- Removes a part and every edge at it; the answer is the part as it was just before. -/
def deletePart (e : Engine) (id : PartId) : Except Fault (Part × Engine) := do
  let p ← e.graph.get id
  let g ← e.graph.deleteCascade id
  pure (p, changed { e with graph := g })

/-- The parts a filter admits, in the order they entered. -/
def listParts (e : Engine) (f : Filter) : List Part := e.graph.listParts f

/-- The children of a part that a filter admits. -/
def listChildren (e : Engine) (id : PartId) (f : Filter) : Except Fault (List Part) :=
  e.graph.listChildren id f

/-- Changes the children of a part; the answer is the part after the change. -/
def updateChildren (e : Engine) (id : PartId) (action : Action) (children : List PartId) :
    Except Fault (Part × Engine) := do
  let g ← e.graph.updateChildren id action children
  let p ← g.get id
  pure (p, changed { e with graph := g })

/-- Every assembly that includes a part, nearest first. -/
def contained (e : Engine) (id : PartId) : Except Fault (List Part) := do
  e.graph.views (← e.graph.contained id)

/-- Every part below a part that a filter admits, nearest first. -/
def listDescendants (e : Engine) (id : PartId) (f : Filter) : Except Fault (List Part) := do
  let parts ← e.graph.views (← e.graph.descendants id)
  pure (parts.filter f.admitsPart)

/-- The whole graph as data. -/
def snapshot (e : Engine) : Snapshot := e.graph.snapshot

/-- Replaces the graph by that of a snapshot, or keeps it when the snapshot is refused. -/
def restore (e : Engine) (s : Snapshot) : Except Fault Engine := do
  let g ← s.build
  pure { e with graph := g }

/-! ## The mutations in place -/

section Edits

variable {α : Type}

/-- Runs an edit of the graph inside the engine. -/
def onGraph (m : Edit Graph α) : Edit Engine α :=
  Edit.focus (·.graph) (fun e g => { e with graph := g }) m

/-- Adds a part in place: the repository's create, the read of the new part, the change hook. -/
def editCreate (name : String) : Edit Engine Part := do
  let id ← Edit.focus (fun e => (e.graph, e.ids)) (fun e gs => { e with graph := gs.1, ids := gs.2 })
    (Graph.editCreate name)
  let p ← Edit.read (·.getPart id)
  Edit.write changed
  pure p

/-- Removes a part in place: the read of the part, the edge manager's cascade, the change hook. -/
def editDelete (id : PartId) : Edit Engine Part := do
  let p ← Edit.read (·.getPart id)
  onGraph (Graph.editCascade id)
  Edit.write changed
  pure p

/-- Changes children in place: the edge manager's change, the read of the part, the change
hook. -/
def editChildren (id : PartId) (action : Action) (children : List PartId) : Edit Engine Part := do
  onGraph (Graph.editChildren id action children)
  let p ← Edit.read (·.getPart id)
  Edit.write changed
  pure p

/-- Restores in place: the graph is built aside from the snapshot, then installed. -/
def editRestore (s : Snapshot) : Edit Engine Unit := do
  let g ← Edit.read fun _ => s.build
  Edit.write fun e => { e with graph := g }

end Edits

/-- Counts the parts of each category and the edges. -/
def stats (e : Engine) : Stats :=
  e.graph.nodes.foldl (fun st n =>
    let st := { st with parts := st.parts + 1, edges := st.edges + n.children.size }
    match Filter.category n.parents.size n.children.size with
    | .topLevel => { st with topLevel := st.topLevel + 1 }
    | .subassembly => { st with subassembly := st.subassembly + 1 }
    | .component => { st with component := st.component + 1 }
    | _ => { st with orphan := st.orphan + 1 }) {}

/-- The first broken invariant of the graph, if any. -/
def checkInvariants (e : Engine) : Except Fault Unit := e.graph.checkInvariants

end Engine

end BillOfMaterials
