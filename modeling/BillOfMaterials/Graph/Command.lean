import BillOfMaterials.Graph.Filter
import BillOfMaterials.Graph.Edit
import BillOfMaterials.Graph.Closure

/-!
# Commands on a bare graph

The graph's own operations, below the engine: a record `delete` that repairs no edge sits
beside the edge manager's `cascade`, so a graph can hold references to parts that are gone,
and the readers then meet them. A `GraphCommand` spells one call with ids as texts;
`Graph.run` carries it out.
-/

namespace BillOfMaterials

/-- A call on a bare graph, with ids as texts. -/
inductive GraphCommand where
  | create (name : String)
  | get (id : String)
  | delete (id : String)
  | list
  | size
  | parts (filter : Filter)
  | children (id : String) (filter : Filter)
  | update (id : String) (action : Action) (children : List String)
  | cascade (id : String)
  | contained (id : String)
  | descendants (id : String)
  deriving Inhabited

/-- What a successful call on a bare graph answers. -/
inductive GraphReply where
  | id (id : PartId)
  | part (p : Part)
  | parts (ps : List Part)
  | count (n : Nat)
  | ids (ids : List PartId)
  | done
  deriving Inhabited

namespace Graph

/-- Carries out an edit of the graph: `done` or its fault, with the graph the edit leaves, also
when it stops at a fault. -/
def runEdit (g : Graph) (s : IdStream) (m : Edit Graph Unit) :
    Except Fault GraphReply × Graph × IdStream :=
  match m.run g with
  | .ok () g' => (.ok .done, g', s)
  | .error f g' => (.error f, g', s)

/-- Carries out one call; `s` is the stream new ids come from. -/
def run (g : Graph) (s : IdStream) : GraphCommand → Except Fault GraphReply × Graph × IdStream
  | .create name =>
    match (editCreate name).run (g, s) with
    | .ok id (g', s') => (.ok (.id id), g', s')
    | .error f (g', s') => (.error f, g', s')
  | .get id => ((do pure (.part (← g.get (← PartId.read id)))), g, s)
  | .delete id => g.runEdit s (do editDelete (← Edit.read fun _ => PartId.read id))
  | .list => (.ok (.parts g.list), g, s)
  | .size => (.ok (.count g.size), g, s)
  | .parts f => (.ok (.parts (g.listParts f)), g, s)
  | .children id f => ((do pure (.parts (← g.listChildren (← PartId.read id) f))), g, s)
  | .update id action children =>
    g.runEdit s (do
      editChildren (← Edit.read fun _ => PartId.read id) action
        (← Edit.read fun _ => children.mapM PartId.read))
  | .cascade id => g.runEdit s (do editCascade (← Edit.read fun _ => PartId.read id))
  | .contained id => ((do pure (.ids (← g.contained (← PartId.read id)))), g, s)
  | .descendants id => ((do pure (.ids (← g.descendants (← PartId.read id)))), g, s)

/-- Carries out calls in order. -/
def runAll (g : Graph) (s : IdStream) : List GraphCommand → List (Except Fault GraphReply) × Graph
  | [] => ([], g)
  | c :: cs =>
    let (r, g, s) := g.run s c
    let (rs, g) := g.runAll s cs
    (r :: rs, g)

end Graph

end BillOfMaterials
