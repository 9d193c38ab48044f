import BillOfMaterials.Graph.Basic

/-!
# Closures

The parts that contain a part, directly or through subassemblies, and the parts below it.
Both are found breadth first from the part: the parts at distance one in list order, then
those at distance two, and so on, each once, the part itself never.

* `Graph.contained`: the ancestors, over parents lists;
* `Graph.descendants`: the descendants, over children lists.
-/

namespace BillOfMaterials

namespace Graph

/-- A reference to a part that is not live, met during a walk. -/
def danglingInWalk (id : PartId) : Fault :=
  .internal "dangling reference during traversal" (some (.notFound id.toString))

/-- Breadth-first walk. `pending` holds the neighbours of the part being expanded that are not
yet looked at, `queue` the parts found but not expanded, `unvisited` the live ids not yet
found, and `found` the ids found so far, in order. -/
def walkFrom (g : Graph) (next : Node → List PartId) (unvisited : List PartId) (queue : List Node)
    (found : List PartId) : List PartId → Except Fault (List PartId)
  | id :: pending =>
    if _fresh : id ∈ unvisited then
      match g.find? id with
      | some n => walkFrom g next (unvisited.erase id) (queue ++ [n]) (found ++ [id]) pending
      | none => .error (danglingInWalk id)
    else if g.isLive id then walkFrom g next unvisited queue found pending
    else .error (danglingInWalk id)
  | [] =>
    match queue with
    | [] => .ok found
    | n :: rest => walkFrom g next unvisited rest found (next n)
termination_by pending => (unvisited.length, queue.length, pending.length)
decreasing_by
  · have h1 := List.length_erase_of_mem _fresh
    have h2 := List.length_pos_of_mem _fresh
    exact Prod.Lex.left _ _ (by omega)
  · exact Prod.Lex.right _ (Prod.Lex.right _ (by simp))
  · exact Prod.Lex.right _ (Prod.Lex.left _ _ (by simp))

/-- The ids reached from a live part over `next`, breadth first, without the part itself. -/
def walk (g : Graph) (start : PartId) (next : Node → List PartId) : Except Fault (List PartId) := do
  let n ← g.lookup start
  g.walkFrom next (g.ids.erase start) [n] [] []

/-- Every part that contains `id`, nearest first. -/
def contained (g : Graph) (id : PartId) : Except Fault (List PartId) :=
  g.walk id (·.parents.toList)

/-- Every part below `id`, nearest first. -/
def descendants (g : Graph) (id : PartId) : Except Fault (List PartId) :=
  g.walk id (·.children.toList)

end Graph

end BillOfMaterials
