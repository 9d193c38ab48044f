import BillOfMaterials.Graph.Basic

/-!
# The invariant check

The check reads the repository as data: the parts map, from each key to the record stored under
it, and the names index. It sweeps the records for one stored under another id, a blank or
shared name, a name the index does not point at the record, a part its own child, an edge to a
part that is not stored or not mirrored at its other end; then it compares the size of the index
with the number of names met, and last looks for a cycle.

* `Graph.findCycle`: a part on a cycle of children edges, if there is one, found by a
  three-colour depth-first search from the parts in order;
* `Repository.checkInvariants`: the first broken invariant of a repository, as an internal fault;
* `Graph.repository`: the repository of a graph, each record stored under its own id, and
  `Graph.checkInvariants` its check.

A missing index entry reads as the nil id, so the index check alone passes a record whose id
is nil; the size comparison is what finds an index entry no record accounts for.
-/

namespace BillOfMaterials

namespace Graph

/-- The total of children not yet looked at, plus one per frame. -/
def frameWeight : List (PartId × List PartId) → Nat
  | [] => 0
  | f :: frames => f.2.length + 1 + frameWeight frames

/-- Three-colour depth-first search. `unseen` holds the live ids not yet reached, `grey` those
on the current path, and each frame a part on the path with its children not yet looked at;
`roots` are the parts still to start from. A child that is grey closes a cycle. -/
def cycleFrom (g : Graph) (unseen grey : List PartId) (roots : List Node) :
    List (PartId × List PartId) → Option PartId
  | [] =>
    match roots with
    | [] => none
    | r :: rs =>
      if _fresh : r.id ∈ unseen then
        cycleFrom g (unseen.erase r.id) (r.id :: grey) rs [(r.id, r.children.toList)]
      else cycleFrom g unseen grey rs []
  | (id, []) :: frames => cycleFrom g unseen (grey.erase id) roots frames
  | (id, c :: cs) :: frames =>
    if c ∈ grey then some c
    else if _fresh : c ∈ unseen then
      match g.find? c with
      | some n =>
        cycleFrom g (unseen.erase c) (c :: grey) roots ((c, n.children.toList) :: (id, cs) :: frames)
      | none => cycleFrom g unseen grey roots ((id, cs) :: frames)
    else cycleFrom g unseen grey roots ((id, cs) :: frames)
termination_by frames => (unseen.length, roots.length, frameWeight frames)
decreasing_by
  · have h1 := List.length_erase_of_mem _fresh
    have h2 := List.length_pos_of_mem _fresh
    exact Prod.Lex.left _ _ (by omega)
  · exact Prod.Lex.right _ (Prod.Lex.left _ _ (by simp))
  · exact Prod.Lex.right _ (Prod.Lex.right _ (by simp [frameWeight]))
  · have h1 := List.length_erase_of_mem _fresh
    have h2 := List.length_pos_of_mem _fresh
    exact Prod.Lex.left _ _ (by omega)
  · exact Prod.Lex.right _ (Prod.Lex.right _ (by simp [frameWeight]))
  · exact Prod.Lex.right _ (Prod.Lex.right _ (by simp [frameWeight]))

/-- A part on a cycle of children edges, if there is one. -/
def findCycle (g : Graph) : Option PartId := g.cycleFrom g.ids [] g.nodes []

end Graph

/-- The repository as the invariant check reads it: the parts map, from each key to the record
stored under it, and the names index. -/
structure Repository where
  parts : KeyMap PartId Node
  names : KeyMap String PartId

namespace Repository

/-- Puts a record before the first one with a larger sequence number. -/
def insertBySeq (n : Node) : List Node → List Node
  | [] => [n]
  | m :: ms => if n.seq ≤ m.seq then n :: m :: ms else m :: insertBySeq n ms

/-- The records in the order of their sequence numbers, the order the cycle search starts from
them in. -/
def records (r : Repository) : List Node := (r.parts.entries.map (·.2)).foldr insertBySeq []

/-- The records as a graph, for the cycle search. -/
def graph (r : Repository) : Graph := { nodes := r.records, names := r.names }

/-- The first broken invariant of a repository. Each record is checked under its key: stored
under its own id, a name that is not blank and not met before, the index pointing the name at
the key, children other than itself that are stored and list it as a parent, parents that are
stored and list it as a child. Then the index must hold as many names as were met, and no cycle
may be found. -/
def checkInvariants (r : Repository) : Except Fault Unit := do
  let expect (ok : Bool) (m : String) : Except Fault Unit :=
    if ok then pure () else throw (.internal m none)
  let seen ← r.parts.entries.foldlM (fun (seen : List (String × PartId)) s => do
    let id := s.1
    let n := s.2
    expect (n.id == id) ("part " ++ n.id.toString ++ " stored under " ++ id.toString)
    expect (!Text.isBlank n.name) ("part " ++ id.toString ++ " has a blank name")
    (match seen.lookup n.name with
      | some other =>
        expect false ("name " ++ Text.quote n.name ++ " shared by " ++ other.toString ++ " and " ++
          id.toString)
      | none => pure ())
    let indexed := (r.names.lookup n.name).getD PartId.nil
    expect (indexed == id) ("name index for " ++ Text.quote n.name ++ " points at " ++
      indexed.toString ++ ", want " ++ id.toString)
    n.children.toList.forM fun cid => do
      expect (cid != id) ("part " ++ id.toString ++ " is its own child")
      match r.parts.lookup cid with
      | none => expect false ("part " ++ id.toString ++ " lists unknown child " ++ cid.toString)
      | some c =>
        expect (c.parents.has id) ("child " ++ cid.toString ++ " does not list parent " ++
          id.toString)
    n.parents.toList.forM fun pid =>
      match r.parts.lookup pid with
      | none => expect false ("part " ++ id.toString ++ " lists unknown parent " ++ pid.toString)
      | some p =>
        expect (p.children.has id) ("parent " ++ pid.toString ++ " does not list child " ++
          id.toString)
    pure ((n.name, id) :: seen)) []
  expect (seen.length == r.names.entries.length) "name index out of sync with parts"
  match r.graph.findCycle with
  | some id => expect false ("cycle detected involving part " ++ id.toString)
  | none => pure ()

end Repository

namespace Graph

/-- The repository of a graph: each record stored under its own id, and the graph's names
index. -/
def repository (g : Graph) : Repository :=
  ⟨KeyMap.ofList (g.nodes.map fun n => (n.id, n)), g.names⟩

/-- The first broken invariant of a graph's repository. -/
def checkInvariants (g : Graph) : Except Fault Unit := g.repository.checkInvariants

end Graph

end BillOfMaterials
