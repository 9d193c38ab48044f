import BillOfMaterials.Graph.KeyMap
import BillOfMaterials.Graph.IdSet
import BillOfMaterials.Fault
import BillOfMaterials.Text.Space

/-!
# The part graph

A `Graph` holds the live parts as `Node`s in the order they entered it: the parts of a restored
snapshot in snapshot order, then each created part. Every node carries its id, its unique name,
a sequence number and its children and parents as ordered id sets. Beside the records the graph
keeps a names index, from each name to the id of its part, that the name checks read. A reader
gets a `Part`: a copy of one node's id, name, parents and children.

* `Graph.create` stores a part without edges under a fresh id; a blank name or a name the index
  holds is refused and draws no id;
* `Graph.insert` stores a record and its name in the index; `Graph.delete` removes a record and
  its name only, leaving any edge that points at it dangling (the edge repairing delete is
  `Graph.deleteCascade`);
* `Graph.link` and `Graph.unlink` change both ends of one edge together.
-/

namespace BillOfMaterials

/-- Reads a part id given by a caller; a text that is no id is a rejected value. -/
def PartId.read (s : String) : Except Fault PartId :=
  match PartId.parse? s with
  | .ok id => .ok id
  | .error e => .error (.invalid "part id" e.message)

/-- The copy of a part that a reader gets. -/
structure Part where
  id : PartId
  name : String
  parents : List PartId
  children : List PartId
  deriving DecidableEq, Inhabited

/-- A part has children exactly when it is an assembly. -/
def Part.isAssembly (p : Part) : Bool := !p.children.isEmpty

/-- The record of one live part. -/
structure Node where
  id : PartId
  name : String
  seq : Nat
  children : IdSet := {}
  parents : IdSet := {}
  deriving DecidableEq, Inhabited

/-- The copy of a record. -/
def Node.view (n : Node) : Part := ⟨n.id, n.name, n.parents.toList, n.children.toList⟩

/-- The live parts in the order they entered, the names index, and the last sequence number
handed out. -/
structure Graph where
  nodes : List Node := []
  names : KeyMap String PartId := ∅
  nextSeq : Nat := 0
  deriving Inhabited

namespace Graph

/-- The ids of the live parts, in order. -/
def ids (g : Graph) : List PartId := g.nodes.map (·.id)

/-- The record of a live id. -/
def find? (g : Graph) (id : PartId) : Option Node := g.nodes.find? (·.id == id)

/-- Whether an id is live. -/
def isLive (g : Graph) (id : PartId) : Bool := g.nodes.any (·.id == id)

/-- The record of a live id, or `notFound`. -/
def lookup (g : Graph) (id : PartId) : Except Fault Node :=
  match g.find? id with
  | some n => .ok n
  | none => .error (.notFound id.toString)

/-- The live part of a name. -/
def findName? (g : Graph) (name : String) : Option Node := g.nodes.find? (·.name == name)

/-- The number of live parts. -/
def size (g : Graph) : Nat := g.nodes.length

/-- Copies of every live part, in order. -/
def list (g : Graph) : List Part := g.nodes.map Node.view

/-- A copy of one part. -/
def get (g : Graph) (id : PartId) : Except Fault Part := (g.lookup id).map Node.view

/-- Stores a record under a chosen id with the next sequence number; callers check that id and
name are free. -/
def insert (g : Graph) (id : PartId) (name : String) : Graph :=
  { nodes := g.nodes ++ [{ id, name, seq := g.nextSeq + 1 }], names := g.names.insert name id
    nextSeq := g.nextSeq + 1 }

/-- Draws ids until one is neither nil nor live. The stream gives distinct ids until it comes
round again, so such an id, if the stream has one at all, comes within one draw more than there
are live parts; that many are tried, and `none` means that every id of the stream is taken. -/
def drawFresh (g : Graph) (s : IdStream) : Option (PartId × IdStream) :=
  go (g.size + 1) s
where
  go : Nat → IdStream → Option (PartId × IdStream)
    | 0, _ => none
    | fuel + 1, s =>
      let (id, s') := s.next
      if id == PartId.nil || g.isLive id then go fuel s' else some (id, s')

/-- Creates a part without edges. When every id the stream can give is taken, drawing would go
on for ever; the part is refused instead. -/
def create (g : Graph) (s : IdStream) (name : String) : Except Fault (PartId × Graph × IdStream) :=
  if Text.isBlank name then .error (.invalid "name" "must not be empty")
  else match g.names.lookup name with
    | some existing => .error (.duplicateName name existing.toString)
    | none =>
      match g.drawFresh s with
      | some (id, s') => .ok (id, g.insert id name, s')
      | none => .error (.text "no free part id")

/-- The graph without the record of `id` and without `name` in the index. -/
def erase (g : Graph) (id : PartId) (name : String) : Graph :=
  { g with nodes := g.nodes.filter (·.id != id), names := g.names.erase name }

/-- Removes the record of a live part and its name from the index, and nothing else. -/
def delete (g : Graph) (id : PartId) : Except Fault Graph := do
  let n ← g.lookup id
  pure (g.erase id n.name)

/-- Copies of the parts of a list of ids; an id that is not live is a broken reference. -/
def views (g : Graph) (ids : List PartId) : Except Fault (List Part) :=
  ids.mapM fun id =>
    match g.lookup id with
    | .ok n => .ok n.view
    | .error e => .error (.internal "dangling reference" (some e))

/-- Applies `f` to the record of `id`. -/
def modify (g : Graph) (id : PartId) (f : Node → Node) : Graph :=
  { g with nodes := g.nodes.map fun n => if n.id == id then f n else n }

/-- Adds the edge from `parent` to `child` at both ends. -/
def link (g : Graph) (parent child : PartId) : Graph :=
  (g.modify parent fun n => { n with children := (n.children.add child).2 }).modify child
    fun n => { n with parents := (n.parents.add parent).2 }

/-- Removes the edge from `parent` to `child` at both ends. -/
def unlink (g : Graph) (parent child : PartId) : Graph :=
  (g.modify parent fun n => { n with children := (n.children.remove child).2 }).modify child
    fun n => { n with parents := (n.parents.remove parent).2 }

end Graph

end BillOfMaterials
