import BillOfMaterials.Graph.Edges

/-!
# Changes in place

The repository is changed in place. The edge manager looks parts up and checks a request, and
then links and unlinks one edge at a time; a fault stops it where it stands, and the writes made
before the fault stay. An `Edit σ α` is such a program over a state `σ`:

* `Edit.read` looks at the state, or stops at a fault, and writes nothing;
* `Edit.write` writes;
* `Edit.step` computes an answer and the next state at once, or stops at a fault and writes
  nothing; `Edit.update` is a step with no answer;
* `Edit.focus` runs an edit of one part of a larger state.

The graph's calls as edits, step for step with the repository and the edge manager:

* `Graph.editCreate` : the checks of the name, then the draw of an id and the new record;
* `Graph.editDelete` : the removal of one record, with no edge repaired;
* `Graph.editChildren` : the lookups of the part and of each requested child, the self-edge
  check, and then by action the cycle check and the links, or the unlinks, or the lookups of the
  children to drop, the cycle check, the unlinks, the links and the new order;
* `Graph.editCascade` : the lookups of the part, its parents and its children, the unlinks from
  each parent and from each child, and the removal of the record.
-/

namespace BillOfMaterials

/-- A program that changes a state in place and may stop at a fault, keeping what it wrote
before. -/
abbrev Edit (σ α : Type) := EStateM Fault σ α

namespace Edit

variable {σ τ α : Type}

/-- Looks at the state, or stops at a fault; writes nothing. -/
def read (f : σ → Except Fault α) : Edit σ α := fun s =>
  match f s with
  | .ok a => .ok a s
  | .error e => .error e s

/-- Writes the state. -/
def write (f : σ → σ) : Edit σ Unit := fun s => .ok () (f s)

/-- Computes an answer and the next state at once, or stops at a fault and writes nothing. -/
def step (f : σ → Except Fault (α × σ)) : Edit σ α := fun s =>
  match f s with
  | .ok (a, s') => .ok a s'
  | .error e => .error e s

/-- Computes the next state, or stops at a fault and writes nothing. -/
def update (f : σ → Except Fault σ) : Edit σ Unit := fun s =>
  match f s with
  | .ok s' => .ok () s'
  | .error e => .error e s

/-- Runs an edit of the part of the state that `get` reads; `set` writes it back, also when the
edit stops at a fault. -/
def focus (get : σ → τ) (set : σ → τ → σ) (m : Edit τ α) : Edit σ α := fun s =>
  match m (get s) with
  | .ok a t => .ok a (set s t)
  | .error e t => .error e (set s t)

end Edit

namespace Graph

/-- Creates a part: the name must not be blank nor taken, then ids are drawn from the stream
until one is free, and the record is stored under it. -/
def editCreate (name : String) : Edit (Graph × IdStream) PartId := do
  Edit.read fun _ =>
    if Text.isBlank name then .error (.invalid "name" "must not be empty") else .ok ()
  Edit.read fun gs =>
    match gs.1.names.lookup name with
    | some existing => .error (.duplicateName name existing.toString)
    | none => .ok ()
  Edit.step fun gs =>
    match gs.1.drawFresh gs.2 with
    | some (id, s') => .ok (id, gs.1.insert id name, s')
    | none => .error (.text "no free part id")

/-- Removes the record of a live part, and no edge at it. -/
def editDelete (id : PartId) : Edit Graph Unit := Edit.update (·.delete id)

/-- Changes the children of `id` in place. Every lookup and check comes before the first link
or unlink. -/
def editChildren (id : PartId) (action : Action) (childIds : List PartId) : Edit Graph Unit := do
  let parent ← Edit.read (·.lookup id)
  let requested := dedupe childIds
  requested.forM fun c => Edit.read fun g => do let _ ← g.lookup c
  if requested.contains id then
    throw (.invalid "children" ("part " ++ id.toString ++ " cannot be its own child"))
  let additions := requested.filter fun c => !parent.children.has c
  match action with
  | .add =>
    Edit.read (·.validateAdditions id additions)
    additions.forM fun c => Edit.write (·.link id c)
  | .remove =>
    requested.forM fun c =>
      if parent.children.has c then Edit.write (·.unlink id c) else pure ()
  | .replace =>
    let removals := parent.children.toList.filter fun c => !requested.contains c
    Edit.read (·.checkLive "dangling child reference" removals)
    Edit.read (·.validateAdditions id additions)
    removals.forM fun c => Edit.write (·.unlink id c)
    additions.forM fun c => Edit.write (·.link id c)
    Edit.write (·.modify id fun n => { n with children := n.children.reorder requested })
  | .unknown s => throw (Action.refusal s)

/-- Unlinks a part from its parents and children in place, then removes its record. Every
lookup comes before the first unlink. -/
def editCascade (id : PartId) : Edit Graph Unit := do
  let n ← Edit.read (·.lookup id)
  Edit.read (·.checkLive "dangling parent reference" n.parents.toList)
  Edit.read (·.checkLive "dangling child reference" n.children.toList)
  n.parents.toList.forM fun p => Edit.write (·.unlink p id)
  n.children.toList.forM fun c => Edit.write (·.unlink id c)
  editDelete id

end Graph

end BillOfMaterials
