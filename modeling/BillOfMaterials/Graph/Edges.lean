import BillOfMaterials.Graph.Basic

/-!
# Edges

`Graph.updateChildren` changes the children of one part by an `Action`:

* `add` links each requested child that is not yet a child, at the end;
* `remove` unlinks each requested child that is a child;
* `replace` makes the children exactly the requested ones, in the requested order.

Repeated ids in a request count once. The checks come in a fixed order, and the first that
fails is the answer, with the graph unchanged: the part must be live, then each requested child
in order, then no child may be the part itself, then the action must be known, then no new edge
may close a cycle. A new edge from `p` to `c` closes a cycle when `p` is reachable from `c`
over children (`Graph.reaches`).

`Graph.deleteCascade` unlinks a part from its parents and children and then removes it.
-/

namespace BillOfMaterials

/-- How a request treats the ids it names, kept by name when it is none of the three. -/
inductive Action where
  | add
  | remove
  | replace
  | unknown (name : String)
  deriving DecidableEq, Inhabited

namespace Action

/-- The name of an action. -/
def name : Action → String
  | .add => "add"
  | .remove => "remove"
  | .replace => "replace"
  | .unknown n => n

/-- The action of a name, taken as it is. -/
def ofName (s : String) : Action :=
  if s = "add" then .add
  else if s = "remove" then .remove
  else if s = "replace" then .replace
  else .unknown s

/-- The refusal of an action name. -/
def refusal (s : String) : Fault := .invalid "action" ("unknown action " ++ Text.quote s)

/-- Reads an action from a query value: the empty text means `add`. -/
def parse (s : String) : Except Fault Action :=
  if s.isEmpty then .ok .add
  else match ofName s with
    | .unknown _ => .error (refusal s)
    | a => .ok a

end Action

namespace Graph

/-- A reference to a part that is not live, met while looking for a cycle. -/
def danglingInCycleCheck (id : PartId) : Fault :=
  .internal "dangling reference during cycle check" (some (.notFound id.toString))

/-- Depth-first search for `target` from a stack of ids, over children edges and the `pending`
edges not yet written. `unvisited` holds the live ids not yet expanded; each expansion removes
one, which bounds the search. -/
def reachesFrom (g : Graph) (target : PartId) (pending : PartId → List PartId)
    (unvisited : List PartId) : List PartId → Except Fault Bool
  | [] => .ok false
  | cur :: rest =>
    if cur == target then .ok true
    else if _fresh : cur ∈ unvisited then
      match g.find? cur with
      | some n =>
        reachesFrom g target pending (unvisited.erase cur)
          ((n.children.toList ++ pending cur).reverse ++ rest)
      | none => .error (danglingInCycleCheck cur)
    else if g.isLive cur then reachesFrom g target pending unvisited rest
    else .error (danglingInCycleCheck cur)
termination_by stack => (unvisited.length, stack.length)
decreasing_by
  · have h1 := List.length_erase_of_mem _fresh
    have h2 := List.length_pos_of_mem _fresh
    exact Prod.Lex.left _ _ (by omega)
  · exact Prod.Lex.right _ (by simp)

/-- Whether `target` is reachable from `start` over zero or more children and pending edges. -/
def reaches (g : Graph) (start target : PartId) (pending : PartId → List PartId) :
    Except Fault Bool :=
  g.reachesFrom target pending g.ids [start]

/-- Checks a batch of new edges from `parent` one by one, each against the graph joined with
the edges of the batch accepted before it. -/
def validateAdditions (g : Graph) (parent : PartId) (additions : List PartId) :
    Except Fault Unit :=
  go additions []
where
  go : List PartId → List PartId → Except Fault Unit
    | [], _ => .ok ()
    | c :: cs, accepted => do
      let closes ← g.reaches c parent fun id => if id == parent then accepted else []
      if closes then throw (.cycle parent.toString c.toString)
      go cs (accepted ++ [c])

/-- Checks that every id of a list is live, calling a missing one a broken reference. -/
def checkLive (g : Graph) (what : String) (ids : List PartId) : Except Fault Unit :=
  ids.forM fun id =>
    match g.lookup id with
    | .ok _ => .ok ()
    | .error e => .error (.internal what (some e))

/-- Changes the children of `id`; on any fault the graph stays as it was. -/
def updateChildren (g : Graph) (id : PartId) (action : Action) (childIds : List PartId) :
    Except Fault Graph := do
  let parent ← g.lookup id
  let requested := dedupe childIds
  requested.forM fun c => do let _ ← g.lookup c
  if requested.contains id then
    throw (.invalid "children" ("part " ++ id.toString ++ " cannot be its own child"))
  let additions := requested.filter fun c => !parent.children.has c
  match action with
  | .add =>
    g.validateAdditions id additions
    pure (additions.foldl (fun g c => g.link id c) g)
  | .remove =>
    pure (requested.foldl (fun g c => if parent.children.has c then g.unlink id c else g) g)
  | .replace =>
    let removals := parent.children.toList.filter fun c => !requested.contains c
    g.checkLive "dangling child reference" removals
    g.validateAdditions id additions
    let g := removals.foldl (fun g c => g.unlink id c) g
    let g := additions.foldl (fun g c => g.link id c) g
    pure (g.modify id fun n => { n with children := n.children.reorder requested })
  | .unknown s => throw (Action.refusal s)

/-- Unlinks a part from its parents and children, then removes it. -/
def deleteCascade (g : Graph) (id : PartId) : Except Fault Graph := do
  let n ← g.lookup id
  g.checkLive "dangling parent reference" n.parents.toList
  g.checkLive "dangling child reference" n.children.toList
  let g := n.parents.toList.foldl (fun g p => g.unlink p id) g
  let g := n.children.toList.foldl (fun g c => g.unlink id c) g
  g.delete id

end Graph

end BillOfMaterials
