import BillOfMaterials.Graph.Basic

/-!
# Filters

A filter selects parts by how they sit in the graph, from their numbers of parents and
children:

| filter | children | parents |
|---|---|---|
| `all` | any | any |
| `top_level` | some | none |
| `assembly` | some | any |
| `subassembly` | some | some |
| `component` | none | some |
| `orphan` | none | none |

A filter of any other name admits nothing. Every part falls in exactly one `category`:
`top_level`, `subassembly`, `component` or `orphan`.

* `Filter.parse`: the empty text means `all`, an unknown name is refused;
* `Graph.listParts`: the live parts a filter admits, in order;
* `Graph.listChildren`: the children of a part a filter admits, for `all`, `top_level` and
  `component` only.
-/

namespace BillOfMaterials

/-- A filter, kept by name when it is none of the six. -/
inductive Filter where
  | all
  | topLevel
  | assembly
  | subassembly
  | component
  | orphan
  | unknown (name : String)
  deriving DecidableEq, Inhabited

namespace Filter

/-- The six filters, in display order. -/
def known : List Filter := [.all, .topLevel, .assembly, .subassembly, .component, .orphan]

/-- The name of a filter. -/
def name : Filter → String
  | .all => "all"
  | .topLevel => "top_level"
  | .assembly => "assembly"
  | .subassembly => "subassembly"
  | .component => "component"
  | .orphan => "orphan"
  | .unknown n => n

/-- The filter of a name, taken as it is. -/
def ofName (s : String) : Filter :=
  match known.find? (·.name == s) with
  | some f => f
  | none => .unknown s

/-- Reads a filter from a query value: the empty text means `all`. -/
def parse (s : String) : Except Fault Filter :=
  if s.isEmpty then .ok .all
  else match ofName s with
    | .unknown _ => .error (.invalid "filter" ("unknown filter " ++ Text.quote s))
    | f => .ok f

/-- Whether a part with these numbers of parents and children passes the filter. The counts
are integers, and a negative count is neither zero nor positive. -/
def admits (f : Filter) (parents children : Int) : Bool :=
  match f with
  | .all => true
  | .topLevel => children > 0 && parents == 0
  | .assembly => children > 0
  | .subassembly => children > 0 && parents > 0
  | .component => children == 0 && parents > 0
  | .orphan => parents == 0 && children == 0
  | .unknown _ => false

/-- Whether a part copy passes the filter. -/
def admitsPart (f : Filter) (p : Part) : Bool :=
  f.admits p.parents.length p.children.length

/-- The one class of `top_level`, `subassembly`, `component` and `orphan` a part is in. -/
def category (parents children : Int) : Filter :=
  if children > 0 && parents == 0 then .topLevel
  else if children > 0 then .subassembly
  else if parents > 0 then .component
  else .orphan

/-- The filters allowed on the children of one part. -/
def allowedOnChildren (f : Filter) : Bool :=
  match f with
  | .all | .topLevel | .component => true
  | _ => false

theorem category_admits (parents children : Nat) :
    (category parents children).admits parents children = true := by
  unfold category
  rcases Nat.eq_zero_or_pos children with h1 | h1 <;>
    rcases Nat.eq_zero_or_pos parents with h2 | h2 <;> simp [h1, h2, admits, Nat.ne_of_gt]

end Filter

namespace Graph

/-- The live parts a filter admits, in order. -/
def listParts (g : Graph) (f : Filter) : List Part :=
  (g.nodes.filter fun n => f.admits n.parents.size n.children.size).map Node.view

/-- The children of a part that a filter admits, in order. The filter is checked before the
part is looked up. -/
def listChildren (g : Graph) (id : PartId) (f : Filter) : Except Fault (List Part) := do
  if !f.allowedOnChildren then
    throw (.invalid "filter" ("unsupported filter on children " ++ Text.quote f.name ++
      ", only all, top_level and component are supported"))
  let n ← g.lookup id
  let children ← g.views n.children.toList
  pure (children.filter f.admitsPart)

end Graph

end BillOfMaterials
