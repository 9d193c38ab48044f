import BillOfMaterials.Engine

/-!
# Commands

A `Command` is one call on an engine as a caller spells it: ids are texts, read before the
engine is called, so an id that does not read is refused before anything else. `Engine.run`
carries a command out and answers with a `Reply` or a fault; `Engine.runAll` carries out a list
in order, each on the engine the one before left.
-/

namespace BillOfMaterials

/-- One part of a snapshot as a caller spells it. -/
structure PartSpec where
  id : String
  name : String
  children : List String
  deriving Inhabited

/-- A call on an engine, with ids as texts. -/
inductive Command where
  | create (name : String)
  | get (id : String)
  | delete (id : String)
  | update (id : String) (action : Action) (children : List String)
  | list (filter : Filter)
  | children (id : String) (filter : Filter)
  | contained (id : String)
  | descendants (id : String) (filter : Filter)
  | snapshot
  | restore (parts : List PartSpec)
  | stats
  | check
  deriving Inhabited

/-- What a successful command answers. -/
inductive Reply where
  | part (p : Part)
  | parts (ps : List Part)
  | snapshot (s : Snapshot)
  | stats (s : Stats)
  | done
  deriving Inhabited

/-- Reads the ids of a snapshot spelled by a caller, part by part, each part's id before its
children. -/
def PartSpec.read (specs : List PartSpec) : Except Fault Snapshot := do
  let parts ← specs.mapM fun p => do
    let id ← PartId.read p.id
    let children ← p.children.mapM PartId.read
    pure (⟨id, p.name, children⟩ : SnapshotPart)
  pure ⟨parts⟩

namespace Engine

/-- Carries out an edit of the engine: its answer or its fault, with the engine the edit leaves,
also when it stops at a fault. -/
def runEdit {α : Type} (e : Engine) (m : Edit Engine α) (reply : α → Reply) :
    Except Fault Reply × Engine :=
  match m.run e with
  | .ok a e' => (.ok (reply a), e')
  | .error f e' => (.error f, e')

/-- Carries out one command. -/
def run (e : Engine) : Command → Except Fault Reply × Engine
  | .create name => e.runEdit (editCreate name) .part
  | .get id => ((do pure (.part (← e.getPart (← PartId.read id)))), e)
  | .delete id => e.runEdit (do editDelete (← Edit.read fun _ => PartId.read id)) .part
  | .update id action children =>
    e.runEdit (do
      editChildren (← Edit.read fun _ => PartId.read id) action
        (← Edit.read fun _ => children.mapM PartId.read)) .part
  | .list f => (.ok (.parts (e.listParts f)), e)
  | .children id f => ((do pure (.parts (← e.listChildren (← PartId.read id) f))), e)
  | .contained id => ((do pure (.parts (← e.contained (← PartId.read id)))), e)
  | .descendants id f => ((do pure (.parts (← e.listDescendants (← PartId.read id) f))), e)
  | .snapshot => (.ok (.snapshot e.snapshot), e)
  | .restore specs =>
    e.runEdit (do editRestore (← Edit.read fun _ => PartSpec.read specs)) fun () => .done
  | .stats => (.ok (.stats e.stats), e)
  | .check => ((do e.checkInvariants; pure .done), e)

/-- Carries out commands in order; the answers come in the same order. -/
def runAll (e : Engine) : List Command → List (Except Fault Reply) × Engine
  | [] => ([], e)
  | c :: cs =>
    let (r, e) := e.run c
    let (rs, e) := e.runAll cs
    (r :: rs, e)

end Engine

end BillOfMaterials
