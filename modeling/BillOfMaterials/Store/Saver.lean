import Mathlib.Logic.Relation
import BillOfMaterials.Engine

/-!
# The background saver

The saver writes the engine's graph to the store in the background. Each change of the graph
notifies it; notifications that come close together collapse into one save of the latest graph;
and once it is cancelled it saves, one last time, whatever is still unsaved. It runs beside the
request handlers, so its steps interleave with theirs, and its loop picks any of its cases that
is ready. `Saver.Step` is that interleaving, one atomic step at a time:

* the world around the saver: an engine call changes the graph (`mutate`: the change hook counts
  it, so the engine's change count is the version of the graph), the hook of a change notifies
  the saver (`notify`: a token goes into a one-slot buffer, or is dropped when the slot is full;
  it never blocks), and the saver's context is cancelled (`cancel`);
* the saver's loop: a token (`receive`: the graph is dirty, and the debounce timer is armed if it
  was not), the timer (`fire`: a save begins), or the cancellation (`stop`: the timer is stopped,
  a token still in the slot is taken, and a dirty graph is saved one last time while a clean one
  ends the loop with no error);
* a save: the snapshot of the graph is taken (`snapshot`), then the store takes it (`saved`,
  `savedLast`) or fails (`failed`, `failedLast`). A failed save of the loop leaves the graph
  dirty, for the next token or the cancellation; the failure of the last save is the loop's
  answer.

The store is seen through the snapshot it holds. `storedAt`, the version that snapshot was
taken at, and `cancelledAt`, the version and the changes not yet notified when the context was
cancelled, are bookkeeping for what is proved of the saver: it never reads them.
-/

namespace BillOfMaterials

/-- Where the saver's loop is. -/
inductive Saver.Phase where
  /-- Waiting for a token, the timer or the cancellation. -/
  | waiting
  /-- A save has begun and its snapshot is not taken yet; `final` for the save after the
  cancellation. -/
  | flushing (final : Bool)
  /-- The store is taking the snapshot of the graph at version `version`. -/
  | saving (snap : Snapshot) (version : Nat) (final : Bool)
  /-- The loop has returned this answer. -/
  | done (result : Except Fault Unit)

/-- The saver, the engine it saves and the store it saves to. -/
structure Saver where
  engine : Engine
  /-- The versions of the changes whose notification has not returned yet. -/
  pending : List Nat := []
  /-- Whether a token waits in the one-slot buffer. -/
  slot : Bool := false
  /-- Whether the graph has changed since the last save that went through. -/
  dirty : Bool := false
  /-- Whether the debounce timer is armed. -/
  timer : Bool := false
  /-- What the store holds. -/
  stored : Snapshot
  /-- The version of the graph that `stored` was taken at. -/
  storedAt : Nat
  /-- The version of the graph and the changes not yet notified when the saver was cancelled. -/
  cancelledAt : Option (Nat × List Nat) := none
  phase : Saver.Phase := .waiting

namespace Saver

/-- A saver starting on an engine whose graph the store holds, as after a start that restored
the graph from the store. -/
def start (e : Engine) : Saver := { engine := e, stored := e.snapshot, storedAt := e.changes }

/-- One step of the saver or of the world around it. -/
inductive Step : Saver → Saver → Prop where
  | mutate (s : Saver) (e : Engine) (h : e.changes = s.engine.changes + 1) :
      Step s { s with engine := e, pending := e.changes :: s.pending }
  | notify (s : Saver) (k : Nat) (h : k ∈ s.pending) :
      Step s { s with pending := s.pending.erase k, slot := true }
  | cancel (s : Saver) (h : s.cancelledAt = none) :
      Step s { s with cancelledAt := some (s.engine.changes, s.pending) }
  | receive (s : Saver) (hw : s.phase = .waiting) (hslot : s.slot = true) :
      Step s { s with slot := false, dirty := true, timer := true }
  | fire (s : Saver) (hw : s.phase = .waiting) (ht : s.timer = true) :
      Step s { s with timer := false, phase := .flushing false }
  | stop (s : Saver) (hw : s.phase = .waiting) (hc : s.cancelledAt.isSome = true) :
      Step s
        { s with
          timer := false, slot := false, dirty := s.dirty || s.slot
          phase := if s.dirty || s.slot then .flushing true else .done (.ok ()) }
  | snapshot (s : Saver) (final : Bool) (hf : s.phase = .flushing final) :
      Step s { s with phase := .saving s.engine.snapshot s.engine.changes final }
  | saved (s : Saver) (snap : Snapshot) (v : Nat) (hs : s.phase = .saving snap v false) :
      Step s { s with stored := snap, storedAt := v, dirty := false, phase := .waiting }
  | failed (s : Saver) (snap : Snapshot) (v : Nat) (f : Fault)
      (hs : s.phase = .saving snap v false) :
      Step s { s with phase := .waiting }
  | savedLast (s : Saver) (snap : Snapshot) (v : Nat) (hs : s.phase = .saving snap v true) :
      Step s { s with stored := snap, storedAt := v, phase := .done (.ok ()) }
  | failedLast (s : Saver) (snap : Snapshot) (v : Nat) (f : Fault)
      (hs : s.phase = .saving snap v true) :
      Step s { s with phase := .done (.error f) }

/-- The states a saver started on an engine can reach, in any interleaving. -/
def Reachable (e : Engine) (s : Saver) : Prop := Relation.ReflTransGen Step (start e) s

/-- The change of version `k` has been made and its notification has returned. -/
def Notified (s : Saver) (k : Nat) : Prop := 0 < k ∧ k ≤ s.engine.changes ∧ k ∉ s.pending

/-- The change of version `k` had been made, and its notification had returned, when the saver
was cancelled. -/
def NotifiedBeforeCancel (s : Saver) (k : Nat) : Prop :=
  ∃ c p, s.cancelledAt = some (c, p) ∧ 0 < k ∧ k ≤ c ∧ k ∉ p

end Saver

end BillOfMaterials
