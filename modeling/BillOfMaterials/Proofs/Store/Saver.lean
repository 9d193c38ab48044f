import BillOfMaterials.Store.Saver
import BillOfMaterials.Proofs.Api.Handlers
import BillOfMaterials.Proofs.Engine.Atomic

/-!
# The saver loses no change

`Saver.Inv` is what every state of the saver keeps, whatever the interleaving of its loop with
the changes of the graph, their notifications and the cancellation:

* the store holds the snapshot of a version the graph has reached, and at that very version the
  graph as it is (`storedAt_le`, `stored_current`);
* while the loop waits, the store holds every change whose notification has returned, unless a
  token waits in the slot or the graph is dirty (`waiting`): a token is taken by the loop and
  makes the graph dirty, a dirty graph arms the timer, and only a save that went through makes
  it clean again;
* a save carries the snapshot of one version, and every change notified since it was taken left
  a token in the slot, which only the loop empties (`saving`).

It holds at the start (`inv_start`), each step keeps it (`Inv.step`, one lemma per step), so it
holds of every reachable state (`inv_reachable`). From it: a loop that returns with no error has
saved every change notified before the cancellation (the invariant's `done`), a timer save that
failed leaving the graph dirty for the save after the cancellation; the loop returns only after
the cancellation, and an error only as the failure of that last save (`Step.done_error`). A
server cancels the saver
only once every request has returned, so every change has been notified and none comes after:
a loop that then returns with no error leaves the store holding the graph of all the requests
(`Inv.stored_of_quiet`). Every request changes the graph at most once and bumps the change
count when it does (`Service.handle_changes`), so serving requests is a run of the saver's
world (`reachable_handleAll`). `keeps_notified_changes` gathers all of it.
-/

namespace BillOfMaterials

open Http

namespace Saver

variable {s t : Saver}

/-- What every state of the saver keeps. -/
structure Inv (s : Saver) : Prop where
  /-- The store holds a snapshot of a version the graph has reached. -/
  storedAt_le : s.storedAt ≤ s.engine.changes
  /-- At that version itself, it holds the graph as it is. -/
  stored_current : s.storedAt = s.engine.changes → s.stored = s.engine.snapshot
  /-- A change waiting for its notification has been made. -/
  pending_le : ∀ k ∈ s.pending, k ≤ s.engine.changes
  /-- The timer is armed only while the graph is dirty. -/
  timer_dirty : s.timer = true → s.dirty = true
  /-- The cancellation came at a version the graph has reached, and a change made before it and
  still not notified was not notified then either. -/
  cancelled : ∀ c p, s.cancelledAt = some (c, p) →
    c ≤ s.engine.changes ∧ ∀ k ∈ s.pending, k ≤ c → k ∈ p
  /-- Waiting, the store holds every notified change, unless a token waits or the graph is
  dirty. -/
  waiting : s.phase = .waiting →
    ∀ k, s.Notified k → s.slot = true ∨ s.dirty = true ∨ k ≤ s.storedAt
  /-- A save that has begun is of a dirty graph, with the timer stopped. -/
  flushing : ∀ final, s.phase = .flushing final →
    s.dirty = true ∧ s.timer = false ∧ (final = true → s.cancelledAt.isSome = true)
  /-- A save carries the graph at its version, and every change notified since left a token;
  the last save carries every change notified before the cancellation. -/
  saving : ∀ snap v final, s.phase = .saving snap v final →
    s.dirty = true ∧ s.timer = false ∧ v ≤ s.engine.changes ∧
    (v = s.engine.changes → snap = s.engine.snapshot) ∧
    (∀ k, s.Notified k → s.slot = true ∨ k ≤ v) ∧
    (final = true → s.cancelledAt.isSome = true ∧ ∀ k, s.NotifiedBeforeCancel k → k ≤ v)
  /-- The loop returns only after the cancellation, and with no error only once every change
  notified before it is stored. -/
  done : ∀ r, s.phase = .done r →
    s.cancelledAt.isSome = true ∧ (r = .ok () → ∀ k, s.NotifiedBeforeCancel k → k ≤ s.storedAt)

theorem Inv.notified_of_before (hi : s.Inv) {k : Nat} (hk : s.NotifiedBeforeCancel k) :
    s.Notified k := by
  obtain ⟨c, p, hc, h0, hkc, hkp⟩ := hk
  obtain ⟨hcle, hpend⟩ := hi.cancelled c p hc
  exact ⟨h0, by omega, fun hks => hkp (hpend k hks hkc)⟩

theorem inv_start (e : Engine) : (start e).Inv where
  storedAt_le := Nat.le_refl _
  stored_current := fun _ => rfl
  pending_le := by simp [start]
  timer_dirty := by simp [start]
  cancelled := by simp [start]
  waiting := by
    rintro - k ⟨-, hk, -⟩
    exact .inr (.inr hk)
  flushing := by simp [start]
  saving := by simp [start]
  done := by simp [start]

/-! ## Each step keeps the invariant -/

section Steps

variable (hi : s.Inv)
include hi

theorem Inv.mutate (e : Engine) (h : e.changes = s.engine.changes + 1) :
    ({ s with engine := e, pending := e.changes :: s.pending } : Saver).Inv := by
  have hnot : ∀ k, Notified { s with engine := e, pending := e.changes :: s.pending } k →
      s.Notified k := by
    rintro k ⟨h0, hk, hp⟩
    simp only [List.mem_cons, not_or] at hk hp
    exact ⟨h0, by omega, hp.2⟩
  have hle := hi.storedAt_le
  refine ⟨by simp only; omega, fun heq => by simp only at heq; omega, ?_, hi.timer_dirty,
    ?_, ?_, hi.flushing, ?_, hi.done⟩
  · intro k hk
    simp only [List.mem_cons] at hk
    rcases hk with rfl | hk
    · exact Nat.le_refl _
    · have := hi.pending_le k hk
      simp only; omega
  · intro c p hc
    obtain ⟨hcle, hpend⟩ := hi.cancelled c p hc
    refine ⟨by simp only; omega, fun k hk hkc => ?_⟩
    simp only [List.mem_cons] at hk
    rcases hk with rfl | hk
    · omega
    · exact hpend k hk hkc
  · exact fun hw k hk => hi.waiting hw k (hnot k hk)
  · intro snap v final hs
    obtain ⟨hd, ht, hv, -, hslot, hfinal⟩ := hi.saving snap v final hs
    refine ⟨hd, ht, by simp only; omega, fun heq => by simp only at heq; omega,
      fun k hk => hslot k (hnot k hk), hfinal⟩

theorem Inv.notify (k : Nat) :
    ({ s with pending := s.pending.erase k, slot := true } : Saver).Inv := by
  refine ⟨hi.storedAt_le, hi.stored_current, fun j hj => hi.pending_le j (List.mem_of_mem_erase hj),
    hi.timer_dirty, ?_, fun _ _ _ => .inl rfl, hi.flushing, ?_, hi.done⟩
  · intro c p hc
    obtain ⟨hcle, hpend⟩ := hi.cancelled c p hc
    exact ⟨hcle, fun j hj hjc => hpend j (List.mem_of_mem_erase hj) hjc⟩
  · intro snap v final hs
    obtain ⟨hd, ht, hv, hcur, -, hfinal⟩ := hi.saving snap v final hs
    exact ⟨hd, ht, hv, hcur, fun _ _ => .inl rfl, hfinal⟩

theorem Inv.cancel (h : s.cancelledAt = none) :
    ({ s with cancelledAt := some (s.engine.changes, s.pending) } : Saver).Inv := by
  refine ⟨hi.storedAt_le, hi.stored_current, hi.pending_le, hi.timer_dirty, ?_, hi.waiting, ?_,
    ?_, ?_⟩
  · intro c p hc
    simp only [Option.some.injEq, Prod.mk.injEq] at hc
    obtain ⟨rfl, rfl⟩ := hc
    exact ⟨Nat.le_refl _, fun k hk _ => hk⟩
  · intro final hf
    obtain ⟨hd, ht, -⟩ := hi.flushing final hf
    exact ⟨hd, ht, fun _ => rfl⟩
  · intro snap v final hs
    obtain ⟨hd, ht, hv, hcur, hslot, hfinal⟩ := hi.saving snap v final hs
    refine ⟨hd, ht, hv, hcur, hslot, fun hf => ?_⟩
    have := (hfinal hf).1
    simp [h] at this
  · intro r hr
    have := (hi.done r hr).1
    simp [h] at this

theorem Inv.receive (hw : s.phase = .waiting) :
    ({ s with slot := false, dirty := true, timer := true } : Saver).Inv := by
  refine ⟨hi.storedAt_le, hi.stored_current, hi.pending_le, fun _ => rfl, hi.cancelled,
    fun _ _ _ => .inr (.inl rfl), fun final hf => ?_, fun snap v final hs => ?_, fun r hr => ?_⟩
  · cases hw.symm.trans hf
  · cases hw.symm.trans hs
  · cases hw.symm.trans hr

theorem Inv.fire (ht : s.timer = true) :
    ({ s with timer := false, phase := .flushing false } : Saver).Inv := by
  refine ⟨hi.storedAt_le, hi.stored_current, hi.pending_le, (fun h => by cases h), hi.cancelled,
    (fun h => by cases h), fun final hf => ?_, (fun snap v final hs => by cases hs),
    (fun r hr => by cases hr)⟩
  cases hf
  exact ⟨hi.timer_dirty ht, rfl, (fun h => by cases h)⟩

theorem Inv.stop (hw : s.phase = .waiting) (hc : s.cancelledAt.isSome = true) :
    ({ s with
        timer := false, slot := false, dirty := s.dirty || s.slot
        phase := if s.dirty || s.slot then .flushing true else .done (.ok ()) } : Saver).Inv := by
  cases hds : (s.dirty || s.slot) with
  | true =>
    refine ⟨hi.storedAt_le, hi.stored_current, hi.pending_le, (fun h => by cases h), hi.cancelled,
      (fun h => by cases h), fun final hf => ?_, (fun snap v final hs => by cases hs),
      (fun r hr => by cases hr)⟩
    cases hf
    exact ⟨rfl, rfl, fun _ => hc⟩
  | false =>
    simp only [Bool.or_eq_false_iff] at hds
    refine ⟨hi.storedAt_le, hi.stored_current, hi.pending_le, (fun h => by cases h), hi.cancelled,
      (fun h => by cases h), (fun final hf => by cases hf), (fun snap v final hs => by cases hs),
      fun r hr => ?_⟩
    cases hr
    refine ⟨hc, fun _ k hk => ?_⟩
    rcases hi.waiting hw k (hi.notified_of_before hk) with h | h | h
    · simp [hds.2] at h
    · simp [hds.1] at h
    · exact h

theorem Inv.snapshot (final : Bool) (hf : s.phase = .flushing final) :
    ({ s with phase := .saving s.engine.snapshot s.engine.changes final } : Saver).Inv := by
  obtain ⟨hd, ht, hfinal⟩ := hi.flushing final hf
  refine ⟨hi.storedAt_le, hi.stored_current, hi.pending_le, hi.timer_dirty, hi.cancelled,
    (fun h => by cases h), (fun final hf => by cases hf), fun snap v final' hs => ?_,
    (fun r hr => by cases hr)⟩
  cases hs
  refine ⟨hd, ht, Nat.le_refl _, fun _ => rfl, fun k hk => .inr hk.2.1, fun hf => ⟨hfinal hf, ?_⟩⟩
  rintro k ⟨c, p, hc, -, hkc, -⟩
  have := (hi.cancelled c p hc).1
  omega

theorem Inv.saved (snap : Snapshot) (v : Nat) (hs : s.phase = .saving snap v false) :
    ({ s with stored := snap, storedAt := v, dirty := false, phase := .waiting } : Saver).Inv := by
  obtain ⟨-, ht, hv, hcur, hslot, -⟩ := hi.saving snap v false hs
  refine ⟨hv, hcur, hi.pending_le, (fun h => by simp [ht] at h), hi.cancelled, fun _ k hk => ?_,
    (fun final hf => by cases hf), (fun snap v final hs => by cases hs), (fun r hr => by cases hr)⟩
  rcases hslot k hk with h | h
  · exact .inl h
  · exact .inr (.inr h)

theorem Inv.failed (snap : Snapshot) (v : Nat) (hs : s.phase = .saving snap v false) :
    ({ s with phase := .waiting } : Saver).Inv := by
  obtain ⟨hd, -⟩ := hi.saving snap v false hs
  exact ⟨hi.storedAt_le, hi.stored_current, hi.pending_le, hi.timer_dirty, hi.cancelled,
    fun _ _ _ => .inr (.inl hd), (fun final hf => by cases hf), (fun snap v final hs => by cases hs),
    (fun r hr => by cases hr)⟩

theorem Inv.savedLast (snap : Snapshot) (v : Nat) (hs : s.phase = .saving snap v true) :
    ({ s with stored := snap, storedAt := v, phase := .done (.ok ()) } : Saver).Inv := by
  obtain ⟨-, -, hv, hcur, -, hfinal⟩ := hi.saving snap v true hs
  refine ⟨hv, hcur, hi.pending_le, hi.timer_dirty, hi.cancelled, (fun h => by cases h),
    (fun final hf => by cases hf), (fun snap v final hs => by cases hs), fun r hr => ?_⟩
  cases hr
  exact ⟨(hfinal rfl).1, fun _ => (hfinal rfl).2⟩

theorem Inv.failedLast (snap : Snapshot) (v : Nat) (f : Fault)
    (hs : s.phase = .saving snap v true) :
    ({ s with phase := .done (.error f) } : Saver).Inv := by
  obtain ⟨-, -, -, -, -, hfinal⟩ := hi.saving snap v true hs
  refine ⟨hi.storedAt_le, hi.stored_current, hi.pending_le, hi.timer_dirty, hi.cancelled,
    (fun h => by cases h), (fun final hf => by cases hf), (fun snap v final hs => by cases hs),
    fun r hr => ?_⟩
  cases hr
  exact ⟨(hfinal rfl).1, (fun h => by cases h)⟩

end Steps

theorem Inv.step (hi : s.Inv) (hs : Step s t) : t.Inv := by
  cases hs with
  | mutate e h => exact hi.mutate e h
  | notify k h => exact hi.notify k
  | cancel h => exact hi.cancel h
  | receive hw hslot => exact hi.receive hw
  | fire hw ht => exact hi.fire ht
  | stop hw hc => exact hi.stop hw hc
  | snapshot final hf => exact hi.snapshot final hf
  | saved snap v hs => exact hi.saved snap v hs
  | failed snap v f hs => exact hi.failed snap v hs
  | savedLast snap v hs => exact hi.savedLast snap v hs
  | failedLast snap v f hs => exact hi.failedLast snap v f hs

/-- Every state a saver can reach keeps the invariant. -/
theorem inv_reachable {e : Engine} (h : Reachable e s) : s.Inv := by
  induction h with
  | refl => exact inv_start e
  | tail _ hs ih => exact ih.step hs

/-! ## What the invariant says about the store -/

/-- A loop that returned with no error, cancelled once every change had been notified and with no
change after, leaves the store holding the graph as it is. -/
theorem Inv.stored_of_quiet (hi : s.Inv) (hd : s.phase = .done (.ok ()))
    (hc : s.cancelledAt = some (s.engine.changes, [])) : s.stored = s.engine.snapshot := by
  have hall : ∀ k, 0 < k → k ≤ s.engine.changes → k ≤ s.storedAt := fun k h0 hk =>
    (hi.done _ hd).2 rfl k ⟨s.engine.changes, [], hc, h0, hk, List.not_mem_nil⟩
  have hle := hi.storedAt_le
  apply hi.stored_current
  rcases Nat.eq_zero_or_pos s.engine.changes with h0 | hpos
  · omega
  · have := hall _ hpos (Nat.le_refl _)
    omega

/-- The loop answers with an error only when its last save fails. -/
theorem Step.done_error {f : Fault} (hs : Step s t) (ht : t.phase = .done (.error f)) :
    s.phase = t.phase ∨ ∃ snap v, s.phase = .saving snap v true := by
  cases hs with
  | failedLast snap v f hs => exact .inr ⟨snap, v, hs⟩
  | stop hw hc =>
    simp only at ht
    split at ht <;> cases ht
  | fire | snapshot | saved | failed | savedLast => cases ht
  | mutate | notify | cancel | receive => exact .inl rfl

/-! ## Changes of the graph along a run -/

theorem Step.engine_eq_or (hs : Step s t) :
    t.engine = s.engine ∨ t.engine.changes = s.engine.changes + 1 := by
  cases hs with
  | mutate e h => exact .inr h
  | _ => exact .inl rfl

theorem Step.cancelledAt_eq {x : Nat × List Nat} (hs : Step s t) (hc : s.cancelledAt = some x) :
    t.cancelledAt = some x := by
  cases hs with
  | cancel h => simp [h] at hc
  | _ => exact hc

theorem engine_of_run (h : Relation.ReflTransGen Step s t) :
    s.engine.changes ≤ t.engine.changes ∧
      (t.engine.changes = s.engine.changes → t.engine = s.engine) := by
  induction h with
  | refl => exact ⟨Nat.le_refl _, fun _ => rfl⟩
  | tail _ hs ih =>
    rcases hs.engine_eq_or with he | he
    · rw [he]
      exact ih
    · exact ⟨by omega, fun heq => by omega⟩

theorem cancelledAt_of_run {x : Nat × List Nat} (h : Relation.ReflTransGen Step s t)
    (hc : s.cancelledAt = some x) : t.cancelledAt = some x := by
  induction h with
  | refl => exact hc
  | tail _ hs ih => exact hs.cancelledAt_eq ih

end Saver

namespace Engine

@[simp] theorem hooked_changed (e : Engine) : (changed e).hooked = e.hooked := by
  unfold changed
  split <;> rfl

end Engine

namespace PartsCall

theorem run_changes {e e' : Engine} {c : PartsCall} {ps : List Part} (hh : e.hooked = true)
    (h : c.run e = .ok (ps, e')) :
    e' = e ∨ (e'.changes = e.changes + 1 ∧ e'.hooked = true) := by
  cases c with
  | create name =>
    cases hc : e.createPart name with
    | error f => simp [run, hc, Except.map] at h
    | ok pe =>
      obtain ⟨p, e''⟩ := pe
      simp only [run, hc, Except.map, Except.ok.injEq, Prod.mk.injEq] at h
      obtain ⟨-, rfl⟩ := h
      obtain ⟨id, g, ids, -, rfl⟩ := Engine.createPart_eq_ok hc
      exact .inr ⟨by simp [hh], by simp [hh]⟩
  | delete id =>
    cases hc : e.deletePart id with
    | error f => simp [run, hc, Except.map] at h
    | ok pe =>
      obtain ⟨p, e''⟩ := pe
      simp only [run, hc, Except.map, Except.ok.injEq, Prod.mk.injEq] at h
      obtain ⟨-, rfl⟩ := h
      obtain ⟨g, -, rfl⟩ := Engine.deletePart_eq_ok hc
      exact .inr ⟨by simp [hh], by simp [hh]⟩
  | update id a cs =>
    cases hc : e.updateChildren id a cs with
    | error f => simp [run, hc, Except.map] at h
    | ok pe =>
      obtain ⟨p, e''⟩ := pe
      simp only [run, hc, Except.map, Except.ok.injEq, Prod.mk.injEq] at h
      obtain ⟨-, rfl⟩ := h
      obtain ⟨g, -, rfl⟩ := Engine.updateChildren_eq_ok hc
      exact .inr ⟨by simp [hh], by simp [hh]⟩
  | list f =>
    simp only [run, Except.ok.injEq, Prod.mk.injEq] at h
    exact .inl h.2.symm
  | get id =>
    cases hc : e.getPart id <;> simp [run, hc, Except.map] at h
    exact .inl h.2.symm
  | children id f =>
    cases hc : e.listChildren id f <;> simp [run, hc, Except.map] at h
    exact .inl h.2.symm
  | contained id =>
    cases hc : e.contained id <;> simp [run, hc, Except.map] at h
    exact .inl h.2.symm
  | descendants id f =>
    cases hc : e.listDescendants id f <;> simp [run, hc, Except.map] at h
    exact .inl h.2.symm

theorem respond_changes {e : Engine} (hh : e.hooked = true) (c : PartsCall) :
    (c.respond e).2 = e ∨ ((c.respond e).2.changes = e.changes + 1 ∧ (c.respond e).2.hooked = true) := by
  unfold respond
  cases hr : c.run e with
  | error f => exact .inl rfl
  | ok pe =>
    obtain ⟨ps, e'⟩ := pe
    exact run_changes hh hr

end PartsCall

namespace Service

/-- A request changes the graph at most once, and the hook counts the change. -/
theorem handle_changes (s : Service) (req : Request) (hh : s.engine.hooked = true) :
    (s.handle req).2.engine = s.engine ∨
      ((s.handle req).2.engine.changes = s.engine.changes + 1 ∧
        (s.handle req).2.engine.hooked = true) := by
  rw [handle_engine]
  cases callOf req with
  | none => exact .inl rfl
  | some c => exact c.respond_changes hh

end Service

namespace Saver

/-- Serving requests one after the other, each change notified before the next request, is a
run of the saver's world. -/
theorem reachable_handleAll {e : Engine} (reqs : List Request) :
    ∀ (svc : Service) (s : Saver), Reachable e s → s.engine = svc.engine → s.pending = [] →
      s.cancelledAt = none → svc.engine.hooked = true →
      ∃ t, Reachable e t ∧ t.engine = (svc.handleAll reqs).2.engine ∧ t.pending = [] ∧
        t.cancelledAt = none := by
  induction reqs with
  | nil => exact fun svc s hr he hp hc _ => ⟨s, hr, he, hp, hc⟩
  | cons req reqs ih =>
    intro svc s hr he hp hc hh
    have hall : (svc.handleAll (req :: reqs)).2 = ((svc.handle req).2.handleAll reqs).2 := rfl
    rw [hall]
    rcases svc.handle_changes req hh with hsame | ⟨hbump, hh'⟩
    · exact ih _ s hr (he.trans hsame.symm) hp hc (hsame ▸ hh)
    · -- the request's change, then its notification
      let changed : Saver :=
        { s with
          engine := (svc.handle req).2.engine
          pending := (svc.handle req).2.engine.changes :: s.pending }
      have hm : Step s changed := .mutate s _ (by rw [hbump, he])
      have hn := Step.notify changed (svc.handle req).2.engine.changes List.mem_cons_self
      refine ih _ _ ((hr.tail hm).tail hn) rfl ?_ hc hh'
      simp [changed, hp]

/-- The saver in every interleaving of its loop with the changes of the graph, their
notifications and its cancellation. While it waits, the store holds every change whose
notification has returned, unless a token waits in the slot or the graph is dirty; the store
holds the snapshot of a version the graph has reached, and at that version the graph as it is.
A loop that returns with no error has stored every change notified before the cancellation, a
failed save of the loop being made again at the latest then; the loop returns only after the
cancellation, and with an error only when its last save fails. A server that answers requests,
each change notified, and cancels the saver once they have all returned, has the store hold the
graph of all the requests whenever the loop then returns with no error. -/
theorem keeps_notified_changes (svc : Service) (hh : svc.engine.hooked = true)
    (reqs : List Request) :
    (∀ s, Reachable svc.engine s →
      (s.phase = .waiting → ∀ k, s.Notified k → s.slot = true ∨ s.dirty = true ∨ k ≤ s.storedAt) ∧
      s.storedAt ≤ s.engine.changes ∧
      (s.storedAt = s.engine.changes → s.stored = s.engine.snapshot) ∧
      (s.phase = .done (.ok ()) → ∀ k, s.NotifiedBeforeCancel k → k ≤ s.storedAt) ∧
      (∀ r, s.phase = .done r → s.cancelledAt.isSome = true) ∧
      (∀ t f, Step s t → t.phase = .done (.error f) →
        s.phase = t.phase ∨ ∃ snap v, s.phase = .saving snap v true)) ∧
    ∃ s, Reachable svc.engine s ∧ s.engine = (svc.handleAll reqs).2.engine ∧
      s.cancelledAt = some (s.engine.changes, []) ∧
      ∀ t, Relation.ReflTransGen Step s t → t.engine.changes = s.engine.changes →
        t.phase = .done (.ok ()) → t.stored = s.engine.snapshot := by
  refine ⟨fun s hs => ?_, ?_⟩
  · have hi := inv_reachable hs
    exact ⟨hi.waiting, hi.storedAt_le, hi.stored_current, fun hd => (hi.done _ hd).2 rfl,
      fun r hr => (hi.done r hr).1, fun t f hst ht => hst.done_error ht⟩
  · -- serve the requests, then cancel: nothing is pending and nothing changes after
    obtain ⟨s, hs, he, hp, hc⟩ :=
      reachable_handleAll reqs svc (start svc.engine) .refl rfl rfl rfl hh
    refine ⟨{ s with cancelledAt := some (s.engine.changes, s.pending) },
      hs.tail (.cancel s hc), he, by rw [hp], fun t hrun hch hd => ?_⟩
    have hreach : Reachable svc.engine t := (hs.tail (.cancel s hc)).trans hrun
    have hsame := (engine_of_run hrun).2 hch
    have hct := cancelledAt_of_run hrun rfl
    simp only [hp] at hct hsame
    rw [← hsame]
    exact (inv_reachable hreach).stored_of_quiet hd (by rw [hct, hsame])

/-- A server that answers one create and is then stopped. -/
theorem keeps_notified_changes_of_create :
    ({} : Service).engine.hooked = true ∧
      ((∀ s, Reachable ({} : Service).engine s →
        (s.phase = .waiting →
          ∀ k, s.Notified k → s.slot = true ∨ s.dirty = true ∨ k ≤ s.storedAt) ∧
        s.storedAt ≤ s.engine.changes ∧
        (s.storedAt = s.engine.changes → s.stored = s.engine.snapshot) ∧
        (s.phase = .done (.ok ()) → ∀ k, s.NotifiedBeforeCancel k → k ≤ s.storedAt) ∧
        (∀ r, s.phase = .done r → s.cancelledAt.isSome = true) ∧
        (∀ t f, Step s t → t.phase = .done (.error f) →
          s.phase = t.phase ∨ ∃ snap v, s.phase = .saving snap v true)) ∧
      ∃ s, Reachable ({} : Service).engine s ∧
        s.engine = (({} : Service).handleAll
          [⟨"POST", { path := bytesOf "/v1/parts" }, "\x7b\"name\":\"A\"\x7d"⟩]).2.engine ∧
        s.cancelledAt = some (s.engine.changes, []) ∧
        ∀ t, Relation.ReflTransGen Step s t → t.engine.changes = s.engine.changes →
          t.phase = .done (.ok ()) → t.stored = s.engine.snapshot) :=
  ⟨rfl, keeps_notified_changes {} rfl _⟩

end Saver

end BillOfMaterials
