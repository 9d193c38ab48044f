import Mathlib
import BillOfMaterials.Proofs.Engine.Invariant

/-!
# Engines alike up to the order of parents

Two engines are *alike* (`Engine.Alike`) when their graphs are alike (`Graph.Alike`: the same
records in the same order, with the same ids, names and children, and the same parents in some
order) and they draw ids from the same stream. Alike engines answer every call alike
(`Reply.Alike`): a part with the same id, name and children and the same parents in some order;
lists of such parts in the same order, except the parts that contain a part, which come in an
order that follows the parents lists; the same snapshot and statistics. Each call leaves them
alike (`Engine.Alike.run`), and so does every run of calls (`Engine.Alike.runAll`).

A snapshot records the children of each part and not its parents, so a restore rebuilds each
parents list in snapshot order, which need not be the order in which the edges were made.
`restore_snapshot_alike`: restoring the snapshot of an engine that calls reached gives an engine
alike to it, with the same snapshot and statistics and a passing invariant check; and no more
than alike: after `restore_reorders_parents` the restored engine lists the parents of a part,
and the parts that contain it, in another order.
-/

namespace BillOfMaterials

/-- Two engines alike: alike graphs and the same id stream. The change hook is not compared: no
answer reads it. -/
structure Engine.Alike (e e' : Engine) : Prop where
  graph : e.graph.Alike e'.graph
  ids : e.ids = e'.ids

/-- Two answers alike: alike parts; lists of parts alike one by one, up to a reordering; the
same snapshot, statistics or acknowledgement. -/
inductive Reply.Alike : Reply → Reply → Prop
  | part {p q : Part} : p.Alike q → Reply.Alike (.part p) (.part q)
  | parts {ps qs rs : List Part} : List.Forall₂ Part.Alike ps qs → qs.Perm rs →
      Reply.Alike (.parts ps) (.parts rs)
  | snapshot (s : Snapshot) : Reply.Alike (.snapshot s) (.snapshot s)
  | stats (s : Stats) : Reply.Alike (.stats s) (.stats s)
  | done : Reply.Alike .done .done

namespace Engine.Alike

open BillOfMaterials.Graph

variable {e e' : Engine}

/-! ## Reads -/

theorem stats (h : e.Alike e') : e.stats = e'.stats := by
  unfold Engine.stats
  refine h.graph.foldl_nodes (fun st n m hnm => ?_) ({} : Stats)
  dsimp only
  rw [hnm.parents_size, hnm.children_size]

theorem contained (hw : e.graph.WellFormed) (hw' : e'.graph.WellFormed) (h : e.Alike e')
    (id : PartId) :
    Agree (fun ps rs => ∃ qs, List.Forall₂ Part.Alike ps qs ∧ qs.Perm rs)
      (e.contained id) (e'.contained id) := by
  unfold Engine.contained
  refine (h.graph.contained hw.toConsistent hw'.toConsistent id).bind_of_ok
    fun r r' hr hr' hperm => ?_
  have hlive : ∀ x ∈ r, x ∈ e'.graph.ids := fun x hx => h.graph.ids ▸ walk_live hw.parents_live hr x hx
  have hlive' : ∀ x ∈ r', x ∈ e'.graph.ids := walk_live hw'.parents_live hr'
  have hok : ∀ {ids : List PartId}, (∀ x ∈ ids, x ∈ e'.graph.ids) → ∃ qs, e'.graph.views ids = .ok qs := by
    intro ids hids
    cases hv : e'.graph.views ids with
    | error f =>
      obtain ⟨x, hx, hdead⟩ := views_error hv
      exact absurd (hids x hx) hdead
    | ok qs => exact ⟨qs, rfl⟩
  obtain ⟨qs, hqs⟩ := hok hlive
  obtain ⟨rs, hrs⟩ := hok hlive'
  have hagree := h.graph.views r
  rw [hqs] at hagree
  rw [hrs]
  match e.graph.views r, hagree with
  | .ok _, .ok hpq => exact .ok ⟨qs, hpq, mapM_perm hperm hqs hrs⟩

theorem listDescendants (h : e.Alike e') (id : PartId) (f : Filter) :
    Agree (List.Forall₂ Part.Alike) (e.listDescendants id f) (e'.listDescendants id f) := by
  unfold Engine.listDescendants
  rw [h.graph.descendants]
  refine Agree.bind_same _ fun r => (h.graph.views r).bind fun ps qs hpq => .ok ?_
  exact List.rel_filter (fun p q hpq => by dsimp only; rw [hpq.admitsPart]) hpq

/-! ## Changes -/

theorem createPart (hc : e.graph.Consistent) (hc' : e'.graph.Consistent) (h : e.Alike e')
    (name : String) :
    Agree (fun a b : Part × Engine => a.1.Alike b.1 ∧ a.2.Alike b.2)
      (e.createPart name) (e'.createPart name) := by
  unfold Engine.createPart
  rw [← h.ids]
  refine (h.graph.create hc hc' e.ids name).bind fun a b hab => ?_
  obtain ⟨id, g, s⟩ := a
  obtain ⟨id', g', s'⟩ := b
  obtain ⟨rfl, hg, rfl⟩ := hab
  exact (hg.get id).bind fun p q hpq => .ok ⟨hpq, by simpa using hg, by simp⟩

theorem deletePart (hc : e.graph.Consistent) (h : e.Alike e') (id : PartId) :
    Agree (fun a b : Part × Engine => a.1.Alike b.1 ∧ a.2.Alike b.2)
      (e.deletePart id) (e'.deletePart id) := by
  unfold Engine.deletePart
  refine (h.graph.get id).bind fun p q hpq => ?_
  exact (h.graph.deleteCascade hc id).bind fun g g' hg =>
    .ok ⟨hpq, by simpa using hg, by simpa using h.ids⟩

theorem updateChildren (h : e.Alike e') (id : PartId) (action : Action) (children : List PartId) :
    Agree (fun a b : Part × Engine => a.1.Alike b.1 ∧ a.2.Alike b.2)
      (e.updateChildren id action children) (e'.updateChildren id action children) := by
  unfold Engine.updateChildren
  refine (h.graph.updateChildren id action children).bind fun g g' hg => ?_
  exact (hg.get id).bind fun p q hpq => .ok ⟨hpq, by simpa using hg, by simpa using h.ids⟩

theorem restore (h : e.Alike e') (s : Snapshot) : Agree Engine.Alike (e.restore s) (e'.restore s) := by
  unfold Engine.restore
  exact Agree.bind_same s.build fun g => .ok ⟨Graph.Alike.refl g, h.ids⟩

/-! ## Calls -/

theorem run_change {f f' : Engine → Except Fault (Part × Engine)}
    (hxy : Agree (fun a b : Part × Engine => a.1.Alike b.1 ∧ a.2.Alike b.2) (f e) (f' e'))
    (h : e.Alike e') :
    Agree Reply.Alike (e.runEdit (Edit.step f) .part).1 (e'.runEdit (Edit.step f') .part).1 ∧
      (e.runEdit (Edit.step f) .part).2.Alike (e'.runEdit (Edit.step f') .part).2 := by
  rw [runEdit_step, runEdit_step]
  generalize f e = x at hxy ⊢
  generalize f' e' = y at hxy ⊢
  cases hxy with
  | error f => exact ⟨.error f, h⟩
  | ok hab => exact ⟨.ok (.part hab.1), hab.2⟩

/-- Alike engines answer each call alike and are left alike. -/
theorem run (hw : e.graph.WellFormed) (hw' : e'.graph.WellFormed) (h : e.Alike e') (c : Command) :
    Agree Reply.Alike (e.run c).1 (e'.run c).1 ∧ (e.run c).2.Alike (e'.run c).2 := by
  cases c with
  | create name =>
    simp only [run_create]
    exact run_change (h.createPart hw.toConsistent hw'.toConsistent name) h
  | delete id =>
    simp only [run_delete]
    exact run_change (Agree.bind_same _ fun pid => h.deletePart hw.toConsistent pid) h
  | update id action children =>
    simp only [run_update]
    exact run_change (Agree.bind_same _ fun pid => Agree.bind_same _ fun cs =>
      h.updateChildren pid action cs) h
  | restore specs =>
    have hr := Agree.bind_same (PartSpec.read specs) fun s => h.restore s
    simp only [run_restore, runEdit_update]
    generalize (do e.restore (← PartSpec.read specs)) = x at hr ⊢
    generalize (do e'.restore (← PartSpec.read specs)) = y at hr ⊢
    cases hr with
    | error f => exact ⟨.error f, h⟩
    | ok he => exact ⟨.ok .done, he⟩
  | get id =>
    exact ⟨Agree.bind_same _ fun pid => (h.graph.get pid).bind fun _ _ hpq => .ok (.part hpq), h⟩
  | list f => exact ⟨.ok (.parts (h.graph.listParts f) (.refl _)), h⟩
  | children id f =>
    exact ⟨Agree.bind_same _ fun pid => (h.graph.listChildren pid f).bind fun _ _ hpq =>
      .ok (.parts hpq (.refl _)), h⟩
  | contained id =>
    refine ⟨Agree.bind_same _ fun pid => (h.contained hw hw' pid).bind fun _ _ hq => ?_, h⟩
    obtain ⟨_, hpq, hqr⟩ := hq
    exact .ok (.parts hpq hqr)
  | descendants id f =>
    exact ⟨Agree.bind_same _ fun pid => (h.listDescendants pid f).bind fun _ _ hpq =>
      .ok (.parts hpq (.refl _)), h⟩
  | snapshot =>
    refine ⟨?_, h⟩
    show Agree Reply.Alike (.ok (.snapshot e.graph.snapshot)) (.ok (.snapshot e'.graph.snapshot))
    rw [h.graph.snapshot]
    exact .ok (.snapshot _)
  | stats =>
    refine ⟨?_, h⟩
    show Agree Reply.Alike (.ok (.stats e.stats)) (.ok (.stats e'.stats))
    rw [h.stats]
    exact .ok (.stats _)
  | check =>
    exact ⟨(Agree.of_ok (R := fun _ _ => True) hw.checkInvariants_eq_ok
      hw'.checkInvariants_eq_ok trivial).bind fun _ _ _ => .ok .done, h⟩

/-- Alike engines answer every run of calls alike, call by call, and end alike. -/
theorem runAll (hw : e.graph.WellFormed) (hw' : e'.graph.WellFormed) (h : e.Alike e')
    (cs : List Command) :
    List.Forall₂ (Agree Reply.Alike) (e.runAll cs).1 (e'.runAll cs).1 ∧
      (e.runAll cs).2.Alike (e'.runAll cs).2 := by
  induction cs generalizing e e' with
  | nil => exact ⟨.nil, h⟩
  | cons c cs ih =>
    obtain ⟨hr, hrun⟩ := h.run hw hw' c
    obtain ⟨hrs, hend⟩ := ih (run_wellFormed hw c) (run_wellFormed hw' c) hrun
    exact ⟨.cons hr hrs, hend⟩

end Engine.Alike

namespace Engine

open BillOfMaterials.Graph

/-- Restoring the snapshot of an engine that calls reached, into a fresh engine drawing from the
same id stream, succeeds and gives an engine alike to it: the same snapshot and statistics, a
passing invariant check, each part read back with the same id, name and children and its parents
in some order, every list of parts the same parts alike one by one (the parts that contain a part
in some order), and alike answers to any later calls. Parents lists are rebuilt in snapshot
order, so their order, and the order of the parts that contain a part, is all that may differ. -/
theorem restore_snapshot_alike (ids : IdStream) (cs : List Command) :
    let e := ((fresh ids).runAll cs).2
    ∃ e', (fresh e.ids).restore e.snapshot = .ok e' ∧ e'.snapshot = e.snapshot ∧
      e'.stats = e.stats ∧ e'.checkInvariants = .ok () ∧
      (∀ id, Agree Part.Alike (e.getPart id) (e'.getPart id)) ∧
      (∀ f, List.Forall₂ Part.Alike (e.listParts f) (e'.listParts f)) ∧
      (∀ id f, Agree (List.Forall₂ Part.Alike) (e.listChildren id f) (e'.listChildren id f)) ∧
      (∀ id, Agree (fun ps rs => ∃ qs, List.Forall₂ Part.Alike ps qs ∧ qs.Perm rs)
        (e.contained id) (e'.contained id)) ∧
      (∀ id f, Agree (List.Forall₂ Part.Alike) (e.listDescendants id f) (e'.listDescendants id f)) ∧
      ∀ cs', List.Forall₂ (Agree Reply.Alike) (e.runAll cs').1 (e'.runAll cs').1 := by
  intro e
  obtain ⟨hw, hnil⟩ := runAll_fresh_wellFormed ids cs
  obtain ⟨g, hb, hsnap, halike⟩ := Snapshot.build_snapshot hw hnil
  have hw' : g.WellFormed := Snapshot.build_wellFormed hb
  have he : e.Alike { fresh e.ids with graph := g } := ⟨halike, rfl⟩
  refine ⟨{ fresh e.ids with graph := g }, ?_, hsnap, he.stats.symm, hw'.checkInvariants_eq_ok,
    fun id => he.graph.get id, fun f => he.graph.listParts f,
    fun id f => he.graph.listChildren id f, fun id => he.contained hw hw' id,
    fun id f => he.listDescendants id f, fun cs' => (he.runAll hw hw' cs').1⟩
  unfold Engine.restore Engine.snapshot
  rw [hb]
  rfl

/-- Restoring a snapshot can reorder parents. `X` gets the parent `P2` before the parent `P1`,
against the order the two were created in; the snapshot lists `P1` first, so the restored engine
lists the parents of `X`, and the parts that contain it, as `P1`, `P2`. -/
theorem restore_reorders_parents :
    let e := ((fresh {}).runAll [.create "P1", .create "P2", .create "X",
      .update (IdStream.ofSerial 2).toString .add [(IdStream.ofSerial 3).toString],
      .update (IdStream.ofSerial 1).toString .add [(IdStream.ofSerial 3).toString]]).2
    (e.getPart (IdStream.ofSerial 3)).map (·.parents) =
        .ok [IdStream.ofSerial 2, IdStream.ofSerial 1] ∧
      (e.contained (IdStream.ofSerial 3)).map (·.map (·.id)) =
        .ok [IdStream.ofSerial 2, IdStream.ofSerial 1] ∧
      ((fresh e.ids).restore e.snapshot >>= fun e' =>
        (e'.getPart (IdStream.ofSerial 3)).map (·.parents)) =
        .ok [IdStream.ofSerial 1, IdStream.ofSerial 2] ∧
      ((fresh e.ids).restore e.snapshot >>= fun e' =>
        (e'.contained (IdStream.ofSerial 3)).map (·.map (·.id))) =
        .ok [IdStream.ofSerial 1, IdStream.ofSerial 2] := by
  cbv

end Engine

end BillOfMaterials
