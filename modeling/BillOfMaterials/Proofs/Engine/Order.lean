import BillOfMaterials.Proofs.Engine.Stats

/-!
# The order of the listings

The records of a graph stand in the order their parts entered it. A caller can tell that order
from the answers alone (`Engine.entered`): the parts of the last restore, in snapshot order,
then each part a later create returned, less the parts deleted since.

* `SeqSorted`: the records stand in increasing order of sequence number; every call keeps it
  (`run_seqSorted`), so sorting the records by sequence number gives back their order
  (`eq_of_perm_of_seq_le`);
* `ids_run`, `ids_runAll`: the live ids follow the entry order call by call, hence over a run;
* `listing_in_entry_order`: in every engine reached from a fresh one, the full listing, the list
  of all parts and the snapshot hold each live part once, in entry order; they agree with an
  order by sequence number; and a filter lists the parts of the full listing it admits.
-/

namespace BillOfMaterials

namespace Graph

/-! ## Sequence numbers -/

/-- The records stand in increasing order of sequence number. -/
def SeqSorted (g : Graph) : Prop := (g.nodes.map (·.seq)).Pairwise (· < ·)

theorem SeqSorted.insert {g : Graph} (hc : g.Consistent) (h : g.SeqSorted) (id : PartId)
    (name : String) : (g.insert id name).SeqSorted := by
  unfold SeqSorted
  rw [insert_nodes, List.map_append, List.pairwise_append]
  refine ⟨h, List.pairwise_singleton _ _, ?_⟩
  simp only [List.mem_map, List.map_cons, List.map_nil, List.mem_singleton]
  rintro _ ⟨n, hn, rfl⟩ _ rfl
  exact Nat.lt_succ_of_le (hc.seq_le n hn)

theorem SeqSorted.create {g g' : Graph} (hc : g.Consistent) (h : g.SeqSorted) {s s' : IdStream}
    {name : String} {id : PartId} (hcr : g.create s name = .ok (id, g', s')) : g'.SeqSorted := by
  obtain ⟨-, -, -, rfl⟩ := create_eq_ok.1 hcr
  exact h.insert hc id name

theorem SeqSorted.updateChildren {g g' : Graph} (h : g.SeqSorted) {id : PartId} {action : Action}
    {childIds : List PartId} (hu : g.updateChildren id action childIds = .ok g') :
    g'.SeqSorted := by
  unfold SeqSorted
  rwa [map_updateChildren (fun _ _ _ => rfl) hu]

theorem SeqSorted.deleteCascade {g g' : Graph} (h : g.SeqSorted) {id : PartId}
    (hd : g.deleteCascade id = .ok g') : g'.SeqSorted := by
  unfold SeqSorted
  rw [map_deleteCascade (fun _ _ _ => rfl) hd]
  exact h.sublist (List.filter_sublist.map _)

theorem SeqSorted.of_build {s : Snapshot} {g : Graph} (hb : s.build = .ok g) :
    g.SeqSorted := by
  obtain ⟨g1, h1, h2, -⟩ := Snapshot.build_eq_ok hb
  have hparts : g1.nodes.map (·.seq) = List.range' 1 s.parts.zipIdx.length :=
    (foldlM_eq_ok_induction
      (fun pre g => g.nodes.map (·.seq) = List.range' 1 pre.length ∧ g.nextSeq = pre.length)
      ⟨rfl, rfl⟩ (fun pre x _ g g' _ hg hx => by
        obtain ⟨-, -, -, -, rfl⟩ := Snapshot.addPart_eq_ok.1 hx
        refine ⟨?_, by simp [Graph.insert, hg.2]⟩
        rw [insert_nodes, List.map_append, hg.1, hg.2, List.length_append, List.length_singleton,
          List.range'_1_concat]
        simp [Nat.add_comm]) h1).1
  have hedges : g.nodes.map (·.seq) = g1.nodes.map (·.seq) :=
    foldlM_eq_ok_induction (fun _ g' => g'.nodes.map (·.seq) = g1.nodes.map (·.seq)) rfl
      (fun _ p _ g2 g3 _ hg2 hp => foldlM_eq_ok_induction
        (fun _ g' => g'.nodes.map (·.seq) = g1.nodes.map (·.seq)) hg2
        (fun _ c _ g4 g5 _ hg4 hc => by
          obtain ⟨-, -, rfl⟩ := Snapshot.addEdge_eq_ok.1 hc
          rw [map_link (fun _ _ _ => rfl), hg4]) hp) h2
  unfold SeqSorted
  rw [hedges, hparts]
  exact List.pairwise_lt_range'

/-- Records in increasing order of sequence number are the one order of them that is sorted by
sequence number. -/
theorem eq_of_perm_of_seq_le {g : Graph} (h : g.SeqSorted) {l : List Node} (hp : l.Perm g.nodes)
    (hs : (l.map (·.seq)).Pairwise (· ≤ ·)) : l = g.nodes := by
  have hnd : (g.nodes.map (·.seq)).Nodup := h.imp Nat.ne_of_lt
  have hl : l.Pairwise fun a b => a.seq ≤ b.seq := List.pairwise_map.1 hs
  have hg : g.nodes.Pairwise fun a b => a.seq ≤ b.seq := List.pairwise_map.1 (h.imp Nat.le_of_lt)
  refine hp.eq_of_pairwise (fun a b ha hb hab hba => ?_) hl hg
  exact List.inj_on_of_nodup_map hnd (hp.subset ha) hb (Nat.le_antisymm hab hba)

theorem list_ids (g : Graph) : g.list.map (·.id) = g.ids := by
  simp [list, ids, Node.view]

end Graph

namespace Engine

/-! ## The entry order -/

/-- The live parts in the order they entered, after one call, as its answer tells: a created
part comes last, a deleted part leaves, and a restore starts again from its snapshot. -/
def enteredAfter (order : List PartId) : Command → Except Fault Reply → List PartId
  | .create _, .ok (.part p) => order ++ [p.id]
  | .delete _, .ok (.part p) => order.erase p.id
  | .restore specs, .ok _ =>
    match PartSpec.read specs with
    | .ok s => s.parts.map (·.id)
    | .error _ => order
  | _, _ => order

/-- The live parts in the order they entered, after a run of calls. -/
def entered (e : Engine) (order : List PartId) : List Command → List PartId
  | [] => order
  | c :: cs => (e.run c).2.entered (enteredAfter order c (e.run c).1) cs

/-- Every call keeps the records of a graph in order of sequence number. -/
theorem run_seqSorted {e : Engine} (h : e.graph.WellFormed ∧ e.graph.SeqSorted) (c : Command) :
    (e.run c).2.graph.WellFormed ∧ (e.run c).2.graph.SeqSorted :=
  run_keeps (P := fun g => g.WellFormed ∧ g.SeqSorted)
    (fun h hc => ⟨h.1.create hc, h.2.create h.1.toConsistent hc⟩)
    (fun h hd => ⟨h.1.deleteCascade hd, h.2.deleteCascade hd⟩)
    (fun h hu => ⟨h.1.updateChildren hu, h.2.updateChildren hu⟩)
    (fun hb => ⟨Snapshot.build_wellFormed hb, Graph.SeqSorted.of_build hb⟩) h c

theorem createPart_ids {e e' : Engine} {name : String} {p : Part}
    (h : e.createPart name = .ok (p, e')) : e'.graph.ids = e.graph.ids ++ [p.id] := by
  unfold createPart at h
  simp only [bind_eq_ok, pure_eq_ok, Prod.mk.injEq] at h
  obtain ⟨⟨id, g, ids⟩, hc, q, hq, rfl, rfl⟩ := h
  rw [graph_changed, Graph.get_id hq]
  exact Graph.create_ids hc

theorem deletePart_ids {e e' : Engine} {id : PartId} {p : Part}
    (h : e.deletePart id = .ok (p, e')) :
    p.id = id ∧ e'.graph.ids = e.graph.ids.filter (· != id) := by
  unfold deletePart at h
  simp only [bind_eq_ok, pure_eq_ok, Prod.mk.injEq] at h
  obtain ⟨q, hq, g, hg, rfl, rfl⟩ := h
  exact ⟨Graph.get_id hq, by rw [graph_changed]; exact Graph.deleteCascade_ids hg⟩

/-- One call moves the live ids along the entry order its answer tells. -/
theorem ids_run {e : Engine} (hnd : e.graph.ids.Nodup) (c : Command) :
    (e.run c).2.graph.ids = enteredAfter e.graph.ids c (e.run c).1 := by
  cases c with
  | create name =>
    simp only [run_create, runEdit_step]
    split
    · rename_i p e' hc
      exact createPart_ids hc
    · rfl
  | delete id =>
    simp only [run_delete, runEdit_step]
    split
    · rename_i p e' hd
      rw [bind_eq_ok] at hd
      obtain ⟨pid, -, hd⟩ := hd
      obtain ⟨rfl, hids⟩ := deletePart_ids hd
      rw [hids, enteredAfter, hnd.erase_eq_filter]
    · rfl
  | update id action children =>
    simp only [run_update, runEdit_step]
    split
    · rename_i p e' hu
      simp only [bind_eq_ok] at hu
      obtain ⟨_, -, _, -, hu⟩ := hu
      obtain ⟨g, hg, rfl⟩ := updateChildren_eq_ok hu
      simpa [enteredAfter] using Graph.updateChildren_ids hg
    · rfl
  | restore specs =>
    simp only [run_restore, runEdit_update]
    split
    · rename_i e' hr
      rw [bind_eq_ok] at hr
      obtain ⟨s, hs, hr⟩ := hr
      obtain ⟨g, hg, rfl⟩ := restore_eq_ok hr
      simp only [enteredAfter, hs]
      exact (Snapshot.build_ids hg).1
    · rfl
  | get | list | children | contained | descendants | snapshot | stats | check => rfl

/-- Over a run of calls, the live ids follow the entry order the answers tell. The induction is
on the calls, each step by `ids_run`, with well-formedness carried along. -/
theorem ids_runAll {e : Engine} (h : e.graph.WellFormed) (cs : List Command) :
    (e.runAll cs).2.graph.ids = e.entered e.graph.ids cs := by
  induction cs generalizing e with
  | nil => rfl
  | cons c cs ih =>
    simp only [runAll, entered]
    rw [ih (run_wellFormed h c), ids_run h.ids_nodup c]

/-- In every engine that calls reach from a fresh one, the listing of all parts, the list of
parts and the snapshot each hold every live part once, in the order the parts entered: the
parts of the last restore in snapshot order, then each later created part in call order. The
records are in increasing order of sequence number, so sorting them by sequence number gives
that order back; and a filter lists the parts of the full listing it admits, in that order. -/
theorem listing_in_entry_order (ids : IdStream) (cs : List Command) :
    let e := ((Engine.fresh ids).runAll cs).2
    let order := (Engine.fresh ids).entered [] cs
    order.Nodup ∧ e.graph.ids = order ∧ (e.listParts .all).map (·.id) = order ∧
      e.graph.list.map (·.id) = order ∧ e.snapshot.parts.map (·.id) = order ∧
      (∀ l, l.Perm e.graph.nodes → (l.map (·.seq)).Pairwise (· ≤ ·) → l = e.graph.nodes) ∧
      ∀ f, e.listParts f = (e.listParts .all).filter f.admitsPart := by
  intro e order
  have hinv := runAll_keeps (Q := fun e => e.graph.WellFormed ∧ e.graph.SeqSorted)
    (e := Engine.fresh ids) (fun e c h => run_seqSorted h c) cs
    ⟨Graph.wellFormed_empty, List.Pairwise.nil⟩
  have hids : e.graph.ids = order := ids_runAll Graph.wellFormed_empty cs
  refine ⟨hids ▸ hinv.1.ids_nodup, hids, ?_, ?_, ?_, fun l hp hs => Graph.eq_of_perm_of_seq_le hinv.2 hp hs,
    fun f => Graph.listParts_eq_filter e.graph f⟩
  · show (e.graph.listParts .all).map (·.id) = order
    rw [Graph.listParts_all, Graph.list_ids, hids]
  · rw [Graph.list_ids, hids]
  · rw [← hids, Graph.ids_eq_snapshot]
    rfl

end Engine

end BillOfMaterials
