import BillOfMaterials.Proofs.Graph.Alike
import Mathlib.Data.List.Induction

/-!
# Restoring a graph from a snapshot

`Snapshot.build` adds the parts of a snapshot with no edges (`Snapshot.addPart`), then the edge
from each part to each of its children (`Snapshot.addEdge`), then looks for a cycle. Whatever
snapshot it is given:

* `build_wellFormed` : a graph it builds is well formed;
* `build_error` : it refuses a snapshot only for a reason found in the snapshot (a missing,
  repeated or unknown id, a blank or repeated name, a part its own child, a cycle); the last
  check, of the graph's invariants, always passes.

Once the parts are in, the second pass links every child that is a part other than its parent,
and the graph then records each children list with its repeats dropped (`addEdges_dedupe`;
`addEdges_exists` when no list repeats).

A snapshot records children but not parents, and on a consistent graph the parents follow from
the children up to their order (`Alike.of_snapshot_eq`). So a well-formed graph whose ids are
not nil is rebuilt from its own snapshot, alike to it (`build_snapshot`): the same records in
the same order, with the same ids, names and children, and the same parents, listed in
snapshot order.
-/

namespace BillOfMaterials

theorem dedupe_append_singleton (l : List PartId) (c : PartId) :
    dedupe (l ++ [c]) = if c ∈ l then dedupe l else dedupe l ++ [c] := by
  have hmem : ∀ x, x ∈ l.foldl (fun acc id => if acc.contains id then acc else id :: acc) [] ↔
      x ∈ l := fun x => by simpa using (dedupe_foldl l [] List.nodup_nil).2 x
  unfold dedupe
  rw [List.foldl_append, List.foldl_cons, List.foldl_nil]
  by_cases hc : c ∈ l
  · rw [if_pos (by simpa using (hmem c).2 hc), if_pos hc]
  · rw [if_neg (by simpa using fun h => hc ((hmem c).1 h)), if_neg hc, List.reverse_cons]

theorem dedupe_of_nodup {l : List PartId} (h : l.Nodup) : dedupe l = l := by
  induction l using List.reverseRecOn with
  | nil => rfl
  | append_singleton l c ih =>
    rw [List.nodup_append] at h
    have hc : c ∉ l := fun hc => h.2.2 c hc c List.mem_cons_self rfl
    rw [dedupe_append_singleton, if_neg hc, ih h.1]

namespace Graph

/-! ## What a snapshot records -/

theorem snapshot_parts (g : Graph) :
    g.snapshot.parts = g.nodes.map fun n => ⟨n.id, n.name, n.children.toList⟩ := rfl

theorem ids_eq_snapshot (g : Graph) : g.ids = g.snapshot.parts.map (·.id) := by
  simp [ids, snapshot_parts]

theorem names_eq_snapshot (g : Graph) : g.nodes.map (·.name) = g.snapshot.parts.map (·.name) := by
  simp [snapshot_parts]

theorem edge_iff_snapshot {g : Graph} {a b : PartId} :
    g.Edge a b ↔ ∃ q ∈ g.snapshot.parts, q.id = a ∧ b ∈ q.children := by
  simp [Edge, snapshot_parts]

theorem snapshot_insert (g : Graph) (id : PartId) (name : String) :
    (g.insert id name).snapshot.parts = g.snapshot.parts ++ [⟨id, name, []⟩] := by
  simp [snapshot_parts, insert_nodes]

theorem snapshot_link (g : Graph) (p c : PartId) :
    (g.link p c).snapshot.parts = g.snapshot.parts.map fun q =>
      if q.id = p then ⟨q.id, q.name, if c ∈ q.children then q.children else q.children ++ [c]⟩
      else q := by
  simp only [snapshot_parts, link_nodes, List.map_map]
  refine List.map_congr_left fun n _ => ?_
  by_cases hp : n.id = p <;> simp [hp, IdSet.add_toList]

theorem snapshot_link_split {g : Graph} {pre post : List SnapshotPart} {q : SnapshotPart}
    {c : PartId} (hg : g.snapshot.parts = pre ++ q :: post)
    (hids : ((pre ++ q :: post).map (·.id)).Nodup) :
    (g.link q.id c).snapshot.parts = pre ++
      { q with children := if c ∈ q.children then q.children else q.children ++ [c] } :: post := by
  rw [snapshot_link, hg, List.map_append, List.map_cons, if_pos rfl]
  rw [List.map_append, List.map_cons, List.nodup_append] at hids
  have hpost : q.id ∉ post.map (·.id) := (List.nodup_cons.1 hids.2.1).1
  congr 1
  · -- the parts before have other ids
    conv_rhs => rw [← List.map_id pre]
    exact List.map_congr_left fun r hr =>
      if_neg fun e => hids.2.2 _ (List.mem_map_of_mem hr) _ List.mem_cons_self e
  · congr 1
    conv_rhs => rw [← List.map_id post]
    exact List.map_congr_left fun r hr =>
      if_neg fun (e : r.id = q.id) => hpost (e ▸ List.mem_map_of_mem hr)

/-- Consistent graphs with one snapshot are alike: their parents lists hold the same parts, each
the parts whose children hold the record. -/
theorem Alike.of_snapshot_eq {g g' : Graph} (hc : g.Consistent) (hc' : g'.Consistent)
    (hs : g.snapshot = g'.snapshot) : g.Alike g' := by
  have hedge : ∀ {a b}, g.Edge a b ↔ g'.Edge a b := by
    intro a b
    rw [edge_iff_snapshot, edge_iff_snapshot, hs]
  have key : ∀ {l l' : List Node}, (∀ n ∈ l, n ∈ g.nodes) → (∀ m ∈ l', m ∈ g'.nodes) →
      (l.map fun n => (⟨n.id, n.name, n.children.toList⟩ : SnapshotPart)) =
        l'.map (fun n => ⟨n.id, n.name, n.children.toList⟩) → List.Forall₂ Node.Alike l l' := by
    intro l
    induction l with
    | nil =>
      intro l' _ _ he
      rw [List.map_nil, eq_comm, List.map_eq_nil_iff] at he
      rw [he]
      exact .nil
    | cons n l ih =>
      intro l' hl hl' he
      cases l' with
      | nil => cases he
      | cons m l' =>
        rw [List.map_cons, List.map_cons, List.cons.injEq, SnapshotPart.mk.injEq] at he
        obtain ⟨⟨hid, hname, hch⟩, hrest⟩ := he
        have hn := hl n List.mem_cons_self
        have hm := hl' m List.mem_cons_self
        refine .cons ⟨hid, hname, IdSet.ext_toList hch, ?_⟩
          (ih (fun x hx => hl x (List.mem_cons_of_mem n hx))
            (fun x hx => hl' x (List.mem_cons_of_mem m hx)) hrest)
        refine (List.perm_ext_iff_of_nodup (hc.parents_nodup n hn) (hc'.parents_nodup m hm)).2
          fun x => ?_
        rw [← hc.edge_iff_mem_parents hn, ← hc'.edge_iff_mem_parents hm, hid, hedge]
  exact key (fun _ hn => hn) (fun _ hm => hm) (congrArg Snapshot.parts hs)

end Graph

namespace Snapshot

open BillOfMaterials.Graph

/-! ## One part, one edge -/

theorem addPart_eq_ok {g g' : Graph} {p : SnapshotPart} {i : Nat} :
    addPart g p i = .ok g' ↔ p.id ≠ PartId.nil ∧ p.id ∉ g.ids ∧ Text.isBlank p.name = false ∧
      g.names.lookup p.name = none ∧ g' = g.insert p.id p.name := by
  unfold addPart
  dsimp only
  by_cases hnil : p.id = PartId.nil
  · rw [if_pos (beq_iff_eq.2 hnil)]
    simp [hnil]
  rw [if_neg (by simpa using hnil)]
  by_cases hlive : p.id ∈ g.ids
  · rw [if_pos (isLive_eq_true.2 hlive)]
    simp [hlive]
  rw [if_neg (by simpa using hlive)]
  cases hb : Text.isBlank p.name
  · rw [if_neg Bool.false_ne_true]
    cases hn : g.names.lookup p.name
    · simp only [pure_eq_ok]
      exact ⟨fun h => ⟨hnil, hlive, by simp, by simp, h.symm⟩, fun h => h.2.2.2.2.symm⟩
    · simp
  · rw [if_pos rfl]
    simp

theorem addEdge_eq_ok {g g' : Graph} {p : SnapshotPart} {c : PartId} :
    addEdge p g c = .ok g' ↔ c ≠ p.id ∧ c ∈ g.ids ∧ g' = g.link p.id c := by
  unfold addEdge
  dsimp only
  by_cases hself : c = p.id
  · rw [if_pos (beq_iff_eq.2 hself)]
    simp [hself]
  rw [if_neg (by simpa using hself)]
  by_cases hlive : c ∈ g.ids
  · rw [if_neg (by simpa using hlive), pure_eq_ok]
    exact ⟨fun h => ⟨hself, hlive, h.symm⟩, fun h => h.2.2.symm⟩
  · have hl : g.isLive c = false := by rw [← Bool.not_eq_true, isLive_eq_true]; exact hlive
    rw [if_pos (by simp [hl])]
    simp [hlive]

theorem addPart_error {g : Graph} {p : SnapshotPart} {i : Nat} {f : Fault}
    (h : addPart g p i = .error f) : f.isKind .internal = false := by
  unfold addPart at h
  dsimp only at h
  split at h
  · simp at h
    subst h
    rfl
  split at h
  · simp at h
    subst h
    rfl
  split at h
  · simp at h
    subst h
    rfl
  split at h
  · simp at h
    subst h
    rfl
  · simp at h

theorem addEdge_error {g : Graph} {p : SnapshotPart} {c : PartId} {f : Fault}
    (h : addEdge p g c = .error f) : f.isKind .internal = false := by
  unfold addEdge at h
  dsimp only at h
  split at h
  · simp at h
    subst h
    rfl
  split at h
  · simp at h
    subst h
    rfl
  · simp at h

/-! ## The two passes -/

theorem addParts_eq_ok {l : List (SnapshotPart × Nat)} {g : Graph}
    (h : l.foldlM (fun g x => addPart g x.1 x.2) {} = .ok g) :
    g.Consistent ∧ g.ids = l.map (·.1.id) := by
  refine foldlM_eq_ok_induction (fun pre g => g.Consistent ∧ g.ids = pre.map (·.1.id))
    ⟨consistent_empty, rfl⟩ (fun pre x post g g' _ hg hx => ?_) h
  obtain ⟨-, hlive, hblank, hname, rfl⟩ := addPart_eq_ok.1 hx
  exact ⟨hg.1.insert hlive (hg.1.lookup_names_eq_none.1 hname) hblank,
    by simp [ids, insert_nodes, ← hg.2]⟩

theorem addEdges_eq_ok {parts : List SnapshotPart} {g g' : Graph} (h : g.Consistent)
    (hparts : ∀ p ∈ parts, p.id ∈ g.ids)
    (hl : parts.foldlM (fun g p => p.children.foldlM (addEdge p) g) g = .ok g') :
    g'.Consistent ∧ g'.ids = g.ids := by
  refine foldlM_eq_ok_induction (fun _ g' => g'.Consistent ∧ g'.ids = g.ids) ⟨h, rfl⟩
    (fun pre p post g1 g2 e hg1 hp => ?_) hl
  have hpid : p.id ∈ g.ids := hparts p (by simp [e])
  refine foldlM_eq_ok_induction (fun _ g3 => g3.Consistent ∧ g3.ids = g.ids) hg1
    (fun _ c _ g3 g4 _ hg3 hc => ?_) hp
  obtain ⟨-, hlive, rfl⟩ := addEdge_eq_ok.1 hc
  exact ⟨hg3.1.link (hg3.2 ▸ hpid) hlive, by simp [hg3.2]⟩

theorem addParts_ids {parts : List SnapshotPart} {g : Graph}
    (h : parts.zipIdx.foldlM (fun g x => addPart g x.1 x.2) {} = .ok g) :
    g.ids = parts.map (·.id) := by
  rw [(addParts_eq_ok h).2, show (fun x : SnapshotPart × Nat => x.1.id) = (·.id) ∘ Prod.fst from rfl,
    ← List.map_map, List.zipIdx_map_fst]

theorem addAll_consistent {s : Snapshot} {g1 g2 : Graph}
    (h1 : s.parts.zipIdx.foldlM (fun g x => addPart g x.1 x.2) {} = .ok g1)
    (h2 : s.parts.foldlM (fun g p => p.children.foldlM (addEdge p) g) g1 = .ok g2) :
    g2.Consistent ∧ g2.ids = s.parts.map (·.id) := by
  have hids1 := addParts_ids h1
  have hparts : ∀ p ∈ s.parts, p.id ∈ g1.ids := fun p hp => hids1 ▸ List.mem_map_of_mem hp
  obtain ⟨hc2, hids2⟩ := addEdges_eq_ok (addParts_eq_ok h1).1 hparts h2
  exact ⟨hc2, hids2.trans hids1⟩

/-! ## Which snapshots build -/

theorem addParts_exists {parts : List SnapshotPart} (hnil : ∀ p ∈ parts, p.id ≠ PartId.nil)
    (hids : (parts.map (·.id)).Nodup) (hnames : (parts.map (·.name)).Nodup)
    (hblank : ∀ p ∈ parts, Text.isBlank p.name = false) :
    ∃ g, parts.zipIdx.foldlM (fun g x => addPart g x.1 x.2) {} = .ok g ∧
      g.snapshot.parts = parts.map fun p : SnapshotPart => { p with children := [] } := by
  have hfst : parts.zipIdx.map Prod.fst = parts := List.zipIdx_map_fst 0 parts
  have hstep : ∀ pre x post (g : Graph), parts.zipIdx = pre ++ x :: post →
      g.Consistent ∧
        g.snapshot.parts = pre.map (fun x => (⟨x.1.id, x.1.name, []⟩ : SnapshotPart)) →
      ∃ g', addPart g x.1 x.2 = .ok g' ∧ g'.Consistent ∧
        g'.snapshot.parts = (pre ++ [x]).map fun x => (⟨x.1.id, x.1.name, []⟩ : SnapshotPart) := by
    intro pre x post g e ⟨hc, hg⟩
    have hsplit : parts = pre.map Prod.fst ++ x.1 :: post.map Prod.fst := by
      rw [← hfst, e, List.map_append, List.map_cons]
    have hx : x.1 ∈ parts := by rw [hsplit]; simp
    have hid : x.1.id ∉ g.ids := by
      rw [hsplit, List.map_append, List.map_cons, List.nodup_append] at hids
      rw [ids_eq_snapshot, hg, List.map_map]
      exact fun hin => hids.2.2 _ (by simpa using hin) _ List.mem_cons_self rfl
    have hname : ∀ n ∈ g.nodes, n.name ≠ x.1.name := by
      rw [hsplit, List.map_append, List.map_cons, List.nodup_append] at hnames
      intro n hn e
      have hin : n.name ∈ g.snapshot.parts.map (·.name) := by
        rw [← names_eq_snapshot]
        exact List.mem_map_of_mem hn
      rw [hg, List.map_map] at hin
      exact hnames.2.2 _ (by simpa using hin) _ List.mem_cons_self e
    refine ⟨g.insert x.1.id x.1.name, addPart_eq_ok.2 ⟨hnil _ hx, hid, hblank _ hx,
      hc.lookup_names_eq_none.2 hname, rfl⟩, hc.insert hid hname (hblank _ hx), ?_⟩
    rw [snapshot_insert, hg, List.map_append]
    rfl
  obtain ⟨g, hg, -, hP⟩ := foldlM_exists_ok
    (fun (pre : List (SnapshotPart × Nat)) (g : Graph) => g.Consistent ∧
      g.snapshot.parts = pre.map fun x => (⟨x.1.id, x.1.name, []⟩ : SnapshotPart))
    (l := parts.zipIdx) (b := {}) ⟨consistent_empty, rfl⟩ hstep
  refine ⟨g, hg, ?_⟩
  rw [hP]
  conv_rhs => rw [← hfst, List.map_map]
  rfl

/-- When the parts of a snapshot are in a graph with no edges and every child passes its
checks, the second pass succeeds, and the graph then has the snapshot with the repeats of each
children list dropped. Before each part the parts already linked have their children without
repeats and the others none; within a part, its children so far, without repeats. -/
theorem addEdges_dedupe {parts : List SnapshotPart} {g : Graph}
    (hg : g.snapshot.parts = parts.map (fun p : SnapshotPart => { p with children := [] })) (hids : (parts.map (·.id)).Nodup)
    (hok : ∀ p ∈ parts, ∀ c ∈ p.children, c ≠ p.id ∧ c ∈ parts.map (·.id)) :
    ∃ g', parts.foldlM (fun g p => p.children.foldlM (addEdge p) g) g = .ok g' ∧
      g'.snapshot.parts = parts.map fun p => { p with children := dedupe p.children } := by
  have hstep : ∀ pre p post (g1 : Graph), parts = pre ++ p :: post →
      g1.snapshot.parts = pre.map (fun p : SnapshotPart => { p with children := dedupe p.children }) ++
        (parts.drop pre.length).map (fun p : SnapshotPart => { p with children := [] }) →
      ∃ g2, p.children.foldlM (addEdge p) g1 = .ok g2 ∧ g2.snapshot.parts =
        (pre ++ [p]).map (fun p : SnapshotPart => { p with children := dedupe p.children }) ++
          (parts.drop (pre ++ [p]).length).map (fun p : SnapshotPart => { p with children := [] }) := by
    intro pre p post g1 e hg1
    have hp : p ∈ parts := by rw [e]; simp
    have hd1 : parts.drop pre.length = p :: post := by rw [e, List.drop_left]
    have hd2 : parts.drop (pre ++ [p]).length = post := by
      rw [e, show pre ++ p :: post = (pre ++ [p]) ++ post by simp, List.drop_left]
    have hids' : ∀ cs : List PartId, ((pre.map fun p : SnapshotPart =>
        { p with children := dedupe p.children }) ++ { p with children := cs } :: post.map (fun p : SnapshotPart => { p with children := [] })).map
          (fun q : SnapshotPart => q.id) = parts.map (·.id) := by
      intro cs
      rw [e]
      simp [Function.comp_def]
    have hinner : ∀ cpre c cpost (g3 : Graph), p.children = cpre ++ c :: cpost →
        g3.snapshot.parts = pre.map (fun p : SnapshotPart => { p with children := dedupe p.children }) ++
          { p with children := dedupe cpre } :: post.map (fun p : SnapshotPart => { p with children := [] }) →
        ∃ g4, addEdge p g3 c = .ok g4 ∧ g4.snapshot.parts =
          pre.map (fun p : SnapshotPart => { p with children := dedupe p.children }) ++
            { p with children := dedupe (cpre ++ [c]) } :: post.map (fun p : SnapshotPart => { p with children := [] }) := by
      intro cpre c cpost g3 ec hg3
      have hc := hok p hp c (by rw [ec]; simp)
      have hcl : c ∈ g3.ids := by
        rw [ids_eq_snapshot, hg3, hids']
        exact hc.2
      refine ⟨g3.link p.id c, addEdge_eq_ok.2 ⟨hc.1, hcl, rfl⟩, ?_⟩
      refine (snapshot_link_split hg3 (by rw [hids']; exact hids)).trans ?_
      rw [dedupe_append_singleton]
      simp only [mem_dedupe]
    obtain ⟨g2, hg2, hP⟩ := foldlM_exists_ok
      (fun (cpre : List PartId) (g3 : Graph) => g3.snapshot.parts =
        pre.map (fun p : SnapshotPart => { p with children := dedupe p.children }) ++
          { p with children := dedupe cpre } :: post.map (fun p : SnapshotPart => { p with children := [] }))
      (l := p.children) (b := g1) (by rw [hg1, hd1, List.map_cons]; rfl) hinner
    refine ⟨g2, hg2, ?_⟩
    rw [hP, hd2, List.map_append, List.append_assoc]
    rfl
  obtain ⟨g', hg', hP⟩ := foldlM_exists_ok
    (fun (pre : List SnapshotPart) (g1 : Graph) => g1.snapshot.parts =
      pre.map (fun p : SnapshotPart => { p with children := dedupe p.children }) ++
        (parts.drop pre.length).map (fun p : SnapshotPart => { p with children := [] }))
    (l := parts) (b := g) (by rw [hg]; rfl) hstep
  refine ⟨g', hg', ?_⟩
  rw [hP, List.drop_length, List.map_nil, List.append_nil]

/-- When the parts of a snapshot are in a graph with no edges and each children list holds
distinct parts other than its own, linking each part to its children in order succeeds, and the
graph then has the snapshot. -/
theorem addEdges_exists {parts : List SnapshotPart} {g : Graph}
    (hg : g.snapshot.parts = parts.map fun p : SnapshotPart => { p with children := [] })
    (hids : (parts.map (·.id)).Nodup) (hnodup : ∀ p ∈ parts, p.children.Nodup)
    (hself : ∀ p ∈ parts, p.id ∉ p.children)
    (hlive : ∀ p ∈ parts, ∀ c ∈ p.children, c ∈ parts.map (·.id)) :
    ∃ g', parts.foldlM (fun g p => p.children.foldlM (addEdge p) g) g = .ok g' ∧
      g'.snapshot.parts = parts := by
  obtain ⟨g', hg', hP⟩ := addEdges_dedupe hg hids
    fun p hp c hc => ⟨fun e => hself p hp (e ▸ hc), hlive p hp c hc⟩
  refine ⟨g', hg', ?_⟩
  rw [hP]
  conv_rhs => rw [← List.map_id parts]
  exact List.map_congr_left fun p hp => by rw [dedupe_of_nodup (hnodup p hp)]; rfl

/-! ## The whole build -/

theorem build_eq_ok {s : Snapshot} {g : Graph} (h : s.build = .ok g) :
    ∃ g1, s.parts.zipIdx.foldlM (fun g x => addPart g x.1 x.2) {} = .ok g1 ∧
      s.parts.foldlM (fun g p => p.children.foldlM (addEdge p) g) g1 = .ok g ∧
      g.findCycle = none := by
  unfold build at h
  simp only [bind_eq_ok] at h
  obtain ⟨g1, h1, g2, h2, h⟩ := h
  split at h
  · simp at h
  · rename_i hnone
    simp only [bind_eq_ok, pure_eq_ok] at h
    obtain ⟨_, -, rfl⟩ := h
    exact ⟨g1, h1, h2, hnone⟩

/-- A graph built from a snapshot is well formed. -/
theorem build_wellFormed {s : Snapshot} {g : Graph} (h : s.build = .ok g) : g.WellFormed := by
  obtain ⟨g1, h1, h2, hnone⟩ := build_eq_ok h
  have hc := (addAll_consistent h1 h2).1
  exact ⟨hc, findCycle_eq_none hc.ids_nodup hnone⟩

theorem build_ids {s : Snapshot} {g : Graph} (h : s.build = .ok g) :
    g.ids = s.parts.map (·.id) ∧ PartId.nil ∉ g.ids := by
  obtain ⟨g1, h1, h2, -⟩ := build_eq_ok h
  have hids := (addAll_consistent h1 h2).2
  refine ⟨hids, ?_⟩
  have hnil : ∀ x ∈ s.parts.zipIdx, x.1.id ≠ PartId.nil :=
    foldlM_eq_ok_induction (fun pre _ => ∀ x ∈ pre, x.1.id ≠ PartId.nil) (by simp)
      (fun pre x _ _ _ _ hpre hx y hy => by
        rcases List.mem_append.1 hy with hy | hy
        · exact hpre y hy
        · rw [List.mem_singleton.1 hy]
          exact (addPart_eq_ok.1 hx).1) h1
  rw [hids, ← List.zipIdx_map_fst 0 s.parts, List.map_map]
  intro hin
  obtain ⟨x, hx, e⟩ := List.mem_map.1 hin
  exact hnil x hx e

/-- A snapshot is refused only for a reason found in it; the final invariant check, whose faults
are internal, always passes. -/
theorem build_error {s : Snapshot} {f : Fault} (h : s.build = .error f) :
    f.isKind .internal = false := by
  unfold build at h
  rw [bind_eq_error] at h
  rcases h with h | ⟨g1, h1, h⟩
  · obtain ⟨x, -, g, hg⟩ := foldlM_eq_error h
    exact addPart_error hg
  rw [bind_eq_error] at h
  rcases h with h | ⟨g2, h2, h⟩
  · obtain ⟨p, -, g, hg⟩ := foldlM_eq_error h
    obtain ⟨c, -, g', hc⟩ := foldlM_eq_error hg
    exact addEdge_error hc
  have hc2 := (addAll_consistent h1 h2).1
  split at h
  · simp at h
    subst h
    rfl
  · rename_i hnone
    have hwf : g2.WellFormed := ⟨hc2, findCycle_eq_none hc2.ids_nodup hnone⟩
    simp [hwf.checkInvariants_eq_ok] at h

/-- A well-formed graph with no nil id is rebuilt from its own snapshot, as a graph with that
snapshot and alike to it: the parents come back as the same parts, listed in snapshot order. -/
theorem build_snapshot {g : Graph} (h : g.WellFormed) (hnil : PartId.nil ∉ g.ids) :
    ∃ g', g.snapshot.build = .ok g' ∧ g'.snapshot = g.snapshot ∧ g.Alike g' := by
  have hmem : ∀ p ∈ g.snapshot.parts, ∃ n ∈ g.nodes, p = ⟨n.id, n.name, n.children.toList⟩ := by
    intro p hp
    obtain ⟨n, hn, rfl⟩ := List.mem_map.1 hp
    exact ⟨n, hn, rfl⟩
  have hids : (g.snapshot.parts.map (·.id)).Nodup := ids_eq_snapshot g ▸ h.ids_nodup
  obtain ⟨g1, h1, hs1⟩ := addParts_exists
    (fun p hp e => hnil (e ▸ (ids_eq_snapshot g ▸ List.mem_map_of_mem hp)))
    hids (names_eq_snapshot g ▸ h.names_nodup)
    (fun p hp => by obtain ⟨n, hn, rfl⟩ := hmem p hp; exact h.name_nonblank n hn)
  obtain ⟨g2, h2, hs2⟩ := addEdges_exists hs1 hids
    (fun p hp => by obtain ⟨n, hn, rfl⟩ := hmem p hp; exact h.children_nodup n hn)
    (fun p hp => by obtain ⟨n, hn, rfl⟩ := hmem p hp; exact h.not_mem_children_self hn)
    (fun p hp c hc => by
      obtain ⟨n, hn, rfl⟩ := hmem p hp
      rw [← ids_eq_snapshot]
      exact h.children_live n hn c hc)
  have hc2 := (addAll_consistent h1 h2).1
  have hsnap : g2.snapshot = g.snapshot := congrArg Snapshot.mk hs2
  have hacyc : g2.Acyclic :=
    h.acyclic.mono fun _ _ he => edge_iff_snapshot.2 (hsnap ▸ edge_iff_snapshot.1 he)
  refine ⟨g2, ?_, hsnap, Alike.of_snapshot_eq h.toConsistent hc2 hsnap.symm⟩
  unfold build
  rw [h1, ok_bind, h2, ok_bind]
  dsimp only
  rw [hacyc.findCycle_eq_none]
  dsimp only
  rw [WellFormed.checkInvariants_eq_ok ⟨hc2, hacyc⟩, ok_bind]
  rfl

end Snapshot

end BillOfMaterials
