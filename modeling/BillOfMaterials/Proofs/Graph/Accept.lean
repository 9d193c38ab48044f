import BillOfMaterials.Proofs.Engine.Calls

/-!
# Which snapshots a restore accepts, and what it builds

A snapshot is any list of parts, each an id, a name and a list of children. `Snapshot.build`
accepts exactly the snapshots that are `Snapshot.Acceptable`: ids that are not nil and distinct,
names that are not blank once trimmed and distinct (`Snapshot.PartsOk`), each child a part of the
snapshot other than its parent (`Snapshot.ChildOk`), and no cycle of children edges
(`build_ok_iff`). What it builds has the snapshot's parts in order, each children list with its
repeats dropped, and as parents of each part exactly the parts whose children hold it, in
snapshot order (`build_of_acceptable`): the order of the parents comes from the order of the links, which
follow the snapshot (`addEdges_parents_sublist`).

A snapshot it refuses gets the fault of the first check that fails, in the order of the code:
per part, a nil id, a repeated id, a blank name, a repeated name (`build_of_bad_part`); then per
part and child, a part its own child, a child that is no part (`build_of_bad_child`); then a
cycle (`build_of_cycle`).
-/

namespace BillOfMaterials

theorem foldlM_append_cons_error {α β ε : Type} {f : β → α → Except ε β} {pre post : List α}
    {x : α} {b b' : β} {e : ε} (hpre : pre.foldlM f b = .ok b') (hx : f b' x = .error e) :
    (pre ++ x :: post).foldlM f b = .error e := by
  rw [List.foldlM_append, hpre, ok_bind, List.foldlM_cons, hx]
  rfl

theorem append_singleton_sublist {l L : List PartId} {a : PartId} (h : l.Sublist (L ++ [a]))
    (ha : a ∉ l) : (l ++ [a]).Sublist (L ++ [a]) := by
  obtain ⟨l1, l2, rfl, h1, h2⟩ := List.sublist_append_iff.1 h
  rcases List.sublist_singleton.1 h2 with rfl | rfl
  · simpa using h1.append_right [a]
  · simp at ha

namespace Snapshot

/-! ## What is accepted -/

/-- The edges a snapshot records: from each part to each of its children. -/
def Edge (s : Snapshot) (a b : PartId) : Prop := ∃ p ∈ s.parts, p.id = a ∧ b ∈ p.children

/-- Parts that pass the checks of their own, one after another: ids that are not nil and
distinct, names that are not blank once trimmed and distinct. -/
structure PartsOk (parts : List SnapshotPart) : Prop where
  id_ne_nil : ∀ p ∈ parts, p.id ≠ PartId.nil
  ids_nodup : (parts.map (·.id)).Nodup
  name_nonblank : ∀ p ∈ parts, Text.trimSpace p.name ≠ ""
  names_nodup : (parts.map (·.name)).Nodup

/-- A child that passes its checks: a part of the snapshot other than its parent. -/
def ChildOk (s : Snapshot) (p : SnapshotPart) (c : PartId) : Prop :=
  c ≠ p.id ∧ c ∈ s.parts.map (·.id)

/-- The snapshots a restore accepts. -/
structure Acceptable (s : Snapshot) : Prop where
  parts_ok : PartsOk s.parts
  children_ok : ∀ p ∈ s.parts, ∀ c ∈ p.children, s.ChildOk p c
  acyclic : ∀ x, ¬ Relation.TransGen s.Edge x x

/-- The snapshot with the repeats of each children list dropped, first occurrences kept. -/
def dedupeChildren (s : Snapshot) : Snapshot :=
  ⟨s.parts.map fun p => { p with children := dedupe p.children }⟩

/-- The parents of a part in a snapshot: the parts whose children hold it, in snapshot order. -/
def parentsOf (s : Snapshot) (id : PartId) : List PartId :=
  (s.parts.filter (·.children.contains id)).map (·.id)

/-- A part of a snapshot with its children not yet linked. -/
def bare (p : SnapshotPart) : SnapshotPart := { p with children := [] }

theorem nonblank_iff (name : String) : Text.trimSpace name ≠ "" ↔ Text.isBlank name = false := by
  rw [ne_eq, ← Text.isBlank_iff_trimSpace, Bool.not_eq_true]

theorem partsOk_nil : PartsOk [] where
  id_ne_nil := by simp
  ids_nodup := List.nodup_nil
  name_nonblank := by simp
  names_nodup := List.nodup_nil

theorem partsOk_append_singleton {pre : List SnapshotPart} {p : SnapshotPart} :
    PartsOk (pre ++ [p]) ↔ PartsOk pre ∧ p.id ≠ PartId.nil ∧ p.id ∉ pre.map (·.id) ∧
      Text.trimSpace p.name ≠ "" ∧ p.name ∉ pre.map (·.name) := by
  constructor
  · intro h
    have hids := h.ids_nodup
    have hnames := h.names_nodup
    simp only [List.map_append, List.map_cons, List.map_nil, List.nodup_append,
      List.nodup_cons, List.not_mem_nil, not_false_eq_true, List.nodup_nil, and_self,
      true_and, List.mem_singleton] at hids hnames
    refine ⟨⟨fun q hq => h.id_ne_nil q (by simp [hq]), hids.1,
      fun q hq => h.name_nonblank q (by simp [hq]), hnames.1⟩,
      h.id_ne_nil p (by simp), fun hin => hids.2 _ hin _ rfl rfl,
      h.name_nonblank p (by simp), fun hin => hnames.2 _ hin _ rfl rfl⟩
  · rintro ⟨h, hnil, hid, hblank, hname⟩
    refine ⟨fun q hq => ?_, ?_, fun q hq => ?_, ?_⟩
    · rcases List.mem_append.1 hq with hq | hq
      · exact h.id_ne_nil q hq
      · rw [List.mem_singleton.1 hq]
        exact hnil
    · rw [List.map_append, List.nodup_append]
      refine ⟨h.ids_nodup, by simp, fun a ha b hb hab => hid ?_⟩
      rw [List.mem_singleton.1 hb] at hab
      simpa [hab] using ha
    · rcases List.mem_append.1 hq with hq | hq
      · exact h.name_nonblank q hq
      · rw [List.mem_singleton.1 hq]
        exact hblank
    · rw [List.map_append, List.nodup_append]
      refine ⟨h.names_nodup, by simp, fun a ha b hb hab => hname ?_⟩
      rw [List.mem_singleton.1 hb] at hab
      simpa [hab] using ha

/-! ## The parts, one by one -/

open BillOfMaterials.Graph

section Parts

variable {g : Graph} {p : SnapshotPart} {i : Nat}

theorem addPart_of_nil (h : p.id = PartId.nil) :
    addPart g p i = .error (.invalid "snapshot" ("part " ++ toString i ++ " has no id")) := by
  unfold addPart
  rw [if_pos (beq_iff_eq.2 h)]
  rfl

theorem addPart_of_live (h0 : p.id ≠ PartId.nil) (h : p.id ∈ g.ids) :
    addPart g p i = .error (.invalid "snapshot" ("duplicate part id " ++ p.id.toString)) := by
  unfold addPart
  rw [if_neg (by simpa using h0), if_pos (isLive_eq_true.2 h)]
  rfl

theorem addPart_of_blank (h0 : p.id ≠ PartId.nil) (h1 : p.id ∉ g.ids)
    (h : Text.trimSpace p.name = "") :
    addPart g p i =
      .error (.invalid "snapshot" ("part " ++ p.id.toString ++ " has an empty name")) := by
  unfold addPart
  rw [if_neg (by simpa using h0), if_neg (by simpa using h1),
    if_pos ((Text.isBlank_iff_trimSpace _).2 h)]
  rfl

theorem addPart_of_taken (h0 : p.id ≠ PartId.nil) (h1 : p.id ∉ g.ids)
    (h2 : Text.trimSpace p.name ≠ "") {id : PartId} (h : g.names.lookup p.name = some id) :
    addPart g p i = .error (.duplicateName p.name id.toString) := by
  unfold addPart
  rw [if_neg (by simpa using h0), if_neg (by simpa using h1),
    if_neg (by simpa using (nonblank_iff _).1 h2), h]
  rfl

variable {pre : List SnapshotPart}

theorem ids_of_bare (hg : g.snapshot.parts = pre.map bare) : g.ids = pre.map (·.id) := by
  rw [ids_eq_snapshot, hg, List.map_map]
  rfl

theorem names_of_bare (hg : g.snapshot.parts = pre.map bare) :
    g.nodes.map (·.name) = pre.map (·.name) := by
  rw [names_eq_snapshot, hg, List.map_map]
  rfl

theorem findName?_of_bare (hg : g.snapshot.parts = pre.map bare)
    (hnames : (pre.map (·.name)).Nodup) {q : SnapshotPart} (hq : q ∈ pre) :
    ∃ n, g.findName? q.name = some n ∧ n.id = q.id := by
  have hin : q.name ∈ g.nodes.map (·.name) := by
    rw [names_of_bare hg]
    exact List.mem_map_of_mem hq
  obtain ⟨m, hm, hmq⟩ := List.mem_map.1 hin
  cases hf : g.findName? q.name with
  | none => exact absurd hmq (findName?_eq_none.1 hf m hm)
  | some n =>
    have hn : n ∈ g.nodes := List.mem_of_find?_eq_some hf
    have hname : n.name = q.name := by simpa using List.find?_some hf
    have hsnap : (⟨n.id, n.name, n.children.toList⟩ : SnapshotPart) ∈ pre.map bare :=
      hg ▸ List.mem_map_of_mem hn
    obtain ⟨q', hq', he⟩ := List.mem_map.1 hsnap
    simp only [bare, SnapshotPart.mk.injEq] at he
    have hsame : q' = q := List.inj_on_of_nodup_map hnames hq' hq (he.2.1.trans hname)
    exact ⟨n, rfl, hsame ▸ he.1.symm⟩

theorem addParts_partsOk {l : List SnapshotPart}
    (h : l.zipIdx.foldlM (fun g x => addPart g x.1 x.2) {} = .ok g) :
    PartsOk l ∧ g.snapshot.parts = l.map bare := by
  have hP := foldlM_eq_ok_induction
    (fun pre g => g.Consistent ∧ PartsOk (pre.map Prod.fst) ∧
      g.snapshot.parts = (pre.map Prod.fst).map bare)
    ⟨consistent_empty, partsOk_nil, rfl⟩ (fun pre x post g g' _ hg hx => ?_) h
  · rw [List.zipIdx_map_fst] at hP
    exact hP.2
  obtain ⟨hc, hok, hsnap⟩ := hg
  obtain ⟨hnil, hlive, hblank, hname, rfl⟩ := addPart_eq_ok.1 hx
  have hname := hc.lookup_names_eq_none.1 hname
  have hfresh : x.1.name ∉ (pre.map Prod.fst).map (·.name) := by
    rw [← names_of_bare hsnap]
    intro hin
    obtain ⟨n, hn, e⟩ := List.mem_map.1 hin
    exact hname n hn e
  refine ⟨hc.insert hlive hname hblank, ?_, ?_⟩
  · rw [List.map_append, List.map_singleton]
    exact partsOk_append_singleton.2 ⟨hok, hnil, ids_of_bare hsnap ▸ hlive,
      (nonblank_iff _).2 hblank, hfresh⟩
  · rw [snapshot_insert, hsnap, List.map_append, List.map_append]
    rfl

theorem addParts_ok (h : PartsOk pre) :
    ∃ g, pre.zipIdx.foldlM (fun g x => addPart g x.1 x.2) {} = .ok g ∧
      g.snapshot.parts = pre.map bare :=
  addParts_exists h.id_ne_nil h.ids_nodup h.names_nodup
    fun q hq => (nonblank_iff _).1 (h.name_nonblank q hq)

theorem addParts_error {post : List SnapshotPart} (hpre : PartsOk pre) {f : Fault}
    (hp : ∀ g : Graph, g.Consistent → g.snapshot.parts = pre.map bare →
      addPart g p pre.length = .error f) :
    (pre ++ p :: post).zipIdx.foldlM (fun g x => addPart g x.1 x.2) {} = .error f := by
  obtain ⟨g, hg, hsnap⟩ := addParts_ok hpre
  rw [List.zipIdx_append, List.zipIdx_cons, Nat.zero_add]
  exact foldlM_append_cons_error hg (hp g (addParts_eq_ok hg).1 hsnap)

end Parts

/-! ## The edges, part by part and child by child -/

section Edges

variable {g : Graph} {p : SnapshotPart} {c : PartId}

theorem addEdge_of_self (h : c = p.id) :
    addEdge p g c =
      .error (.invalid "snapshot" ("part " ++ p.id.toString ++ " is its own child")) := by
  unfold addEdge
  rw [if_pos (beq_iff_eq.2 h)]
  rfl

theorem addEdge_of_missing (h0 : c ≠ p.id) (h : c ∉ g.ids) :
    addEdge p g c = .error (.notFound c.toString) := by
  unfold addEdge
  have hl : g.isLive c = false := by
    rw [← Bool.not_eq_true, isLive_eq_true]
    exact h
  rw [if_neg (by simpa using h0), if_pos (by simp [hl])]
  rfl

theorem addChildren_ok {cs : List PartId} (hok : ∀ c ∈ cs, c ≠ p.id ∧ c ∈ g.ids) :
    ∃ g', cs.foldlM (addEdge p) g = .ok g' ∧ g'.ids = g.ids := by
  refine foldlM_exists_ok (fun _ (g' : Graph) => g'.ids = g.ids) rfl fun pre c post g1 e hg1 => ?_
  have hc := hok c (by simp [e])
  exact ⟨g1.link p.id c, addEdge_eq_ok.2 ⟨hc.1, hg1 ▸ hc.2, rfl⟩, by rw [ids_link, hg1]⟩

theorem addEdges_ok {parts : List SnapshotPart}
    (hok : ∀ q ∈ parts, ∀ c ∈ q.children, c ≠ q.id ∧ c ∈ g.ids) :
    ∃ g', parts.foldlM (fun g p => p.children.foldlM (addEdge p) g) g = .ok g' ∧
      g'.ids = g.ids := by
  refine foldlM_exists_ok (fun _ (g' : Graph) => g'.ids = g.ids) rfl fun pre q post g1 e hg1 => ?_
  obtain ⟨g2, h2, hids⟩ := addChildren_ok (g := g1) (p := q) fun c hc =>
    ⟨(hok q (by simp [e]) c hc).1, hg1 ▸ (hok q (by simp [e]) c hc).2⟩
  exact ⟨g2, h2, hids.trans hg1⟩

theorem addEdges_childOk {parts : List SnapshotPart} {g' : Graph}
    (h : parts.foldlM (fun g p => p.children.foldlM (addEdge p) g) g = .ok g') :
    ∀ q ∈ parts, ∀ c ∈ q.children, c ≠ q.id ∧ c ∈ g.ids := by
  have hP := foldlM_eq_ok_induction
    (fun pre g1 => g1.ids = g.ids ∧ ∀ q ∈ pre, ∀ c ∈ q.children, c ≠ q.id ∧ c ∈ g.ids)
    ⟨rfl, by simp⟩ (fun pre q post g1 g2 _ hg1 hq => ?_) h
  · exact hP.2
  have hQ := foldlM_eq_ok_induction
    (fun cpre g3 => g3.ids = g.ids ∧ ∀ c ∈ cpre, c ≠ q.id ∧ c ∈ g.ids)
    ⟨hg1.1, by simp⟩ (fun cpre c cpost g3 g4 _ hg3 hc => ?_) hq
  · refine ⟨hQ.1, fun r hr => ?_⟩
    rcases List.mem_append.1 hr with hr | hr
    · exact hg1.2 r hr
    · rw [List.mem_singleton.1 hr]
      exact hQ.2
  obtain ⟨hself, hlive, rfl⟩ := addEdge_eq_ok.1 hc
  refine ⟨by rw [ids_link, hg3.1], fun d hd => ?_⟩
  rcases List.mem_append.1 hd with hd | hd
  · exact hg3.2 d hd
  · rw [List.mem_singleton.1 hd]
    exact ⟨hself, hg3.1 ▸ hlive⟩

theorem addEdges_error {parts pre post : List SnapshotPart} (hs : parts = pre ++ p :: post)
    {cpre cpost : List PartId} (hc : p.children = cpre ++ c :: cpost)
    (hpre : ∀ q ∈ pre, ∀ d ∈ q.children, d ≠ q.id ∧ d ∈ g.ids)
    (hcpre : ∀ d ∈ cpre, d ≠ p.id ∧ d ∈ g.ids) {f : Fault}
    (hf : ∀ g' : Graph, g'.ids = g.ids → addEdge p g' c = .error f) :
    parts.foldlM (fun g p => p.children.foldlM (addEdge p) g) g = .error f := by
  obtain ⟨g1, h1, hids1⟩ := addEdges_ok hpre
  obtain ⟨g2, h2, hids2⟩ := addChildren_ok (g := g1) (p := p) fun d (hd : d ∈ cpre) =>
    ⟨(hcpre d hd).1, hids1 ▸ (hcpre d hd).2⟩
  rw [hs]
  refine foldlM_append_cons_error h1 ?_
  show p.children.foldlM (addEdge p) g1 = .error f
  rw [hc]
  exact foldlM_append_cons_error h2 (hf g2 (hids2.trans hids1))

/-- In the second pass each part joins the parents of its children after the parts before it:
every parents list lies below the ids of the parts linked so far, in snapshot order. -/
theorem addEdges_parents_sublist {parts : List SnapshotPart} {g' : Graph}
    (hnone : ∀ m ∈ g.nodes, m.parents.toList = [])
    (h : parts.foldlM (fun g p => p.children.foldlM (addEdge p) g) g = .ok g') :
    ∀ m ∈ g'.nodes, m.parents.toList.Sublist (parts.map (·.id)) := by
  refine foldlM_eq_ok_induction
    (fun pre (g1 : Graph) => ∀ m ∈ g1.nodes, m.parents.toList.Sublist (pre.map (·.id)))
    (fun m hm => by simp [hnone m hm]) (fun pre q post g1 g2 _ hg1 hq => ?_) h
  rw [List.map_append, List.map_singleton]
  refine foldlM_eq_ok_induction
    (fun _ (g3 : Graph) => ∀ m ∈ g3.nodes, m.parents.toList.Sublist (pre.map (·.id) ++ [q.id]))
    (fun m hm => List.sublist_append_of_sublist_left (hg1 m hm))
    (fun cpre c cpost g3 g4 _ hg3 hc => ?_) hq
  obtain ⟨-, -, rfl⟩ := addEdge_eq_ok.1 hc
  intro m hm
  rw [link_nodes] at hm
  obtain ⟨m0, hm0, rfl⟩ := List.mem_map.1 hm
  by_cases hmc : m0.id = c
  · simp only [hmc, if_true, IdSet.add_toList]
    split
    · exact hg3 m0 hm0
    · exact append_singleton_sublist (hg3 m0 hm0) ‹_›
  · simp only [hmc, if_false]
    exact hg3 m0 hm0

end Edges

/-! ## The graph built -/

section Built

variable {g : Graph} {s : Snapshot}

theorem edge_iff_of_snapshot (hsnap : g.snapshot = s.dedupeChildren) {a b : PartId} :
    g.Edge a b ↔ s.Edge a b := by
  rw [edge_iff_snapshot, hsnap]
  simp [dedupeChildren, Edge]

theorem path_iff_of_snapshot (hsnap : g.snapshot = s.dedupeChildren) {a b : PartId} :
    g.Path a b ↔ Relation.TransGen s.Edge a b := by
  have he : g.Edge = s.Edge := funext fun a => funext fun b => propext (edge_iff_of_snapshot hsnap)
  rw [Graph.Path, he]

theorem acyclic_iff_of_snapshot (hsnap : g.snapshot = s.dedupeChildren) :
    g.Acyclic ↔ ∀ x, ¬ Relation.TransGen s.Edge x x := by
  simp only [Graph.Acyclic, path_iff_of_snapshot hsnap]

theorem parents_of_bare {pre : List SnapshotPart} (hc : g.Consistent)
    (hg : g.snapshot.parts = pre.map bare) : ∀ m ∈ g.nodes, m.parents.toList = [] := by
  intro m hm
  refine List.eq_nil_iff_forall_not_mem.2 fun x hx => ?_
  obtain ⟨q, hq, -, hmq⟩ := edge_iff_snapshot.1 ((hc.edge_iff_mem_parents hm).2 hx)
  rw [hg] at hq
  obtain ⟨r, -, rfl⟩ := List.mem_map.1 hq
  simp [bare] at hmq

/-- In a consistent graph with the snapshot's children, whose parents lists lie below the
snapshot's ids in order, the parents of each part are exactly `parentsOf`: the two lists have the
same members and both keep the snapshot's order. -/
theorem parents_of_snapshot (hc : g.Consistent) (hsnap : g.snapshot = s.dedupeChildren)
    (hids : (s.parts.map (·.id)).Nodup)
    (hsub : ∀ m ∈ g.nodes, m.parents.toList.Sublist (s.parts.map (·.id))) {m : Node}
    (hm : m ∈ g.nodes) : m.parents.toList = s.parentsOf m.id := by
  have hsub' : (s.parentsOf m.id).Sublist (s.parts.map (·.id)) := List.filter_sublist.map _
  refine (hids.perm_iff_eq_of_sublist (hsub m hm) hsub').1 ?_
  refine (List.perm_ext_iff_of_nodup (hc.parents_nodup m hm) (hsub'.nodup hids)).2 fun x => ?_
  rw [← hc.edge_iff_mem_parents hm, edge_iff_of_snapshot hsnap]
  simp only [Edge, parentsOf, List.mem_map, List.mem_filter, List.contains_iff_mem]
  constructor
  · rintro ⟨q, hq, rfl, hmq⟩
    exact ⟨q, ⟨hq, hmq⟩, rfl⟩
  · rintro ⟨q, ⟨hq, hmq⟩, rfl⟩
    exact ⟨q, hq, rfl, hmq⟩

theorem list_of_snapshot (hc : g.Consistent) (hsnap : g.snapshot = s.dedupeChildren)
    (hids : (s.parts.map (·.id)).Nodup)
    (hsub : ∀ m ∈ g.nodes, m.parents.toList.Sublist (s.parts.map (·.id))) :
    g.list = s.parts.map fun p => ⟨p.id, p.name, s.parentsOf p.id, dedupe p.children⟩ := by
  have hparts := congrArg Snapshot.parts hsnap
  rw [snapshot_parts] at hparts
  calc g.list = (g.nodes.map fun n => (⟨n.id, n.name, n.children.toList⟩ : SnapshotPart)).map
        fun q => ⟨q.id, q.name, s.parentsOf q.id, q.children⟩ := by
        rw [list, List.map_map]
        refine List.map_congr_left fun n hn => ?_
        simp [Node.view, parents_of_snapshot hc hsnap hids hsub hn]
    _ = s.parts.map fun p => ⟨p.id, p.name, s.parentsOf p.id, dedupe p.children⟩ := by
        rw [hparts]
        simp [dedupeChildren]

section Passes

variable {g1 g2 : Graph}
  (h1 : s.parts.zipIdx.foldlM (fun g x => addPart g x.1 x.2) {} = .ok g1)

include h1

theorem build_of_edges_error {f : Fault}
    (h2 : s.parts.foldlM (fun g p => p.children.foldlM (addEdge p) g) g1 = .error f) :
    s.build = .error f := by
  unfold build
  rw [h1, ok_bind, h2]
  rfl

theorem build_of_wellFormed
    (h2 : s.parts.foldlM (fun g p => p.children.foldlM (addEdge p) g) g1 = .ok g2)
    (hwf : g2.WellFormed) : s.build = .ok g2 := by
  unfold build
  rw [h1, ok_bind, h2, ok_bind]
  dsimp only
  rw [hwf.acyclic.findCycle_eq_none]
  dsimp only
  rw [hwf.checkInvariants_eq_ok, ok_bind]
  rfl

theorem build_of_findCycle
    (h2 : s.parts.foldlM (fun g p => p.children.foldlM (addEdge p) g) g1 = .ok g2)
    {x : PartId} (hx : g2.findCycle = some x) : s.build = .error (.cycle x.toString x.toString) := by
  unfold build
  rw [h1, ok_bind, h2, ok_bind]
  dsimp only
  rw [hx]
  rfl

end Passes

theorem build_of_parts_error {f : Fault}
    (h : s.parts.zipIdx.foldlM (fun g x => addPart g x.1 x.2) {} = .error f) :
    s.build = .error f := by
  unfold build
  rw [h]
  rfl

theorem passes_ok (hparts : PartsOk s.parts)
    (hok : ∀ p ∈ s.parts, ∀ c ∈ p.children, s.ChildOk p c) :
    ∃ g1 g2, s.parts.zipIdx.foldlM (fun g x => addPart g x.1 x.2) {} = .ok g1 ∧
      s.parts.foldlM (fun g p => p.children.foldlM (addEdge p) g) g1 = .ok g2 ∧
      g2.Consistent ∧ g2.snapshot = s.dedupeChildren ∧
      g2.list = s.parts.map fun p => ⟨p.id, p.name, s.parentsOf p.id, dedupe p.children⟩ := by
  obtain ⟨g1, h1, hs1⟩ := addParts_ok hparts
  obtain ⟨g2, h2, hs2⟩ := addEdges_dedupe hs1 hparts.ids_nodup hok
  have hc2 := (addAll_consistent h1 h2).1
  have hsnap : g2.snapshot = s.dedupeChildren := congrArg Snapshot.mk hs2
  have hnone := parents_of_bare (addParts_eq_ok h1).1 hs1
  exact ⟨g1, g2, h1, h2, hc2, hsnap,
    list_of_snapshot hc2 hsnap hparts.ids_nodup (addEdges_parents_sublist hnone h2)⟩

end Built

/-! ## Accepted or refused -/

/-- An acceptable snapshot builds, to the graph with its parts in order, each with its children
without repeats and, as parents, the parts whose children hold it, in snapshot order. -/
theorem build_of_acceptable {s : Snapshot} (h : s.Acceptable) :
    ∃ g, s.build = .ok g ∧ g.snapshot = s.dedupeChildren ∧
      g.list = s.parts.map fun p => ⟨p.id, p.name, s.parentsOf p.id, dedupe p.children⟩ := by
  obtain ⟨g1, g2, h1, h2, hc2, hsnap, hlist⟩ := passes_ok h.parts_ok h.children_ok
  have hacyc := (acyclic_iff_of_snapshot hsnap).2 h.acyclic
  exact ⟨g2, build_of_wellFormed h1 h2 ⟨hc2, hacyc⟩, hsnap, hlist⟩

theorem acceptable_of_build {s : Snapshot} {g : Graph} (h : s.build = .ok g) : s.Acceptable := by
  obtain ⟨g1, h1, h2, hnone⟩ := build_eq_ok h
  obtain ⟨hparts, hs1⟩ := addParts_partsOk h1
  have hok : ∀ p ∈ s.parts, ∀ c ∈ p.children, s.ChildOk p c := fun p hp c hc =>
    ⟨(addEdges_childOk h2 p hp c hc).1, ids_of_bare hs1 ▸ (addEdges_childOk h2 p hp c hc).2⟩
  obtain ⟨g1', g2, h1', h2', hc2, hsnap, -⟩ := passes_ok hparts hok
  obtain rfl : g1' = g1 := Except.ok.inj (h1'.symm.trans h1)
  obtain rfl : g2 = g := Except.ok.inj (h2'.symm.trans h2)
  exact ⟨hparts, hok, (acyclic_iff_of_snapshot hsnap).1 (findCycle_eq_none hc2.ids_nodup hnone)⟩

theorem build_ok_iff {s : Snapshot} : (∃ g, s.build = .ok g) ↔ s.Acceptable := by
  constructor
  · rintro ⟨g, h⟩
    exact acceptable_of_build h
  · intro h
    obtain ⟨g, hg, -⟩ := build_of_acceptable h
    exact ⟨g, hg⟩

/-- A refused snapshot, part by part: at the first part that fails its checks against the parts
before it, the fault is that of its first failing check. -/
theorem build_of_bad_part {s : Snapshot} {pre post : List SnapshotPart} {p : SnapshotPart}
    (hs : s.parts = pre ++ p :: post) (hpre : PartsOk pre) :
    (p.id = PartId.nil →
      s.build = .error (.invalid "snapshot" ("part " ++ toString pre.length ++ " has no id"))) ∧
    (p.id ≠ PartId.nil → p.id ∈ pre.map (·.id) →
      s.build = .error (.invalid "snapshot" ("duplicate part id " ++ p.id.toString))) ∧
    (p.id ≠ PartId.nil → p.id ∉ pre.map (·.id) → Text.trimSpace p.name = "" →
      s.build = .error (.invalid "snapshot" ("part " ++ p.id.toString ++ " has an empty name"))) ∧
    (p.id ≠ PartId.nil → p.id ∉ pre.map (·.id) → Text.trimSpace p.name ≠ "" →
      ∀ q ∈ pre, q.name = p.name → s.build = .error (.duplicateName p.name q.id.toString)) := by
  have hfail : ∀ {f : Fault}, (∀ g : Graph, g.Consistent → g.snapshot.parts = pre.map bare →
      addPart g p pre.length = .error f) → s.build = .error f := by
    intro f hp
    refine build_of_parts_error ?_
    rw [hs]
    exact addParts_error hpre hp
  refine ⟨fun h => hfail fun g _ _ => addPart_of_nil h, fun h0 h => hfail fun g _ hg => ?_,
    fun h0 h1 h => hfail fun g _ hg => ?_, fun h0 h1 h2 q hq hname => hfail fun g hc hg => ?_⟩
  · exact addPart_of_live h0 (by rw [ids_of_bare hg]; exact h)
  · exact addPart_of_blank h0 (by rw [ids_of_bare hg]; exact h1) h
  · -- the index points the name at the earlier part
    obtain ⟨n, hn, hid⟩ := findName?_of_bare hg hpre.names_nodup hq
    refine addPart_of_taken h0 (by rw [ids_of_bare hg]; exact h1) h2 ?_
    simp [hc.lookup_names, ← hname, hn, hid]

/-- A refused snapshot whose parts pass, child by child: at the first child that fails its
checks, the fault is that of its first failing check. -/
theorem build_of_bad_child {s : Snapshot} (hparts : PartsOk s.parts)
    {pre post : List SnapshotPart} {p : SnapshotPart} (hs : s.parts = pre ++ p :: post)
    {cpre cpost : List PartId} {c : PartId} (hc : p.children = cpre ++ c :: cpost)
    (hpre : ∀ q ∈ pre, ∀ d ∈ q.children, s.ChildOk q d) (hcpre : ∀ d ∈ cpre, s.ChildOk p d) :
    (c = p.id →
      s.build = .error (.invalid "snapshot" ("part " ++ p.id.toString ++ " is its own child"))) ∧
    (c ≠ p.id → c ∉ s.parts.map (·.id) → s.build = .error (.notFound c.toString)) := by
  obtain ⟨g1, h1, hs1⟩ := addParts_ok hparts
  have hids := ids_of_bare hs1
  have hfail : ∀ {f : Fault}, (∀ g' : Graph, g'.ids = g1.ids → addEdge p g' c = .error f) →
      s.build = .error f := by
    intro f hf
    refine build_of_edges_error h1 (addEdges_error hs hc (fun q hq d hd => ⟨(hpre q hq d hd).1,
      by rw [hids]; exact (hpre q hq d hd).2⟩) (fun d hd => ⟨(hcpre d hd).1,
      by rw [hids]; exact (hcpre d hd).2⟩) hf)
  refine ⟨fun h => hfail fun _ _ => addEdge_of_self h, fun h0 h => hfail fun g' hg' => ?_⟩
  exact addEdge_of_missing h0 (by rw [hg', hids]; exact h)

/-- A snapshot whose parts and children pass but which has a cycle is refused, naming a part on
a cycle. -/
theorem build_of_cycle {s : Snapshot} (hparts : PartsOk s.parts)
    (hok : ∀ p ∈ s.parts, ∀ c ∈ p.children, s.ChildOk p c)
    (hcyc : ∃ x, Relation.TransGen s.Edge x x) :
    ∃ x, Relation.TransGen s.Edge x x ∧ s.build = .error (.cycle x.toString x.toString) := by
  obtain ⟨g1, g2, h1, h2, hc2, hsnap, -⟩ := passes_ok hparts hok
  cases hx : g2.findCycle with
  | none =>
    obtain ⟨x, hxx⟩ := hcyc
    exact absurd hxx ((acyclic_iff_of_snapshot hsnap).1 (findCycle_eq_none hc2.ids_nodup hx) x)
  | some x =>
    exact ⟨x, (path_iff_of_snapshot hsnap).1 (findCycle_eq_some hx), build_of_findCycle h1 h2 hx⟩

end Snapshot

namespace Engine

open Snapshot

theorem restore_of_build_error {e : Engine} {s : Snapshot} {f : Fault} (h : s.build = .error f) :
    e.restore s = .error f := by
  unfold restore
  rw [h]
  rfl

theorem run_restore_error {e : Engine} {specs : List PartSpec} {s : Snapshot} {f : Fault}
    (hs : PartSpec.read specs = .ok s) (h : e.restore s = .error f) :
    e.run (.restore specs) = (.error f, e) := by
  simp only [run_restore, runEdit_update, hs, ok_bind, h]

/-- What a restore answers, for every engine and every snapshot, whatever its ids, names and
children. It succeeds exactly on the acceptable snapshots, and the engine's graph is then the
snapshot's: its parts in order, each children list without repeats, and as parents of each part
the parts whose children hold it, in snapshot order; nothing else of the engine changes. A
refused snapshot gets the fault of the first check that fails: per part in order, a nil id, the
id of an earlier part, a blank name, the name of an earlier part; then per part and child in
order, a part its own child, a child that is no part; then a cycle, naming a part on it. A
failed restore command leaves the engine as it was. -/
theorem restore_answer (e : Engine) (s : Snapshot) :
    ((∃ e', e.restore s = .ok e') ↔ s.Acceptable) ∧
    (∀ e', e.restore s = .ok e' → e'.snapshot = s.dedupeChildren ∧
      e'.graph.list = s.parts.map (fun p => ⟨p.id, p.name, s.parentsOf p.id, dedupe p.children⟩) ∧
      e' = { e with graph := e'.graph }) ∧
    (∀ pre p post, s.parts = pre ++ p :: post → PartsOk pre →
      (p.id = PartId.nil → e.restore s =
        .error (.invalid "snapshot" ("part " ++ toString pre.length ++ " has no id"))) ∧
      (p.id ≠ PartId.nil → p.id ∈ pre.map (·.id) →
        e.restore s = .error (.invalid "snapshot" ("duplicate part id " ++ p.id.toString))) ∧
      (p.id ≠ PartId.nil → p.id ∉ pre.map (·.id) → Text.trimSpace p.name = "" →
        e.restore s =
          .error (.invalid "snapshot" ("part " ++ p.id.toString ++ " has an empty name"))) ∧
      (p.id ≠ PartId.nil → p.id ∉ pre.map (·.id) → Text.trimSpace p.name ≠ "" →
        ∀ q ∈ pre, q.name = p.name → e.restore s = .error (.duplicateName p.name q.id.toString))) ∧
    (PartsOk s.parts → ∀ pre p post cpre c cpost, s.parts = pre ++ p :: post →
      p.children = cpre ++ c :: cpost → (∀ q ∈ pre, ∀ d ∈ q.children, s.ChildOk q d) →
      (∀ d ∈ cpre, s.ChildOk p d) →
      (c = p.id → e.restore s =
        .error (.invalid "snapshot" ("part " ++ p.id.toString ++ " is its own child"))) ∧
      (c ≠ p.id → c ∉ s.parts.map (·.id) → e.restore s = .error (.notFound c.toString))) ∧
    (PartsOk s.parts → (∀ p ∈ s.parts, ∀ c ∈ p.children, s.ChildOk p c) →
      (∃ x, Relation.TransGen s.Edge x x) →
      ∃ x, Relation.TransGen s.Edge x x ∧ e.restore s = .error (.cycle x.toString x.toString)) ∧
    (∀ specs f, PartSpec.read specs = .ok s → e.restore s = .error f →
      e.run (.restore specs) = (.error f, e)) := by
  refine ⟨⟨fun ⟨e', he'⟩ => ?_, fun h => ?_⟩, fun e' he' => ?_, fun pre p post hs hpre => ?_,
    fun hparts pre p post cpre c cpost hs hc hpre hcpre => ?_,
    fun hparts hok hcyc => ?_, fun specs f hs h => run_restore_error hs h⟩
  · obtain ⟨g, hg, -⟩ := restore_eq_ok he'
    exact acceptable_of_build hg
  · obtain ⟨g, hg, -⟩ := build_of_acceptable h
    refine ⟨{ e with graph := g }, ?_⟩
    unfold restore
    rw [hg]
    rfl
  · -- the graph restored is the one `build_of_acceptable` describes
    obtain ⟨g, hg, rfl⟩ := restore_eq_ok he'
    obtain ⟨g', hg', hsnap, hlist⟩ := build_of_acceptable (acceptable_of_build hg)
    obtain rfl : g' = g := Except.ok.inj (hg'.symm.trans hg)
    exact ⟨hsnap, hlist, rfl⟩
  · obtain ⟨h1, h2, h3, h4⟩ := build_of_bad_part hs hpre
    exact ⟨fun h => restore_of_build_error (h1 h), fun h0 h => restore_of_build_error (h2 h0 h),
      fun h0 h1' h => restore_of_build_error (h3 h0 h1' h),
      fun h0 h1' h2' q hq hname => restore_of_build_error (h4 h0 h1' h2' q hq hname)⟩
  · obtain ⟨h1, h2⟩ := build_of_bad_child hparts hs hc hpre hcpre
    exact ⟨fun h => restore_of_build_error (h1 h), fun h0 h => restore_of_build_error (h2 h0 h)⟩
  · obtain ⟨x, hx, hb⟩ := build_of_cycle hparts hok hcyc
    exact ⟨x, hx, restore_of_build_error hb⟩

end Engine

end BillOfMaterials
