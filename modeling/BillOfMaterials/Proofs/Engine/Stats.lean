import Mathlib
import BillOfMaterials.Proofs.Graph.Breadth
import BillOfMaterials.Api.Service

/-!
# What the counts of an engine count

`Engine.stats` sorts the parts by `Filter.category`, while the listings select them with
`Filter.admits`: two case splits over the numbers of parents and children, written apart. They
agree on every part (`Filter.admits_eq_category`), so the counts are the lengths of the listings
(`Engine.stats_eq`).

* `listParts_eq_filter`: a filter lists the parts of the whole listing it admits;
* `length_listParts_classes`, `length_listParts_assembly`: each part is in exactly one of the
  four classes, and the assemblies are the top-level parts and the subassemblies;
* `edgeCount_snapshot`: the edges a snapshot records are the children of all parts;
* `Consistent.parent_entries`: with both ends recording each edge, the parents lists hold as
  many entries as the children lists;
* `Consistent.listChildren_topLevel`: no child of a part is top-level, since it lists the part
  as its parent;
* `stats_agree_with_listings`: in every engine reached from a fresh one, the counts and the
  gauges a scrape of the metrics reports are those of the listings.
-/

namespace BillOfMaterials

namespace Filter

theorem category_cases (p c : Int) :
    category p c = .topLevel ∨ category p c = .subassembly ∨ category p c = .component ∨
      category p c = .orphan := by
  unfold category
  split
  · exact .inl rfl
  split
  · exact .inr (.inl rfl)
  split
  · exact .inr (.inr (.inl rfl))
  · exact .inr (.inr (.inr rfl))

/-- On counts of edges, each of the four class filters admits exactly the parts of its class. -/
theorem admits_eq_category (p c : Nat) {f : Filter}
    (hf : f ∈ [Filter.topLevel, .subassembly, .component, .orphan]) :
    f.admits p c = decide (category p c = f) := by
  simp only [List.mem_cons, List.not_mem_nil, or_false] at hf
  rcases Nat.eq_zero_or_pos c with h1 | h1 <;> rcases Nat.eq_zero_or_pos p with h2 | h2 <;>
    rcases hf with rfl | rfl | rfl | rfl <;> simp [h1, h2, admits, category, Nat.ne_of_gt]

theorem admits_assembly (p c : Nat) :
    Filter.assembly.admits p c = (Filter.topLevel.admits p c || Filter.subassembly.admits p c) := by
  rcases Nat.eq_zero_or_pos p with h | h <;> simp [h, admits, Nat.ne_of_gt]

end Filter

theorem forall_mem_of_forall₂ {α β : Type} {R : α → β → Prop} {P : α → Prop} {Q : β → Prop}
    (hPQ : ∀ a b, P a → R a b → Q b) {l₁ : List α} {l₂ : List β} (h : List.Forall₂ R l₁ l₂)
    (hP : ∀ a ∈ l₁, P a) : ∀ b ∈ l₂, Q b := by
  induction h with
  | nil => simp
  | cons hab _ ih =>
    simp only [List.mem_cons, forall_eq_or_imp] at hP ⊢
    exact ⟨hPQ _ _ hP.1 hab, ih hP.2⟩

namespace Graph

theorem listParts_all (g : Graph) : g.listParts .all = g.list := by
  simp [listParts, list, Filter.admits]

/-- A filter lists the parts of the whole listing that it admits, in the same order. -/
theorem listParts_eq_filter (g : Graph) (f : Filter) :
    g.listParts f = (g.listParts .all).filter f.admitsPart := by
  rw [listParts_all, listParts, list, List.filter_map]
  rfl

/-- Each part is in exactly one of the four classes. -/
theorem length_listParts_classes (g : Graph) :
    (g.listParts .topLevel).length + (g.listParts .subassembly).length +
      (g.listParts .component).length + (g.listParts .orphan).length =
        (g.listParts .all).length := by
  rw [listParts_all, list, List.length_map]
  unfold listParts
  simp only [List.length_map]
  induction g.nodes with
  | nil => rfl
  | cons n l ih =>
    rcases Filter.category_cases n.parents.size n.children.size with h | h | h | h <;>
      simp [Filter.admits_eq_category, h] at ih ⊢ <;> omega

/-- The assemblies are the top-level parts and the subassemblies. -/
theorem length_listParts_assembly (g : Graph) :
    (g.listParts .assembly).length =
      (g.listParts .topLevel).length + (g.listParts .subassembly).length := by
  unfold listParts
  simp only [List.length_map]
  induction g.nodes with
  | nil => rfl
  | cons n l ih =>
    rcases Filter.category_cases n.parents.size n.children.size with h | h | h | h <;>
      simp [Filter.admits_assembly, Filter.admits_eq_category, h] at ih ⊢ <;>
        omega

/-- The edges a snapshot records are the children of all parts. -/
theorem edgeCount_snapshot (g : Graph) :
    g.snapshot.edgeCount = (g.nodes.flatMap (·.children.toList)).length := by
  unfold snapshot Snapshot.edgeCount
  induction g.nodes with
  | nil => rfl
  | cons n l ih => simp [ih]

theorem nodup_flatMap_tagged {l : List Node} (hids : l.Pairwise fun a b => a.id ≠ b.id)
    {sel : Node → List PartId} (hsel : ∀ n ∈ l, (sel n).Nodup)
    (tag : PartId → PartId → PartId × PartId) (htag : ∀ {i j x y}, tag i x = tag j y → i = j ∧ x = y) :
    (l.flatMap fun n => (sel n).map (tag n.id)).Nodup := by
  refine List.nodup_flatMap.2 ⟨fun n hn => (hsel n hn).map fun _ _ e => (htag e).2, ?_⟩
  refine hids.imp fun hne => ?_
  simp only [Function.onFun, List.disjoint_left, List.mem_map]
  rintro _ ⟨c, -, rfl⟩ ⟨c', -, e⟩
  exact hne (htag e).1.symm

/-- With both ends recording each edge, the parents lists hold as many entries as the children
lists: each edge is once a child entry and once a parent entry. -/
theorem Consistent.parent_entries {g : Graph} (h : g.Consistent) :
    (g.nodes.flatMap (·.parents.toList)).length =
      (g.nodes.flatMap (·.children.toList)).length := by
  have hids : g.nodes.Pairwise fun a b => a.id ≠ b.id := List.pairwise_map.1 h.ids_nodup
  have hch : (g.nodes.flatMap fun n => n.children.toList.map (n.id, ·)).Nodup :=
    nodup_flatMap_tagged hids h.children_nodup (fun i x => (i, x)) fun e => Prod.mk.inj e
  have hpa : (g.nodes.flatMap fun m => m.parents.toList.map (·, m.id)).Nodup :=
    nodup_flatMap_tagged hids h.parents_nodup (fun i x => (x, i)) fun e =>
      (Prod.mk.inj e).symm
  have hperm : (g.nodes.flatMap fun m => m.parents.toList.map (·, m.id)).Perm
      (g.nodes.flatMap fun n => n.children.toList.map (n.id, ·)) := by
    refine (List.perm_ext_iff_of_nodup hpa hch).2 fun ⟨a, b⟩ => ?_
    have hedge := h.edge_iff_parent (p := a) (c := b)
    simp only [Edge] at hedge
    simp only [List.mem_flatMap, List.mem_map, Prod.mk.injEq]
    constructor
    · rintro ⟨m, hm, p, hp, rfl, rfl⟩
      obtain ⟨n, hn, hna, hb⟩ := hedge.2 ⟨m, hm, rfl, hp⟩
      exact ⟨n, hn, m.id, hb, hna, rfl⟩
    · rintro ⟨n, hn, c, hc, rfl, rfl⟩
      obtain ⟨m, hm, hmb, ha⟩ := hedge.1 ⟨n, hn, rfl, hc⟩
      exact ⟨m, hm, n.id, ha, rfl, hmb⟩
  simpa [List.length_flatMap] using hperm.length_eq

/-- A child lists its parent, so no child of a live part is top-level. -/
theorem Consistent.listChildren_topLevel {g : Graph} (h : g.Consistent) {id : PartId}
    (hid : id ∈ g.ids) : g.listChildren id .topLevel = .ok [] := by
  obtain ⟨n, hn, rfl⟩ := mem_ids.1 hid
  have hlookup : g.lookup n.id = .ok n := lookup_eq_ok.2 (h.find?_eq_some_iff.2 ⟨hn, rfl⟩)
  obtain ⟨ps, hps, hF⟩ := views_of_live (h.children_live n hn)
  have hparent : ∀ p ∈ ps, n.id ∈ p.parents :=
    forall_mem_of_forall₂ (P := (· ∈ n.children.toList)) (fun c p hc hget => by
      obtain ⟨cn, hcn, rfl⟩ := map_eq_ok.1 hget
      obtain ⟨hcm, rfl⟩ := find?_eq_some (lookup_eq_ok.1 hcn)
      exact (h.mirror n hn cn hcm).1 hc) hF fun _ hc => hc
  have hnone : ∀ p ∈ ps, Filter.topLevel.admitsPart p = false := by
    intro p hp
    have hpos : 0 < p.parents.length := List.length_pos_of_mem (hparent p hp)
    simp [Filter.admitsPart, Filter.admits, Nat.pos_iff_ne_zero.1 hpos]
  unfold listChildren
  simpa [Filter.allowedOnChildren, hlookup, hps] using hnone

end Graph

namespace Engine

/-- The counts are the lengths of the listings of each class, and the edges are the children of
all parts. -/
theorem stats_eq (e : Engine) : e.stats =
    { parts := e.graph.nodes.length
      edges := (e.graph.nodes.flatMap (·.children.toList)).length
      topLevel := (e.graph.listParts .topLevel).length
      subassembly := (e.graph.listParts .subassembly).length
      component := (e.graph.listParts .component).length
      orphan := (e.graph.listParts .orphan).length } := by
  unfold Engine.stats Graph.listParts
  simp only [List.length_map]
  generalize e.graph.nodes = l
  induction l using List.reverseRecOn with
  | nil => rfl
  | append_singleton l n ih =>
    rw [List.foldl_append, ih]
    simp only [List.foldl_cons, List.foldl_nil, IdSet.size]
    rcases Filter.category_cases n.parents.toList.length n.children.toList.length with
      h | h | h | h <;> simp only [h] <;> simp [h, List.filter_append, Filter.admits_eq_category]

/-- In every engine that calls reach from a fresh one, the counts are those of the listings:
the parts, each class, and the edges, which are as many as the entries of the children lists,
of the parents lists and of the snapshot. The four classes add up to the parts, the assemblies
are the top-level parts and the subassemblies, no live part has a top-level child, and a scrape
of the metrics reports these counts and leaves the engine as it was. -/
theorem stats_agree_with_listings (ids : IdStream) (cs : List Command) :
    let e := ((Engine.fresh ids).runAll cs).2
    let listed : Stats :=
      { parts := (e.listParts .all).length, edges := e.snapshot.edgeCount
        topLevel := (e.listParts .topLevel).length
        subassembly := (e.listParts .subassembly).length
        component := (e.listParts .component).length, orphan := (e.listParts .orphan).length }
    e.stats = listed ∧
      listed.topLevel + listed.subassembly + listed.component + listed.orphan = listed.parts ∧
      (e.listParts .assembly).length = listed.topLevel + listed.subassembly ∧
      listed.edges = (e.graph.nodes.flatMap (·.children.toList)).length ∧
      listed.edges = (e.graph.nodes.flatMap (·.parents.toList)).length ∧
      (∀ id ∈ e.graph.ids, e.listChildren id .topLevel = .ok []) ∧
      ∀ counts req params, Service.runHandler e counts .metrics req params =
        .ok (corsResponse 200 "text/plain; version=0.0.4; charset=utf-8; escaping=underscores"
          (exposition listed counts), e) := by
  intro e listed
  have hc : e.graph.Consistent := (fresh_runAll_invariant ids cs).2.wellFormed.toConsistent
  have hstats : e.stats = listed := by
    rw [stats_eq]
    simp [listed, listParts, Graph.edgeCount_snapshot, snapshot, Graph.listParts_all, Graph.list]
  refine ⟨hstats, Graph.length_listParts_classes e.graph, Graph.length_listParts_assembly e.graph,
    Graph.edgeCount_snapshot e.graph, ?_, fun id hid => hc.listChildren_topLevel hid,
    fun counts req params => ?_⟩
  · rw [hc.parent_entries]
    exact Graph.edgeCount_snapshot e.graph
  · rw [← hstats]
    rfl

end Engine

end BillOfMaterials
