import BillOfMaterials.Graph.Snapshot
import Mathlib.Logic.Relation
import Mathlib.Data.List.Nodup

/-!
# The children relation

The edges of a graph are read off its records: `c` is a child of `p` when a record of `p` lists
`c` among its children.

* `Graph.Edge`, `Graph.Path` (one edge or more) and `Graph.Acyclic` (no part lies below
  itself);
* `find?_eq_some_iff`, `findName?_eq_some_iff`: with distinct ids (names), the record found for
  an id (a name) is the one carrying it;
* `link_nodes`, `unlink_nodes`, `modify_nodes`: what `link`, `unlink` and `modify` do to every
  record; all three keep the ids;
* `edge_link`, `edge_unlink`: `link` adds exactly its edge, `unlink` removes exactly its edge;
* `acyclic_link`: an edge from `p` to `c` keeps a graph acyclic when `p` is not below `c`;
  `Acyclic.mono`: fewer edges keep it so.
-/

namespace BillOfMaterials

namespace Graph

/-- `c` is a child of `p`: a record of `p` lists `c`. -/
def Edge (g : Graph) (p c : PartId) : Prop := ∃ n ∈ g.nodes, n.id = p ∧ c ∈ n.children.toList

/-- `c` lies below `p`, through one edge or more. -/
def Path (g : Graph) : PartId → PartId → Prop := Relation.TransGen g.Edge

/-- No part lies below itself. -/
def Acyclic (g : Graph) : Prop := ∀ p, ¬ g.Path p p

/-! ## Live ids and records -/

@[simp] theorem mem_ids {g : Graph} {id : PartId} : id ∈ g.ids ↔ ∃ n ∈ g.nodes, n.id = id := by
  simp [ids]

@[simp] theorem isLive_eq_true {g : Graph} {id : PartId} : g.isLive id = true ↔ id ∈ g.ids := by
  simp [isLive]

theorem find?_eq_some {g : Graph} {id : PartId} {n : Node} (h : g.find? id = some n) :
    n ∈ g.nodes ∧ n.id = id :=
  ⟨List.mem_of_find?_eq_some h, by simpa using List.find?_some h⟩

@[simp] theorem find?_eq_none {g : Graph} {id : PartId} : g.find? id = none ↔ id ∉ g.ids := by
  simp [find?]

@[simp] theorem findName?_eq_none {g : Graph} {name : String} :
    g.findName? name = none ↔ ∀ n ∈ g.nodes, n.name ≠ name := by
  simp [findName?]

theorem lookup_eq_ok {g : Graph} {id : PartId} {n : Node} :
    g.lookup id = .ok n ↔ g.find? id = some n := by
  cases hf : g.find? id <;> simp [lookup, hf]

theorem lookup_eq_error {g : Graph} {id : PartId} {f : Fault} (h : g.lookup id = .error f) :
    id ∉ g.ids := by
  unfold lookup at h
  split at h
  · cases h
  · simpa using ‹g.find? id = none›

theorem mem_ids_of_lookup {g : Graph} {id : PartId} {n : Node} (h : g.lookup id = .ok n) :
    id ∈ g.ids := by
  obtain ⟨hn, rfl⟩ := find?_eq_some (lookup_eq_ok.1 h)
  exact mem_ids.2 ⟨n, hn, rfl⟩

theorem lookup_error_eq {g : Graph} {id : PartId} {f : Fault} (h : g.lookup id = .error f) :
    f = .notFound id.toString := by
  unfold lookup at h
  split at h
  · cases h
  · exact (Except.error.inj h).symm

theorem lookup_of_mem {g : Graph} {id : PartId} (h : id ∈ g.ids) : ∃ n, g.lookup id = .ok n := by
  cases hf : g.find? id with
  | none => exact absurd h (find?_eq_none.1 hf)
  | some n => exact ⟨n, lookup_eq_ok.2 hf⟩

theorem eq_of_id_eq {g : Graph} (hg : g.ids.Nodup) {n m : Node} (hn : n ∈ g.nodes)
    (hm : m ∈ g.nodes) (h : n.id = m.id) : n = m :=
  List.inj_on_of_nodup_map hg hn hm h

theorem eq_of_name_eq {g : Graph} (hg : (g.nodes.map (·.name)).Nodup) {n m : Node}
    (hn : n ∈ g.nodes) (hm : m ∈ g.nodes) (h : n.name = m.name) : n = m :=
  List.inj_on_of_nodup_map hg hn hm h

theorem find?_eq_some_iff {g : Graph} (hg : g.ids.Nodup) {id : PartId} {n : Node} :
    g.find? id = some n ↔ n ∈ g.nodes ∧ n.id = id := by
  refine ⟨find?_eq_some, fun ⟨hn, hid⟩ => ?_⟩
  cases hf : g.find? id with
  | none => exact absurd (mem_ids.2 ⟨n, hn, hid⟩) (find?_eq_none.1 hf)
  | some m =>
    obtain ⟨hm, hmid⟩ := find?_eq_some hf
    rw [eq_of_id_eq hg hm hn (hmid.trans hid.symm)]

theorem findName?_eq_some_iff {g : Graph} (hg : (g.nodes.map (·.name)).Nodup) {name : String}
    {n : Node} : g.findName? name = some n ↔ n ∈ g.nodes ∧ n.name = name := by
  constructor
  · intro hf
    exact ⟨List.mem_of_find?_eq_some hf, by simpa using List.find?_some hf⟩
  · rintro ⟨hn, rfl⟩
    cases hf : g.findName? n.name with
    | none =>
      have := (List.find?_eq_none.1 hf) n hn
      simp at this
    | some m =>
      have hm := List.mem_of_find?_eq_some hf
      have hname : m.name = n.name := by simpa using List.find?_some hf
      rw [List.inj_on_of_nodup_map hg hm hn hname]

/-! ## Records after a change -/

theorem modify_nodes (g : Graph) (id : PartId) (f : Node → Node) :
    (g.modify id f).nodes = g.nodes.map fun n => if n.id = id then f n else n := by
  simp [modify]

theorem modify_edges_nodes (g : Graph) (p c : PartId) (F H : IdSet → IdSet) :
    ((g.modify p fun n => { n with children := F n.children }).modify c
      fun n => { n with parents := H n.parents }).nodes = g.nodes.map fun n =>
    { n with children := if n.id = p then F n.children else n.children
             parents := if n.id = c then H n.parents else n.parents } := by
  simp only [modify_nodes, List.map_map]
  congr 1
  funext ⟨id, name, seq, ch, pa⟩
  by_cases hp : id = p
  · subst hp
    by_cases hc : id = c
    · subst hc; simp
    · simp [hc]
  · by_cases hc : id = c
    · subst hc; simp [hp]
    · simp [hp, hc]

theorem link_nodes (g : Graph) (p c : PartId) : (g.link p c).nodes = g.nodes.map fun n =>
    { n with children := if n.id = p then (n.children.add c).2 else n.children
             parents := if n.id = c then (n.parents.add p).2 else n.parents } :=
  modify_edges_nodes g p c (fun s => (s.add c).2) (fun s => (s.add p).2)

theorem unlink_nodes (g : Graph) (p c : PartId) : (g.unlink p c).nodes = g.nodes.map fun n =>
    { n with children := if n.id = p then (n.children.remove c).2 else n.children
             parents := if n.id = c then (n.parents.remove p).2 else n.parents } :=
  modify_edges_nodes g p c (fun s => (s.remove c).2) (fun s => (s.remove p).2)

theorem ids_modify (g : Graph) (id : PartId) {f : Node → Node} (hf : ∀ n, (f n).id = n.id) :
    (g.modify id f).ids = g.ids := by
  simp only [ids, modify_nodes, List.map_map]
  congr 1
  funext n
  by_cases h : n.id = id <;> simp [h, hf]

@[simp] theorem ids_link (g : Graph) (p c : PartId) : (g.link p c).ids = g.ids := by
  simp only [ids, link_nodes, List.map_map]
  rfl

@[simp] theorem ids_unlink (g : Graph) (p c : PartId) : (g.unlink p c).ids = g.ids := by
  simp only [ids, unlink_nodes, List.map_map]
  rfl

@[simp] theorem nextSeq_link (g : Graph) (p c : PartId) : (g.link p c).nextSeq = g.nextSeq := rfl

@[simp] theorem nextSeq_unlink (g : Graph) (p c : PartId) : (g.unlink p c).nextSeq = g.nextSeq :=
  rfl

@[simp] theorem nextSeq_modify (g : Graph) (id : PartId) (f : Node → Node) :
    (g.modify id f).nextSeq = g.nextSeq := rfl

@[simp] theorem names_link (g : Graph) (p c : PartId) : (g.link p c).names = g.names := rfl

@[simp] theorem names_unlink (g : Graph) (p c : PartId) : (g.unlink p c).names = g.names := rfl

@[simp] theorem names_modify (g : Graph) (id : PartId) (f : Node → Node) :
    (g.modify id f).names = g.names := rfl

/-! ## Edges after a change -/

theorem edge_link {g : Graph} {p c : PartId} (hp : p ∈ g.ids) {a b : PartId} :
    (g.link p c).Edge a b ↔ g.Edge a b ∨ a = p ∧ b = c := by
  simp only [Edge, link_nodes, List.mem_map]
  constructor
  · rintro ⟨_, ⟨n, hn, rfl⟩, rfl, hb⟩
    by_cases h : n.id = p
    · simp only [h, if_true, IdSet.add_toList] at hb
      split at hb
      · exact Or.inl ⟨n, hn, rfl, hb⟩
      · rcases List.mem_append.1 hb with hb | hb
        · exact Or.inl ⟨n, hn, rfl, hb⟩
        · exact Or.inr ⟨h, List.mem_singleton.1 hb⟩
    · simp only [h, if_false] at hb
      exact Or.inl ⟨n, hn, rfl, hb⟩
  · rintro (⟨n, hn, rfl, hb⟩ | ⟨rfl, rfl⟩)
    · refine ⟨_, ⟨n, hn, rfl⟩, rfl, ?_⟩
      by_cases h : n.id = p
      · simp only [h, if_true, IdSet.add_toList]
        split <;> simp [hb]
      · simpa [h] using hb
    · obtain ⟨n, hn, hid⟩ := mem_ids.1 hp
      refine ⟨_, ⟨n, hn, rfl⟩, hid, ?_⟩
      simp only [hid, if_true, IdSet.add_toList]
      split <;> simp_all

theorem edge_unlink {g : Graph} (hc : ∀ n ∈ g.nodes, n.children.toList.Nodup) {p c a b : PartId} :
    (g.unlink p c).Edge a b ↔ g.Edge a b ∧ ¬ (a = p ∧ b = c) := by
  simp only [Edge, unlink_nodes, List.mem_map]
  constructor
  · rintro ⟨_, ⟨n, hn, rfl⟩, rfl, hb⟩
    by_cases h : n.id = p
    · simp only [h, if_true, IdSet.remove_toList] at hb
      have hb := ((hc n hn).mem_erase_iff).1 hb
      exact ⟨⟨n, hn, rfl, hb.2⟩, fun he => hb.1 he.2⟩
    · simp only [h, if_false] at hb
      exact ⟨⟨n, hn, rfl, hb⟩, fun he => h he.1⟩
  · rintro ⟨⟨n, hn, rfl, hb⟩, hne⟩
    refine ⟨_, ⟨n, hn, rfl⟩, rfl, ?_⟩
    by_cases h : n.id = p
    · simp only [h, if_true, IdSet.remove_toList]
      exact ((hc n hn).mem_erase_iff).2 ⟨fun hb' => hne ⟨h, hb'⟩, hb⟩
    · simpa [h] using hb

@[simp] theorem ids_foldl_link (p : PartId) (cs : List PartId) (g : Graph) :
    (cs.foldl (fun g c => g.link p c) g).ids = g.ids := by
  induction cs generalizing g with
  | nil => rfl
  | cons c cs ih => rw [List.foldl_cons, ih, ids_link]

theorem edge_foldl_link {p : PartId} (cs : List PartId) :
    ∀ {g : Graph}, p ∈ g.ids → ∀ {a b : PartId},
      (cs.foldl (fun g c => g.link p c) g).Edge a b ↔ g.Edge a b ∨ a = p ∧ b ∈ cs := by
  induction cs with
  | nil => intro g _ a b; simp
  | cons c cs ih =>
    intro g hp a b
    rw [List.foldl_cons, ih (by simpa using hp), edge_link hp]
    simp only [List.mem_cons]
    constructor
    · rintro ((h | ⟨rfl, rfl⟩) | ⟨rfl, h⟩)
      · exact Or.inl h
      · exact Or.inr ⟨rfl, Or.inl rfl⟩
      · exact Or.inr ⟨rfl, Or.inr h⟩
    · rintro (h | ⟨rfl, rfl | h⟩)
      · exact Or.inl (Or.inl h)
      · exact Or.inl (Or.inr ⟨rfl, rfl⟩)
      · exact Or.inr ⟨rfl, h⟩

/-! ## Acyclic graphs -/

theorem Acyclic.mono {g g' : Graph} (h : ∀ a b, g'.Edge a b → g.Edge a b) (hg : g.Acyclic) :
    g'.Acyclic :=
  fun p hp => hg p (Relation.TransGen.mono h _ _ hp)

theorem Acyclic.not_edge_self {g : Graph} (hg : g.Acyclic) (p : PartId) : ¬ g.Edge p p :=
  fun h => hg p (.single h)

theorem transGen_add_edge {r r' : PartId → PartId → Prop} {p c : PartId}
    (hr : ∀ a b, r' a b → r a b ∨ a = p ∧ b = c) {x y : PartId} (h : Relation.TransGen r' x y) :
    Relation.TransGen r x y ∨ Relation.ReflTransGen r x p ∧ Relation.ReflTransGen r c y := by
  induction h with
  | single hxy =>
    rcases hr _ _ hxy with h | ⟨rfl, rfl⟩
    · exact Or.inl (.single h)
    · exact Or.inr ⟨.refl, .refl⟩
  | tail _ hyz ih =>
    rcases hr _ _ hyz with h | ⟨rfl, rfl⟩
    · rcases ih with ih | ⟨hxp, hcy⟩
      · exact Or.inl (ih.tail h)
      · exact Or.inr ⟨hxp, hcy.tail h⟩
    · rcases ih with ih | ⟨hxp, _⟩
      · exact Or.inr ⟨ih.to_reflTransGen, .refl⟩
      · exact Or.inr ⟨hxp, .refl⟩

theorem acyclic_of_add_edge {g g' : Graph} {p c : PartId}
    (hr : ∀ a b, g'.Edge a b → g.Edge a b ∨ a = p ∧ b = c) (hg : g.Acyclic)
    (hcp : ¬ Relation.ReflTransGen g.Edge c p) : g'.Acyclic := by
  intro x hx
  rcases transGen_add_edge hr hx with h | ⟨hxp, hcx⟩
  · exact hg x h
  · exact hcp (hcx.trans hxp)

theorem acyclic_link {g : Graph} {p c : PartId} (hp : p ∈ g.ids) (hg : g.Acyclic)
    (hcp : ¬ Relation.ReflTransGen g.Edge c p) : (g.link p c).Acyclic :=
  acyclic_of_add_edge (fun _ _ h => (edge_link hp).1 h) hg hcp

end Graph

end BillOfMaterials
