import BillOfMaterials.Proofs.Graph.Edge

/-!
# Well-formed graphs

The invariants every graph reached through the engine keeps:

* `Graph.Consistent`: ids distinct; names distinct and not blank; children and parents lists
  without repeats and of live parts only; `c` lists `p` as a parent exactly when `p` lists `c`
  as a child; sequence numbers distinct and at most the last one handed out;
* `Graph.WellFormed`: consistent and acyclic.

Each change the engine makes keeps them, under the conditions it checks first:
`Consistent.insert` (a new id and a new, non-blank name), `Consistent.link` and
`Consistent.unlink` (live ends; `Consistent.foldl_link` and `edge_foldl_unlink` for a batch),
`Consistent.reorder` (the same children in another order) and `Consistent.erase` (a part with
no edges left). With distinct ids and names a record is found
by its id or its name exactly (`Consistent.find?_eq_some_iff`, `Consistent.findName?_eq_some_iff`).
-/

namespace BillOfMaterials

namespace Graph

/-- The invariants of a graph other than acyclicity. -/
structure Consistent (g : Graph) : Prop where
  ids_nodup : g.ids.Nodup
  names_nodup : (g.nodes.map (·.name)).Nodup
  name_nonblank : ∀ n ∈ g.nodes, Text.isBlank n.name = false
  children_nodup : ∀ n ∈ g.nodes, n.children.toList.Nodup
  parents_nodup : ∀ n ∈ g.nodes, n.parents.toList.Nodup
  children_live : ∀ n ∈ g.nodes, ∀ c ∈ n.children.toList, c ∈ g.ids
  parents_live : ∀ n ∈ g.nodes, ∀ p ∈ n.parents.toList, p ∈ g.ids
  /-- Both ends of an edge record it. -/
  mirror : ∀ n ∈ g.nodes, ∀ m ∈ g.nodes, m.id ∈ n.children.toList ↔ n.id ∈ m.parents.toList
  seqs_nodup : (g.nodes.map (·.seq)).Nodup
  seq_le : ∀ n ∈ g.nodes, n.seq ≤ g.nextSeq
  /-- The names index points each live name at its part, and holds no other name. -/
  names_indexed : ∀ name id, g.names.lookup name = some id ↔ ∃ n ∈ g.nodes, n.name = name ∧ n.id = id

/-- The invariants of a graph. -/
structure WellFormed (g : Graph) : Prop extends g.Consistent where
  acyclic : g.Acyclic

theorem consistent_empty : (({} : Graph)).Consistent where
  ids_nodup := List.nodup_nil
  names_nodup := List.nodup_nil
  name_nonblank := by simp
  children_nodup := by simp
  parents_nodup := by simp
  children_live := by simp
  parents_live := by simp
  mirror := by simp
  seqs_nodup := List.nodup_nil
  seq_le := by simp
  names_indexed := fun _ _ => by simp

theorem wellFormed_empty : (({} : Graph)).WellFormed where
  toConsistent := consistent_empty
  acyclic := fun p h => by
    obtain ⟨n, hn, -⟩ := (Relation.TransGen.head'_iff.1 h).choose_spec.1
    simp at hn

namespace Consistent

variable {g : Graph} (h : g.Consistent)
include h

theorem find?_eq_some_iff {id : PartId} {n : Node} : g.find? id = some n ↔ n ∈ g.nodes ∧ n.id = id :=
  Graph.find?_eq_some_iff h.ids_nodup

theorem findName?_eq_some_iff {name : String} {n : Node} :
    g.findName? name = some n ↔ n ∈ g.nodes ∧ n.name = name :=
  Graph.findName?_eq_some_iff h.names_nodup

theorem lookup_names (name : String) : g.names.lookup name = (g.findName? name).map (·.id) := by
  cases hf : g.findName? name with
  | none =>
    refine Option.eq_none_iff_forall_ne_some.2 fun id hl => ?_
    obtain ⟨n, hn, hname, -⟩ := (h.names_indexed name id).1 hl
    exact findName?_eq_none.1 hf n hn hname
  | some n =>
    obtain ⟨hn, rfl⟩ := h.findName?_eq_some_iff.1 hf
    exact (h.names_indexed _ _).2 ⟨n, hn, rfl, rfl⟩

theorem lookup_names_eq_none {name : String} :
    g.names.lookup name = none ↔ ∀ n ∈ g.nodes, n.name ≠ name := by
  rw [h.lookup_names, Option.map_eq_none_iff, findName?_eq_none]

theorem edge_iff_parent {p c : PartId} :
    g.Edge p c ↔ ∃ m ∈ g.nodes, m.id = c ∧ p ∈ m.parents.toList := by
  constructor
  · rintro ⟨n, hn, rfl, hc⟩
    obtain ⟨m, hm, rfl⟩ := mem_ids.1 (h.children_live n hn _ hc)
    exact ⟨m, hm, rfl, (h.mirror n hn m hm).1 hc⟩
  · rintro ⟨m, hm, rfl, hp⟩
    obtain ⟨n, hn, rfl⟩ := mem_ids.1 (h.parents_live m hm _ hp)
    exact ⟨n, hn, rfl, (h.mirror n hn m hm).2 hp⟩

theorem edge_iff_mem_children {n : Node} (hn : n ∈ g.nodes) {c : PartId} :
    g.Edge n.id c ↔ c ∈ n.children.toList := by
  refine ⟨fun ⟨m, hm, hid, hc⟩ => ?_, fun hc => ⟨n, hn, rfl, hc⟩⟩
  rwa [eq_of_id_eq h.ids_nodup hm hn hid] at hc

theorem edge_iff_mem_parents {m : Node} (hm : m ∈ g.nodes) {p : PartId} :
    g.Edge p m.id ↔ p ∈ m.parents.toList := by
  rw [h.edge_iff_parent]
  refine ⟨fun ⟨m', hm', hid, hp⟩ => ?_, fun hp => ⟨m, hm, rfl, hp⟩⟩
  rwa [eq_of_id_eq h.ids_nodup hm' hm hid] at hp

theorem edge_live {p c : PartId} (he : g.Edge p c) : p ∈ g.ids ∧ c ∈ g.ids := by
  obtain ⟨n, hn, rfl, hc⟩ := he
  exact ⟨mem_ids.2 ⟨n, hn, rfl⟩, h.children_live n hn c hc⟩

end Consistent

/-! ## Changes that keep a graph consistent -/

theorem insert_nodes (g : Graph) (id : PartId) (name : String) :
    (g.insert id name).nodes = g.nodes ++ [{ id, name, seq := g.nextSeq + 1 }] := rfl

theorem insert_names (g : Graph) (id : PartId) (name : String) :
    (g.insert id name).names = g.names.insert name id := rfl

theorem exists_name_id_map {l : List Node} {f : Node → Node} (hname : ∀ n, (f n).name = n.name)
    (hid : ∀ n, (f n).id = n.id) {name : String} {id : PartId} :
    (∃ n ∈ l.map f, n.name = name ∧ n.id = id) ↔ ∃ n ∈ l, n.name = name ∧ n.id = id := by
  simp [hname, hid]

theorem edge_insert {g : Graph} {id : PartId} {name : String} {a b : PartId} :
    (g.insert id name).Edge a b ↔ g.Edge a b := by
  simp [Edge, insert_nodes]

theorem Consistent.insert {g : Graph} (h : g.Consistent) {id : PartId} {name : String}
    (hid : id ∉ g.ids) (hname : ∀ n ∈ g.nodes, n.name ≠ name) (hblank : Text.isBlank name = false) :
    (g.insert id name).Consistent where
  ids_nodup := by
    simpa [ids, insert_nodes, List.nodup_append] using ⟨h.ids_nodup, fun n hn e => hid (mem_ids.2 ⟨n, hn, e⟩)⟩
  names_nodup := by
    simpa [insert_nodes, List.nodup_append] using ⟨h.names_nodup, hname⟩
  name_nonblank := by
    simp only [insert_nodes, List.mem_append, List.mem_singleton]
    rintro n (hn | rfl)
    · exact h.name_nonblank n hn
    · exact hblank
  children_nodup := by
    simp only [insert_nodes, List.mem_append, List.mem_singleton]
    rintro n (hn | rfl)
    · exact h.children_nodup n hn
    · exact List.nodup_nil
  parents_nodup := by
    simp only [insert_nodes, List.mem_append, List.mem_singleton]
    rintro n (hn | rfl)
    · exact h.parents_nodup n hn
    · exact List.nodup_nil
  children_live := by
    simp only [insert_nodes, ids, List.mem_append, List.mem_singleton, List.map_append]
    rintro n (hn | rfl) c hc
    · exact Or.inl (h.children_live n hn c hc)
    · simp at hc
  parents_live := by
    simp only [insert_nodes, ids, List.mem_append, List.mem_singleton, List.map_append]
    rintro n (hn | rfl) p hp
    · exact Or.inl (h.parents_live n hn p hp)
    · simp at hp
  mirror := by
    simp only [insert_nodes, List.mem_append, List.mem_singleton]
    rintro n (hn | rfl) m (hm | rfl)
    · exact h.mirror n hn m hm
    · refine iff_of_false (fun hc => hid ?_) (by simp)
      exact h.children_live n hn _ hc
    · refine iff_of_false (by simp) (fun hp => hid ?_)
      exact h.parents_live m hm _ hp
    · simp
  seqs_nodup := by
    simp only [insert_nodes, List.map_append, List.map_singleton, List.nodup_append]
    refine ⟨h.seqs_nodup, List.nodup_singleton _, ?_⟩
    simp only [List.mem_map, List.mem_singleton]
    rintro _ ⟨n, hn, rfl⟩ _ rfl e
    have := h.seq_le n hn
    omega
  seq_le := by
    simp only [insert_nodes, List.mem_append, List.mem_singleton]
    rintro n (hn | rfl)
    · exact Nat.le_succ_of_le (h.seq_le n hn)
    · exact Nat.le_refl _
  names_indexed := by
    intro name' id'
    simp only [insert_names, insert_nodes, List.mem_append, List.mem_singleton]
    by_cases he : name' = name
    · subst he
      rw [KeyMap.lookup_insert]
      constructor
      · rintro ⟨⟩
        exact ⟨_, .inr rfl, rfl, rfl⟩
      · rintro ⟨n, hn | rfl, hn', rfl⟩
        · exact absurd hn' (hname n hn)
        · rfl
    · rw [KeyMap.lookup_insert_ne _ _ he, h.names_indexed]
      constructor
      · rintro ⟨n, hn, h1, h2⟩
        exact ⟨n, .inl hn, h1, h2⟩
      · rintro ⟨n, hn | rfl, h1, h2⟩
        · exact ⟨n, hn, h1, h2⟩
        · exact absurd h1.symm he

theorem Consistent.link {g : Graph} (h : g.Consistent) {p c : PartId} (hp : p ∈ g.ids)
    (hc : c ∈ g.ids) : (g.link p c).Consistent where
  ids_nodup := by simpa using h.ids_nodup
  names_nodup := by simpa [link_nodes, Function.comp_def] using h.names_nodup
  name_nonblank := by simpa [link_nodes] using h.name_nonblank
  children_nodup := by
    simp only [link_nodes, List.mem_map]
    rintro _ ⟨n, hn, rfl⟩
    dsimp only
    split
    · exact IdSet.nodup_add (h.children_nodup n hn) c
    · exact h.children_nodup n hn
  parents_nodup := by
    simp only [link_nodes, List.mem_map]
    rintro _ ⟨n, hn, rfl⟩
    dsimp only
    split
    · exact IdSet.nodup_add (h.parents_nodup n hn) p
    · exact h.parents_nodup n hn
  children_live := by
    simp only [link_nodes, List.mem_map, ids_link]
    rintro _ ⟨n, hn, rfl⟩ x hx
    dsimp only at hx
    split at hx
    · rcases (IdSet.mem_add_toList _ _ _).1 hx with hx | rfl
      · exact h.children_live n hn x hx
      · exact hc
    · exact h.children_live n hn x hx
  parents_live := by
    simp only [link_nodes, List.mem_map, ids_link]
    rintro _ ⟨n, hn, rfl⟩ x hx
    dsimp only at hx
    split at hx
    · rcases (IdSet.mem_add_toList _ _ _).1 hx with hx | rfl
      · exact h.parents_live n hn x hx
      · exact hp
    · exact h.parents_live n hn x hx
  mirror := by
    simp only [link_nodes, List.mem_map]
    rintro _ ⟨n, hn, rfl⟩ _ ⟨m, hm, rfl⟩
    have hnm := h.mirror n hn m hm
    by_cases hnp : n.id = p <;> by_cases hmc : m.id = c <;> simp_all [IdSet.mem_add_toList]
  seqs_nodup := by simpa [link_nodes, Function.comp_def] using h.seqs_nodup
  seq_le := by simpa [link_nodes] using h.seq_le
  names_indexed := fun name id => by
    rw [names_link, link_nodes, exists_name_id_map, h.names_indexed] <;> exact fun _ => rfl

theorem Consistent.unlink {g : Graph} (h : g.Consistent) (p c : PartId) :
    (g.unlink p c).Consistent where
  ids_nodup := by simpa using h.ids_nodup
  names_nodup := by simpa [unlink_nodes, Function.comp_def] using h.names_nodup
  name_nonblank := by simpa [unlink_nodes] using h.name_nonblank
  children_nodup := by
    simp only [unlink_nodes, List.mem_map]
    rintro _ ⟨n, hn, rfl⟩
    dsimp only
    split
    · exact IdSet.nodup_remove (h.children_nodup n hn) c
    · exact h.children_nodup n hn
  parents_nodup := by
    simp only [unlink_nodes, List.mem_map]
    rintro _ ⟨n, hn, rfl⟩
    dsimp only
    split
    · exact IdSet.nodup_remove (h.parents_nodup n hn) p
    · exact h.parents_nodup n hn
  children_live := by
    simp only [unlink_nodes, List.mem_map, ids_unlink]
    rintro _ ⟨n, hn, rfl⟩ x hx
    dsimp only at hx
    split at hx
    · exact h.children_live n hn x ((IdSet.mem_remove_toList (h.children_nodup n hn) _ _).1 hx).1
    · exact h.children_live n hn x hx
  parents_live := by
    simp only [unlink_nodes, List.mem_map, ids_unlink]
    rintro _ ⟨n, hn, rfl⟩ x hx
    dsimp only at hx
    split at hx
    · exact h.parents_live n hn x ((IdSet.mem_remove_toList (h.parents_nodup n hn) _ _).1 hx).1
    · exact h.parents_live n hn x hx
  mirror := by
    simp only [unlink_nodes, List.mem_map]
    rintro _ ⟨n, hn, rfl⟩ _ ⟨m, hm, rfl⟩
    have hnm := h.mirror n hn m hm
    have hcn := IdSet.mem_remove_toList (h.children_nodup n hn) c m.id
    have hpm := IdSet.mem_remove_toList (h.parents_nodup m hm) p n.id
    by_cases hnp : n.id = p <;> by_cases hmc : m.id = c <;> simp_all
  seqs_nodup := by simpa [unlink_nodes, Function.comp_def] using h.seqs_nodup
  seq_le := by simpa [unlink_nodes] using h.seq_le
  names_indexed := fun name id => by
    rw [names_unlink, unlink_nodes, exists_name_id_map, h.names_indexed] <;> exact fun _ => rfl

/-- Linking live children below a live part, one after another. -/
theorem Consistent.foldl_link {g : Graph} (h : g.Consistent) {p : PartId} (hp : p ∈ g.ids)
    {cs : List PartId} (hcs : ∀ c ∈ cs, c ∈ g.ids) :
    (cs.foldl (fun g c => g.link p c) g).Consistent := by
  induction cs generalizing g with
  | nil => exact h
  | cons c cs ih =>
    refine ih (h.link hp (hcs c List.mem_cons_self)) (by simpa using hp) fun x hx => ?_
    simpa using hcs x (List.mem_cons_of_mem c hx)

theorem ids_foldl_unlink {α : Type} (e : α → PartId × PartId) (l : List α) (g : Graph) :
    (l.foldl (fun g x => g.unlink (e x).1 (e x).2) g).ids = g.ids := by
  induction l generalizing g with
  | nil => rfl
  | cons x l ih => simp [ih]

/-- Unlinking a batch of edges, the edge `e x` for each `x`, removes those edges and no other. -/
theorem edge_foldl_unlink {α : Type} (e : α → PartId × PartId) (l : List α) :
    ∀ {g : Graph}, g.Consistent → ∀ {a b : PartId},
      (l.foldl (fun g x => g.unlink (e x).1 (e x).2) g).Edge a b ↔
        g.Edge a b ∧ ∀ x ∈ l, e x ≠ (a, b) := by
  induction l with
  | nil => simp
  | cons x l ih =>
    intro g h a b
    rw [List.foldl_cons, ih (h.unlink _ _), edge_unlink h.children_nodup, List.forall_mem_cons,
      Ne, Prod.ext_iff]
    simp only [eq_comm]
    tauto

theorem ids_reorder (g : Graph) (id : PartId) (l : List PartId) :
    (g.modify id fun n => { n with children := n.children.reorder l }).ids = g.ids :=
  ids_modify _ _ fun _ => rfl

/-- The children of `id` put in the order `l`, which holds the same ids. -/
theorem Consistent.reorder {g : Graph} (h : g.Consistent) {id : PartId} {l : List PartId}
    (hl : ∀ m ∈ g.nodes, m.id = id → ∀ x, x ∈ l ↔ x ∈ m.children.toList) (hnd : l.Nodup) :
    (g.modify id fun n => { n with children := n.children.reorder l }).Consistent where
  ids_nodup := by rw [ids_reorder]; exact h.ids_nodup
  names_nodup := by
    rw [modify_nodes, List.map_map]
    convert h.names_nodup using 2
    funext n; by_cases hn : n.id = id <;> simp [hn]
  name_nonblank := by
    simp only [modify_nodes, List.mem_map]
    rintro _ ⟨n, hn, rfl⟩
    split <;> exact h.name_nonblank n hn
  children_nodup := by
    simp only [modify_nodes, List.mem_map]
    rintro _ ⟨n, hn, rfl⟩
    split
    · exact hnd
    · exact h.children_nodup n hn
  parents_nodup := by
    simp only [modify_nodes, List.mem_map]
    rintro _ ⟨n, hn, rfl⟩
    split <;> exact h.parents_nodup n hn
  children_live := by
    simp only [modify_nodes, List.mem_map, ids_reorder]
    rintro _ ⟨n, hn, rfl⟩ x hx
    split at hx
    · exact h.children_live n hn x ((hl n hn ‹_› x).1 hx)
    · exact h.children_live n hn x hx
  parents_live := by
    simp only [modify_nodes, List.mem_map, ids_reorder]
    rintro _ ⟨n, hn, rfl⟩ x hx
    split at hx <;> exact h.parents_live n hn x hx
  mirror := by
    simp only [modify_nodes, List.mem_map]
    rintro _ ⟨n, hn, rfl⟩ _ ⟨m, hm, rfl⟩
    have hnm := h.mirror n hn m hm
    by_cases hni : n.id = id
    · rw [if_pos hni]
      have hm' := hl n hn hni m.id
      split <;> simpa [IdSet.reorder, hm'] using hnm
    · rw [if_neg hni]
      split <;> simpa using hnm
  seqs_nodup := by
    rw [modify_nodes, List.map_map]
    convert h.seqs_nodup using 2
    funext n; by_cases hn : n.id = id <;> simp [hn]
  seq_le := by
    simp only [modify_nodes, List.mem_map, nextSeq_modify]
    rintro _ ⟨n, hn, rfl⟩
    split <;> exact h.seq_le n hn
  names_indexed := fun name id => by
    rw [names_modify, modify_nodes, exists_name_id_map, h.names_indexed] <;>
      exact fun n => by split <;> rfl

theorem edge_reorder {g : Graph} {id : PartId} {l : List PartId}
    (hl : ∀ m ∈ g.nodes, m.id = id → ∀ x, x ∈ l ↔ x ∈ m.children.toList) {a b : PartId} :
    (g.modify id fun n => { n with children := n.children.reorder l }).Edge a b ↔ g.Edge a b := by
  simp only [Edge, modify_nodes, List.mem_map]
  constructor
  · rintro ⟨_, ⟨n, hn, rfl⟩, rfl, hb⟩
    by_cases hni : n.id = id
    · rw [if_pos hni] at hb ⊢
      exact ⟨n, hn, rfl, (hl n hn hni b).1 hb⟩
    · rw [if_neg hni] at hb ⊢
      exact ⟨n, hn, rfl, hb⟩
  · rintro ⟨n, hn, rfl, hb⟩
    refine ⟨_, ⟨n, hn, rfl⟩, ?_, ?_⟩
    · split <;> rfl
    · split
      · exact (hl n hn ‹_› b).2 hb
      · exact hb

theorem erase_nodes (g : Graph) (id : PartId) (name : String) :
    (g.erase id name).nodes = g.nodes.filter (·.id != id) := rfl

theorem erase_names (g : Graph) (id : PartId) (name : String) :
    (g.erase id name).names = g.names.erase name := rfl

theorem delete_eq_ok {g : Graph} {id : PartId} {g' : Graph} :
    g.delete id = .ok g' ↔ ∃ n, g.find? id = some n ∧ g' = g.erase id n.name := by
  unfold delete
  cases hl : g.lookup id with
  | error f =>
    simp only [bind, Except.bind, reduceCtorEq, false_iff, not_exists, not_and]
    exact fun n hn => absurd (mem_ids.2 ⟨n, (find?_eq_some hn).1, (find?_eq_some hn).2⟩)
      (lookup_eq_error hl)
  | ok n =>
    rw [lookup_eq_ok] at hl
    simp only [bind, Except.bind, pure, Except.pure, Except.ok.injEq]
    constructor
    · intro e
      exact ⟨n, hl, e.symm⟩
    · rintro ⟨m, hm, rfl⟩
      rw [hl] at hm
      cases hm
      rfl

theorem Consistent.erase {g : Graph} (h : g.Consistent) {n₀ : Node} (hn₀ : n₀ ∈ g.nodes)
    (hiso : n₀.children.toList = [] ∧ n₀.parents.toList = []) :
    (g.erase n₀.id n₀.name).Consistent := by
  have hiso : ∀ m ∈ g.nodes, m.id = n₀.id → m.children.toList = [] ∧ m.parents.toList = [] :=
    fun m hm hid => eq_of_id_eq h.ids_nodup hm hn₀ hid ▸ hiso
  have hsub : (g.nodes.filter (·.id != n₀.id)).Sublist g.nodes := List.filter_sublist
  have hnot : ∀ n ∈ g.nodes, ∀ x, x ∈ n.children.toList ∨ x ∈ n.parents.toList → x ≠ n₀.id := by
    rintro n hn x hx rfl
    obtain ⟨m, hm, hmid⟩ := mem_ids.1 (hx.elim (h.children_live n hn _) (h.parents_live n hn _))
    have hmn := h.mirror n hn m hm
    have hnm := h.mirror m hm n hn
    rcases hx with hx | hx
    · rw [← hmid] at hx
      simp [(hiso m hm hmid).2] at hmn
      exact hmn hx
    · rw [← hmid] at hx
      simp [(hiso m hm hmid).1] at hnm
      exact hnm hx
  have hlive : ∀ n ∈ g.nodes, ∀ x, x ∈ n.children.toList ∨ x ∈ n.parents.toList →
      x ∈ g.ids → x ∈ (g.nodes.filter (·.id != n₀.id)).map (·.id) := by
    intro n hn x hx hxl
    obtain ⟨m, hm, rfl⟩ := mem_ids.1 hxl
    exact List.mem_map.2 ⟨m, List.mem_filter.2 ⟨hm, by simpa using hnot n hn _ hx⟩, rfl⟩
  refine ⟨h.ids_nodup.sublist (hsub.map _), h.names_nodup.sublist (hsub.map _),
    fun n hn => h.name_nonblank n (hsub.subset hn), fun n hn => h.children_nodup n (hsub.subset hn),
    fun n hn => h.parents_nodup n (hsub.subset hn), ?_, ?_,
    fun n hn m hm => h.mirror n (hsub.subset hn) m (hsub.subset hm),
    h.seqs_nodup.sublist (hsub.map _), fun n hn => h.seq_le n (hsub.subset hn), ?_⟩
  · intro n hn c hc
    exact hlive n (hsub.subset hn) c (Or.inl hc) (h.children_live n (hsub.subset hn) c hc)
  · intro n hn p hp
    exact hlive n (hsub.subset hn) p (Or.inr hp) (h.parents_live n (hsub.subset hn) p hp)
  · -- the name of `n₀` leaves the index with it; the other names stay and find the same parts
    intro name id
    rw [erase_names, erase_nodes]
    by_cases he : name = n₀.name
    · subst he
      rw [KeyMap.lookup_erase]
      refine iff_of_false (by simp) ?_
      rintro ⟨m, hm, hname, -⟩
      have hm' := List.mem_filter.1 hm
      exact absurd (eq_of_name_eq h.names_nodup hm'.1 hn₀ hname) fun e => by simp [e] at hm'
    · rw [KeyMap.lookup_erase_ne _ he, h.names_indexed]
      constructor
      · rintro ⟨m, hm, hname, rfl⟩
        refine ⟨m, List.mem_filter.2 ⟨hm, ?_⟩, hname, rfl⟩
        simpa using fun e => he (hname ▸ congrArg Node.name (eq_of_id_eq h.ids_nodup hm hn₀ e))
      · rintro ⟨m, hm, hname, rfl⟩
        exact ⟨m, (List.mem_filter.1 hm).1, hname, rfl⟩

theorem edge_erase {g : Graph} {id : PartId} {name : String}
    (hiso : ∀ m ∈ g.nodes, m.id = id → m.children.toList = [] ∧ m.parents.toList = [])
    {a b : PartId} : (g.erase id name).Edge a b ↔ g.Edge a b := by
  simp only [Edge, erase_nodes, List.mem_filter]
  constructor
  · rintro ⟨n, ⟨hn, -⟩, hid, hb⟩
    exact ⟨n, hn, hid, hb⟩
  · rintro ⟨n, hn, hid, hb⟩
    refine ⟨n, ⟨hn, ?_⟩, hid, hb⟩
    by_cases hni : n.id = id
    · simp [(hiso n hn hni).1] at hb
    · simpa using hni

/-! ## Changes that keep a graph well formed -/

namespace WellFormed

variable {g : Graph} (h : g.WellFormed)
include h

theorem insert {id : PartId} {name : String} (hid : id ∉ g.ids) (hname : ∀ n ∈ g.nodes, n.name ≠ name)
    (hblank : Text.isBlank name = false) : (g.insert id name).WellFormed :=
  ⟨h.toConsistent.insert hid hname hblank, h.acyclic.mono fun _ _ => edge_insert.1⟩

theorem link {p c : PartId} (hp : p ∈ g.ids) (hc : c ∈ g.ids)
    (hcp : ¬ Relation.ReflTransGen g.Edge c p) : (g.link p c).WellFormed :=
  ⟨h.toConsistent.link hp hc, acyclic_link hp h.acyclic hcp⟩

theorem unlink (p c : PartId) : (g.unlink p c).WellFormed :=
  ⟨h.toConsistent.unlink p c,
    h.acyclic.mono fun _ _ he => ((edge_unlink h.children_nodup).1 he).1⟩

theorem reorder {id : PartId} {l : List PartId}
    (hl : ∀ m ∈ g.nodes, m.id = id → ∀ x, x ∈ l ↔ x ∈ m.children.toList) (hnd : l.Nodup) :
    (g.modify id fun n => { n with children := n.children.reorder l }).WellFormed :=
  ⟨h.toConsistent.reorder hl hnd, h.acyclic.mono fun _ _ => (edge_reorder hl).1⟩

theorem erase {n : Node} (hn : n ∈ g.nodes)
    (hiso : n.children.toList = [] ∧ n.parents.toList = []) :
    (g.erase n.id n.name).WellFormed :=
  ⟨h.toConsistent.erase hn hiso, h.acyclic.mono fun _ _ => (edge_erase fun _ hm hid =>
    eq_of_id_eq h.ids_nodup hm hn hid ▸ hiso).1⟩

theorem not_mem_children_self {n : Node} (hn : n ∈ g.nodes) : n.id ∉ n.children.toList :=
  fun hc => h.acyclic.not_edge_self n.id ⟨n, hn, rfl, hc⟩

end WellFormed

end Graph

end BillOfMaterials
