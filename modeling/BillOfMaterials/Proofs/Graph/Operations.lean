import BillOfMaterials.Proofs.Graph.Check
import BillOfMaterials.Proofs.Graph.Search
import BillOfMaterials.Proofs.Graph.IndexedSet

/-!
# The operations keep a graph well formed

Creating a part, changing the children of a part and deleting a part with its edges take a
well-formed graph to a well-formed graph. On a consistent graph they fail only for a reason a
caller can see: a blank or taken name, an id that is not live, a part listed as its own child,
a cycle, an unknown action. The faults for broken references that the operations carry
(`Fault.internal`) are never raised there.

* `create_eq_ok`, `updateChildren_eq_ok`, `deleteCascade_eq_ok` : what a successful call did;
* `WellFormed.create`, `WellFormed.updateChildren`, `WellFormed.deleteCascade` : the invariant;
* `create_error`, `Consistent.updateChildren_error`, `Consistent.deleteCascade_error` : the
  faults;
* `map_updateChildren`, `map_deleteCascade` : changing edges keeps whatever is read off the
  records besides their edges, record by record, and a delete drops one record;
* `Consistent.replace_children` : after the unlinks and links of a replace the part's children
  are the requested ids, so the reorder that ends it is an allowed call on the children kept
  with an index (`Consistent.replace_reorder_allowed`, `WellFormed.updateChildren_reorder_allowed`);
* `delete_foldl_unlink` : the record delete that ends a cascade finds its part.
-/

namespace BillOfMaterials

namespace Graph

/-! ## Creating a part -/

theorem drawFresh_go_eq_some {g : Graph} {fuel : Nat} {s s' : IdStream} {id : PartId}
    (h : drawFresh.go g fuel s = some (id, s')) : id ≠ PartId.nil ∧ id ∉ g.ids := by
  fun_induction drawFresh.go g fuel s with
  | case1 => cases h
  | case2 _ _ _ _ _ _ ih => exact ih h
  | case3 _ _ id0 _ _ hfresh =>
    obtain ⟨rfl, -⟩ := Prod.mk.inj (Option.some.inj h)
    simpa using hfresh

theorem drawFresh_eq_some {g : Graph} {s s' : IdStream} {id : PartId}
    (h : g.drawFresh s = some (id, s')) : id ≠ PartId.nil ∧ id ∉ g.ids :=
  drawFresh_go_eq_some h

theorem create_eq_ok {g g' : Graph} {s s' : IdStream} {name : String} {id : PartId} :
    g.create s name = .ok (id, g', s') ↔
      Text.isBlank name = false ∧ g.names.lookup name = none ∧ g.drawFresh s = some (id, s') ∧
        g' = g.insert id name := by
  unfold create
  cases hb : Text.isBlank name
  · cases hn : g.names.lookup name
    · cases hd : g.drawFresh s with
      | none => simp
      | some r => 
        obtain ⟨id0, s0⟩ := r
        simp only [Bool.false_eq_true, if_false, Except.ok.injEq, Prod.mk.injEq,
          Option.some.injEq, true_and]
        constructor
        · rintro ⟨rfl, rfl, rfl⟩
          exact ⟨⟨rfl, rfl⟩, rfl⟩
        · rintro ⟨⟨rfl, rfl⟩, rfl⟩
          exact ⟨rfl, rfl, rfl⟩
    · simp
  · simp

/-- Creating fails only on a blank or taken name, or when the stream has no free id left. -/
theorem create_error {g : Graph} {s : IdStream} {name : String} {f : Fault}
    (h : g.create s name = .error f) : f.isKind .internal = false := by
  unfold create at h
  split at h
  · cases h; rfl
  · split at h
    · cases h; rfl
    · split at h
      · cases h
      · cases h; rfl

theorem create_ids {g g' : Graph} {s s' : IdStream} {name : String} {id : PartId}
    (hc : g.create s name = .ok (id, g', s')) : g'.ids = g.ids ++ [id] := by
  obtain ⟨-, -, -, rfl⟩ := create_eq_ok.1 hc
  simp [ids, insert_nodes]

theorem WellFormed.create {g g' : Graph} (h : g.WellFormed) {s s' : IdStream} {name : String}
    {id : PartId} (hc : g.create s name = .ok (id, g', s')) : g'.WellFormed := by
  obtain ⟨hblank, hname, hdraw, rfl⟩ := create_eq_ok.1 hc
  exact h.insert (drawFresh_eq_some hdraw).2 (h.lookup_names_eq_none.1 hname) hblank

/-! ## Changing the children of a part -/

theorem checkLive_eq_ok {g : Graph} {what : String} {ids : List PartId}
    (h : ∀ x ∈ ids, x ∈ g.ids) : g.checkLive what ids = .ok () := by
  refine forM_eq_ok.2 fun x hx => ?_
  obtain ⟨n, hn⟩ := lookup_of_mem (h x hx)
  simp only [hn]

theorem live_of_forM_lookup {g : Graph} {l : List PartId}
    (h : l.forM (fun c => do let _ ← g.lookup c) = .ok ()) : ∀ c ∈ l, c ∈ g.ids := by
  intro c hc
  have hc := forM_eq_ok.1 h c hc
  rw [bind_eq_ok] at hc
  obtain ⟨n, hn, -⟩ := hc
  exact mem_ids_of_lookup hn

/-- What a successful change of children did: the part and every requested child are live, the
part is not among its requested children, and the graph is the one the action builds from the
requested ids without repeats. -/
theorem updateChildren_eq_ok {g g' : Graph} {id : PartId} {action : Action}
    {childIds : List PartId} (hu : g.updateChildren id action childIds = .ok g') :
    ∃ parent, g.find? id = some parent ∧ (∀ c ∈ childIds, c ∈ g.ids) ∧ id ∉ childIds ∧
      let requested := dedupe childIds
      let additions := requested.filter fun c => !parent.children.has c
      (action = .add ∧ g.validateAdditions id additions = .ok () ∧
          g' = additions.foldl (fun g c => g.link id c) g) ∨
      (action = .remove ∧
          g' = requested.foldl (fun g c => if parent.children.has c then g.unlink id c else g) g) ∨
      (action = .replace ∧ g.validateAdditions id additions = .ok () ∧
          g' = (additions.foldl (fun g c => g.link id c)
            ((parent.children.toList.filter fun c => !requested.contains c).foldl
              (fun g c => g.unlink id c) g)).modify id
            fun n => { n with children := n.children.reorder requested }) := by
  unfold updateChildren at hu
  simp only [bind_eq_ok] at hu
  obtain ⟨parent, hparent, ⟨⟩, hforM, hu⟩ := hu
  have hlive : ∀ c ∈ childIds, c ∈ g.ids := fun c hc =>
    live_of_forM_lookup hforM c (mem_dedupe.2 hc)
  split at hu
  · simp [throw, throwThe, MonadExceptOf.throw] at hu
  · rename_i hself
    refine ⟨parent, lookup_eq_ok.1 hparent, hlive, fun h => hself (by simpa using h), ?_⟩
    cases action with
    | add =>
      simp only [bind_eq_ok] at hu
      obtain ⟨⟨⟩, hv, hu⟩ := hu
      exact .inl ⟨rfl, hv, (Except.ok.inj hu).symm⟩
    | remove => exact .inr (.inl ⟨rfl, (Except.ok.inj hu).symm⟩)
    | replace =>
      simp only [bind_eq_ok] at hu
      obtain ⟨⟨⟩, -, ⟨⟩, hv, hu⟩ := hu
      exact .inr (.inr ⟨rfl, hv, (Except.ok.inj hu).symm⟩)
    | unknown s => cases hu

/-- After the unlinks and links of a replace, the children of the part are exactly the requested
ids. -/
theorem Consistent.replace_children {g : Graph} (h : g.Consistent) {parent : Node}
    (hparent : parent ∈ g.nodes) {requested : List PartId} (hlive : ∀ c ∈ requested, c ∈ g.ids)
    {m : Node} (hm : m ∈ ((requested.filter fun c => !parent.children.has c).foldl
      (fun g c => g.link parent.id c)
      ((parent.children.toList.filter fun c => !requested.contains c).foldl
        (fun g c => g.unlink parent.id c) g)).nodes) (hid : m.id = parent.id) (x : PartId) :
    x ∈ m.children.toList ↔ x ∈ requested := by
  set additions := requested.filter fun c => !parent.children.has c
  set removals := parent.children.toList.filter fun c => !requested.contains c
  have hc1 : (removals.foldl (fun g c => g.unlink parent.id c) g).Consistent :=
    List.foldlRecOn _ _ h fun g hg c _ => hg.unlink _ _
  have hids1 := ids_foldl_unlink (fun c => (parent.id, c)) removals g
  have hp1 : parent.id ∈ (removals.foldl (fun g c => g.unlink parent.id c) g).ids :=
    hids1 ▸ mem_ids.2 ⟨parent, hparent, rfl⟩
  have hc2 : (additions.foldl (fun g c => g.link parent.id c)
      (removals.foldl (fun g c => g.unlink parent.id c) g)).Consistent :=
    hc1.foldl_link hp1 fun c hc => hids1 ▸ hlive c (List.mem_filter.1 hc).1
  rw [← hc2.edge_iff_mem_children hm, hid, edge_foldl_link additions hp1,
    edge_foldl_unlink (fun c => (parent.id, c)) removals h, h.edge_iff_mem_children hparent]
  simp only [additions, removals, List.mem_filter, IdSet.has, Bool.not_eq_true', Ne,
    Prod.mk.injEq, true_and]
  constructor
  · rintro (⟨hc, hkeep⟩ | ⟨hx, -⟩)
    · by_contra hx
      exact hkeep x ⟨hc, by simpa using hx⟩ rfl
    · exact hx
  · intro hx
    by_cases hc : x ∈ parent.children.toList
    · refine .inl ⟨hc, fun c hcr e => ?_⟩
      subst e
      simp [hx] at hcr
    · exact .inr ⟨hx, by simpa using hc⟩

/-- Swapping the children of a part for a list of live parts: the children not kept are
unlinked, the new ones linked, and the list then gives the order. When the new edges close no
cycle, the graph stays well formed. -/
theorem WellFormed.replace {g : Graph} (h : g.WellFormed) {parent : Node}
    (hparent : parent ∈ g.nodes) {requested : List PartId} (hnd : requested.Nodup)
    (hlive : ∀ c ∈ requested, c ∈ g.ids)
    (hacyc : ((requested.filter fun c => !parent.children.has c).foldl
      (fun g c => g.link parent.id c) g).Acyclic) :
    (((requested.filter fun c => !parent.children.has c).foldl (fun g c => g.link parent.id c)
      ((parent.children.toList.filter fun c => !requested.contains c).foldl
        (fun g c => g.unlink parent.id c) g)).modify parent.id
        fun n => { n with children := n.children.reorder requested }).WellFormed := by
  set additions := requested.filter fun c => !parent.children.has c
  set removals := parent.children.toList.filter fun c => !requested.contains c
  have hp : parent.id ∈ g.ids := mem_ids.2 ⟨parent, hparent, rfl⟩
  have h1 : (removals.foldl (fun g c => g.unlink parent.id c) g).WellFormed :=
    List.foldlRecOn _ _ h fun g hg c _ => hg.unlink _ _
  set g1 := removals.foldl (fun g c => g.unlink parent.id c) g
  have hedge1 : ∀ {a b}, g1.Edge a b ↔ g.Edge a b ∧ ∀ c ∈ removals, (parent.id, c) ≠ (a, b) :=
    edge_foldl_unlink (fun c => (parent.id, c)) removals h.toConsistent
  have hids1 : g1.ids = g.ids := ids_foldl_unlink (fun c => (parent.id, c)) removals g
  have hp1 : parent.id ∈ g1.ids := hids1 ▸ hp
  have hc2 : (additions.foldl (fun g c => g.link parent.id c) g1).Consistent :=
    h1.toConsistent.foldl_link hp1 fun c hc => hids1 ▸ hlive c (List.mem_filter.1 hc).1
  have hedge2 : ∀ {a b}, (additions.foldl (fun g c => g.link parent.id c) g1).Edge a b ↔
      g1.Edge a b ∨ a = parent.id ∧ b ∈ additions :=
    edge_foldl_link additions hp1
  have hacyc2 : (additions.foldl (fun g c => g.link parent.id c) g1).Acyclic :=
    hacyc.mono fun a b he => by
      rw [edge_foldl_link additions hp]
      rw [hedge2, hedge1] at he
      tauto
  exact WellFormed.reorder ⟨hc2, hacyc2⟩
    (fun m hm hid x => (h.toConsistent.replace_children hparent hlive hm hid x).symm) hnd

/-- The reorder that ends a replace is an allowed call on the part's children kept with an
index: it names exactly the children the part has by then, each once, so the indexed set stays
well formed through it. -/
theorem Consistent.replace_reorder_allowed {g : Graph} (h : g.Consistent) {parent : Node}
    (hparent : parent ∈ g.nodes) {requested : List PartId} (hnd : requested.Nodup)
    (hlive : ∀ c ∈ requested, c ∈ g.ids)
    {m : Node} (hm : m ∈ ((requested.filter fun c => !parent.children.has c).foldl
      (fun g c => g.link parent.id c)
      ((parent.children.toList.filter fun c => !requested.contains c).foldl
        (fun g c => g.unlink parent.id c) g)).nodes) (hid : m.id = parent.id) :
    (IdSet.Indexed.ofIdSet m.children).Allowed (.reorder requested) ∧
      ((IdSet.Indexed.ofIdSet m.children).reorder requested).WellFormed := by
  have hallowed : (IdSet.Indexed.ofIdSet m.children).Allowed (.reorder requested) :=
    IdSet.Indexed.allowed_reorder_ofIdSet.2
      ⟨hnd, fun x => (h.replace_children hparent hlive hm hid x).symm⟩
  exact ⟨hallowed, IdSet.Indexed.WellFormed.reorder hallowed⟩

theorem WellFormed.updateChildren {g g' : Graph} (h : g.WellFormed) {id : PartId}
    {action : Action} {childIds : List PartId} (hu : g.updateChildren id action childIds = .ok g') :
    g'.WellFormed := by
  obtain ⟨parent, hfind, hlive, -, hcases⟩ := updateChildren_eq_ok hu
  obtain ⟨hparent, rfl⟩ := find?_eq_some hfind
  have hp : parent.id ∈ g.ids := mem_ids.2 ⟨parent, hparent, rfl⟩
  have hreq : ∀ c ∈ dedupe childIds, c ∈ g.ids := fun c hc => hlive c (mem_dedupe.1 hc)
  rcases hcases with ⟨-, hv, rfl⟩ | ⟨-, rfl⟩ | ⟨-, hv, rfl⟩
  · exact ⟨h.toConsistent.foldl_link hp fun c hc => hreq c (List.mem_filter.1 hc).1,
      validateAdditions_acyclic h hp hv⟩
  · refine List.foldlRecOn _ _ h fun g hg c _ => ?_
    split
    · exact hg.unlink _ _
    · exact hg
  · exact h.replace hparent (nodup_dedupe childIds) hreq (validateAdditions_acyclic h hp hv)

/-- A replace on a well-formed graph reorders the part's children once they are exactly the
requested ids: kept with an index, the children take the reorder as an allowed call. -/
theorem WellFormed.updateChildren_reorder_allowed {g g' : Graph} (h : g.WellFormed) {id : PartId}
    {childIds : List PartId} (hu : g.updateChildren id .replace childIds = .ok g') :
    ∃ g1 : Graph,
      g' = g1.modify id (fun n => { n with children := n.children.reorder (dedupe childIds) }) ∧
      ∀ m ∈ g1.nodes, m.id = id →
        (IdSet.Indexed.ofIdSet m.children).Allowed (.reorder (dedupe childIds)) ∧
          ((IdSet.Indexed.ofIdSet m.children).reorder (dedupe childIds)).WellFormed := by
  obtain ⟨parent, hfind, hlive, -, hcases⟩ := updateChildren_eq_ok hu
  obtain ⟨hparent, rfl⟩ := find?_eq_some hfind
  have hreq : ∀ c ∈ dedupe childIds, c ∈ g.ids := fun c hc => hlive c (mem_dedupe.1 hc)
  rcases hcases with ⟨hact, -⟩ | ⟨hact, -⟩ | ⟨-, -, rfl⟩
  · cases hact
  · cases hact
  · exact ⟨_, rfl, fun m hm hid =>
      h.toConsistent.replace_reorder_allowed hparent (nodup_dedupe _) hreq hm hid⟩

/-- On a consistent graph, changing children fails only for a reason the caller gave: a part
that is not live, a part listed as its own child, a cycle, or an unknown action. -/
theorem Consistent.updateChildren_error {g : Graph} (h : g.Consistent) {id : PartId}
    {action : Action} {childIds : List PartId} {f : Fault}
    (hu : g.updateChildren id action childIds = .error f) : f.isKind .internal = false := by
  unfold updateChildren at hu
  rw [bind_eq_error] at hu
  rcases hu with hu | ⟨parent, hparent, hu⟩
  · rw [lookup_error_eq hu]; rfl
  rw [bind_eq_error] at hu
  rcases hu with hu | ⟨⟨⟩, hforM, hu⟩
  · obtain ⟨c, -, hc⟩ := forM_eq_error hu
    rw [bind_eq_error] at hc
    rcases hc with hc | ⟨_, -, hc⟩
    · rw [lookup_error_eq hc]; rfl
    · cases hc
  have hadd : ∀ c ∈ (dedupe childIds).filter (fun c => !parent.children.has c), c ∈ g.ids :=
    fun c hc => live_of_forM_lookup hforM c (List.mem_filter.1 hc).1
  obtain ⟨hpn, rfl⟩ := find?_eq_some (lookup_eq_ok.1 hparent)
  dsimp only at hu
  split at hu
  · cases hu; rfl
  cases action with
  | add =>
    rw [bind_eq_error] at hu
    rcases hu with hv | ⟨_, -, hu⟩
    · obtain ⟨c, rfl⟩ := validateAdditions_error h hadd hv
      rfl
    · cases hu
  | remove => cases hu
  | replace =>
    rw [bind_eq_error, checkLive_eq_ok fun c hc =>
      h.children_live parent hpn c (List.mem_filter.1 hc).1] at hu
    rcases hu with hu | ⟨_, -, hu⟩
    · cases hu
    rw [bind_eq_error] at hu
    rcases hu with hv | ⟨_, -, hu⟩
    · obtain ⟨c, rfl⟩ := validateAdditions_error h hadd hv
      rfl
    · cases hu
  | unknown s => cases hu; rfl

/-! ## Deleting a part with its edges -/

/-- What a successful delete did: unlink the part from its parents, then from its children, then
remove its record. -/
theorem deleteCascade_eq_ok {g g' : Graph} {id : PartId} (hd : g.deleteCascade id = .ok g') :
    ∃ n, g.find? id = some n ∧
      (n.children.toList.foldl (fun g c => g.unlink id c)
        (n.parents.toList.foldl (fun g p => g.unlink p id) g)).delete id = .ok g' := by
  unfold deleteCascade at hd
  simp only [bind_eq_ok] at hd
  obtain ⟨n, hn, ⟨⟩, -, ⟨⟩, -, hd⟩ := hd
  exact ⟨n, lookup_eq_ok.1 hn, hd⟩

theorem WellFormed.deleteCascade {g g' : Graph} (h : g.WellFormed) {id : PartId}
    (hd : g.deleteCascade id = .ok g') : g'.WellFormed := by
  obtain ⟨n, hfind, hdel⟩ := deleteCascade_eq_ok hd
  obtain ⟨hn, rfl⟩ := find?_eq_some hfind
  set g1 := n.parents.toList.foldl (fun g p => g.unlink p n.id) g
  set g2 := n.children.toList.foldl (fun g c => g.unlink n.id c) g1
  have h1 : g1.WellFormed := List.foldlRecOn _ _ h fun g hg p _ => hg.unlink _ _
  have h2 : g2.WellFormed := List.foldlRecOn _ _ h1 fun g hg c _ => hg.unlink _ _
  have hedge1 : ∀ {a b}, g1.Edge a b ↔ g.Edge a b ∧ ∀ p ∈ n.parents.toList, (p, n.id) ≠ (a, b) :=
    edge_foldl_unlink (fun p => (p, n.id)) _ h.toConsistent
  have hedge2 : ∀ {a b}, g2.Edge a b ↔ g1.Edge a b ∧ ∀ c ∈ n.children.toList, (n.id, c) ≠ (a, b) :=
    edge_foldl_unlink (fun c => (n.id, c)) _ h1.toConsistent
  have hiso : ∀ m ∈ g2.nodes, m.id = n.id → m.children.toList = [] ∧ m.parents.toList = [] := by
    intro m hm hid
    constructor
    · refine List.eq_nil_iff_forall_not_mem.2 fun c hc => ?_
      have he := (h2.edge_iff_mem_children hm).2 hc
      rw [hid, hedge2, hedge1] at he
      exact he.2 c ((h.edge_iff_mem_children hn).1 he.1.1) rfl
    · refine List.eq_nil_iff_forall_not_mem.2 fun p hp => ?_
      have he := (h2.edge_iff_mem_parents hm).2 hp
      rw [hid, hedge2, hedge1] at he
      exact he.1.2 p ((h.edge_iff_mem_parents hn).1 he.1.1) rfl
  obtain ⟨m, hm, rfl⟩ := delete_eq_ok.1 hdel
  obtain ⟨hm, hid⟩ := find?_eq_some hm
  rw [← hid]
  exact h2.erase hm (hiso m hm hid)

/-! ## What changing edges keeps -/

section Keys

-- `k` reads a record without its edges: its id, its name, its sequence number
variable {α : Type} {k : Node → α}
  (hk : ∀ (n : Node) (ch pa : IdSet), k { n with children := ch, parents := pa } = k n)
include hk

theorem map_link (g : Graph) (p c : PartId) : (g.link p c).nodes.map k = g.nodes.map k := by
  rw [link_nodes, List.map_map]
  exact List.map_congr_left fun n _ => hk n _ _

theorem map_unlink (g : Graph) (p c : PartId) : (g.unlink p c).nodes.map k = g.nodes.map k := by
  rw [unlink_nodes, List.map_map]
  exact List.map_congr_left fun n _ => hk n _ _

theorem map_reorder (g : Graph) (id : PartId) (l : List PartId) :
    (g.modify id fun n => { n with children := n.children.reorder l }).nodes.map k =
      g.nodes.map k := by
  rw [modify_nodes, List.map_map]
  refine List.map_congr_left fun n _ => ?_
  by_cases h : n.id = id
  · simpa [h] using hk n (n.children.reorder l) n.parents
  · simp [h]

theorem map_foldl_link (p : PartId) (cs : List PartId) (g : Graph) :
    (cs.foldl (fun g c => g.link p c) g).nodes.map k = g.nodes.map k := by
  induction cs generalizing g with
  | nil => rfl
  | cons c cs ih => rw [List.foldl_cons, ih, map_link hk]

theorem map_foldl_unlink {β : Type} (e : β → PartId × PartId) (l : List β) (g : Graph) :
    (l.foldl (fun g x => g.unlink (e x).1 (e x).2) g).nodes.map k = g.nodes.map k := by
  induction l generalizing g with
  | nil => rfl
  | cons x l ih => rw [List.foldl_cons, ih, map_unlink hk]

/-- Changing children keeps every record but its edges, in order. -/
theorem map_updateChildren {g g' : Graph} {id : PartId} {action : Action}
    {childIds : List PartId} (hu : g.updateChildren id action childIds = .ok g') :
    g'.nodes.map k = g.nodes.map k := by
  obtain ⟨parent, -, -, -, hcases⟩ := updateChildren_eq_ok hu
  rcases hcases with ⟨-, -, rfl⟩ | ⟨-, rfl⟩ | ⟨-, -, rfl⟩
  · exact map_foldl_link hk _ _ _
  · refine List.foldlRecOn (motive := fun g' : Graph => g'.nodes.map k = g.nodes.map k) _ _ rfl
      fun g' hg c _ => ?_
    split
    · rw [map_unlink hk, hg]
    · exact hg
  · rw [map_reorder hk, map_foldl_link hk, map_foldl_unlink hk (fun c => (id, c))]

/-- Deleting a part with its edges drops its record and keeps every other record but its edges,
in order. -/
theorem map_deleteCascade {g g' : Graph} {id : PartId} (hd : g.deleteCascade id = .ok g') :
    g'.nodes.map k = (g.nodes.filter (·.id != id)).map k := by
  obtain ⟨n, -, hdel⟩ := deleteCascade_eq_ok hd
  obtain ⟨-, -, rfl⟩ := delete_eq_ok.1 hdel
  rw [erase_nodes]
  have hpair : ∀ (n : Node) (ch pa : IdSet),
      (fun n : Node => (n.id, k n)) { n with children := ch, parents := pa } = (n.id, k n) :=
    fun n ch pa => by simp only [hk]
  have hkeep := (map_foldl_unlink (k := fun n : Node => (n.id, k n)) hpair (fun c => (id, c))
    n.children.toList _).trans (map_foldl_unlink (k := fun n : Node => (n.id, k n)) hpair
      (fun p => (p, id)) n.parents.toList g)
  have hfilter : ∀ l : List Node, (l.filter (·.id != id)).map k =
      ((l.map fun n => (n.id, k n)).filter (·.1 != id)).map Prod.snd := by
    intro l
    rw [List.filter_map, List.map_map]
    rfl
  rw [hfilter, hkeep, ← hfilter]

end Keys

theorem updateChildren_ids {g g' : Graph} {id : PartId} {action : Action}
    {childIds : List PartId} (hu : g.updateChildren id action childIds = .ok g') :
    g'.ids = g.ids :=
  map_updateChildren (fun _ _ _ => rfl) hu

theorem deleteCascade_ids {g g' : Graph} {id : PartId} (hd : g.deleteCascade id = .ok g') :
    g'.ids = g.ids.filter (· != id) := by
  simp only [ids, List.filter_map]
  exact map_deleteCascade (fun _ _ _ => rfl) hd

/-- Unlinking keeps every part live, so the record delete that ends a cascade finds its part. -/
theorem delete_foldl_unlink {g : Graph} {id : PartId} (hid : id ∈ g.ids) (n : Node) :
    ∃ g', (n.children.toList.foldl (fun g c => g.unlink id c)
      (n.parents.toList.foldl (fun g p => g.unlink p id) g)).delete id = .ok g' := by
  have hids : (n.children.toList.foldl (fun g c => g.unlink id c)
      (n.parents.toList.foldl (fun g p => g.unlink p id) g)).ids = g.ids := by
    rw [ids_foldl_unlink (fun c => (id, c)), ids_foldl_unlink (fun p => (p, id))]
  obtain ⟨m, hm⟩ := lookup_of_mem (hids ▸ hid)
  exact ⟨_, delete_eq_ok.2 ⟨m, lookup_eq_ok.1 hm, rfl⟩⟩

/-- On a consistent graph, deleting with every edge fails only when the part is not live. -/
theorem Consistent.deleteCascade_error {g : Graph} (h : g.Consistent) {id : PartId} {f : Fault}
    (hd : g.deleteCascade id = .error f) : f = .notFound id.toString := by
  unfold deleteCascade at hd
  rw [bind_eq_error] at hd
  rcases hd with hd | ⟨n, hlookup, hd⟩
  · exact lookup_error_eq hd
  obtain ⟨hn, rfl⟩ := find?_eq_some (lookup_eq_ok.1 hlookup)
  rw [bind_eq_error, checkLive_eq_ok (h.parents_live n hn)] at hd
  rcases hd with hd | ⟨_, -, hd⟩
  · cases hd
  rw [bind_eq_error, checkLive_eq_ok (h.children_live n hn)] at hd
  rcases hd with hd | ⟨_, -, hd⟩
  · cases hd
  obtain ⟨g', hdel⟩ := delete_foldl_unlink (mem_ids_of_lookup hlookup) n
  rw [hdel] at hd
  cases hd

end Graph

end BillOfMaterials
