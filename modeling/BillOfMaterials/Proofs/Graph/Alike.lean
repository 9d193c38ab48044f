import BillOfMaterials.Proofs.Graph.Closure
import BillOfMaterials.Graph.Filter

/-!
# Graphs alike up to the order of parents

Two graphs are *alike* when their records correspond one to one, in the same order, with the
same id, name and children list and the same parents in some order; sequence numbers may
differ. Nothing a graph answers reads a sequence number, and only an answer that copies a
parents list, or walks over parents lists, sees their order.

* `Node.Alike`, `Part.Alike`, `Graph.Alike`;
* reads on alike graphs: the same ids and snapshot, records found by id or name alike
  (`Alike.find?`, `Alike.lookup`), the same edges and the same cycle checks
  (`Alike.reachesFrom`, `Alike.validateAdditions`), the same descendants in the same order, and
  the same ancestors in some order (`Alike.descendants`, `Alike.contained`);
* changes keep graphs alike: `insert`, `link`, `unlink`, `modify`, removal of a record, and the
  operations built from them (`Alike.create`, `Alike.updateChildren`,
  `Alike.deleteCascade`).
-/

namespace BillOfMaterials

/-- Two records alike: the same id, name and children, the same parents in some order. -/
structure Node.Alike (n m : Node) : Prop where
  id_eq : n.id = m.id
  name_eq : n.name = m.name
  children_eq : n.children = m.children
  parents_perm : n.parents.toList.Perm m.parents.toList

/-- Two copies of parts alike: the same id, name and children, the same parents in some
order. -/
structure Part.Alike (p q : Part) : Prop where
  id_eq : p.id = q.id
  name_eq : p.name = q.name
  children_eq : p.children = q.children
  parents_perm : p.parents.Perm q.parents

namespace Node.Alike

theorem refl (n : Node) : n.Alike n := ⟨rfl, rfl, rfl, .refl _⟩

theorem symm {n m : Node} (h : n.Alike m) : m.Alike n :=
  ⟨h.id_eq.symm, h.name_eq.symm, h.children_eq.symm, h.parents_perm.symm⟩

theorem trans {n m k : Node} (h : n.Alike m) (h' : m.Alike k) : n.Alike k :=
  ⟨h.id_eq.trans h'.id_eq, h.name_eq.trans h'.name_eq, h.children_eq.trans h'.children_eq,
    h.parents_perm.trans h'.parents_perm⟩

theorem view {n m : Node} (h : n.Alike m) : n.view.Alike m.view :=
  ⟨h.id_eq, h.name_eq, congrArg IdSet.toList h.children_eq, h.parents_perm⟩

theorem parents_size {n m : Node} (h : n.Alike m) : n.parents.size = m.parents.size :=
  h.parents_perm.length_eq

theorem children_size {n m : Node} (h : n.Alike m) : n.children.size = m.children.size := by
  rw [h.children_eq]

theorem edges {n m : Node} (h : n.Alike m) (p c : PartId) (F H : IdSet → IdSet)
    (hH : ∀ s t : IdSet, s.toList.Perm t.toList → (H s).toList.Perm (H t).toList) :
    Node.Alike { n with children := if n.id = p then F n.children else n.children
                        parents := if n.id = c then H n.parents else n.parents }
      { m with children := if m.id = p then F m.children else m.children
               parents := if m.id = c then H m.parents else m.parents } := by
  refine ⟨h.id_eq, h.name_eq, by rw [h.id_eq, h.children_eq], ?_⟩
  dsimp only
  rw [h.id_eq]
  split
  · exact hH _ _ h.parents_perm
  · exact h.parents_perm

end Node.Alike

namespace IdSet

theorem perm_add {s t : IdSet} (h : s.toList.Perm t.toList) (id : PartId) :
    (s.add id).2.toList.Perm (t.add id).2.toList := by
  rw [add_toList, add_toList]
  by_cases hid : id ∈ s.toList
  · rw [if_pos hid, if_pos (h.mem_iff.1 hid)]
    exact h
  · rw [if_neg hid, if_neg (fun ht => hid (h.mem_iff.2 ht))]
    exact h.append_right [id]

theorem perm_remove {s t : IdSet} (h : s.toList.Perm t.toList) (id : PartId) :
    (s.remove id).2.toList.Perm (t.remove id).2.toList := by
  rw [remove_toList, remove_toList]
  exact h.erase id

theorem ext_toList {s t : IdSet} (h : s.toList = t.toList) : s = t := by
  cases s
  cases t
  cases h
  rfl

theorem remove_remove_comm (s : IdSet) (a b : PartId) :
    ((s.remove a).2.remove b).2 = ((s.remove b).2.remove a).2 :=
  ext_toList (by simp only [remove_toList]; exact List.erase_comm a b)

end IdSet

theorem Part.Alike.refl (p : Part) : p.Alike p := ⟨rfl, rfl, rfl, .refl _⟩

theorem Part.Alike.admitsPart {p q : Part} (h : p.Alike q) (f : Filter) :
    f.admitsPart p = f.admitsPart q := by
  unfold Filter.admitsPart
  rw [h.parents_perm.length_eq, h.children_eq]

namespace Graph

/-- Two graphs whose records are alike one by one, in the same order. -/
def Alike (g h : Graph) : Prop := List.Forall₂ Node.Alike g.nodes h.nodes

namespace Alike

variable {g g' : Graph}

theorem refl (g : Graph) : g.Alike g := List.forall₂_same.2 fun n _ => Node.Alike.refl n

theorem symm (h : g.Alike g') : g'.Alike g := List.Forall₂.flip (h.imp fun _ _ hnm => hnm.symm)

theorem trans {g'' : Graph} (h : g.Alike g') (h' : g'.Alike g'') : g.Alike g'' := by
  have key : ∀ {l l' l'' : List Node}, List.Forall₂ Node.Alike l l' →
      List.Forall₂ Node.Alike l' l'' → List.Forall₂ Node.Alike l l'' := by
    intro l l' l'' hl hl'
    induction hl generalizing l'' with
    | nil => exact hl'
    | cons hnm _ ih =>
      cases hl' with
      | cons hmk hrest => exact .cons (hnm.trans hmk) (ih hrest)
  exact key h h'

theorem map_eq {α : Type} {f : Node → α} (hf : ∀ n m, n.Alike m → f n = f m) (h : g.Alike g') :
    g.nodes.map f = g'.nodes.map f := by
  have key : ∀ {l l' : List Node}, List.Forall₂ Node.Alike l l' → l.map f = l'.map f := by
    intro l l' hl
    induction hl with
    | nil => rfl
    | cons hnm _ ih => rw [List.map_cons, List.map_cons, hf _ _ hnm, ih]
  exact key h

theorem foldl_nodes {β : Type} {f : β → Node → β} (hf : ∀ b n m, n.Alike m → f b n = f b m)
    (h : g.Alike g') (init : β) : g.nodes.foldl f init = g'.nodes.foldl f init := by
  have key : ∀ {l l' : List Node}, List.Forall₂ Node.Alike l l' → ∀ b, l.foldl f b = l'.foldl f b := by
    intro l l' hl
    induction hl with
    | nil => intro b; rfl
    | @cons n m _ _ hnm _ ih => intro b; rw [List.foldl_cons, List.foldl_cons, hf b n m hnm, ih]
  exact key h init

theorem ids (h : g.Alike g') : g.ids = g'.ids := h.map_eq fun _ _ hnm => hnm.id_eq

theorem size (h : g.Alike g') : g.size = g'.size := List.Forall₂.length_eq h

theorem isLive (h : g.Alike g') (id : PartId) : g.isLive id = g'.isLive id := by
  rw [Bool.eq_iff_iff, isLive_eq_true, isLive_eq_true, h.ids]

theorem snapshot (h : g.Alike g') : g.snapshot = g'.snapshot := by
  unfold Graph.snapshot
  rw [h.map_eq fun n m hnm => by rw [hnm.id_eq, hnm.name_eq, hnm.children_eq]]

theorem find?_of {p : Node → Bool} (hp : ∀ n m, n.Alike m → p n = p m) (h : g.Alike g') :
    Option.Rel Node.Alike (g.nodes.find? p) (g'.nodes.find? p) := by
  have key : ∀ {l l' : List Node}, List.Forall₂ Node.Alike l l' →
      Option.Rel Node.Alike (l.find? p) (l'.find? p) := by
    intro l l' hl
    induction hl with
    | nil => exact .none
    | @cons n m _ _ hnm _ ih =>
      rw [List.find?_cons, List.find?_cons, hp n m hnm]
      split
      · exact .some hnm
      · exact ih
  exact key h

theorem find? (h : g.Alike g') (id : PartId) : Option.Rel Node.Alike (g.find? id) (g'.find? id) :=
  h.find?_of fun _ _ hnm => by rw [hnm.id_eq]

theorem findName? (h : g.Alike g') (name : String) :
    Option.Rel Node.Alike (g.findName? name) (g'.findName? name) :=
  h.find?_of fun _ _ hnm => by rw [hnm.name_eq]

theorem find?_eq_some (h : g.Alike g') {id : PartId} {n : Node} (hf : g.find? id = some n) :
    ∃ m, g'.find? id = some m ∧ n.Alike m := by
  have hr := h.find? id
  rw [hf] at hr
  match g'.find? id, hr with
  | some m, .some hnm => exact ⟨m, rfl, hnm⟩

theorem find?_eq_none (h : g.Alike g') {id : PartId} (hf : g.find? id = none) :
    g'.find? id = none := by
  have hr := h.find? id
  rw [hf] at hr
  match g'.find? id, hr with
  | none, .none => rfl

theorem lookup (h : g.Alike g') (id : PartId) : Agree Node.Alike (g.lookup id) (g'.lookup id) := by
  unfold Graph.lookup
  match g.find? id, g'.find? id, h.find? id with
  | none, none, .none => exact .error _
  | some _, some _, .some hnm => exact .ok hnm

theorem get (h : g.Alike g') (id : PartId) : Agree Part.Alike (g.get id) (g'.get id) :=
  (h.lookup id).map fun _ _ hnm => hnm.view

theorem exists_iff {P : Node → Prop} (hP : ∀ n m, n.Alike m → (P n ↔ P m)) (h : g.Alike g') :
    (∃ n ∈ g.nodes, P n) ↔ ∃ n ∈ g'.nodes, P n := by
  have key : ∀ {l l' : List Node}, List.Forall₂ Node.Alike l l' →
      ((∃ n ∈ l, P n) ↔ ∃ n ∈ l', P n) := by
    intro l l' hl
    induction hl with
    | nil => simp
    | @cons n m _ _ hnm _ ih => simp only [List.mem_cons, exists_eq_or_imp, hP n m hnm, ih]
  exact key h

theorem edge (h : g.Alike g') {a b : PartId} : g.Edge a b ↔ g'.Edge a b :=
  h.exists_iff fun n m hnm => by rw [hnm.id_eq, hnm.children_eq]

theorem walkStep (h : g.Alike g') {next : Node → List PartId}
    (hnext : ∀ n m, n.Alike m → ∀ x, x ∈ next n ↔ x ∈ next m) {a b : PartId} :
    g.WalkStep next a b ↔ g'.WalkStep next a b :=
  h.exists_iff fun n m hnm => by rw [hnm.id_eq, hnext n m hnm]

theorem walkFrom (h : g.Alike g') {next : Node → List PartId}
    (hnext : ∀ n m, n.Alike m → next n = next m) (unvisited : List PartId) {queue queue' : List Node}
    (hq : List.Forall₂ Node.Alike queue queue') (found pending : List PartId) :
    g.walkFrom next unvisited queue found pending = g'.walkFrom next unvisited queue' found pending := by
  fun_induction g.walkFrom next unvisited queue found pending generalizing queue' with
  | case1 _ _ _ a _ hmem n hfind ih =>
    obtain ⟨m, hm, hnm⟩ := h.find?_eq_some hfind
    rw [Graph.walkFrom, dif_pos hmem, hm]
    exact ih (List.rel_append hq (.cons hnm .nil))
  | case2 _ _ _ a _ hmem hnone =>
    rw [Graph.walkFrom, dif_pos hmem, h.find?_eq_none hnone]
  | case3 _ _ _ a _ hmem hlive ih =>
    rw [Graph.walkFrom, dif_neg hmem, if_pos (h.isLive a ▸ hlive)]
    exact ih hq
  | case4 _ _ _ a _ hmem hdead =>
    rw [Graph.walkFrom, dif_neg hmem, if_neg (h.isLive a ▸ hdead)]
  | case5 =>
    cases hq
    rw [Graph.walkFrom]
  | case6 _ _ n rest ih =>
    cases hq with
    | cons hnm hrest =>
      rw [Graph.walkFrom, ← hnext _ _ hnm]
      exact ih hrest

theorem walk (h : g.Alike g') {next : Node → List PartId}
    (hnext : ∀ n m, n.Alike m → next n = next m) (start : PartId) :
    g.walk start next = g'.walk start next := by
  unfold Graph.walk
  match g.lookup start, g'.lookup start, h.lookup start with
  | .error _, .error _, .error _ => rfl
  | .ok n, .ok m, .ok hnm =>
    show g.walkFrom next (g.ids.erase start) [n] [] [] = g'.walkFrom next (g'.ids.erase start) [m] [] []
    rw [h.ids]
    exact h.walkFrom hnext _ (.cons hnm .nil) _ _

/-- Children lists are shared, so the parts below a part are found in the same order. -/
theorem descendants (h : g.Alike g') (id : PartId) : g.descendants id = g'.descendants id :=
  h.walk (fun _ _ hnm => by rw [hnm.children_eq]) id

/-- Parents lists are shared up to order, so the parts that contain a part are the same, each
once, in an order that may differ. -/
theorem contained (hc : g.Consistent) (hc' : g'.Consistent) (h : g.Alike g') (id : PartId) :
    Agree List.Perm (g.contained id) (g'.contained id) := by
  unfold Graph.contained
  by_cases hid : id ∈ g.ids
  · obtain ⟨r, hr⟩ := exists_walk_eq_ok hc.parents_live hid
    obtain ⟨r', hr'⟩ := exists_walk_eq_ok hc'.parents_live (h.ids ▸ hid)
    rw [hr, hr']
    obtain ⟨hnd, hmem⟩ := walk_eq_ok hc.ids_nodup hr
    obtain ⟨hnd', hmem'⟩ := walk_eq_ok hc'.ids_nodup hr'
    have hstep : g.WalkStep (·.parents.toList) = g'.WalkStep (·.parents.toList) := by
      funext a b
      exact propext (h.walkStep fun _ _ hnm _ => hnm.parents_perm.mem_iff)
    refine .ok ((List.perm_ext_iff_of_nodup hnd hnd').2 fun x => ?_)
    rw [hmem, hmem', hstep]
  · rw [walk_of_not_mem hid, walk_of_not_mem (h.ids ▸ hid)]
    exact .error _

theorem reachesFrom (h : g.Alike g') (target : PartId) (pending : PartId → List PartId)
    (unvisited stack : List PartId) :
    g.reachesFrom target pending unvisited stack = g'.reachesFrom target pending unvisited stack := by
  fun_induction g.reachesFrom target pending unvisited stack with
  | case1 => rw [Graph.reachesFrom]
  | case2 _ cur _ hit =>
    rw [Graph.reachesFrom, if_pos hit]
  | case3 _ cur _ hne hmem n hfind ih =>
    obtain ⟨m, hm, hnm⟩ := h.find?_eq_some hfind
    rw [Graph.reachesFrom, if_neg hne, dif_pos hmem, hm, ih, hnm.children_eq]
  | case4 _ cur _ hne hmem hnone =>
    rw [Graph.reachesFrom, if_neg hne, dif_pos hmem, h.find?_eq_none hnone]
  | case5 _ cur _ hne hmem hlive ih =>
    rw [Graph.reachesFrom, if_neg hne, dif_neg hmem, if_pos (h.isLive cur ▸ hlive), ih]
  | case6 _ cur _ hne hmem hdead =>
    rw [Graph.reachesFrom, if_neg hne, dif_neg hmem, if_neg (h.isLive cur ▸ hdead)]

theorem reaches (h : g.Alike g') (start target : PartId) (pending : PartId → List PartId) :
    g.reaches start target pending = g'.reaches start target pending := by
  unfold Graph.reaches
  rw [h.ids, h.reachesFrom]

theorem validateAdditions (h : g.Alike g') (parent : PartId) (additions : List PartId) :
    g.validateAdditions parent additions = g'.validateAdditions parent additions := by
  unfold Graph.validateAdditions
  suffices key : ∀ cs accepted, validateAdditions.go g parent cs accepted =
      validateAdditions.go g' parent cs accepted from key additions []
  intro cs
  induction cs with
  | nil => intro accepted; rfl
  | cons c cs ih =>
    intro accepted
    simp only [validateAdditions.go, h.reaches, ih]

theorem checkLive (h : g.Alike g') (what : String) (ids : List PartId) :
    g.checkLive what ids = g'.checkLive what ids := by
  unfold Graph.checkLive
  congr 1
  funext id
  match g.lookup id, g'.lookup id, h.lookup id with
  | .error _, .error _, .error _ => rfl
  | .ok _, .ok _, .ok _ => rfl

theorem views (h : g.Alike g') (ids : List PartId) :
    Agree (List.Forall₂ Part.Alike) (g.views ids) (g'.views ids) := by
  refine Agree.mapM fun id _ => ?_
  match g.lookup id, g'.lookup id, h.lookup id with
  | .error _, .error _, .error _ => exact .error _
  | .ok _, .ok _, .ok hnm => exact .ok hnm.view

/-! ## Changes keep graphs alike -/

theorem map_nodes (h : g.Alike g') {f f' : Node → Node}
    (hf : ∀ n m, n.Alike m → (f n).Alike (f' m)) :
    List.Forall₂ Node.Alike (g.nodes.map f) (g'.nodes.map f') :=
  List.forall₂_map_left_iff.2 (List.forall₂_map_right_iff.2 (h.imp hf))

theorem modify (h : g.Alike g') (id : PartId) {f : Node → Node}
    (hf : ∀ n m, n.Alike m → (f n).Alike (f m)) : (g.modify id f).Alike (g'.modify id f) := by
  unfold Graph.Alike
  rw [modify_nodes, modify_nodes]
  refine h.map_nodes fun n m hnm => ?_
  rw [hnm.id_eq]
  split
  · exact hf n m hnm
  · exact hnm

theorem link (h : g.Alike g') (p c : PartId) : (g.link p c).Alike (g'.link p c) := by
  unfold Graph.Alike
  rw [link_nodes, link_nodes]
  exact h.map_nodes fun n m hnm =>
    hnm.edges p c (fun s => (s.add c).2) (fun s => (s.add p).2) fun _ _ hst => IdSet.perm_add hst p

theorem unlink (h : g.Alike g') (p c : PartId) : (g.unlink p c).Alike (g'.unlink p c) := by
  unfold Graph.Alike
  rw [unlink_nodes, unlink_nodes]
  exact h.map_nodes fun n m hnm =>
    hnm.edges p c (fun s => (s.remove c).2) (fun s => (s.remove p).2)
      fun _ _ hst => IdSet.perm_remove hst p

theorem insert (h : g.Alike g') (id : PartId) (name : String) :
    (g.insert id name).Alike (g'.insert id name) := by
  unfold Graph.Alike
  rw [insert_nodes, insert_nodes]
  exact List.rel_append h (.cons ⟨rfl, rfl, rfl, .refl _⟩ .nil)

theorem erase (h : g.Alike g') (id : PartId) :
    Graph.Alike { g with nodes := g.nodes.filter (·.id != id) }
      { g' with nodes := g'.nodes.filter (·.id != id) } := by
  refine List.rel_filter ?_ h
  intro n m hnm
  dsimp only
  rw [hnm.id_eq]

theorem delete (h : g.Alike g') (id : PartId) : Agree Graph.Alike (g.delete id) (g'.delete id) :=
  (h.lookup id).bind fun _ _ _ => .ok (h.erase id)

theorem listParts (h : g.Alike g') (f : Filter) :
    List.Forall₂ Part.Alike (g.listParts f) (g'.listParts f) := by
  unfold Graph.listParts
  refine List.forall₂_map_left_iff.2 (List.forall₂_map_right_iff.2
    ((List.rel_filter ?_ h).imp fun _ _ hnm => hnm.view))
  intro n m hnm
  dsimp only
  rw [hnm.parents_size, hnm.children_size]

theorem listChildren (h : g.Alike g') (id : PartId) (f : Filter) :
    Agree (List.Forall₂ Part.Alike) (g.listChildren id f) (g'.listChildren id f) := by
  unfold Graph.listChildren
  dsimp only
  split
  · exact .error _
  refine (h.lookup id).bind fun n m hnm => ?_
  rw [hnm.children_eq]
  refine (h.views _).bind fun ps qs hpq => .ok (List.rel_filter ?_ hpq)
  intro p q hpq
  dsimp only
  rw [hpq.admitsPart]

theorem foldl {α : Type} (step : Graph → α → Graph)
    (hstep : ∀ g g' x, g.Alike g' → (step g x).Alike (step g' x)) (h : g.Alike g') (l : List α) :
    (l.foldl step g).Alike (l.foldl step g') := by
  induction l generalizing g g' with
  | nil => exact h
  | cons x l ih => exact ih (hstep g g' x h)

theorem drawFresh (h : g.Alike g') (s : IdStream) : g.drawFresh s = g'.drawFresh s := by
  unfold Graph.drawFresh
  rw [h.size]
  generalize g'.size + 1 = fuel
  induction fuel generalizing s with
  | zero => rfl
  | succ fuel ih => simp only [drawFresh.go, h.isLive, ih]

/-- Creating a part on alike graphs draws the same id from the same stream. -/
theorem create (hc : g.Consistent) (hc' : g'.Consistent) (h : g.Alike g') (s : IdStream)
    (name : String) :
    Agree (fun a b : PartId × Graph × IdStream => a.1 = b.1 ∧ a.2.1.Alike b.2.1 ∧ a.2.2 = b.2.2)
      (g.create s name) (g'.create s name) := by
  unfold Graph.create
  by_cases hb : Text.isBlank name = true
  · rw [if_pos hb, if_pos hb]
    exact .error _
  rw [if_neg hb, if_neg hb, hc.lookup_names, hc'.lookup_names]
  match g.findName? name, g'.findName? name, h.findName? name with
  | some n, some m, .some hnm =>
    dsimp only [Option.map]
    rw [hnm.id_eq]
    exact .error _
  | none, none, .none =>
    dsimp only [Option.map]
    rw [h.drawFresh]
    match g'.drawFresh s with
    | none => exact .error _
    | some (id, s') => exact .ok ⟨rfl, h.insert id name, rfl⟩

theorem updateChildren (h : g.Alike g') (id : PartId) (action : Action) (childIds : List PartId) :
    Agree Graph.Alike (g.updateChildren id action childIds)
      (g'.updateChildren id action childIds) := by
  unfold Graph.updateChildren
  refine (h.lookup id).bind fun parent parent' hp => ?_
  refine (Agree.forM fun c _ => (h.lookup c).bind fun _ _ _ => .ok trivial).bind fun _ _ _ => ?_
  rw [← hp.children_eq]
  dsimp only
  split
  · exact .error _
  cases action with
  | add =>
    dsimp only
    rw [h.validateAdditions]
    exact Agree.bind_same _ fun _ => .ok (h.foldl _ (fun _ _ c hg => hg.link id c) _)
  | remove =>
    refine .ok (h.foldl _ (fun _ _ c hg => ?_) _)
    split
    · exact hg.unlink id c
    · exact hg
  | replace =>
    dsimp only
    rw [h.checkLive, h.validateAdditions]
    exact Agree.bind_same _ fun _ => Agree.bind_same _ fun _ => .ok
      ((Alike.foldl _ (fun _ _ c hg => hg.link id c)
        (Alike.foldl _ (fun _ _ c hg => hg.unlink id c) h _) _).modify id
        fun _ _ hnm => ⟨hnm.id_eq, hnm.name_eq, rfl, hnm.parents_perm⟩)
  | unknown s => exact .error _

end Alike

theorem unlink_unlink_comm (g : Graph) (p q c : PartId) :
    (g.unlink p c).unlink q c = (g.unlink q c).unlink p c := by
  have hnodes : ((g.unlink p c).unlink q c).nodes = ((g.unlink q c).unlink p c).nodes := by
    simp only [unlink_nodes, List.map_map]
    refine List.map_congr_left fun n _ => ?_
    simp only [Function.comp_apply, Node.mk.injEq, true_and]
    constructor
    · split_ifs <;> rfl
    · split_ifs
      · exact IdSet.remove_remove_comm _ _ _
      · rfl
  calc (g.unlink p c).unlink q c = ⟨((g.unlink p c).unlink q c).nodes, g.names, g.nextSeq⟩ := rfl
    _ = ⟨((g.unlink q c).unlink p c).nodes, g.names, g.nextSeq⟩ := by rw [hnodes]
    _ = (g.unlink q c).unlink p c := rfl

namespace Alike

variable {g g' : Graph}

/-- Deleting a part unlinks it from its parents in the order of its parents list; the order does
not matter, so alike graphs stay alike. -/
theorem deleteCascade (hc : g.Consistent) (h : g.Alike g') (id : PartId) :
    Agree Graph.Alike (g.deleteCascade id) (g'.deleteCascade id) := by
  unfold Graph.deleteCascade
  refine (h.lookup id).bind_of_ok fun n n' hn _ hnn => ?_
  have hmem := (Graph.find?_eq_some (lookup_eq_ok.1 hn)).1
  have hpar : ∀ x ∈ n.parents.toList, x ∈ g.ids := hc.parents_live n hmem
  have hchi : ∀ x ∈ n.children.toList, x ∈ g.ids := hc.children_live n hmem
  have hpar' : g'.checkLive "dangling parent reference" n'.parents.toList = .ok () :=
    checkLive_eq_ok fun x hx => h.ids ▸ hpar x (hnn.parents_perm.mem_iff.2 hx)
  have hchi' : g'.checkLive "dangling child reference" n'.children.toList = .ok () :=
    checkLive_eq_ok fun x hx => h.ids ▸ hchi x (hnn.children_eq ▸ hx)
  rw [checkLive_eq_ok hpar, checkLive_eq_ok hchi, hpar', hchi']
  refine Agree.bind_same (.ok ()) fun _ => Agree.bind_same (.ok ()) fun _ => ?_
  dsimp only
  have hperm : n'.parents.toList.foldl (fun g p => g.unlink p id) g' =
      n.parents.toList.foldl (fun g p => g.unlink p id) g' :=
    (hnn.parents_perm.foldl_eq' (fun x _ y _ z => unlink_unlink_comm z x y id) g').symm
  rw [hperm, ← hnn.children_eq]
  exact (Alike.foldl _ (fun _ _ c hg => hg.unlink id c)
    (Alike.foldl _ (fun _ _ p hg => hg.unlink p id) h _) _).delete id

end Alike

end Graph

end BillOfMaterials
