import BillOfMaterials.Proofs.Engine.CycleCheck

/-!
# What a change of edges does to every part

An update of children and a delete change the edges at one part; every other edge, every name
and the order of the parts stay as they were. This module says exactly how the lists of each
part change.

* `Part.relink id before after` (and `Node.relink` on records): a part once the children of
  `id` went from `before` to `after`; `id` leaves the parents of each part that left the
  children and joins, at the end, the parents of each part that came in (`relinkParents`);
* `foldl_link_nodes`, `foldl_unlink_nodes`: a batch of links from one part appends the new
  children to its list and the part to the parents of each new child; a batch of unlinks
  filters the unlinked edges out of the lists at both ends;
* `updateChildren_nodes`, `updateChildren_list`: a successful update relinks every part, the
  children of the updated part becoming what `Action.apply` gives; `updateChildren_again`: the
  same update once more succeeds and changes nothing;
* `deleteCascade_list`: a delete drops the part and strikes it from the lists of every other
  part.
-/

namespace BillOfMaterials

/-- The parents of part `q` once the children of `id` went from `before` to `after`: `id` leaves
them when `q` left the children, and joins them at the end when `q` came in. -/
def relinkParents (id : PartId) (before after : List PartId) (q : PartId) (parents : List PartId) :
    List PartId :=
  if q ∈ before ∧ q ∉ after then parents.erase id
  else if q ∉ before ∧ q ∈ after then parents ++ [id]
  else parents

/-- A part once the children of `id` went from `before` to `after`. -/
def Part.relink (id : PartId) (before after : List PartId) (p : Part) : Part :=
  { p with
    children := if p.id = id then after else p.children
    parents := relinkParents id before after p.id p.parents }

/-- The record of a part once the children of `id` went from `before` to `after`. -/
def Node.relink (id : PartId) (before after : List PartId) (n : Node) : Node :=
  { n with
    children := if n.id = id then ⟨after⟩ else n.children
    parents := ⟨relinkParents id before after n.id n.parents.toList⟩ }

/-- A part with `id` struck from its children and its parents. -/
def Part.strike (id : PartId) (p : Part) : Part :=
  { p with children := p.children.erase id, parents := p.parents.erase id }

theorem relinkParents_of_left {id q : PartId} {before after ps : List PartId} (h1 : q ∈ before)
    (h2 : q ∉ after) : relinkParents id before after q ps = ps.erase id := by
  simp [relinkParents, h1, h2]

theorem relinkParents_of_entered {id q : PartId} {before after ps : List PartId} (h1 : q ∉ before)
    (h2 : q ∈ after) : relinkParents id before after q ps = ps ++ [id] := by
  simp [relinkParents, h1, h2]

theorem relinkParents_of_stayed {id q : PartId} {before after ps : List PartId}
    (h : q ∈ before ↔ q ∈ after) : relinkParents id before after q ps = ps := by
  unfold relinkParents
  rw [if_neg fun h' => h'.2 (h.1 h'.1), if_neg fun h' => h'.1 (h.2 h'.2)]

theorem Node.eq_relink {n : Node} {id : PartId} {before after ch pa : List PartId}
    (hch : ch = if n.id = id then after else n.children.toList)
    (hpa : pa = relinkParents id before after n.id n.parents.toList) :
    { n with children := ⟨ch⟩, parents := ⟨pa⟩ } = n.relink id before after := by
  unfold Node.relink
  subst hch hpa
  by_cases h : n.id = id <;> simp [h]

theorem Node.view_relink (id : PartId) (before after : List PartId) (n : Node) :
    (n.relink id before after).view = n.view.relink id before after := by
  unfold Node.relink Node.view Part.relink
  by_cases h : n.id = id <;> simp [h]

theorem IdSet.has_eq_decide (s : IdSet) (id : PartId) : s.has id = decide (id ∈ s.toList) := by
  simp [IdSet.has]

namespace Graph

/-! ## Batches of links and unlinks -/

theorem unlink_nodes_filter {g : Graph} (hc : ∀ n ∈ g.nodes, n.children.toList.Nodup)
    (hp : ∀ n ∈ g.nodes, n.parents.toList.Nodup) (p c : PartId) :
    (g.unlink p c).nodes = g.nodes.map fun n =>
      { n with children := ⟨n.children.toList.filter fun x => (n.id, x) ≠ (p, c)⟩
               parents := ⟨n.parents.toList.filter fun x => (x, n.id) ≠ (p, c)⟩ } := by
  rw [unlink_nodes]
  refine List.map_congr_left fun n hn => ?_
  have hch : (if n.id = p then (n.children.remove c).2 else n.children) =
      ⟨n.children.toList.filter fun x => (n.id, x) ≠ (p, c)⟩ := by
    refine IdSet.ext_toList ?_
    by_cases hnp : n.id = p
    · rw [if_pos hnp, IdSet.remove_toList, (hc n hn).erase_eq_filter]
      refine List.filter_congr fun x _ => ?_
      rw [hnp]
      simp only [ne_eq, Prod.mk.injEq, true_and, decide_not]
      rfl
    · rw [if_neg hnp]
      simp [hnp]
  have hpa : (if n.id = c then (n.parents.remove p).2 else n.parents) =
      ⟨n.parents.toList.filter fun x => (x, n.id) ≠ (p, c)⟩ := by
    refine IdSet.ext_toList ?_
    by_cases hnc : n.id = c
    · rw [if_pos hnc, IdSet.remove_toList, (hp n hn).erase_eq_filter]
      refine List.filter_congr fun x _ => ?_
      rw [hnc]
      simp only [ne_eq, Prod.mk.injEq, and_true, decide_not]
      rfl
    · rw [if_neg hnc]
      simp [hnc]
  rw [hch, hpa]

/-- Unlinking a batch of edges, the edge `e x` for each `x`, filters those edges out of the
lists at both ends, when no list has repeats. The induction is on the batch, each unlink by
`unlink_nodes_filter`. -/
theorem foldl_unlink_nodes {α : Type} (e : α → PartId × PartId) (l : List α) :
    ∀ {g : Graph}, (∀ n ∈ g.nodes, n.children.toList.Nodup) →
      (∀ n ∈ g.nodes, n.parents.toList.Nodup) →
      (l.foldl (fun g x => g.unlink (e x).1 (e x).2) g).nodes = g.nodes.map fun n =>
        { n with children := ⟨n.children.toList.filter fun c => (n.id, c) ∉ l.map e⟩
                 parents := ⟨n.parents.toList.filter fun p => (p, n.id) ∉ l.map e⟩ } := by
  induction l with
  | nil =>
    intro g _ _
    rw [List.foldl_nil]
    refine ((List.map_congr_left fun n _ => ?_).trans (List.map_id _)).symm
    simp
  | cons x l ih =>
    intro g hc hp
    have h1 := unlink_nodes_filter hc hp (e x).1 (e x).2
    have hc1 : ∀ n ∈ (g.unlink (e x).1 (e x).2).nodes, n.children.toList.Nodup := by
      rw [h1]
      simp only [List.mem_map]
      rintro _ ⟨n, hn, rfl⟩
      exact (hc n hn).filter _
    have hp1 : ∀ n ∈ (g.unlink (e x).1 (e x).2).nodes, n.parents.toList.Nodup := by
      rw [h1]
      simp only [List.mem_map]
      rintro _ ⟨n, hn, rfl⟩
      exact (hp n hn).filter _
    rw [List.foldl_cons, ih hc1 hp1, h1, List.map_map]
    refine List.map_congr_left fun n _ => ?_
    simp only [Function.comp_apply, List.filter_filter, List.map_cons, List.mem_cons, not_or,
      Bool.decide_and, Prod.mk.eta, ne_eq]
    congr 2 <;> exact List.filter_congr fun _ _ => Bool.and_comm _ _

theorem link_nodes_append {g : Graph} {p c : PartId}
    (hch : ∀ n ∈ g.nodes, n.id = p → c ∉ n.children.toList)
    (hpa : ∀ n ∈ g.nodes, n.id = c → p ∉ n.parents.toList) :
    (g.link p c).nodes = g.nodes.map fun n =>
      { n with children := ⟨n.children.toList ++ if n.id = p then [c] else []⟩
               parents := ⟨n.parents.toList ++ if n.id = c then [p] else []⟩ } := by
  rw [link_nodes]
  refine List.map_congr_left fun n hn => ?_
  have hch' : (if n.id = p then (n.children.add c).2 else n.children) =
      ⟨n.children.toList ++ if n.id = p then [c] else []⟩ := by
    refine IdSet.ext_toList ?_
    by_cases hnp : n.id = p
    · rw [if_pos hnp, if_pos hnp, IdSet.add_toList, if_neg (hch n hn hnp)]
    · rw [if_neg hnp, if_neg hnp, List.append_nil]
  have hpa' : (if n.id = c then (n.parents.add p).2 else n.parents) =
      ⟨n.parents.toList ++ if n.id = c then [p] else []⟩ := by
    refine IdSet.ext_toList ?_
    by_cases hnc : n.id = c
    · rw [if_pos hnc, if_pos hnc, IdSet.add_toList, if_neg (hpa n hn hnc)]
    · rw [if_neg hnc, if_neg hnc, List.append_nil]
  rw [hch', hpa']

/-- Linking a batch of new children below `p`, none of them a child yet and `p` a parent of
none of them yet, appends them to the children of `p`, and `p` to the parents of each. The
induction is on the batch, each link by `link_nodes_append`. -/
theorem foldl_link_nodes {p : PartId} (cs : List PartId) :
    ∀ {g : Graph}, cs.Nodup →
      (∀ n ∈ g.nodes, n.id = p → ∀ c ∈ cs, c ∉ n.children.toList) →
      (∀ n ∈ g.nodes, n.id ∈ cs → p ∉ n.parents.toList) →
      (cs.foldl (fun g c => g.link p c) g).nodes = g.nodes.map fun n =>
        { n with children := ⟨n.children.toList ++ if n.id = p then cs else []⟩
                 parents := ⟨n.parents.toList ++ if n.id ∈ cs then [p] else []⟩ } := by
  induction cs with
  | nil =>
    intro g _ _ _
    rw [List.foldl_nil]
    refine ((List.map_congr_left fun n _ => ?_).trans (List.map_id _)).symm
    simp
  | cons c cs ih =>
    intro g hnd hch hpa
    obtain ⟨hc, hnd⟩ := List.nodup_cons.1 hnd
    have h1 := link_nodes_append (fun n hn hid => hch n hn hid c List.mem_cons_self)
      (fun n hn hid => hpa n hn (hid ▸ List.mem_cons_self))
    have hch1 : ∀ n ∈ (g.link p c).nodes, n.id = p → ∀ c' ∈ cs, c' ∉ n.children.toList := by
      rw [h1]
      simp only [List.mem_map]
      rintro _ ⟨n, hn, rfl⟩ hid c' hc'
      have hne : c' ≠ c := fun e => hc (e ▸ hc')
      simpa [hid, hne] using hch n hn hid c' (List.mem_cons_of_mem c hc')
    have hpa1 : ∀ n ∈ (g.link p c).nodes, n.id ∈ cs → p ∉ n.parents.toList := by
      rw [h1]
      simp only [List.mem_map]
      rintro _ ⟨n, hn, rfl⟩ hid
      have hne : n.id ≠ c := fun e => hc (e ▸ hid)
      simpa [hne] using hpa n hn (List.mem_cons_of_mem c hid)
    rw [List.foldl_cons, ih hnd hch1 hpa1, h1, List.map_map]
    refine List.map_congr_left fun n _ => ?_
    have hch2 : ((if n.id = p then [c] else []) ++ if n.id = p then cs else []) =
        if n.id = p then c :: cs else [] := by
      by_cases hnp : n.id = p <;> simp [hnp]
    have hpa2 : ((if n.id = c then [p] else []) ++ if n.id ∈ cs then [p] else []) =
        if n.id ∈ c :: cs then [p] else [] := by
      by_cases hnc : n.id = c
      · have hcs : n.id ∉ cs := hnc ▸ hc
        rw [if_pos hnc, if_neg hcs, if_pos (hnc ▸ List.mem_cons_self)]
        rfl
      · simp [hnc]
    simp only [Function.comp_apply, List.append_assoc, hch2, hpa2]

/-! ## An update of children -/

section Update

variable {g : Graph} {parent : Node} {R : List PartId}

theorem filter_not_has (s : IdSet) (R : List PartId) :
    (R.filter fun c => !s.has c) = R.filter (· ∉ s.toList) := by
  simp [IdSet.has_eq_decide]

theorem mem_map_filter_edge {p a b : PartId} {L : List PartId} {P : PartId → Bool} :
    (a, b) ∈ (L.filter P).map (fun c => (p, c)) ↔ a = p ∧ b ∈ L ∧ P b = true := by
  simp only [List.mem_map, List.mem_filter, Prod.mk.injEq]
  constructor
  · rintro ⟨c, ⟨hcL, hcP⟩, rfl, rfl⟩
    exact ⟨rfl, hcL, hcP⟩
  · rintro ⟨rfl, hbL, hbP⟩
    exact ⟨b, ⟨hbL, hbP⟩, rfl, rfl⟩

theorem add_nodes (h : g.WellFormed) (hparent : parent ∈ g.nodes) (hR : R.Nodup) :
    ((R.filter fun c => !parent.children.has c).foldl (fun g c => g.link parent.id c) g).nodes =
      g.nodes.map (Node.relink parent.id parent.children.toList
        (Action.add.apply parent.children.toList R)) := by
  rw [filter_not_has, foldl_link_nodes _ (hR.filter _) (fun n hn hid c hc => ?_)
    (fun n hn hid => ?_)]
  · refine List.map_congr_left fun n hn => Node.eq_relink ?_ ?_
    · by_cases hid : n.id = parent.id
      · rw [eq_of_id_eq h.ids_nodup hn hparent hid]
        simp [Action.apply]
      · simp [hid]
    · by_cases hin : n.id ∈ parent.children.toList
      · rw [relinkParents_of_stayed (by simp [Action.apply, hin])]
        simp [hin]
      · by_cases hR' : n.id ∈ R
        · rw [relinkParents_of_entered hin (by simp [Action.apply, hin, hR'])]
          simp [hin, hR']
        · rw [relinkParents_of_stayed (by simp [Action.apply, hin, hR'])]
          simp [hR']
  · rw [eq_of_id_eq h.ids_nodup hn hparent hid]
    simpa using (List.mem_filter.1 hc).2
  · rw [← h.mirror parent hparent n hn]
    simpa using (List.mem_filter.1 hid).2

theorem remove_nodes (h : g.WellFormed) (hparent : parent ∈ g.nodes) :
    (R.foldl (fun g c => if parent.children.has c then g.unlink parent.id c else g) g).nodes =
      g.nodes.map (Node.relink parent.id parent.children.toList
        (Action.remove.apply parent.children.toList R)) := by
  have hfold : R.foldl (fun g c => if parent.children.has c then g.unlink parent.id c else g) g =
      (R.filter parent.children.has).foldl (fun g c => g.unlink parent.id c) g :=
    List.foldl_filter.symm
  have hcut : ∀ a b, (a, b) ∈ (R.filter parent.children.has).map (fun c => (parent.id, c)) ↔
      a = parent.id ∧ b ∈ R ∧ b ∈ parent.children.toList := by
    intro a b
    rw [mem_map_filter_edge, IdSet.has_eq_decide, decide_eq_true_eq]
  rw [hfold, foldl_unlink_nodes (fun c => (parent.id, c)) _ h.children_nodup h.parents_nodup]
  refine List.map_congr_left fun n hn => Node.eq_relink ?_ ?_
  · by_cases hid : n.id = parent.id
    · rw [if_pos hid, eq_of_id_eq h.ids_nodup hn hparent hid]
      refine List.filter_congr fun c hc => ?_
      simp [hcut, hc]
    · rw [if_neg hid, List.filter_eq_self]
      intro c _
      simp [hcut, hid]
  · by_cases hcut' : n.id ∈ R ∧ n.id ∈ parent.children.toList
    · rw [relinkParents_of_left hcut'.2 (by simp [Action.apply, hcut'.1]),
        (h.parents_nodup n hn).erase_eq_filter]
      refine List.filter_congr fun p _ => ?_
      simp only [hcut, hcut', and_true, decide_not]
      rfl
    · rw [relinkParents_of_stayed (by simp [Action.apply]; tauto), List.filter_eq_self]
      intro p _
      simp [hcut]
      tauto

theorem replace_nodes (h : g.WellFormed) (hparent : parent ∈ g.nodes) (hR : R.Nodup) :
    (((R.filter fun c => !parent.children.has c).foldl (fun g c => g.link parent.id c)
      ((parent.children.toList.filter fun c => !R.contains c).foldl
        (fun g c => g.unlink parent.id c) g)).modify parent.id
        fun n => { n with children := n.children.reorder R }).nodes =
      g.nodes.map (Node.relink parent.id parent.children.toList
        (Action.replace.apply parent.children.toList R)) := by
  have hcut : ∀ a b, (a, b) ∈ (parent.children.toList.filter fun c => !R.contains c).map
      (fun c => (parent.id, c)) ↔ a = parent.id ∧ b ∈ parent.children.toList ∧ b ∉ R := by
    intro a b
    rw [mem_map_filter_edge]
    simp
  have hnew : ∀ c, c ∈ R.filter (fun c => !parent.children.has c) ↔
      c ∈ R ∧ c ∉ parent.children.toList := by
    intro c
    simp [IdSet.has_eq_decide]
  have h1 := foldl_unlink_nodes (fun c => (parent.id, c))
    (parent.children.toList.filter fun c => !R.contains c) h.children_nodup h.parents_nodup
  have h2 := foldl_link_nodes (p := parent.id) (R.filter fun c => !parent.children.has c)
    (g := (parent.children.toList.filter fun c => !R.contains c).foldl
      (fun g c => g.unlink parent.id c) g) (hR.filter _) (by
      rw [h1]
      simp only [List.mem_map]
      rintro _ ⟨n, hn, rfl⟩ hid c hc hcm
      rw [eq_of_id_eq h.ids_nodup hn hparent hid] at hcm
      exact ((hnew c).1 hc).2 (List.mem_filter.1 hcm).1) (by
      rw [h1]
      simp only [List.mem_map]
      rintro _ ⟨n, hn, rfl⟩ hid hpm
      exact ((hnew n.id).1 hid).2 ((h.mirror parent hparent n hn).2 (List.mem_filter.1 hpm).1))
  have hpa : ∀ n ∈ g.nodes,
      (n.parents.toList.filter fun p => (p, n.id) ∉ (parent.children.toList.filter
        fun c => !R.contains c).map fun c => (parent.id, c)) ++
          (if n.id ∈ R.filter (fun c => !parent.children.has c) then [parent.id] else []) =
        relinkParents parent.id parent.children.toList R n.id n.parents.toList := by
    intro n hn
    by_cases hleft : n.id ∈ parent.children.toList ∧ n.id ∉ R
    · rw [relinkParents_of_left hleft.1 hleft.2, if_neg fun hin => hleft.2 ((hnew _).1 hin).1,
        List.append_nil, (h.parents_nodup n hn).erase_eq_filter]
      refine List.filter_congr fun p _ => ?_
      simp only [hcut, hleft, and_true, not_false_eq_true, decide_not]
      rfl
    · have hkeep : (n.parents.toList.filter fun p => (p, n.id) ∉ (parent.children.toList.filter
          fun c => !R.contains c).map fun c => (parent.id, c)) = n.parents.toList := by
        rw [List.filter_eq_self]
        intro p _
        simp only [hcut, decide_eq_true_eq]
        exact fun ⟨_, hc, hr⟩ => hleft ⟨hc, hr⟩
      rw [hkeep]
      by_cases hin : n.id ∈ R.filter (fun c => !parent.children.has c)
      · rw [if_pos hin, relinkParents_of_entered ((hnew _).1 hin).2 ((hnew _).1 hin).1]
      · rw [if_neg hin, List.append_nil, relinkParents_of_stayed]
        rw [hnew] at hin
        tauto
  rw [modify_nodes, h2, h1, List.map_map, List.map_map]
  refine List.map_congr_left fun n hn => ?_
  dsimp only [Function.comp_apply]
  by_cases hid : n.id = parent.id
  · rw [if_pos hid]
    exact Node.eq_relink (by rw [if_pos hid]; rfl) (hpa n hn)
  · rw [if_neg hid]
    refine Node.eq_relink ?_ (hpa n hn)
    rw [if_neg hid, if_neg hid, List.append_nil, List.filter_eq_self]
    intro c _
    simp only [hcut, decide_eq_true_eq]
    exact fun ⟨he, _⟩ => hid he

end Update

theorem find?_map_nodes {g g' : Graph} {f : Node → Node} (h : g'.nodes = g.nodes.map f)
    (hf : ∀ n, (f n).id = n.id) (q : PartId) : g'.find? q = (g.find? q).map f := by
  unfold find?
  rw [h, List.find?_map]
  congr 2
  funext n
  simp [hf]

theorem get_map_nodes {g g' : Graph} {f : Node → Node} {F : Part → Part}
    (h : g'.nodes = g.nodes.map f) (hf : ∀ n, (f n).id = n.id) (hF : ∀ n, (f n).view = F n.view)
    (q : PartId) : g'.get q = (g.get q).map F := by
  unfold get lookup
  rw [find?_map_nodes h hf]
  cases g.find? q with
  | none => rfl
  | some n => simp only [Option.map_some, Except.map, hF]

/-- A successful update relinks every record: the children of the part become what the action
gives, and each part that left or came in has the part struck from or appended to its
parents. -/
theorem updateChildren_nodes {g g' : Graph} (h : g.WellFormed) {id : PartId} {action : Action}
    {childIds : List PartId} (hu : g.updateChildren id action childIds = .ok g') :
    g'.nodes = g.nodes.map (Node.relink id (g.childrenOf id)
      (action.apply (g.childrenOf id) (dedupe childIds))) := by
  obtain ⟨parent, hfind, -, -, hcases⟩ := updateChildren_eq_ok hu
  obtain ⟨hparent, rfl⟩ := find?_eq_some hfind
  have hC : g.childrenOf parent.id = parent.children.toList := by simp [childrenOf, hfind]
  rw [hC]
  rcases hcases with ⟨rfl, -, rfl⟩ | ⟨rfl, rfl⟩ | ⟨rfl, -, rfl⟩
  · exact add_nodes h hparent (nodup_dedupe childIds)
  · exact remove_nodes h hparent
  · exact replace_nodes h hparent (nodup_dedupe childIds)

/-- The parts after a successful update, in order: every part relinked. -/
theorem updateChildren_list {g g' : Graph} (h : g.WellFormed) {id : PartId} {action : Action}
    {childIds : List PartId} (hu : g.updateChildren id action childIds = .ok g') :
    g'.list = g.list.map (Part.relink id (g.childrenOf id)
      (action.apply (g.childrenOf id) (dedupe childIds))) := by
  rw [list, list, updateChildren_nodes h hu, List.map_map, List.map_map]
  exact List.map_congr_left fun n _ => Node.view_relink _ _ _ n

theorem updateChildren_get {g g' : Graph} (h : g.WellFormed) {id : PartId} {action : Action}
    {childIds : List PartId} (hu : g.updateChildren id action childIds = .ok g') (q : PartId) :
    g'.get q = (g.get q).map (Part.relink id (g.childrenOf id)
      (action.apply (g.childrenOf id) (dedupe childIds))) :=
  get_map_nodes (updateChildren_nodes h hu) (fun _ => rfl) (Node.view_relink _ _ _) q

theorem modify_of_fixed {g : Graph} {id : PartId} {f : Node → Node}
    (hf : ∀ n ∈ g.nodes, n.id = id → f n = n) : g.modify id f = g := by
  cases g with
  | mk nodes names nextSeq =>
    simp only [modify, Graph.mk.injEq, and_true]
    refine (List.map_congr_left fun n hn => ?_).trans (List.map_id nodes)
    by_cases hid : n.id = id
    · simp [hid, hf n hn hid]
    · simp [hid]

/-- The same update once more succeeds and leaves the graph as it is: after an `add` or a
`replace` every requested id is a child, after a `remove` none is, and a `replace` finds them
in the requested order already. -/
theorem updateChildren_again {g g' : Graph} (h : g.WellFormed) {id : PartId} {action : Action}
    {childIds : List PartId} (hu : g.updateChildren id action childIds = .ok g') :
    g'.updateChildren id action childIds = .ok g' := by
  obtain ⟨parent, hfind, hlive, hnot, hcases⟩ := updateChildren_eq_ok hu
  obtain ⟨hparent, rfl⟩ := find?_eq_some hfind
  have hwf' := h.updateChildren hu
  obtain ⟨parent', hfind', hch'⟩ : ∃ p', g'.find? parent.id = some p' ∧
      p'.children.toList = action.apply parent.children.toList (dedupe childIds) := by
    have hC : g.childrenOf parent.id = parent.children.toList := by simp [childrenOf, hfind]
    refine ⟨parent.relink parent.id parent.children.toList
      (action.apply parent.children.toList (dedupe childIds)), ?_, by simp [Node.relink]⟩
    rw [find?_map_nodes (updateChildren_nodes h hu) (fun _ => rfl), hfind, hC]
    rfl
  have hids : g'.ids = g.ids := updateChildren_ids hu
  have hreq : (dedupe childIds).forM (fun c => do let _ ← g'.lookup c) = .ok () := by
    refine forM_eq_ok.2 fun c hc => ?_
    obtain ⟨n, hn⟩ := lookup_of_mem (hids ▸ hlive c (mem_dedupe.1 hc))
    simp only [hn]
    rfl
  have hcontains : (dedupe childIds).contains parent.id = false := by simpa using hnot
  simp only [updateChildren, lookup_eq_ok.2 hfind', ok_bind, hreq, hcontains, Bool.false_eq_true,
    if_false]
  have hnone : action = .add ∨ action = .replace →
      ((dedupe childIds).filter fun c => !parent'.children.has c) = [] := by
    intro hact
    rw [filter_not_has, List.filter_eq_nil_iff, hch']
    intro c hc
    simpa using Action.mem_apply_of_mem hact hc
  rcases hcases with ⟨rfl, -, -⟩ | ⟨rfl, -⟩ | ⟨rfl, -, -⟩
  · -- add: nothing is new, so nothing is linked
    rw [hnone (.inl rfl)]
    rfl
  · -- remove: no requested id is a child now
    have hgone : (dedupe childIds).filter parent'.children.has = [] := by
      rw [List.filter_eq_nil_iff]
      intro c hc
      simp [IdSet.has_eq_decide, hch', Action.apply, mem_dedupe.1 hc]
    have hfold : (dedupe childIds).foldl
        (fun g c => if parent'.children.has c then g.unlink parent.id c else g) g' =
        ((dedupe childIds).filter parent'.children.has).foldl
          (fun g c => g.unlink parent.id c) g' :=
      List.foldl_filter.symm
    rw [hfold, hgone]
    rfl
  · -- replace: the children are the requested ids, in the requested order
    have hkeep : (parent'.children.toList.filter fun c => !(dedupe childIds).contains c) = [] := by
      rw [List.filter_eq_nil_iff, hch']
      intro c hc
      simp [Action.apply] at hc
      simp [hc]
    rw [hkeep, hnone (.inr rfl)]
    refine congrArg Except.ok (modify_of_fixed fun n hn hid => ?_)
    have hn' : n = parent' := (find?_eq_some_iff hwf'.ids_nodup).1 hfind' |>.1 |>
      fun hp => eq_of_id_eq hwf'.ids_nodup hn hp (hid.trans ((find?_eq_some hfind').2).symm)
    subst hn'
    have hreorder : n.children.reorder (dedupe childIds) = n.children :=
      IdSet.ext_toList (by rw [hch']; rfl)
    rw [hreorder]

/-! ## A delete -/

theorem deleteCascade_nodes {g g' : Graph} (h : g.WellFormed) {id : PartId}
    (hd : g.deleteCascade id = .ok g') :
    g'.nodes = (g.nodes.filter (·.id != id)).map fun n =>
      { n with children := ⟨n.children.toList.erase id⟩, parents := ⟨n.parents.toList.erase id⟩ } := by
  obtain ⟨n, hfind, hdel⟩ := deleteCascade_eq_ok hd
  obtain ⟨hn, rfl⟩ := find?_eq_some hfind
  have hwf1 : (n.parents.toList.foldl (fun g p => g.unlink p n.id) g).WellFormed :=
    List.foldlRecOn _ _ h fun g hg p _ => hg.unlink _ _
  have h1 := foldl_unlink_nodes (fun p => (p, n.id)) n.parents.toList h.children_nodup
    h.parents_nodup
  have h2 := foldl_unlink_nodes (fun c => (n.id, c)) n.children.toList hwf1.children_nodup
    hwf1.parents_nodup
  obtain ⟨-, -, rfl⟩ := delete_eq_ok.1 hdel
  simp only at h1 h2 ⊢
  rw [erase_nodes, h2, h1, List.map_map, List.filter_map]
  refine List.map_congr_left fun m hm => ?_
  obtain ⟨hm, hne⟩ := List.mem_filter.1 hm
  have hne : m.id ≠ n.id := by simpa using hne
  simp only [Function.comp_apply]
  congr 2
  · -- `id` is among the children of `m` exactly when `m` is among its parents
    rw [List.filter_filter, (h.children_nodup m hm).erase_eq_filter]
    refine List.filter_congr fun c hc => ?_
    by_cases hcn : c = n.id
    · subst hcn
      have hp : m.id ∈ n.parents.toList := (h.mirror m hm n hn).1 hc
      simp [hp]
    · simp [hcn, Ne.symm hcn, Ne.symm hne]
  · rw [List.filter_filter, (h.parents_nodup m hm).erase_eq_filter]
    refine List.filter_congr fun p hp => ?_
    by_cases hpn : p = n.id
    · subst hpn
      have hc : m.id ∈ n.children.toList := (h.mirror n hn m hm).2 hp
      simp [hc]
    · simp [hpn, Ne.symm hpn, Ne.symm hne]

/-- The parts after a delete, in order: the others, each with the part struck out. -/
theorem deleteCascade_list {g g' : Graph} (h : g.WellFormed) {id : PartId}
    (hd : g.deleteCascade id = .ok g') :
    g'.list = (g.list.filter (·.id != id)).map (Part.strike id) := by
  rw [list, list, deleteCascade_nodes h hd, List.map_map, List.filter_map, List.map_map]
  rfl

theorem deleteCascade_get_of_ne {g g' : Graph} (h : g.WellFormed) {id : PartId}
    (hd : g.deleteCascade id = .ok g') {q : PartId} (hq : q ≠ id) :
    g'.get q = (g.get q).map (Part.strike id) := by
  let g0 : Graph := { g with nodes := g.nodes.filter (·.id != id) }
  have hfind0 : g0.find? q = g.find? q := by
    simp only [g0, find?, List.find?_filter]
    refine List.find?_congr fun n _ => ?_
    by_cases hnq : n.id = q
    · simp [hnq, hq]
    · simp [hnq]
  have hget := get_map_nodes (g := g0) (F := Part.strike id) (deleteCascade_nodes h hd)
    (fun _ => rfl) (fun _ => rfl) q
  rw [hget]
  unfold get lookup
  rw [hfind0]

end Graph

end BillOfMaterials
