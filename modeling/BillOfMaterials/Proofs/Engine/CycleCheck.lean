import Mathlib
import BillOfMaterials.Proofs.Engine.Invariant

/-!
# The cycle check is exact

Before an update writes the new edges from a part `p`, `Graph.validateAdditions` searches from
each new child for a way back to `p`, over the graph joined with the new edges of the batch
accepted so far. It refuses exactly the updates whose graph would have a cycle.

* `reaches_spec`: on a consistent graph the search answers, and answers whether the target is
  reachable;
* `reflTransGen_into`: a path into a node can end at its first visit, so it needs no step that
  leaves that node. The pending edges all leave `p`, so they never help to reach `p`
  (`reflTransGen_pending_iff`), and the batch check is the check of each new edge alone against
  the graph before the update (`validateAdditions_go_eq_ok`, `validateAdditions_go_eq_error`);
* `Graph.withChildren`: the edges of a graph once the children of one part are replaced, and
  `Action.apply` the children an action leaves; `cycle_withChildren_iff`: when every new child
  is live and the old children are kept or dropped, the result has a cycle exactly when a new
  child has the part below it (`Graph.ClosesCycle`);
* `updateChildren_cycle_exact`: on every engine that calls reach, an `add` or a `replace` of live
  children fails with a cycle exactly when the graph it would produce has one, and then names the
  first requested child that closes a cycle; otherwise it succeeds. So checking the additions of
  a `replace` before its removals neither lets a cycle through nor refuses an acyclic result.
-/

namespace BillOfMaterials

/-- The children a part has after an action on the requested ids, when it had `current`: `add`
appends the requested ids that are new, `remove` drops the requested ones, `replace` takes the
request as it is; an unknown action changes nothing. -/
def Action.apply : Action → List PartId → List PartId → List PartId
  | .add, current, requested => current ++ requested.filter (· ∉ current)
  | .remove, current, requested => current.filter (· ∉ requested)
  | .replace, _, requested => requested
  | .unknown _, current, _ => current

theorem Action.mem_apply_of_mem {action : Action} (hact : action = .add ∨ action = .replace)
    {current requested : List PartId} {c : PartId} (hc : c ∈ requested) :
    c ∈ action.apply current requested := by
  rcases hact with rfl | rfl
  · by_cases hcur : c ∈ current
    · exact List.mem_append_left _ hcur
    · exact List.mem_append_right _ (List.mem_filter.2 ⟨hc, decide_eq_true hcur⟩)
  · exact hc

namespace Graph

/-- The children of a part; none for an id that is not live. -/
def childrenOf (g : Graph) (id : PartId) : List PartId :=
  ((g.find? id).map (·.children.toList)).getD []

/-- The edges of `g` once the children of `id` are `children`; every other edge is kept. -/
def withChildren (g : Graph) (id : PartId) (children : List PartId) (p c : PartId) : Prop :=
  if p = id then c ∈ children else g.Edge p c

/-- A requested child `a` closes a cycle under `id` when it is not yet a child of `id` and has
`id` below it. -/
def ClosesCycle (g : Graph) (id a : PartId) : Prop := ¬ g.Edge id a ∧ g.Path a id

theorem Consistent.edge_iff_mem_childrenOf {g : Graph} (h : g.Consistent) {id c : PartId} :
    g.Edge id c ↔ c ∈ g.childrenOf id := by
  cases hf : g.find? id with
  | none =>
    simp only [childrenOf, hf, Option.map_none, Option.getD_none, List.not_mem_nil, iff_false]
    exact fun he => find?_eq_none.1 hf (h.edge_live he).1
  | some n =>
    obtain ⟨hn, rfl⟩ := find?_eq_some hf
    simp only [childrenOf, hf, Option.map_some, Option.getD_some]
    exact h.edge_iff_mem_children hn

theorem exists_first {P : PartId → Prop} :
    ∀ {l : List PartId}, (∃ a ∈ l, P a) →
      ∃ pre a post, l = pre ++ a :: post ∧ P a ∧ ∀ b ∈ pre, ¬ P b
  | [], ⟨_, ha, _⟩ => absurd ha List.not_mem_nil
  | x :: l, ⟨a, ha, hPa⟩ => by
    by_cases hx : P x
    · exact ⟨[], x, l, rfl, hx, by simp⟩
    · have hl : ∃ a ∈ l, P a := by
        rcases List.mem_cons.1 ha with rfl | ha
        · exact absurd hPa hx
        · exact ⟨a, ha, hPa⟩
      obtain ⟨pre, b, post, rfl, hb, hpre⟩ := exists_first hl
      refine ⟨x :: pre, b, post, rfl, hb, fun y hy => ?_⟩
      rcases List.mem_cons.1 hy with rfl | hy
      · exact hx
      · exact hpre y hy

/-! ## The search answers whether the target is reachable -/

section Search

variable {g : Graph} {target : PartId} {pending : PartId → List PartId}

/-- On a consistent graph, a search from a live id whose pending edges lead to live ids answers,
and answers whether the target is reachable. -/
theorem reaches_spec (h : g.Consistent) {start : PartId} (hstart : start ∈ g.ids)
    (hsucc : ∀ x ∈ g.ids, ∀ y ∈ pending x, y ∈ g.ids) :
    ∃ b, g.reaches start target pending = .ok b ∧
      (b = true ↔ Relation.ReflTransGen (g.SearchStep pending) start target) :=
  reaches_eq_ok_of_live h.ids_nodup fun _ hx =>
    mem_of_closed (live_closed hsucc h.children_live) hstart hx

end Search

/-! ## Paths into a part -/

/-- A path into `t` can end at its first visit to `t`, so it needs only the steps that leave
nodes other than `t`. -/
theorem reflTransGen_into {α : Type} {r r' : α → α → Prop} {t : α}
    (hr : ∀ x y, x ≠ t → r x y → r' x y) {x : α} (hx : Relation.ReflTransGen r x t) :
    Relation.ReflTransGen r' x t := by
  induction hx using Relation.ReflTransGen.head_induction_on with
  | refl => exact .refl
  | @head x y hxy _ ih =>
    by_cases hxt : x = t
    · subst hxt
      exact .refl
    · exact .head (hr x y hxt hxy) ih

/-- The edges of a batch all leave the parent, so they never help to reach it. -/
theorem reflTransGen_pending_iff {g : Graph} {parent : PartId} {accepted : List PartId}
    {x : PartId} :
    Relation.ReflTransGen (g.SearchStep fun id => if id == parent then accepted else []) x
        parent ↔ Relation.ReflTransGen g.Edge x parent := by
  constructor
  · refine reflTransGen_into fun a b ha hab => ?_
    rcases hab with he | hp
    · exact he
    · simp [ha] at hp
  · exact fun hr => Relation.ReflTransGen.mono (fun a b hab => Or.inl hab) _ _ hr

/-! ## The check of a batch is the check of each edge alone -/

section Batch

variable {g : Graph} {parent : PartId}

theorem validateAdditions_go_cons (h : g.Consistent) {c : PartId} (hc : c ∈ g.ids)
    {cs accepted : List PartId} (hacc : ∀ x ∈ accepted, x ∈ g.ids) :
    (Relation.ReflTransGen g.Edge c parent →
      validateAdditions.go g parent (c :: cs) accepted =
        .error (.cycle parent.toString c.toString)) ∧
    (¬ Relation.ReflTransGen g.Edge c parent →
      validateAdditions.go g parent (c :: cs) accepted =
        validateAdditions.go g parent cs (accepted ++ [c])) := by
  obtain ⟨b, hb, hbr⟩ := @reaches_spec g parent _ h c hc (pending_live parent hacc)
  rw [reflTransGen_pending_iff] at hbr
  have hgo : validateAdditions.go g parent (c :: cs) accepted =
      if b then .error (.cycle parent.toString c.toString)
      else validateAdditions.go g parent cs (accepted ++ [c]) := by
    simp only [validateAdditions.go, bind, Except.bind, hb]
    cases b <;> rfl
  rw [hgo]
  cases b with
  | false => exact ⟨fun hr => absurd (hbr.2 hr) Bool.false_ne_true, fun _ => rfl⟩
  | true => exact ⟨fun _ => rfl, fun hr => absurd (hbr.1 rfl) hr⟩

/-- The check of a batch of live children passes when the parent is reachable from none of
them. -/
theorem validateAdditions_go_eq_ok (h : g.Consistent) (cs : List PartId) :
    ∀ accepted : List PartId, (∀ c ∈ cs, c ∈ g.ids) → (∀ c ∈ accepted, c ∈ g.ids) →
      (∀ c ∈ cs, ¬ Relation.ReflTransGen g.Edge c parent) →
      validateAdditions.go g parent cs accepted = .ok () := by
  induction cs with
  | nil => intro _ _ _ _; rfl
  | cons c cs ih =>
    intro accepted hcs hacc hnone
    have hc := hcs c List.mem_cons_self
    rw [(validateAdditions_go_cons h hc hacc).2 (hnone c List.mem_cons_self)]
    exact ih (accepted ++ [c]) (fun x hx => hcs x (List.mem_cons_of_mem _ hx))
      (accepted_append_live hacc hc) (fun x hx => hnone x (List.mem_cons_of_mem _ hx))

/-- The check of a batch of live children names the first child from which the parent is
reachable. -/
theorem validateAdditions_go_eq_error (h : g.Consistent) (pre : List PartId) {c : PartId}
    {post : List PartId} :
    ∀ accepted : List PartId, (∀ x ∈ pre ++ c :: post, x ∈ g.ids) → (∀ x ∈ accepted, x ∈ g.ids) →
      (∀ x ∈ pre, ¬ Relation.ReflTransGen g.Edge x parent) →
      Relation.ReflTransGen g.Edge c parent →
      validateAdditions.go g parent (pre ++ c :: post) accepted =
        .error (.cycle parent.toString c.toString) := by
  induction pre with
  | nil =>
    intro accepted hcs hacc _ hc
    exact (validateAdditions_go_cons h (hcs c (by simp)) hacc).1 hc
  | cons x pre ih =>
    intro accepted hcs hacc hpre hc
    have hx := hcs x List.mem_cons_self
    rw [List.cons_append, (validateAdditions_go_cons h hx hacc).2 (hpre x List.mem_cons_self)]
    exact ih (accepted ++ [x]) (fun y hy => hcs y (List.mem_cons_of_mem _ hy))
      (accepted_append_live hacc hx) (fun y hy => hpre y (List.mem_cons_of_mem _ hy)) hc

end Batch

/-! ## The graph an update would produce -/

section Produced

variable {g : Graph} {id : PartId} {children : List PartId}

theorem withChildren_path {x y : PartId}
    (hxy : Relation.ReflTransGen (g.withChildren id children) x y) :
    Relation.ReflTransGen g.Edge x y ∨
      Relation.ReflTransGen (g.withChildren id children) x id ∧
        ∃ a ∈ children, Relation.ReflTransGen g.Edge a y := by
  induction hxy with
  | refl => exact .inl .refl
  | @tail b c hxb hbc ih =>
    unfold withChildren at hbc
    split at hbc
    · rename_i hb
      subst hb
      exact .inr ⟨hxb, c, hbc, .refl⟩
    · rcases ih with ih | ⟨hxid, a, ha, hab⟩
      · exact .inl (ih.tail hbc)
      · exact .inr ⟨hxid, a, ha, hab.tail hbc⟩

theorem withChildren_of_edge {p c : PartId} (hp : p ≠ id) (he : g.Edge p c) :
    g.withChildren id children p c := by
  unfold withChildren
  rw [if_neg hp]
  exact he

theorem exists_child_reach_of_cycle (hg : g.Acyclic) {x : PartId}
    (hx : Relation.TransGen (g.withChildren id children) x x) :
    ∃ a ∈ children, Relation.ReflTransGen g.Edge a id := by
  obtain ⟨z, hxz, hzx⟩ := Relation.TransGen.tail'_iff.1 hx
  unfold withChildren at hzx
  split at hzx
  · -- the cycle ends with a new edge of `id`
    rename_i hz
    subst hz
    rcases withChildren_path hxz with hxz | ⟨_, a, ha, haz⟩
    · exact ⟨x, hzx, hxz⟩
    · exact ⟨a, ha, haz⟩
  · -- an old edge ends it, so the rest of the cycle must take a new edge
    rcases withChildren_path hxz with hxz | ⟨hxid, a, ha, haz⟩
    · exact absurd (Relation.TransGen.tail' hxz hzx) (hg x)
    · rcases withChildren_path hxid with hxid' | ⟨_, a', ha', ha'id⟩
      · exact ⟨a, ha, (haz.tail hzx).trans hxid'⟩
      · exact ⟨a', ha', ha'id⟩

/-- Replacing the children of `id` by old children and live requested ones, `id` not among
them, closes a cycle exactly when a requested child that is not yet a child has `id` below it. -/
theorem cycle_withChildren_iff (hg : g.Acyclic) {requested : List PartId}
    (hT : ∀ c ∈ children, g.Edge id c ∨ c ∈ requested) (hreq : ∀ c ∈ requested, c ∈ children)
    (hid : id ∉ children) :
    (∃ x, Relation.TransGen (g.withChildren id children) x x) ↔
      ∃ a ∈ requested, g.ClosesCycle id a := by
  constructor
  · rintro ⟨x, hx⟩
    obtain ⟨a, ha, haid⟩ := exists_child_reach_of_cycle hg hx
    have hne : a ≠ id := fun e => hid (e ▸ ha)
    have hpath : g.Path a id := by
      rcases Relation.ReflTransGen.cases_head haid with e | ⟨b, hab, hbid⟩
      · exact absurd e hne
      · exact Relation.TransGen.head' hab hbid
    rcases hT a ha with hedge | hreq'
    · -- an old child with `id` below it would already be a cycle
      exact absurd (Relation.TransGen.head hedge hpath) (hg id)
    · exact ⟨a, hreq', fun hedge => hg id (Relation.TransGen.head hedge hpath), hpath⟩
  · rintro ⟨a, ha, -, hpath⟩
    have hida : g.withChildren id children id a := by
      unfold withChildren
      rw [if_pos rfl]
      exact hreq a ha
    refine ⟨id, Relation.TransGen.head' hida ?_⟩
    exact reflTransGen_into (fun x y hx he => withChildren_of_edge hx he)
      hpath.to_reflTransGen

end Produced

/-! ## What an update of children does on a well-formed graph -/

section Update

variable {g : Graph} {parent : Node} {action : Action} {childIds : List PartId}

/-- With the part and every requested child live and the part not among them, an `add` or a
`replace` on a well-formed graph fails where its check of the new edges fails, and succeeds
where the check passes. -/
theorem updateChildren_of_validate (h : g.WellFormed) (hparent : parent ∈ g.nodes)
    (hact : action = .add ∨ action = .replace) (hlive : ∀ c ∈ dedupe childIds, c ∈ g.ids)
    (hself : parent.id ∉ dedupe childIds) :
    let additions := (dedupe childIds).filter fun c => !parent.children.has c
    (∀ f, g.validateAdditions parent.id additions = .error f →
      g.updateChildren parent.id action childIds = .error f) ∧
    (g.validateAdditions parent.id additions = .ok () →
      ∃ g', g.updateChildren parent.id action childIds = .ok g') := by
  intro additions
  have hfind : g.lookup parent.id = .ok parent :=
    lookup_eq_ok.2 ((find?_eq_some_iff h.ids_nodup).2 ⟨hparent, rfl⟩)
  have hreq : (dedupe childIds).forM (fun c => do let _ ← g.lookup c) = .ok () := by
    refine forM_eq_ok.2 fun c hc => ?_
    obtain ⟨n, hn⟩ := lookup_of_mem (hlive c hc)
    simp only [hn]
    rfl
  have hcontains : (dedupe childIds).contains parent.id = false := by simpa using hself
  have hremovals : g.checkLive "dangling child reference"
      (parent.children.toList.filter fun c => !(dedupe childIds).contains c) = .ok () :=
    checkLive_eq_ok fun c hc => h.children_live parent hparent c (List.mem_filter.1 hc).1
  rcases hact with rfl | rfl
  · constructor
    · intro f hv
      simp only [updateChildren, hfind, hreq, hcontains, ok_bind, Bool.false_eq_true, if_false]
      rw [hv]
      rfl
    · intro hv
      simp only [updateChildren, hfind, hreq, hcontains, ok_bind, Bool.false_eq_true, if_false]
      rw [hv]
      exact ⟨_, rfl⟩
  · constructor
    · intro f hv
      simp only [updateChildren, hfind, hreq, hcontains, hremovals, ok_bind,
        Bool.false_eq_true, if_false]
      rw [hv]
      rfl
    · intro hv
      simp only [updateChildren, hfind, hreq, hcontains, hremovals, ok_bind,
        Bool.false_eq_true, if_false]
      rw [hv]
      exact ⟨_, rfl⟩

theorem closesCycle_iff (h : g.Consistent) (hparent : parent ∈ g.nodes) {a : PartId}
    (hne : a ≠ parent.id) :
    g.ClosesCycle parent.id a ↔
      (!parent.children.has a) = true ∧ Relation.ReflTransGen g.Edge a parent.id := by
  have hnew : (!parent.children.has a) = true ↔ a ∉ parent.children.toList := by
    simp [IdSet.has]
  rw [ClosesCycle, h.edge_iff_mem_children hparent, Relation.reflTransGen_iff_eq_or_transGen,
    hnew, Path]
  constructor
  · rintro ⟨hc, hp⟩
    exact ⟨hc, .inr hp⟩
  · rintro ⟨hc, e | hp⟩
    · exact absurd e.symm hne
    · exact ⟨hc, hp⟩

theorem updateChildren_eq_cycle (h : g.WellFormed) (hparent : parent ∈ g.nodes)
    (hact : action = .add ∨ action = .replace) (hlive : ∀ c ∈ dedupe childIds, c ∈ g.ids)
    (hself : parent.id ∉ dedupe childIds) {pre : List PartId} {a : PartId} {post : List PartId}
    (hsplit : dedupe childIds = pre ++ a :: post) (ha : g.ClosesCycle parent.id a)
    (hpre : ∀ b ∈ pre, ¬ g.ClosesCycle parent.id b) :
    g.updateChildren parent.id action childIds =
      .error (.cycle parent.id.toString a.toString) := by
  have hmem : ∀ x ∈ pre ++ a :: post, x ∈ dedupe childIds := fun x hx => hsplit ▸ hx
  have hne : ∀ x ∈ pre ++ a :: post, x ≠ parent.id := fun x hx e => hself (e ▸ hmem x hx)
  have ha' := (closesCycle_iff h.toConsistent hparent (hne a (by simp))).1 ha
  refine (updateChildren_of_validate h hparent hact hlive hself).1 _ ?_
  have hadd : (dedupe childIds).filter (fun c => !parent.children.has c) =
      pre.filter (fun c => !parent.children.has c) ++
        a :: post.filter (fun c => !parent.children.has c) := by
    simp only [hsplit, List.filter_append, List.filter_cons, ha'.1, if_true]
  rw [validateAdditions, hadd]
  refine validateAdditions_go_eq_error h.toConsistent _ [] (fun x hx => ?_) (by simp)
    (fun x hx => ?_) ha'.2
  · simp only [List.mem_append, List.mem_filter, List.mem_cons] at hx
    apply hlive x
    rw [hsplit]
    simp only [List.mem_append, List.mem_cons]
    tauto
  · obtain ⟨hx, hnew⟩ := List.mem_filter.1 hx
    exact fun hr => hpre x hx ((closesCycle_iff h.toConsistent hparent
      (hne x (List.mem_append_left _ hx))).2 ⟨hnew, hr⟩)

theorem updateChildren_ok_of_no_cycle (h : g.WellFormed) (hparent : parent ∈ g.nodes)
    (hact : action = .add ∨ action = .replace) (hlive : ∀ c ∈ dedupe childIds, c ∈ g.ids)
    (hself : parent.id ∉ dedupe childIds)
    (hnone : ∀ a ∈ dedupe childIds, ¬ g.ClosesCycle parent.id a) :
    ∃ g', g.updateChildren parent.id action childIds = .ok g' := by
  refine (updateChildren_of_validate h hparent hact hlive hself).2 ?_
  refine validateAdditions_go_eq_ok h.toConsistent _ [] (fun c hc => ?_) (by simp)
    (fun c hc hr => ?_)
  · exact hlive c (List.mem_filter.1 hc).1
  · obtain ⟨hc, hnew⟩ := List.mem_filter.1 hc
    exact hnone c hc ((closesCycle_iff h.toConsistent hparent
      (fun e => hself (e ▸ hc))).2 ⟨hnew, hr⟩)

theorem apply_children (h : g.WellFormed) (hact : action = .add ∨ action = .replace)
    {id : PartId} {requested : List PartId} (hself : id ∉ requested) :
    (∀ c ∈ action.apply (g.childrenOf id) requested, g.Edge id c ∨ c ∈ requested) ∧
      (∀ c ∈ requested, c ∈ action.apply (g.childrenOf id) requested) ∧
      id ∉ action.apply (g.childrenOf id) requested := by
  have hold : ∀ {c}, g.Edge id c ↔ c ∈ g.childrenOf id := h.toConsistent.edge_iff_mem_childrenOf
  refine ⟨?_, fun c hc => Action.mem_apply_of_mem hact hc, ?_⟩ <;> rcases hact with rfl | rfl
  · simp only [Action.apply, List.mem_append, List.mem_filter, decide_eq_true_eq]
    rintro c (hc | ⟨hc, -⟩)
    · exact .inl (hold.2 hc)
    · exact .inr hc
  · exact fun c hc => .inr hc
  · simp only [Action.apply, List.mem_append, List.mem_filter, decide_eq_true_eq]
    rintro (hc | ⟨hc, -⟩)
    · exact h.acyclic.not_edge_self id (hold.2 hc)
    · exact hself hc
  · exact hself

end Update

end Graph

namespace Engine

open BillOfMaterials.Graph

theorem updateChildren_of_graph {e : Engine} {id : PartId} (hid : id ∈ e.graph.ids)
    {action : Action} {childIds : List PartId} :
    (∀ f, e.graph.updateChildren id action childIds = .error f →
      e.updateChildren id action childIds = .error f) ∧
    (∀ g, e.graph.updateChildren id action childIds = .ok g →
      ∃ r, e.updateChildren id action childIds = .ok r) := by
  refine ⟨fun f hf => ?_, fun g hg => ?_⟩
  · simp only [Engine.updateChildren, hf]
    rfl
  · -- the part stays live, so reading it back succeeds
    obtain ⟨p, hp⟩ : ∃ p, g.get id = .ok p := by
      obtain ⟨n, hn⟩ := lookup_of_mem ((updateChildren_ids hg).symm ▸ hid)
      exact ⟨n.view, by simp only [Graph.get, hn]; rfl⟩
    exact ⟨(p, changed { e with graph := g }), by simp only [Engine.updateChildren, hg, ok_bind, hp]; rfl⟩

/-- The cycle check of an update is exact on every engine that calls reach. For an `add` or a
`replace` on a live part, of live children (repeats dropped) that do not include the part: the
update fails with a cycle exactly when the graph it would produce has a cycle, and exactly when
a requested child is not yet a child and has the part below it; the fault then names the part
and the first such child, and when there is none the update succeeds. -/
theorem updateChildren_cycle_exact (ids : IdStream) (cs : List Command) {id : PartId}
    {action : Action} {childIds : List PartId} :
    let e := ((fresh ids).runAll cs).2
    id ∈ e.graph.ids → (action = .add ∨ action = .replace) →
    (∀ c ∈ dedupe childIds, c ∈ e.graph.ids) → id ∉ dedupe childIds →
    ((∃ p c, e.updateChildren id action childIds = .error (.cycle p c)) ↔
        ∃ x, Relation.TransGen
          (e.graph.withChildren id (action.apply (e.graph.childrenOf id) (dedupe childIds))) x x) ∧
      ((∃ p c, e.updateChildren id action childIds = .error (.cycle p c)) ↔
        ∃ a ∈ dedupe childIds, e.graph.ClosesCycle id a) ∧
      (∀ pre a post, dedupe childIds = pre ++ a :: post → e.graph.ClosesCycle id a →
        (∀ b ∈ pre, ¬ e.graph.ClosesCycle id b) →
        e.updateChildren id action childIds = .error (.cycle id.toString a.toString)) ∧
      ((∀ a ∈ dedupe childIds, ¬ e.graph.ClosesCycle id a) →
        ∃ r, e.updateChildren id action childIds = .ok r) := by
  intro e hid hact hlive hself
  have h : e.graph.WellFormed := (runAll_fresh_wellFormed ids cs).1
  obtain ⟨parent, hparent, rfl⟩ := mem_ids.1 hid
  have hfirst : ∀ pre a post, dedupe childIds = pre ++ a :: post →
      e.graph.ClosesCycle parent.id a → (∀ b ∈ pre, ¬ e.graph.ClosesCycle parent.id b) →
      e.updateChildren parent.id action childIds =
        .error (.cycle parent.id.toString a.toString) :=
    fun pre a post hsplit ha hpre => (updateChildren_of_graph hid).1 _
      (updateChildren_eq_cycle h hparent hact hlive hself hsplit ha hpre)
  have hnone : (∀ a ∈ dedupe childIds, ¬ e.graph.ClosesCycle parent.id a) →
      ∃ r, e.updateChildren parent.id action childIds = .ok r := fun hn => by
    obtain ⟨g, hg⟩ := updateChildren_ok_of_no_cycle h hparent hact hlive hself hn
    exact (updateChildren_of_graph hid).2 g hg
  have hiff : (∃ p c, e.updateChildren parent.id action childIds = .error (.cycle p c)) ↔
      ∃ a ∈ dedupe childIds, e.graph.ClosesCycle parent.id a := by
    constructor
    · rintro ⟨p, c, hpc⟩
      by_contra hno
      obtain ⟨r, hr⟩ := hnone fun a ha hca => hno ⟨a, ha, hca⟩
      rw [hr] at hpc
      cases hpc
    · intro hex
      obtain ⟨pre, a, post, hsplit, ha, hpre⟩ := exists_first hex
      exact ⟨_, _, hfirst pre a post hsplit ha hpre⟩
  obtain ⟨hT, hreq, hnot⟩ := apply_children h hact hself
  exact ⟨hiff.trans (cycle_withChildren_iff h.acyclic hT hreq hnot).symm, hiff, hfirst, hnone⟩

/-- The exact cycle check applies to an engine with parts `a` and `b`, `b` a child of `a`, when
`a` is added below `b`. -/
theorem updateChildren_cycle_exact_below_child :
    let e := ((fresh {}).runAll [.create "a", .create "b",
      .update (IdStream.ofSerial 1).toString .add [(IdStream.ofSerial 2).toString]]).2
    let id := IdStream.ofSerial 2
    let childIds := [IdStream.ofSerial 1]
    (id ∈ e.graph.ids ∧ (Action.add = .add ∨ Action.add = .replace) ∧
      (∀ c ∈ dedupe childIds, c ∈ e.graph.ids) ∧ id ∉ dedupe childIds) ∧
    (((∃ p c, e.updateChildren id .add childIds = .error (.cycle p c)) ↔
        ∃ x, Relation.TransGen
          (e.graph.withChildren id (Action.add.apply (e.graph.childrenOf id) (dedupe childIds))) x x) ∧
      ((∃ p c, e.updateChildren id .add childIds = .error (.cycle p c)) ↔
        ∃ a ∈ dedupe childIds, e.graph.ClosesCycle id a) ∧
      (∀ pre a post, dedupe childIds = pre ++ a :: post → e.graph.ClosesCycle id a →
        (∀ b ∈ pre, ¬ e.graph.ClosesCycle id b) →
        e.updateChildren id .add childIds = .error (.cycle id.toString a.toString)) ∧
      ((∀ a ∈ dedupe childIds, ¬ e.graph.ClosesCycle id a) →
        ∃ r, e.updateChildren id .add childIds = .ok r)) := by
  intro e id childIds
  have hids : e.graph.ids = [IdStream.ofSerial 1, IdStream.ofSerial 2] := by
    simp only [e]
    cbv
  have hdedupe : dedupe childIds = [IdStream.ofSerial 1] := by decide
  have hid : id ∈ e.graph.ids := by
    rw [hids]
    decide
  have hlive : ∀ c ∈ dedupe childIds, c ∈ e.graph.ids := by
    rw [hids, hdedupe]
    decide
  have hself : id ∉ dedupe childIds := by
    rw [hdedupe]
    decide
  exact ⟨⟨hid, .inl rfl, hlive, hself⟩, updateChildren_cycle_exact {}
    [.create "a", .create "b",
      .update (IdStream.ofSerial 1).toString .add [(IdStream.ofSerial 2).toString]]
    hid (.inl rfl) hlive hself⟩

end Engine

end BillOfMaterials
