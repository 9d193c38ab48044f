import BillOfMaterials.Proofs.Graph.WellFormed

/-!
# The cycle check

Before a batch of new edges from `parent` is written, each new child `c` is searched for a way
back to `parent`, over the children edges and the edges of the batch accepted so far
(`Graph.reaches`). The search is a depth-first walk that expands each live id once.

* `reachesFrom_eq_ok_false_closed`: when the search answers `false`, the ids it expanded are
  live, closed under its steps and without the target: every expanded id has each of its
  successors expanded or still on the stack, and the target is never expanded. So the target is
  reachable from no id on the stack (`reachesFrom_eq_ok_false`), and every id reachable from one
  is live;
* `reachesFrom_eq_ok_true`: when it answers `true`, the target is reachable from the start;
* `reachesFrom_eq_error`: it fails only on an id that is not live, met on a way from the stack;
  so over live ids whose successors are live it answers (`reachesFrom_ok`);
* `reaches_answer`: from one start, it answers whether the target is reachable when every id
  reachable is live, and otherwise it finds the target or fails, never answering `false`;
* `validateAdditions_acyclic`: a batch the check accepts keeps the graph acyclic once linked,
  since each child is searched over the graph with the children accepted before it linked
  (`searchStep_accepted`);
* `validateAdditions_error`: on live children the check fails only by naming a cycle.
-/

namespace BillOfMaterials

namespace Graph

/-- One step of the search: a child, or an edge not yet written. -/
def SearchStep (g : Graph) (pending : PartId → List PartId) (a b : PartId) : Prop :=
  g.Edge a b ∨ b ∈ pending a

section Search

variable {g : Graph} {target : PartId} {pending : PartId → List PartId}

/-- The ids the search has expanded: live, and no longer waiting. -/
def Expanded (g : Graph) (unvisited : List PartId) (x : PartId) : Prop :=
  x ∈ g.ids ∧ x ∉ unvisited

theorem mem_of_closed {S : PartId → Prop} (hS : ∀ x, S x → ∀ y, g.SearchStep pending x y → S y)
    {x y : PartId} (hx : S x) (hr : Relation.ReflTransGen (g.SearchStep pending) x y) : S y := by
  induction hr with
  | refl => exact hx
  | tail _ hyz ih => exact hS _ ih _ hyz

theorem not_reach_of_closed {S : PartId → Prop} (hS : ∀ x, S x → ∀ y, g.SearchStep pending x y → S y)
    (ht : ¬ S target) {x : PartId} (hx : S x) : ¬ Relation.ReflTransGen (g.SearchStep pending) x target :=
  fun hr => ht (mem_of_closed hS hx hr)

theorem covered_of_pop {E E' : PartId → Prop} {cur : PartId} {rest rest' : List PartId}
    (hE : ∀ x, E x → E' x) (hcur : E' cur) (hrest : ∀ x ∈ rest, x ∈ rest') :
    ∀ x, E x ∨ x ∈ cur :: rest → E' x ∨ x ∈ rest' := by
  rintro x (hx | hx)
  · exact Or.inl (hE x hx)
  · rcases List.mem_cons.1 hx with rfl | hx
    · exact Or.inl hcur
    · exact Or.inr (hrest x hx)

/-- A search that answers `false` leaves behind the set of ids it expanded: live, without the
target, closed under the steps of the search, and holding every id that was expanded or on the
stack. -/
theorem reachesFrom_eq_ok_false_closed (hg : g.ids.Nodup) (unvisited stack : List PartId)
    (hnd : unvisited.Nodup) (hsub : ∀ x ∈ unvisited, x ∈ g.ids)
    (hclosed : ∀ x, Expanded g unvisited x → ∀ y, g.SearchStep pending x y →
      Expanded g unvisited y ∨ y ∈ stack)
    (ht : ¬ Expanded g unvisited target)
    (hres : g.reachesFrom target pending unvisited stack = .ok false) :
    ∃ S : PartId → Prop, (∀ x, S x → x ∈ g.ids) ∧ ¬ S target ∧
      (∀ x, S x → ∀ y, g.SearchStep pending x y → S y) ∧
      ∀ x, Expanded g unvisited x ∨ x ∈ stack → S x := by
  fun_induction g.reachesFrom target pending unvisited stack with
  | case1 unvisited =>
    refine ⟨Expanded g unvisited, fun x hx => hx.1, ht, fun x hx y hy => ?_, fun x hx => ?_⟩
    · simpa using hclosed x hx y hy
    · simpa using hx
  | case2 unvisited cur rest hcur =>
    cases hres
  | case3 unvisited cur rest hcur hmem n hn ih =>
    have hne : cur ≠ target := by simpa using hcur
    obtain ⟨hnm, hnid⟩ := find?_eq_some hn
    have hexp : ∀ x, Expanded g (unvisited.erase cur) x ↔ Expanded g unvisited x ∨ x = cur := by
      intro x
      simp only [Expanded, hnd.mem_erase_iff]
      by_cases hx : x = cur
      · subst hx; simp [hsub x hmem]
      · simp [hx]
    have hsucc : ∀ y, g.SearchStep pending cur y → y ∈ (n.children.toList ++ pending cur).reverse := by
      rintro y (⟨m, hm, hmid, hy⟩ | hy)
      · rw [eq_of_id_eq hg hm hnm (hmid.trans hnid.symm)] at hy
        simp [hy]
      · simp [hy]
    have hE : ∀ x, Expanded g unvisited x → Expanded g (unvisited.erase cur) x :=
      fun x hx => (hexp x).2 (Or.inl hx)
    have hcurE : Expanded g (unvisited.erase cur) cur := (hexp cur).2 (Or.inr rfl)
    obtain ⟨S, hSlive, hSt, hSclosed, hSsub⟩ := ih (hnd.erase cur)
      (fun x hx => hsub x (List.mem_of_mem_erase hx))
      (by
        intro x hx y hy
        rcases (hexp x).1 hx with hx | rfl
        · exact covered_of_pop hE hcurE (fun _ h => List.mem_append_right _ h) y (hclosed x hx y hy)
        · exact Or.inr (List.mem_append_left _ (hsucc y hy)))
      (fun h => ((hexp target).1 h).elim ht hne.symm) hres
    exact ⟨S, hSlive, hSt, hSclosed,
      fun x hx => hSsub x (covered_of_pop hE hcurE (fun _ h => List.mem_append_right _ h) x hx)⟩
  | case4 unvisited cur rest hcur hmem hn =>
    cases hres
  | case5 unvisited cur rest hcur hmem hlive ih =>
    have hcexp : Expanded g unvisited cur := ⟨isLive_eq_true.1 hlive, hmem⟩
    have hpop : ∀ x, Expanded g unvisited x ∨ x ∈ cur :: rest → Expanded g unvisited x ∨ x ∈ rest :=
      covered_of_pop (fun _ h => h) hcexp (fun _ h => h)
    obtain ⟨S, hSlive, hSt, hSclosed, hSsub⟩ :=
      ih hnd hsub (fun x hx y hy => hpop y (hclosed x hx y hy)) ht hres
    exact ⟨S, hSlive, hSt, hSclosed, fun x hx => hSsub x (hpop x hx)⟩
  | case6 unvisited cur rest hcur hmem hlive =>
    cases hres

theorem reachesFrom_eq_ok_false (hg : g.ids.Nodup) (unvisited stack : List PartId)
    (hnd : unvisited.Nodup) (hsub : ∀ x ∈ unvisited, x ∈ g.ids)
    (hclosed : ∀ x, Expanded g unvisited x → ∀ y, g.SearchStep pending x y →
      Expanded g unvisited y ∨ y ∈ stack)
    (ht : ¬ Expanded g unvisited target)
    (hres : g.reachesFrom target pending unvisited stack = .ok false) :
    ∀ x, Expanded g unvisited x ∨ x ∈ stack →
      ¬ Relation.ReflTransGen (g.SearchStep pending) x target := by
  obtain ⟨S, -, hSt, hSclosed, hSsub⟩ :=
    reachesFrom_eq_ok_false_closed hg unvisited stack hnd hsub hclosed ht hres
  exact fun x hx => not_reach_of_closed hSclosed hSt (hSsub x hx)

/-- A search that answers `true` met the target on its stack: when every id on the stack is
reachable from `start`, so is the target. -/
theorem reachesFrom_eq_ok_true {start : PartId} (unvisited stack : List PartId)
    (hstack : ∀ x ∈ stack, Relation.ReflTransGen (g.SearchStep pending) start x)
    (hres : g.reachesFrom target pending unvisited stack = .ok true) :
    Relation.ReflTransGen (g.SearchStep pending) start target := by
  fun_induction g.reachesFrom target pending unvisited stack with
  | case1 unvisited => cases hres
  | case2 unvisited cur rest hcur =>
    rw [← beq_iff_eq.1 hcur]
    exact hstack cur List.mem_cons_self
  | case3 unvisited cur rest hcur hmem n hn ih =>
    have hcur' := hstack cur List.mem_cons_self
    obtain ⟨hnm, rfl⟩ := find?_eq_some hn
    refine ih (fun x hx => ?_) hres
    simp only [List.mem_append, List.mem_reverse] at hx
    rcases hx with (hx | hx) | hx
    · exact hcur'.tail (.inl ⟨n, hnm, rfl, hx⟩)
    · exact hcur'.tail (.inr hx)
    · exact hstack x (List.mem_cons_of_mem _ hx)
  | case4 unvisited cur rest hcur hmem hn => cases hres
  | case5 unvisited cur rest hcur hmem hlive ih =>
    exact ih (fun x hx => hstack x (List.mem_cons_of_mem _ hx)) hres
  | case6 unvisited cur rest hcur hmem hlive => cases hres

/-- A search fails only on an id that is not live, and one that a set closed under the steps of
the search and holding the stack holds. -/
theorem reachesFrom_eq_error {P : PartId → Prop}
    (hP : ∀ x, P x → ∀ y, g.SearchStep pending x y → P y) (unvisited stack : List PartId)
    (hsub : ∀ x ∈ unvisited, x ∈ g.ids) (hstack : ∀ x ∈ stack, P x) {f : Fault}
    (hres : g.reachesFrom target pending unvisited stack = .error f) :
    ∃ x, f = danglingInCycleCheck x ∧ P x ∧ x ∉ g.ids := by
  fun_induction g.reachesFrom target pending unvisited stack with
  | case1 unvisited => cases hres
  | case2 unvisited cur rest hcur => cases hres
  | case3 unvisited cur rest hcur hmem n hn ih =>
    have hcur' := hstack cur List.mem_cons_self
    obtain ⟨hnm, rfl⟩ := find?_eq_some hn
    refine ih (fun x hx => hsub x (List.mem_of_mem_erase hx)) (fun x hx => ?_) hres
    simp only [List.mem_append, List.mem_reverse] at hx
    rcases hx with (hx | hx) | hx
    · exact hP _ hcur' x (.inl ⟨n, hnm, rfl, hx⟩)
    · exact hP _ hcur' x (.inr hx)
    · exact hstack x (List.mem_cons_of_mem _ hx)
  | case4 unvisited cur rest hcur hmem hn =>
    exact absurd (hsub cur hmem) (find?_eq_none.1 hn)
  | case5 unvisited cur rest hcur hmem hlive ih =>
    exact ih hsub (fun x hx => hstack x (List.mem_cons_of_mem _ hx)) hres
  | case6 unvisited cur rest hcur hmem hlive =>
    cases hres
    exact ⟨cur, rfl, hstack cur List.mem_cons_self, by simpa using hlive⟩

theorem live_closed (hsucc : ∀ x ∈ g.ids, ∀ y ∈ pending x, y ∈ g.ids)
    (hchildren : ∀ n ∈ g.nodes, ∀ c ∈ n.children.toList, c ∈ g.ids) :
    ∀ x, x ∈ g.ids → ∀ y, g.SearchStep pending x y → y ∈ g.ids := by
  rintro x hx y (⟨n, hn, -, hy⟩ | hy)
  · exact hchildren n hn y hy
  · exact hsucc x hx y hy

/-- Over live ids whose successors are live, the search never meets a missing part. -/
theorem reachesFrom_ok (unvisited stack : List PartId) (hsub : ∀ x ∈ unvisited, x ∈ g.ids)
    (hstack : ∀ x ∈ stack, x ∈ g.ids) (hsucc : ∀ x ∈ g.ids, ∀ y ∈ pending x, y ∈ g.ids)
    (hchildren : ∀ n ∈ g.nodes, ∀ c ∈ n.children.toList, c ∈ g.ids) :
    ∃ b, g.reachesFrom target pending unvisited stack = .ok b := by
  cases h : g.reachesFrom target pending unvisited stack with
  | ok b => exact ⟨b, rfl⟩
  | error f =>
    obtain ⟨x, -, hx, hxl⟩ :=
      reachesFrom_eq_error (live_closed hsucc hchildren) unvisited stack hsub hstack h
    exact absurd hx hxl

theorem reaches_eq_ok_false (hg : g.ids.Nodup) {start : PartId}
    (hres : g.reaches start target pending = .ok false) :
    ¬ Relation.ReflTransGen (g.SearchStep pending) start target := by
  have hnone : ∀ x, ¬ Expanded g g.ids x := fun x hx => hx.2 hx.1
  exact reachesFrom_eq_ok_false hg g.ids [start] hg (fun _ hx => hx)
    (fun x hx => absurd hx (hnone x)) (hnone target) hres start (Or.inr List.mem_cons_self)

theorem reaches_ok {start : PartId} (hstart : start ∈ g.ids)
    (hsucc : ∀ x ∈ g.ids, ∀ y ∈ pending x, y ∈ g.ids)
    (hchildren : ∀ n ∈ g.nodes, ∀ c ∈ n.children.toList, c ∈ g.ids) :
    ∃ b, g.reaches start target pending = .ok b :=
  reachesFrom_ok g.ids [start] (fun _ hx => hx) (by simpa using hstart) hsucc hchildren

/-! ## What the search answers from one start -/

theorem reach_closed (start : PartId) :
    ∀ x, Relation.ReflTransGen (g.SearchStep pending) start x →
      ∀ y, g.SearchStep pending x y → Relation.ReflTransGen (g.SearchStep pending) start y :=
  fun _ hx _ hxy => hx.tail hxy

theorem reaches_eq_error {start : PartId} {f : Fault}
    (hres : g.reaches start target pending = .error f) :
    ∃ x, f = danglingInCycleCheck x ∧ Relation.ReflTransGen (g.SearchStep pending) start x ∧
      x ∉ g.ids :=
  reachesFrom_eq_error (reach_closed start) g.ids [start] (fun _ hx => hx)
    (fun _ hx => List.mem_singleton.1 hx ▸ .refl) hres

theorem reaches_eq_ok_of_live (hg : g.ids.Nodup) {start : PartId}
    (hlive : ∀ x, Relation.ReflTransGen (g.SearchStep pending) start x → x ∈ g.ids) :
    ∃ b, g.reaches start target pending = .ok b ∧
      (b = true ↔ Relation.ReflTransGen (g.SearchStep pending) start target) := by
  cases h : g.reaches start target pending with
  | error f =>
    obtain ⟨x, -, hx, hxl⟩ := reaches_eq_error h
    exact absurd (hlive x hx) hxl
  | ok b =>
    refine ⟨b, rfl, fun hb => ?_, fun hr => ?_⟩
    · subst hb
      exact reachesFrom_eq_ok_true g.ids [start] (fun _ hx => List.mem_singleton.1 hx ▸ .refl) h
    · cases b
      · exact absurd hr (reaches_eq_ok_false hg h)
      · rfl

theorem reaches_eq_ok_false_live (hg : g.ids.Nodup) {start : PartId}
    (hres : g.reaches start target pending = .ok false) :
    ∀ x, Relation.ReflTransGen (g.SearchStep pending) start x → x ∈ g.ids := by
  have hnone : ∀ x, ¬ Expanded g g.ids x := fun x hx => hx.2 hx.1
  obtain ⟨S, hSlive, -, hSclosed, hSsub⟩ := reachesFrom_eq_ok_false_closed hg g.ids [start] hg
    (fun _ hx => hx) (fun x hx => absurd hx (hnone x)) (hnone target) hres
  exact fun x hx => hSlive x (mem_of_closed hSclosed (hSsub start (.inr List.mem_cons_self)) hx)

/-- The search for `target` from `start`, over the children edges and the `pending` ones, on a
graph whose records have distinct ids, as those of a map from ids do. When every id reachable
from `start` is live, it answers, and answers whether `target` is reachable, in zero steps or
more. Otherwise it never answers `false`: it finds the target first, or fails on a reachable id
that is not live. Every fault it raises is such a failure, internal and naming the id. The
search ends on every input, since each step expands a live id not yet expanded or pops the stack
(the measure of `reachesFrom`). -/
theorem reaches_answer (hg : g.ids.Nodup) (start target : PartId) (pending : PartId → List PartId) :
    ((∀ x, Relation.ReflTransGen (g.SearchStep pending) start x → x ∈ g.ids) →
      ∃ b, g.reaches start target pending = .ok b ∧
        (b = true ↔ Relation.ReflTransGen (g.SearchStep pending) start target)) ∧
    ((∃ x, Relation.ReflTransGen (g.SearchStep pending) start x ∧ x ∉ g.ids) →
      g.reaches start target pending = .ok true ∨
        ∃ x, g.reaches start target pending = .error (danglingInCycleCheck x)) ∧
    (∀ f, g.reaches start target pending = .error f →
      ∃ x, f = danglingInCycleCheck x ∧ Relation.ReflTransGen (g.SearchStep pending) start x ∧
        x ∉ g.ids) := by
  refine ⟨reaches_eq_ok_of_live hg, fun ⟨x, hx, hxl⟩ => ?_, fun f h => reaches_eq_error h⟩
  cases h : g.reaches start target pending with
  | error f =>
    obtain ⟨y, rfl, -⟩ := reaches_eq_error h
    exact .inr ⟨y, rfl⟩
  | ok b =>
    cases b with
    | true => exact .inl rfl
    | false => exact absurd (reaches_eq_ok_false_live hg h x hx) hxl

/-- A search over a part `a` with children `b` and a part that is gone, `b` holding a third part
`c`, and `a` with a pending edge to `c`: from `a`, the gone part is reachable. -/
theorem reaches_answer_of_dangling_child :
    let a := IdStream.ofSerial 1
    let b := IdStream.ofSerial 2
    let c := IdStream.ofSerial 3
    let g : Graph := { nodes := [
      { id := a, name := "a", seq := 1, children := ⟨[b, IdStream.ofSerial 9]⟩ },
      { id := b, name := "b", seq := 2 },
      { id := c, name := "c", seq := 3 }], nextSeq := 3 }
    let pending : PartId → List PartId := fun id => if id == a then [c] else []
    g.ids.Nodup ∧
    ((∀ x, Relation.ReflTransGen (g.SearchStep pending) a x → x ∈ g.ids) →
      ∃ r, g.reaches a c pending = .ok r ∧
        (r = true ↔ Relation.ReflTransGen (g.SearchStep pending) a c)) ∧
    ((∃ x, Relation.ReflTransGen (g.SearchStep pending) a x ∧ x ∉ g.ids) →
      g.reaches a c pending = .ok true ∨
        ∃ x, g.reaches a c pending = .error (danglingInCycleCheck x)) ∧
    (∀ f, g.reaches a c pending = .error f →
      ∃ x, f = danglingInCycleCheck x ∧ Relation.ReflTransGen (g.SearchStep pending) a x ∧
        x ∉ g.ids) := by
  intro a b c g pending
  have hg : g.ids.Nodup := by decide
  exact ⟨hg, reaches_answer hg a c pending⟩

end Search

/-! ## Checking a batch of new edges -/

/-- The edges of the batch accepted so far, all from `parent`. -/
theorem searchStep_accepted {g : Graph} {parent : PartId} (hp : parent ∈ g.ids)
    (accepted : List PartId) {a b : PartId} :
    g.SearchStep (fun id => if id == parent then accepted else []) a b ↔
      (accepted.foldl (fun g c => g.link parent c) g).Edge a b := by
  rw [edge_foldl_link accepted hp, SearchStep]
  by_cases ha : a = parent
  · subst ha; simp
  · simp [ha]

theorem validateAdditions_go_acyclic {g : Graph} (h : g.Consistent) {parent : PartId}
    (hp : parent ∈ g.ids) :
    ∀ (cs accepted : List PartId), (accepted.foldl (fun g c => g.link parent c) g).Acyclic →
      validateAdditions.go g parent cs accepted = .ok () →
      ((accepted ++ cs).foldl (fun g c => g.link parent c) g).Acyclic := by
  intro cs
  induction cs with
  | nil => intro accepted hacc _; simpa using hacc
  | cons c cs ih =>
    intro accepted hacc hgo
    simp only [validateAdditions.go, bind, Except.bind] at hgo
    split at hgo
    · cases hgo
    · rename_i closes hreach
      cases closes
      · have hnot := reaches_eq_ok_false h.ids_nodup hreach
        have hnot' : ¬ Relation.ReflTransGen
            (accepted.foldl (fun g c => g.link parent c) g).Edge c parent := fun hr =>
          hnot (Relation.ReflTransGen.mono (fun a b hab => (searchStep_accepted hp accepted).2 hab) _ _ hr)
        have hlink := acyclic_link (by rw [ids_foldl_link]; exact hp) hacc hnot'
        have := ih (accepted ++ [c]) (by simpa using hlink) hgo
        simpa using this
      · simp at hgo

theorem validateAdditions_acyclic {g : Graph} (h : g.WellFormed) {parent : PartId}
    (hp : parent ∈ g.ids) {cs : List PartId} (hv : g.validateAdditions parent cs = .ok ()) :
    (cs.foldl (fun g c => g.link parent c) g).Acyclic := by
  simpa using validateAdditions_go_acyclic h.toConsistent hp cs [] h.acyclic hv

theorem pending_live {g : Graph} (parent : PartId) {accepted : List PartId}
    (hacc : ∀ y ∈ accepted, y ∈ g.ids) :
    ∀ x ∈ g.ids, ∀ y ∈ (if x == parent then accepted else []), y ∈ g.ids := by
  intro x _ y hy
  split at hy
  · exact hacc y hy
  · cases hy

theorem accepted_append_live {g : Graph} {accepted : List PartId}
    (hacc : ∀ x ∈ accepted, x ∈ g.ids) {c : PartId} (hc : c ∈ g.ids) :
    ∀ x ∈ accepted ++ [c], x ∈ g.ids := by
  intro x hx
  rcases List.mem_append.1 hx with hx | hx
  · exact hacc x hx
  · rw [List.mem_singleton.1 hx]
    exact hc

theorem validateAdditions_go_error {g : Graph} (h : g.Consistent) (parent : PartId) :
    ∀ (cs accepted : List PartId), (∀ c ∈ cs, c ∈ g.ids) → (∀ c ∈ accepted, c ∈ g.ids) →
      ∀ f, validateAdditions.go g parent cs accepted = .error f →
        ∃ c : PartId, f = .cycle parent.toString c.toString := by
  intro cs
  induction cs with
  | nil => intro accepted _ _ f hgo; cases hgo
  | cons c cs ih =>
    intro accepted hcs hacc f hgo
    obtain ⟨b, hb⟩ := @reaches_ok g parent _ c (hcs c List.mem_cons_self) (pending_live parent hacc)
      h.children_live
    simp only [validateAdditions.go, bind, Except.bind, hb] at hgo
    cases b
    · exact ih (accepted ++ [c]) (fun x hx => hcs x (List.mem_cons_of_mem _ hx))
        (accepted_append_live hacc (hcs c List.mem_cons_self)) f hgo
    · simp only [if_true] at hgo
      exact ⟨c, (Except.error.inj hgo).symm⟩

/-- The check of a batch of live children fails only by naming a cycle. -/
theorem validateAdditions_error {g : Graph} (h : g.Consistent) {parent : PartId} {cs : List PartId} (hcs : ∀ c ∈ cs, c ∈ g.ids) {f : Fault}
    (hv : g.validateAdditions parent cs = .error f) : ∃ c : PartId, f = .cycle parent.toString c.toString :=
  validateAdditions_go_error h parent cs [] hcs (by simp) f hv

end Graph

end BillOfMaterials
