import BillOfMaterials.Proofs.Graph.Accept
import BillOfMaterials.Proofs.Engine.Invariant

/-!
# The order of a breadth-first walk

`Graph.contained` and `Graph.descendants` walk breadth first from a part. What they find is said
by `walk_eq_ok`: each part reached, once, never the start. This module says in which order.

* `Graph.BreadthFirst`: the ids found are those that occur when the lists of the start, and then
  of each id found in turn, are read one after another, without repeats and leaving out the
  start. A walk that succeeds finds them so (`walk_breadthFirst`); what it has read so far is
  kept by `ScanInv`, step by step beside `WalkInv`.
* `BreadthFirst.nearer_first`: from that order alone, a part found before another is reached in
  no more steps (`StepsTo` counts them).
-/

namespace BillOfMaterials

theorem prefix_eq_of_nodup {α : Type} {A B C D : List α} {y : α} (h : (A ++ y :: B).Nodup)
    (e : A ++ y :: B = C ++ y :: D) : A = C := by
  induction A generalizing C with
  | nil =>
    cases C with
    | nil => rfl
    | cons c C =>
      simp only [List.nil_append, List.cons_append, List.cons.injEq] at e
      obtain ⟨rfl, rfl⟩ := e
      simp at h
  | cons a A ih =>
    cases C with
    | nil =>
      simp only [List.cons_append, List.nil_append, List.cons.injEq] at e
      obtain ⟨rfl, -⟩ := e
      simp at h
    | cons c C =>
      simp only [List.cons_append, List.cons.injEq] at e
      obtain ⟨rfl, e⟩ := e
      rw [ih (List.nodup_cons.1 h).2 e]

theorem dedupe_append (l₁ l₂ : List PartId) : ∃ t, dedupe (l₁ ++ l₂) = dedupe l₁ ++ t := by
  have hfold : ∀ (l acc : List PartId), ∃ t,
      l.foldl (fun acc id => if acc.contains id then acc else id :: acc) acc = t ++ acc := by
    intro l
    induction l with
    | nil => exact fun acc => ⟨[], rfl⟩
    | cons x l ih =>
      intro acc
      rw [List.foldl_cons]
      split
      · exact ih acc
      · obtain ⟨t, ht⟩ := ih (x :: acc)
        exact ⟨t ++ [x], by rw [ht, List.append_assoc, List.singleton_append]⟩
  obtain ⟨t, ht⟩ := hfold l₂
    (l₁.foldl (fun acc id => if acc.contains id then acc else id :: acc) [])
  refine ⟨t.reverse, ?_⟩
  unfold dedupe
  rw [List.foldl_append, ht, List.reverse_append]

namespace Graph

variable {g : Graph} {next : Node → List PartId}

/-- The `next` list of the record of an id; empty when the id is not live. -/
def nextOf (g : Graph) (next : Node → List PartId) (a : PartId) : List PartId :=
  ((g.find? a).map next).getD []

theorem nextOf_of_mem (hg : g.ids.Nodup) {n : Node} (hn : n ∈ g.nodes) :
    g.nextOf next n.id = next n := by
  simp [nextOf, (find?_eq_some_iff hg).2 ⟨hn, rfl⟩]

theorem walkStep_of_mem_nextOf {a x : PartId} (h : x ∈ g.nextOf next a) : g.WalkStep next a x := by
  cases hf : g.find? a with
  | none => simp [nextOf, hf] at h
  | some n =>
    obtain ⟨hn, rfl⟩ := find?_eq_some hf
    exact ⟨n, hn, rfl, by simpa [nextOf, hf] using h⟩

/-- `r` is the breadth-first order of what is reached from `start` over `next`: each id reached in
one step or more, other than `start`, once, in the order the ids occur when the `next` lists of
`start` and then of each id of `r` are read one after another. -/
structure BreadthFirst (g : Graph) (next : Node → List PartId) (start : PartId)
    (r : List PartId) : Prop where
  nodup : r.Nodup
  mem_iff : ∀ x, x ∈ r ↔ x ≠ start ∧ Relation.TransGen (g.WalkStep next) start x
  scan : r = dedupe (((start :: r).flatMap (g.nextOf next)).filter (· != start))

/-! ## What a walk reads -/

/-- What a walk from `start` has read: the ids looked at so far, `seen`, give the ids found once
repeats and `start` are dropped; and `seen`, then the ids pending, then the lists of the queued
parts, are the lists of `start` and of the ids found, read in order. -/
def ScanInv (g : Graph) (next : Node → List PartId) (start : PartId) (queue : List Node)
    (found pending : List PartId) : Prop :=
  ∃ seen : List PartId, found = dedupe (seen.filter (· != start)) ∧
    seen ++ pending ++ (queue.map (·.id)).flatMap (g.nextOf next) =
      (start :: found).flatMap (g.nextOf next)

section
variable {start : PartId} {unvisited : List PartId} {queue : List Node}
  {found pending : List PartId}

theorem ScanInv.init {n : Node} (hn : g.lookup start = .ok n) :
    ScanInv g next start [n] [] [] := by
  obtain ⟨-, hid⟩ := find?_eq_some (lookup_eq_ok.1 hn)
  exact ⟨[], rfl, by simp [hid]⟩

theorem ScanInv.visit {a : PartId} (hI : WalkInv g next start unvisited queue found (a :: pending))
    (hS : ScanInv g next start queue found (a :: pending)) (hmem : a ∈ unvisited) {n : Node}
    (hfind : g.find? a = some n) : ScanInv g next start (queue ++ [n]) (found ++ [a]) pending := by
  obtain ⟨seen, hfound, hseen⟩ := hS
  obtain ⟨-, hstart, hnew⟩ := (hI.mem_unvisited a).1 hmem
  have hnid : n.id = a := (find?_eq_some hfind).2
  have hnot : a ∉ seen.filter (· != start) := fun h => hnew (hfound ▸ mem_dedupe.2 h)
  refine ⟨seen ++ [a], ?_, ?_⟩
  · rw [List.filter_append, List.filter_cons_of_pos (by simpa using hstart), List.filter_nil,
      dedupe_append_singleton, if_neg hnot, hfound]
  · have hsnoc : (start :: (found ++ [a])).flatMap (g.nextOf next) =
        (start :: found).flatMap (g.nextOf next) ++ g.nextOf next a := by
      simp
    rw [hsnoc, ← hseen, hnid.symm]
    simp

theorem ScanInv.skip {a : PartId} (hI : WalkInv g next start unvisited queue found (a :: pending))
    (hS : ScanInv g next start queue found (a :: pending)) (hmem : a ∉ unvisited)
    (hlive : a ∈ g.ids) : ScanInv g next start queue found pending := by
  obtain ⟨seen, hfound, hseen⟩ := hS
  refine ⟨seen ++ [a], ?_, by rw [← hseen]; simp⟩
  rcases hI.start_or_found hmem hlive with rfl | ha
  · rw [List.filter_append, List.filter_cons_of_neg (by simp), List.filter_nil, List.append_nil]
    exact hfound
  · have hne : a ≠ start := fun e => hI.start_not_mem (e ▸ ha)
    have hin : a ∈ seen.filter (· != start) := by
      rw [hfound] at ha
      exact mem_dedupe.1 ha
    rw [List.filter_append, List.filter_cons_of_pos (by simpa using hne), List.filter_nil,
      dedupe_append_singleton, if_pos hin, hfound]

theorem ScanInv.expand (hg : g.ids.Nodup) {n : Node} {rest : List Node}
    (hI : WalkInv g next start unvisited (n :: rest) found [])
    (hS : ScanInv g next start (n :: rest) found []) : ScanInv g next start rest found (next n) := by
  obtain ⟨seen, hfound, hseen⟩ := hS
  refine ⟨seen, hfound, ?_⟩
  rw [← hseen, List.map_cons, List.flatMap_cons,
    nextOf_of_mem hg (hI.queue_reached n List.mem_cons_self).1]
  simp

theorem ScanInv.done (hS : ScanInv g next start [] found []) :
    found = dedupe (((start :: found).flatMap (g.nextOf next)).filter (· != start)) := by
  obtain ⟨seen, hfound, hseen⟩ := hS
  simp only [List.append_nil, List.map_nil, List.flatMap_nil] at hseen
  rw [← hseen]
  exact hfound

theorem walkFrom_scan (hg : g.ids.Nodup) (hI : WalkInv g next start unvisited queue found pending)
    (hS : ScanInv g next start queue found pending) {r : List PartId} :
    g.walkFrom next unvisited queue found pending = .ok r →
      r = dedupe (((start :: r).flatMap (g.nextOf next)).filter (· != start)) := by
  fun_induction g.walkFrom next unvisited queue found pending with
  | case1 _ _ _ a _ hmem n hfind ih =>
    exact ih (hI.visit hg hmem hfind) (hS.visit hI hmem hfind)
  | case2 => intro h; cases h
  | case3 _ _ _ a _ hmem hlive ih =>
    exact ih (hI.skip hmem (isLive_eq_true.1 hlive)) (hS.skip hI hmem (isLive_eq_true.1 hlive))
  | case4 => intro h; cases h
  | case5 =>
    intro h
    cases h
    exact hS.done
  | case6 _ _ n rest ih => exact ih hI.expand (hS.expand hg hI)

/-- A walk from `start` that succeeds finds what is reached from `start` in breadth-first
order. -/
theorem walk_breadthFirst (hg : g.ids.Nodup) {r : List PartId}
    (h : g.walk start next = .ok r) : g.BreadthFirst next start r := by
  obtain ⟨hnd, hmem⟩ := walk_eq_ok hg h
  refine ⟨hnd, hmem, ?_⟩
  unfold walk at h
  rw [bind_eq_ok] at h
  obtain ⟨n, hn, h⟩ := h
  exact walkFrom_scan hg (WalkInv.init hg hn) (ScanInv.init hn) h

end

/-! ## Nearer parts first -/

/-- `b` is reached from `a` in `k` steps of a walk over `next`. -/
inductive StepsTo (g : Graph) (next : Node → List PartId) (a : PartId) : Nat → PartId → Prop
  | refl : StepsTo g next a 0 a
  | tail {k : Nat} {b c : PartId} : StepsTo g next a k b → g.WalkStep next b c →
      StepsTo g next a (k + 1) c

theorem StepsTo.reflTransGen {a b : PartId} {k : Nat} (h : g.StepsTo next a k b) :
    Relation.ReflTransGen (g.WalkStep next) a b := by
  induction h with
  | refl => exact .refl
  | tail _ hstep ih => exact ih.tail hstep

namespace BreadthFirst

variable {start : PartId} {r : List PartId}

theorem mem_of_reach (hB : g.BreadthFirst next start r) {x : PartId}
    (h : Relation.ReflTransGen (g.WalkStep next) start x) : x ∈ start :: r := by
  rcases Relation.reflTransGen_iff_eq_or_transGen.1 h with rfl | h
  · exact List.mem_cons_self
  · by_cases hx : x = start
    · rw [hx]
      exact List.mem_cons_self
    · exact List.mem_cons_of_mem _ ((hB.mem_iff x).2 ⟨hx, h⟩)

theorem mem_scan_of_before (hB : g.BreadthFirst next start r) {P Q : List PartId}
    (hL : start :: r = P ++ Q) {y : PartId} (hy : y ∈ P.flatMap (g.nextOf next))
    (hys : y ≠ start) {R1 R2 : List PartId} (hr : r = R1 ++ y :: R2) {x : PartId} (hx : x ∈ R1) :
    x ∈ P.flatMap (g.nextOf next) := by
  have hscan := hB.scan
  rw [hL, List.flatMap_append, List.filter_append] at hscan
  obtain ⟨t, ht⟩ := dedupe_append ((P.flatMap (g.nextOf next)).filter (· != start))
    ((Q.flatMap (g.nextOf next)).filter (· != start))
  rw [ht] at hscan
  have hyD : y ∈ dedupe ((P.flatMap (g.nextOf next)).filter (· != start)) :=
    mem_dedupe.2 (List.mem_filter.2 ⟨hy, by simpa using hys⟩)
  obtain ⟨D1, D2, hD⟩ := List.append_of_mem hyD
  have hR1 : R1 = D1 := by
    have hnd : (R1 ++ y :: R2).Nodup := by
      rw [← hr]
      exact hB.nodup
    refine prefix_eq_of_nodup (D := D2 ++ t) hnd ?_
    rw [← hr, hscan, hD, List.append_assoc, List.cons_append]
  have hxD : x ∈ dedupe ((P.flatMap (g.nextOf next)).filter (· != start)) := by
    rw [hD]
    exact List.mem_append_left _ (hR1 ▸ hx)
  exact (List.mem_filter.1 (mem_dedupe.1 hxD)).1

/-- Whatever stands before a part in `start :: r` is reached in no more steps than any walk to
that part. The induction is on the walk: its last step comes from a part `p` read before, and
whatever is found before the part was read by the time `p`'s list was. -/
theorem reach_before (hB : g.BreadthFirst next start r) (hg : g.ids.Nodup) {k : Nat} {y : PartId}
    (hk : g.StepsTo next start k y) :
    ∀ A B, start :: r = A ++ y :: B → ∀ x ∈ A, ∃ k' ≤ k, g.StepsTo next start k' x := by
  induction hk with
  | refl =>
    intro A B hL x hx
    cases A with
    | nil => cases hx
    | cons a A =>
      obtain ⟨-, hr⟩ := List.cons.inj hL
      exact absurd rfl ((hB.mem_iff start).1 (hr ▸ List.mem_append_right _ List.mem_cons_self)).1
  | @tail k p y hk hstep ih =>
    intro A B hL x hx
    cases A with
    | nil => cases hx
    | cons a A =>
      obtain ⟨ha, hr⟩ := List.cons.inj hL
      rcases List.mem_cons.1 hx with hxa | hx
      · rw [hxa, ← ha]
        exact ⟨0, Nat.zero_le _, .refl⟩
      obtain ⟨m, hm, hmp, hym⟩ := hstep
      have hys : y ≠ start :=
        ((hB.mem_iff y).1 (hr ▸ List.mem_append_right _ List.mem_cons_self)).1
      obtain ⟨A2, B2, hL2⟩ := List.append_of_mem (hB.mem_of_reach hk.reflTransGen)
      have hyP : y ∈ (A2 ++ [p]).flatMap (g.nextOf next) := by
        rw [List.flatMap_append]
        refine List.mem_append_right _ ?_
        simpa [← hmp, nextOf_of_mem hg hm] using hym
      have hxP := hB.mem_scan_of_before (P := A2 ++ [p]) (Q := B2) (by rw [hL2]; simp) hyP hys hr hx
      obtain ⟨q, hq, hxq⟩ := List.mem_flatMap.1 hxP
      rcases List.mem_append.1 hq with hq | hq
      · -- `x` was read in the list of a part before `p`
        obtain ⟨k', hk', hq'⟩ := ih A2 B2 hL2 q hq
        exact ⟨k' + 1, by omega, .tail hq' (walkStep_of_mem_nextOf hxq)⟩
      · rw [List.mem_singleton.1 hq] at hxq
        exact ⟨k + 1, Nat.le_refl _, .tail hk (walkStep_of_mem_nextOf hxq)⟩

/-- Nearer parts come first: a part found before another is reached in no more steps than it. -/
theorem nearer_first (hB : g.BreadthFirst next start r) (hg : g.ids.Nodup) :
    r.Pairwise fun x y => ∀ k, g.StepsTo next start k y →
      ∃ k' ≤ k, g.StepsTo next start k' x := by
  refine List.pairwise_iff_forall_sublist.2 fun {x y} hxy k hk => ?_
  obtain ⟨r₁, r₂, hr, hx, hy⟩ := List.cons_sublist_iff.1 hxy
  obtain ⟨C, D, hC⟩ := List.append_of_mem (List.singleton_sublist.1 hy)
  refine hB.reach_before hg hk (start :: (r₁ ++ C)) D ?_ x
    (List.mem_cons_of_mem _ (List.mem_append_left _ hx))
  rw [hr, hC]
  simp

end BreadthFirst

/-! ## Ancestors and descendants -/

section
variable {g : Graph} {id : PartId} {r : List PartId}

theorem views_of_live {ids : List PartId} (hlive : ∀ x ∈ ids, x ∈ g.ids) :
    ∃ ps, g.views ids = .ok ps ∧ List.Forall₂ (fun x p => g.get x = .ok p) ids ps := by
  induction ids with
  | nil => exact ⟨[], rfl, .nil⟩
  | cons x ids ih =>
    obtain ⟨n, hn⟩ := lookup_of_mem (hlive x List.mem_cons_self)
    obtain ⟨ps, hps, hF⟩ := ih fun y hy => hlive y (List.mem_cons_of_mem x hy)
    have hget : g.get x = .ok n.view := by
      rw [get, hn]
      rfl
    refine ⟨n.view :: ps, ?_, .cons hget hF⟩
    unfold views at hps ⊢
    simp [List.mapM_cons, hn, hps]

theorem Consistent.walkStep_parents (h : g.Consistent) :
    g.WalkStep (·.parents.toList) = Function.swap g.Edge := by
  funext a b
  exact propext h.edge_iff_parent.symm

theorem Consistent.mem_contained (h : g.Consistent) (hr : g.contained id = .ok r) (x : PartId) :
    x ∈ r ↔ x ≠ id ∧ g.Path x id := by
  rw [(walk_eq_ok h.ids_nodup hr).2 x, h.walkStep_parents, Relation.transGen_swap]
  rfl

theorem mem_descendants (hg : g.ids.Nodup) (hr : g.descendants id = .ok r) (x : PartId) :
    x ∈ r ↔ x ≠ id ∧ g.Path id x :=
  (walk_eq_ok hg hr).2 x

end

end Graph

theorem Filter.filter_admitsPart_all (ps : List Part) : ps.filter Filter.all.admitsPart = ps :=
  List.filter_eq_self.2 fun _ _ => rfl

namespace Engine

variable {e : Engine} {id : PartId} {r : List PartId}

theorem contained_of_walk (he : e.graph.Consistent) (hr : e.graph.contained id = .ok r) :
    ∃ ps, e.contained id = .ok ps ∧ List.Forall₂ (fun x p => e.getPart x = .ok p) r ps := by
  obtain ⟨ps, hps, hF⟩ := Graph.views_of_live (Graph.walk_live he.parents_live hr)
  refine ⟨ps, ?_, hF⟩
  simp only [contained, hr, ok_bind, hps]

theorem listDescendants_of_walk (he : e.graph.Consistent) (hr : e.graph.descendants id = .ok r) :
    ∃ ps, List.Forall₂ (fun x p => e.getPart x = .ok p) r ps ∧
      ∀ f, e.listDescendants id f = .ok (ps.filter f.admitsPart) := by
  obtain ⟨ps, hps, hF⟩ := Graph.views_of_live (Graph.walk_live he.children_live hr)
  refine ⟨ps, hF, fun f => ?_⟩
  simp only [listDescendants, hr, ok_bind, hps]
  rfl

/-- What the closure calls answer, on every engine that calls reach. For a part that is not live
all four fail with not found. For a live part, the ancestors are the parts from which it is
reached by one edge or more, each once, in the breadth-first order of parents lists, so that a
nearer ancestor comes first; the descendants are the same over children lists, and a filter
keeps those it admits, in that order. The parts answered are those a read of each id gives. -/
theorem closure_answer (ids : IdStream) (cs : List Command) (id : PartId) (f : Filter) :
    let e := ((fresh ids).runAll cs).2
    (id ∉ e.graph.ids →
      e.graph.contained id = .error (.notFound id.toString) ∧
      e.contained id = .error (.notFound id.toString) ∧
      e.graph.descendants id = .error (.notFound id.toString) ∧
      e.listDescendants id f = .error (.notFound id.toString)) ∧
    (id ∈ e.graph.ids →
      (∃ r ps, e.graph.contained id = .ok r ∧ e.contained id = .ok ps ∧
        List.Forall₂ (fun x p => e.getPart x = .ok p) r ps ∧
        (∀ x, x ∈ r ↔ x ≠ id ∧ e.graph.Path x id) ∧
        e.graph.BreadthFirst (·.parents.toList) id r ∧
        r.Pairwise fun x y => ∀ k, e.graph.StepsTo (·.parents.toList) id k y →
          ∃ k' ≤ k, e.graph.StepsTo (·.parents.toList) id k' x) ∧
      (∃ r ps, e.graph.descendants id = .ok r ∧ e.listDescendants id .all = .ok ps ∧
        List.Forall₂ (fun x p => e.getPart x = .ok p) r ps ∧
        (∀ x, x ∈ r ↔ x ≠ id ∧ e.graph.Path id x) ∧
        e.graph.BreadthFirst (·.children.toList) id r ∧
        (r.Pairwise fun x y => ∀ k, e.graph.StepsTo (·.children.toList) id k y →
          ∃ k' ≤ k, e.graph.StepsTo (·.children.toList) id k' x) ∧
        e.listDescendants id f = .ok (ps.filter f.admitsPart))) := by
  intro e
  have h : e.graph.Consistent := (runAll_fresh_wellFormed ids cs).1.toConsistent
  refine ⟨fun hid => ?_, fun hid => ⟨?_, ?_⟩⟩
  · have hc : e.graph.contained id = .error (.notFound id.toString) := Graph.walk_of_not_mem hid
    have hd : e.graph.descendants id = .error (.notFound id.toString) := Graph.walk_of_not_mem hid
    refine ⟨hc, ?_, hd, ?_⟩
    · simp only [contained, hc]
      rfl
    · simp only [listDescendants, hd]
      rfl
  · -- ancestors: the walk over parents lists
    obtain ⟨r, hr⟩ := Graph.exists_walk_eq_ok h.parents_live hid
    obtain ⟨ps, hps, hF⟩ := contained_of_walk h hr
    have hB := Graph.walk_breadthFirst h.ids_nodup hr
    exact ⟨r, ps, hr, hps, hF, h.mem_contained hr, hB, hB.nearer_first h.ids_nodup⟩
  · -- descendants: the walk over children lists
    obtain ⟨r, hr⟩ := Graph.exists_walk_eq_ok h.children_live hid
    obtain ⟨ps, hF, hf⟩ := listDescendants_of_walk h hr
    have hB := Graph.walk_breadthFirst h.ids_nodup hr
    refine ⟨r, ps, hr, by rw [hf, Filter.filter_admitsPart_all], hF, Graph.mem_descendants h.ids_nodup hr, hB,
      hB.nearer_first h.ids_nodup, hf f⟩

end Engine

end BillOfMaterials
