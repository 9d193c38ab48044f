import BillOfMaterials.Proofs.Graph.Operations
import BillOfMaterials.Graph.Closure

/-!
# Walks over a consistent graph

The breadth-first walks behind `Graph.contained` and `Graph.descendants` stop with a broken
reference fault when they meet an id that is not live. On a consistent graph every parents and
children list names live parts only, so a walk from a live part never does:

* `walkFrom_ok` : a walk whose lists name live parts succeeds and finds live parts only;
* `Consistent.contained_error`, `Consistent.descendants_error` : the walks fail only when the
  start is not live;
* `views_error` : copies of parts fail only at an id that is not live.

What a walk finds is said by `WalkStep`, one step from a live part to an id its list names:

* `walk_eq_ok` : a walk from `start` finds each id reachable from `start` in one or more steps,
  other than `start`, exactly once, and nothing else. It rests on `WalkInv`, what holds at every
  call of the walk, kept by each of its steps (`WalkInv.visit`, `WalkInv.skip`,
  `WalkInv.expand`).
-/

namespace BillOfMaterials

namespace Graph

section
variable {g : Graph} {next : Node → List PartId}

/-- A walk whose `next` lists, queued parts, pending ids and found ids are all live succeeds, and
all it finds is live. The induction follows the walk, one id or one queued part at a time. -/
theorem walkFrom_ok (hnext : ∀ n ∈ g.nodes, ∀ x ∈ next n, x ∈ g.ids) {unvisited : List PartId}
    {queue : List Node} {found pending : List PartId} (hq : ∀ n ∈ queue, n ∈ g.nodes)
    (hp : ∀ x ∈ pending, x ∈ g.ids) (hf : ∀ x ∈ found, x ∈ g.ids) :
    ∃ r, g.walkFrom next unvisited queue found pending = .ok r ∧ ∀ x ∈ r, x ∈ g.ids := by
  fun_induction g.walkFrom next unvisited queue found pending with
  | case1 _ _ _ id _ _ n hfind ih =>
    refine ih (fun m hm => ?_) (fun x hx => hp x (List.mem_cons_of_mem id hx)) (fun x hx => ?_)
    · rcases List.mem_append.1 hm with hm | hm
      · exact hq m hm
      · rw [List.mem_singleton.1 hm]
        exact (find?_eq_some hfind).1
    · rcases List.mem_append.1 hx with hx | hx
      · exact hf x hx
      · rw [List.mem_singleton.1 hx]
        exact hp id List.mem_cons_self
  | case2 _ _ _ id _ _ hnone => exact absurd (hp id List.mem_cons_self) (find?_eq_none.1 hnone)
  | case3 _ _ _ id _ _ _ ih => exact ih hq (fun x hx => hp x (List.mem_cons_of_mem id hx)) hf
  | case4 _ _ _ id _ _ hdead => exact absurd (isLive_eq_true.2 (hp id List.mem_cons_self)) hdead
  | case5 _ found => exact ⟨found, rfl, hf⟩
  | case6 _ _ n rest ih =>
    exact ih (fun m hm => hq m (List.mem_cons_of_mem n hm)) (hnext n (hq n List.mem_cons_self)) hf

theorem walk_error (hnext : ∀ n ∈ g.nodes, ∀ x ∈ next n, x ∈ g.ids) {start : PartId} {f : Fault}
    (h : g.walk start next = .error f) : f = .notFound start.toString := by
  unfold walk at h
  rw [bind_eq_error] at h
  rcases h with h | ⟨n, hn, h⟩
  · exact lookup_error_eq h
  obtain ⟨r, hr, -⟩ := @walkFrom_ok g next hnext _ [n] [] []
    (fun m hm => by rw [List.mem_singleton.1 hm]; exact (find?_eq_some (lookup_eq_ok.1 hn)).1)
    (by simp) (by simp)
  rw [hr] at h
  cases h

theorem exists_walk_eq_ok (hnext : ∀ n ∈ g.nodes, ∀ x ∈ next n, x ∈ g.ids) {start : PartId}
    (hstart : start ∈ g.ids) : ∃ r, g.walk start next = .ok r := by
  obtain ⟨n, hn⟩ := lookup_of_mem hstart
  obtain ⟨r, hr, -⟩ := @walkFrom_ok g next hnext _ [n] [] []
    (fun m hm => by rw [List.mem_singleton.1 hm]; exact (find?_eq_some (lookup_eq_ok.1 hn)).1)
    (by simp) (by simp)
  refine ⟨r, ?_⟩
  unfold walk
  rw [hn]
  exact hr

theorem walk_of_not_mem {start : PartId} (hstart : start ∉ g.ids) :
    g.walk start next = .error (.notFound start.toString) := by
  unfold walk lookup
  rw [find?_eq_none.2 hstart]
  rfl

theorem walk_live (hnext : ∀ n ∈ g.nodes, ∀ x ∈ next n, x ∈ g.ids) {start : PartId}
    {r : List PartId} (h : g.walk start next = .ok r) : ∀ x ∈ r, x ∈ g.ids := by
  unfold walk at h
  rw [bind_eq_ok] at h
  obtain ⟨n, hn, h⟩ := h
  obtain ⟨r', hr', hlive⟩ := @walkFrom_ok g next hnext _ [n] [] []
    (fun m hm => by rw [List.mem_singleton.1 hm]; exact (find?_eq_some (lookup_eq_ok.1 hn)).1)
    (by simp) (by simp)
  rw [hr'] at h
  cases h
  exact hlive

end

/-! ## What a walk finds -/

/-- One step of a walk: from a live part to an id its `next` list names. -/
def WalkStep (g : Graph) (next : Node → List PartId) (a b : PartId) : Prop :=
  ∃ n ∈ g.nodes, n.id = a ∧ b ∈ next n

/-- What holds at every call of a walk from `start` that goes on: the ids left unvisited are the
live ids other than `start` and those found; what is found, queued or pending is reached from
`start`; and a part found (or `start`) whose neighbours are not all found, pending or `start` is
still queued. -/
structure WalkInv (g : Graph) (next : Node → List PartId) (start : PartId)
    (unvisited : List PartId) (queue : List Node) (found pending : List PartId) : Prop where
  unvisited_nodup : unvisited.Nodup
  mem_unvisited : ∀ x, x ∈ unvisited ↔ x ∈ g.ids ∧ x ≠ start ∧ x ∉ found
  found_nodup : found.Nodup
  start_not_mem : start ∉ found
  found_reached : ∀ x ∈ found, Relation.TransGen (g.WalkStep next) start x
  queue_reached : ∀ n ∈ queue, n ∈ g.nodes ∧ Relation.ReflTransGen (g.WalkStep next) start n.id
  pending_reached : ∀ x ∈ pending, Relation.TransGen (g.WalkStep next) start x
  closed : ∀ n ∈ g.nodes, (n.id = start ∨ n.id ∈ found) →
    n ∈ queue ∨ ∀ y ∈ next n, y = start ∨ y ∈ found ∨ y ∈ pending

section
variable {g : Graph} {next : Node → List PartId} {start : PartId} {unvisited : List PartId}
  {queue : List Node} {found pending : List PartId}

theorem closed_of_head {a : PartId} {found' : List PartId} {ys : List PartId}
    (hsub : ∀ x ∈ found, x ∈ found') (ha : a = start ∨ a ∈ found')
    (h : ∀ y ∈ ys, y = start ∨ y ∈ found ∨ y ∈ a :: pending) :
    ∀ y ∈ ys, y = start ∨ y ∈ found' ∨ y ∈ pending := by
  intro y hy
  rcases h y hy with h | h | h
  · exact .inl h
  · exact .inr (.inl (hsub y h))
  · rcases List.mem_cons.1 h with rfl | h
    · exact ha.imp_right .inl
    · exact .inr (.inr h)

theorem WalkInv.init (hg : g.ids.Nodup) {n : Node} (hn : g.lookup start = .ok n) :
    WalkInv g next start (g.ids.erase start) [n] [] [] := by
  obtain ⟨hmem, hid⟩ := find?_eq_some (lookup_eq_ok.1 hn)
  refine ⟨hg.erase start, fun x => ?_, List.nodup_nil, List.not_mem_nil, by simp, ?_, by simp, ?_⟩
  · rw [hg.mem_erase_iff]
    simp [and_comm]
  · intro m hm
    rw [List.mem_singleton.1 hm]
    exact ⟨hmem, hid ▸ .refl⟩
  · -- the only record with the start's id is the one queued
    intro m hm hmid
    have hmn : m.id = n.id := by simpa [hid] using hmid
    exact .inl (List.mem_singleton.2 (eq_of_id_eq hg hm hmem hmn))

/-- A pending id not yet visited is found, and its record queued. -/
theorem WalkInv.visit (hg : g.ids.Nodup) {a : PartId}
    (hI : WalkInv g next start unvisited queue found (a :: pending)) (hmem : a ∈ unvisited)
    {n : Node} (hfind : g.find? a = some n) :
    WalkInv g next start (unvisited.erase a) (queue ++ [n]) (found ++ [a]) pending := by
  obtain ⟨hn, hnid⟩ := find?_eq_some hfind
  obtain ⟨-, hstart, hfound⟩ := (hI.mem_unvisited a).1 hmem
  have hreach : Relation.TransGen (g.WalkStep next) start a :=
    hI.pending_reached a List.mem_cons_self
  refine ⟨hI.unvisited_nodup.erase a, fun x => ?_, ?_, ?_, ?_, ?_, ?_, ?_⟩
  · rw [hI.unvisited_nodup.mem_erase_iff, hI.mem_unvisited, List.mem_append, List.mem_singleton]
    tauto
  · refine List.nodup_append.2 ⟨hI.found_nodup, List.nodup_singleton a, ?_⟩
    intro x hx y hy e
    rw [List.mem_singleton.1 hy] at e
    exact hfound (e ▸ hx)
  · simpa [Ne.symm hstart] using hI.start_not_mem
  · intro x hx
    rcases List.mem_append.1 hx with hx | hx
    · exact hI.found_reached x hx
    · rw [List.mem_singleton.1 hx]
      exact hreach
  · intro m hm
    rcases List.mem_append.1 hm with hm | hm
    · exact hI.queue_reached m hm
    · rw [List.mem_singleton.1 hm]
      exact ⟨hn, hnid ▸ hreach.to_reflTransGen⟩
  · exact fun x hx => hI.pending_reached x (List.mem_cons_of_mem a hx)
  · intro m hm hmid
    by_cases hma : m.id = a
    · -- the record of `a` is the one just queued
      exact .inl (List.mem_append_right _
        (List.mem_singleton.2 (eq_of_id_eq hg hm hn (hma.trans hnid.symm))))
    have hold : m.id = start ∨ m.id ∈ found := by
      rcases hmid with h | h
      · exact .inl h
      · rcases List.mem_append.1 h with h | h
        · exact .inr h
        · exact absurd (List.mem_singleton.1 h) hma
    exact (hI.closed m hm hold).imp (fun hq => List.mem_append_left _ hq)
      (closed_of_head (fun x hx => List.mem_append_left _ hx) (.inr (by simp)))

theorem WalkInv.start_or_found (hI : WalkInv g next start unvisited queue found pending)
    {a : PartId} (hmem : a ∉ unvisited) (hlive : a ∈ g.ids) : a = start ∨ a ∈ found := by
  by_contra hne
  exact hmem ((hI.mem_unvisited a).2 ⟨hlive, fun e => hne (.inl e), fun h => hne (.inr h)⟩)

/-- A pending id that is live and not unvisited is `start` or found already: the walk passes
over it. -/
theorem WalkInv.skip {a : PartId} (hI : WalkInv g next start unvisited queue found (a :: pending))
    (hmem : a ∉ unvisited) (hlive : a ∈ g.ids) : WalkInv g next start unvisited queue found pending := by
  have ha := hI.start_or_found hmem hlive
  refine { hI with
    pending_reached := fun x hx => hI.pending_reached x (List.mem_cons_of_mem a hx)
    closed := fun m hm hmid => ?_ }
  exact (hI.closed m hm hmid).imp_right (closed_of_head (fun _ hx => hx) ha)

/-- With nothing pending, the first queued record is expanded: its neighbours become pending. -/
theorem WalkInv.expand {n : Node} {rest : List Node}
    (hI : WalkInv g next start unvisited (n :: rest) found []) :
    WalkInv g next start unvisited rest found (next n) := by
  obtain ⟨hn, hreach⟩ := hI.queue_reached n List.mem_cons_self
  refine { hI with
    queue_reached := fun m hm => hI.queue_reached m (List.mem_cons_of_mem n hm)
    pending_reached := fun y hy => .tail' hreach ⟨n, hn, rfl, hy⟩
    closed := fun m hm hmid => ?_ }
  by_cases hmn : m = n
  · subst hmn
    exact .inr fun y hy => .inr (.inr hy)
  rcases hI.closed m hm hmid with hq | hall
  · exact .inl ((List.mem_cons.1 hq).resolve_left hmn)
  · exact .inr fun y hy => (hall y hy).imp_right (Or.imp_right fun h => absurd h List.not_mem_nil)

theorem WalkInv.mem_iff (hI : WalkInv g next start unvisited [] found []) (x : PartId) :
    x ∈ found ↔ x ≠ start ∧ Relation.TransGen (g.WalkStep next) start x := by
  constructor
  · intro hx
    exact ⟨fun e => hI.start_not_mem (e ▸ hx), hI.found_reached x hx⟩
  rintro ⟨hne, hreach⟩
  have key : ∀ y, Relation.ReflTransGen (g.WalkStep next) start y → y = start ∨ y ∈ found := by
    intro y hy
    induction hy with
    | refl => exact .inl rfl
    | tail _ hstep ih =>
      obtain ⟨n, hn, rfl, hy⟩ := hstep
      rcases hI.closed n hn ih with hq | hall
      · cases hq
      · exact (hall _ hy).imp_right fun h => h.resolve_right List.not_mem_nil
  exact (key x hreach.to_reflTransGen).resolve_left hne

theorem walkFrom_eq_ok (hg : g.ids.Nodup) (hI : WalkInv g next start unvisited queue found pending)
    {r : List PartId} : g.walkFrom next unvisited queue found pending = .ok r →
      r.Nodup ∧ ∀ x, x ∈ r ↔ x ≠ start ∧ Relation.TransGen (g.WalkStep next) start x := by
  fun_induction g.walkFrom next unvisited queue found pending with
  | case1 _ _ _ a _ hmem n hfind ih => exact ih (hI.visit hg hmem hfind)
  | case2 => intro h; cases h
  | case3 _ _ _ a _ hmem hlive ih => exact ih (hI.skip hmem (isLive_eq_true.1 hlive))
  | case4 => intro h; cases h
  | case5 =>
    intro h
    cases h
    exact ⟨hI.found_nodup, hI.mem_iff⟩
  | case6 _ _ n rest ih => exact ih hI.expand

/-- A walk from `start` that succeeds finds each id reached from `start` in one or more steps,
other than `start`, exactly once, and nothing else. -/
theorem walk_eq_ok (hg : g.ids.Nodup) {r : List PartId} (h : g.walk start next = .ok r) :
    r.Nodup ∧ ∀ x, x ∈ r ↔ x ≠ start ∧ Relation.TransGen (g.WalkStep next) start x := by
  unfold walk at h
  rw [bind_eq_ok] at h
  obtain ⟨n, hn, h⟩ := h
  exact walkFrom_eq_ok hg (WalkInv.init hg hn) h

end

theorem views_error {g : Graph} {ids : List PartId} {f : Fault} (h : g.views ids = .error f) :
    ∃ x ∈ ids, x ∉ g.ids := by
  obtain ⟨x, hx, hf⟩ := mapM_eq_error h
  refine ⟨x, hx, fun hlive => ?_⟩
  obtain ⟨n, hn⟩ := lookup_of_mem hlive
  simp [hn] at hf

end Graph

end BillOfMaterials
