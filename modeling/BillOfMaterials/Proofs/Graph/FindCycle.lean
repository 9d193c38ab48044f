import BillOfMaterials.Proofs.Graph.WellFormed

/-!
# Finding a cycle

`Graph.findCycle` runs a three-colour depth-first search: white ids are `unseen`, grey ids are
on the current path, one frame each, and black ids are done. It answers a part on a cycle
exactly when the children relation has one.

* `cycleFrom_eq_some` (soundness): the frames spell a path down the graph (`Linked`), each
  frame holding the tail of its part's children still to look at (`Tails`); a child found grey
  closes a cycle through it;
* `cycleFrom_eq_none` (completeness): every black part is `Grounded`, no path of children edges
  running down from it for ever; a frame's part has each child it has looked at grounded, but
  for the part of the frame just above it (`Explored`); so when the search ends every live part
  is grounded, and a grounded part lies on no cycle;
* `findCycle_eq_none_iff`: with distinct ids, no cycle is found exactly when the graph is
  acyclic; `findCycle_answer` puts the two directions together.
-/

namespace BillOfMaterials

namespace Graph

/-! ## Soundness -/

/-- Each frame's part is a child of the part of the frame below it. -/
def Linked (g : Graph) : List (PartId × List PartId) → Prop
  | [] => True
  | [_] => True
  | f :: f' :: rest => g.Edge f'.1 f.1 ∧ Linked g (f' :: rest)

/-- Each frame holds the tail of its part's children still to look at. -/
def Tails (g : Graph) (frames : List (PartId × List PartId)) : Prop :=
  ∀ f ∈ frames, ∃ n ∈ g.nodes, n.id = f.1 ∧ f.2 <:+ n.children.toList

theorem Linked.reach {g : Graph} :
    ∀ (frames : List (PartId × List PartId)) (a : PartId) (cs : List PartId),
      Linked g ((a, cs) :: frames) → ∀ x ∈ ((a, cs) :: frames).map Prod.fst,
        Relation.ReflTransGen g.Edge x a
  | [], a, _, _, x, hx => by
    simp only [List.map_cons, List.map_nil, List.mem_singleton] at hx
    subst hx; exact .refl
  | (b, ds) :: rest, a, cs, ⟨hba, hl⟩, x, hx => by
    rcases List.mem_cons.1 hx with rfl | hx
    · exact .refl
    · exact (Linked.reach rest b ds hl x hx).tail hba

theorem Linked.retail {g : Graph} {a : PartId} {cs ds : List PartId} :
    ∀ {frames : List (PartId × List PartId)}, Linked g ((a, cs) :: frames) →
      Linked g ((a, ds) :: frames)
  | [], _ => trivial
  | _ :: _, h => h

theorem Tails.tail {g : Graph} {a c : PartId} {cs : List PartId}
    {frames : List (PartId × List PartId)} (h : Tails g ((a, c :: cs) :: frames)) :
    Tails g ((a, cs) :: frames) := by
  intro f hf
  rcases List.mem_cons.1 hf with rfl | hf
  · obtain ⟨m, hm, hid, hsuf⟩ := h _ List.mem_cons_self
    exact ⟨m, hm, hid, (List.suffix_cons c cs).trans hsuf⟩
  · exact h f (List.mem_cons_of_mem _ hf)

theorem cycleFrom_eq_some {g : Graph} {unseen grey : List PartId} {roots : List Node}
    {frames : List (PartId × List PartId)} (hgrey : grey = frames.map Prod.fst)
    (hroots : ∀ r ∈ roots, r ∈ g.nodes) (htails : Tails g frames) (hlinked : Linked g frames)
    {c : PartId} (h : g.cycleFrom unseen grey roots frames = some c) : g.Path c c := by
  fun_induction g.cycleFrom unseen grey roots frames with
  | case1 unseen grey => cases h
  | case2 unseen grey r rs hr ih =>
    subst hgrey
    refine ih rfl (fun x hx => hroots x (List.mem_cons_of_mem _ hx)) ?_ trivial h
    intro f hf
    rw [List.mem_singleton.1 hf]
    exact ⟨r, hroots r List.mem_cons_self, rfl, List.suffix_refl _⟩
  | case3 unseen grey r rs hr ih =>
    exact ih hgrey (fun x hx => hroots x (List.mem_cons_of_mem _ hx)) htails hlinked h
  | case4 unseen grey roots id frames ih =>
    subst hgrey
    refine ih (by simp) hroots (fun f hf => htails f (List.mem_cons_of_mem _ hf)) ?_ h
    cases frames with
    | nil => trivial
    | cons f rest => exact hlinked.2
  | case5 unseen grey roots id c cs frames hc =>
    cases h
    obtain ⟨n, hn, hid, hsuf⟩ := htails _ List.mem_cons_self
    have hedge : g.Edge id c := ⟨n, hn, hid, hsuf.subset List.mem_cons_self⟩
    have hreach := Linked.reach frames id (c :: cs) hlinked c (hgrey ▸ hc)
    exact Relation.TransGen.tail' hreach hedge
  | case6 unseen grey roots id c cs frames hc hu n hn ih =>
    subst hgrey
    obtain ⟨m, hm, hid, hsuf⟩ := htails _ List.mem_cons_self
    obtain ⟨hnm, hnid⟩ := find?_eq_some hn
    refine ih rfl hroots ?_ ⟨⟨m, hm, hid, hsuf.subset List.mem_cons_self⟩, ?_⟩ h
    · intro f hf
      rcases List.mem_cons.1 hf with rfl | hf
      · exact ⟨n, hnm, hnid, List.suffix_refl _⟩
      · exact htails.tail f hf
    · cases frames with
      | nil => trivial
      | cons f rest => exact hlinked
  | case7 unseen grey roots id c cs frames hc hu _ ih
  | case8 unseen grey roots id c cs frames hc hu ih =>
    exact ih hgrey hroots htails.tail hlinked.retail h

theorem findCycle_eq_some {g : Graph} {c : PartId} (h : g.findCycle = some c) : g.Path c c :=
  @cycleFrom_eq_some g g.ids [] g.nodes [] rfl (fun _ hr => hr) (by simp [Tails]) trivial c h

theorem Acyclic.findCycle_eq_none {g : Graph} (hg : g.Acyclic) : g.findCycle = none := by
  cases h : g.findCycle with
  | none => rfl
  | some c => exact absurd (findCycle_eq_some h) (hg c)

/-! ## Completeness -/

/-- Every path of children edges running down from `x` ends. -/
def Grounded (g : Graph) (x : PartId) : Prop := Acc (fun a b => g.Edge b a) x

theorem Grounded.not_path {g : Graph} {x : PartId} (hx : g.Grounded x) : ¬ g.Path x x := by
  intro hp
  have hacc := hx.transGen
  have hrev : Relation.TransGen (fun a b => g.Edge b a) x x := Relation.transGen_swap.2 hp
  clear hp hx
  induction hacc with
  | intro y _ ih => exact ih y hrev hrev

theorem grounded_of_not_mem {g : Graph} {x : PartId} (hx : x ∉ g.ids) : g.Grounded x :=
  Acc.intro x fun _ ⟨n, hn, hid, _⟩ => absurd (mem_ids.2 ⟨n, hn, hid⟩) hx

/-- The frames of the search below `above`: each frame's part has every child it has looked at
grounded, but for the part of the frame just above it. -/
def Explored (g : Graph) (above : Option PartId) : List (PartId × List PartId) → Prop
  | [] => True
  | (a, cs) :: rest =>
    (∃ n ∈ g.nodes, n.id = a ∧ ∃ pre, n.children.toList = pre ++ cs ∧
      ∀ x ∈ pre, x ∈ g.ids → g.Grounded x ∨ some x = above) ∧ Explored g (some a) rest

theorem Explored.weaken {g : Graph} {above above' : Option PartId}
    (hab : ∀ x, some x = above → g.Grounded x ∨ some x = above') :
    ∀ {frames : List (PartId × List PartId)}, Explored g above frames → Explored g above' frames
  | [], _ => trivial
  | (_, _) :: _, ⟨⟨n, hn, hid, pre, hpre, hx⟩, hrest⟩ => by
    refine ⟨⟨n, hn, hid, pre, hpre, fun x hxp hxl => ?_⟩, hrest⟩
    rcases hx x hxp hxl with hx | hx
    · exact Or.inl hx
    · exact hab x hx

theorem Explored.lower {g : Graph} {a : PartId} (ha : g.Grounded a)
    {frames : List (PartId × List PartId)} (h : Explored g (some a) frames) :
    Explored g none frames :=
  h.weaken fun x hx => by cases hx; exact Or.inl ha

theorem Explored.advance {g : Graph} {above : Option PartId} {a c : PartId} {cs : List PartId}
    {rest : List (PartId × List PartId)} (h : Explored g above ((a, c :: cs) :: rest))
    (hc : c ∈ g.ids → g.Grounded c ∨ some c = above) : Explored g above ((a, cs) :: rest) := by
  obtain ⟨⟨n, hn, hid, pre, hpre, hx⟩, hrest⟩ := h
  refine ⟨⟨n, hn, hid, pre ++ [c], by simp [hpre], fun x hxp hxl => ?_⟩, hrest⟩
  rcases List.mem_append.1 hxp with hxp | hxp
  · exact hx x hxp hxl
  · rw [List.mem_singleton.1 hxp] at hxl ⊢
    exact hc hxl

theorem cycleFrom_eq_none {g : Graph} (hg : g.ids.Nodup) {unseen grey : List PartId}
    {roots : List Node} {frames : List (PartId × List PartId)} (hnd : unseen.Nodup)
    (hsub : ∀ x ∈ unseen, x ∈ g.ids) (hgrey : grey = frames.map Prod.fst)
    (hgu : ∀ x ∈ grey, x ∉ unseen) (hexp : Explored g none frames)
    (hblack : ∀ x ∈ g.ids, x ∉ unseen → x ∉ grey → g.Grounded x)
    (hroots : ∃ pre, pre ++ roots = g.nodes ∧ ∀ r ∈ pre, r.id ∉ unseen)
    (h : g.cycleFrom unseen grey roots frames = none) : ∀ x ∈ g.ids, g.Grounded x := by
  fun_induction g.cycleFrom unseen grey roots frames with
  | case1 unseen grey =>
    subst hgrey
    obtain ⟨pre, hpre, hdone⟩ := hroots
    intro x hx
    obtain ⟨r, hr, rfl⟩ := mem_ids.1 hx
    have hpre : pre = g.nodes := by simpa using hpre
    exact hblack _ hx (hdone r (hpre ▸ hr)) (by simp)
  | case2 unseen grey r rs hr ih =>
    subst hgrey
    obtain ⟨pre, hpre, hdone⟩ := hroots
    have hrn : r ∈ g.nodes := hpre ▸ List.mem_append_right _ List.mem_cons_self
    have hmem : ∀ x, x ∈ unseen.erase r.id ↔ x ∈ unseen ∧ x ≠ r.id := fun x => by
      rw [hnd.mem_erase_iff, and_comm]
    refine ih (hnd.erase _) (fun x hx => hsub x ((hmem x).1 hx).1) rfl ?_ ?_ ?_ ?_ h
    · intro x hx hxu
      simp only [List.map_nil, List.mem_singleton] at hx
      subst hx
      exact ((hmem _).1 hxu).2 rfl
    · exact ⟨⟨r, hrn, rfl, [], rfl, by simp⟩, trivial⟩
    · intro x hx hxu hxg
      refine hblack x hx (fun hxu' => hxu ((hmem x).2 ⟨hxu', ?_⟩)) (by simp)
      simpa using hxg
    · refine ⟨pre ++ [r], by simp [← hpre], fun r' hr' => ?_⟩
      rw [hmem]
      rcases List.mem_append.1 hr' with hr' | hr'
      · exact fun h => hdone r' hr' h.1
      · rw [List.mem_singleton.1 hr']; exact fun h => h.2 rfl
  | case3 unseen grey r rs hr ih =>
    obtain ⟨pre, hpre, hdone⟩ := hroots
    refine ih hnd hsub hgrey hgu hexp hblack ⟨pre ++ [r], by simp [← hpre], fun r' hr' => ?_⟩ h
    rcases List.mem_append.1 hr' with hr' | hr'
    · exact hdone r' hr'
    · rw [List.mem_singleton.1 hr']; exact hr
  | case4 unseen grey roots id frames ih =>
    subst hgrey
    obtain ⟨⟨n, hn, hid, pre, hpre, hx⟩, hrest⟩ := hexp
    have hid_ground : g.Grounded id := by
      refine Acc.intro id fun y ⟨m, hm, hmid, hy⟩ => ?_
      rw [eq_of_id_eq hg hm hn (hmid.trans hid.symm), hpre, List.append_nil] at hy
      by_cases hyl : y ∈ g.ids
      · rcases hx y hy hyl with hy | hy
        · exact hy
        · cases hy
      · exact grounded_of_not_mem hyl
    refine ih hnd hsub (by simp) (fun x hx => hgu x (List.mem_of_mem_erase hx))
      (hrest.lower hid_ground) (fun x hx hxu hxg => ?_) hroots h
    by_cases hxi : x = id
    · rw [hxi]; exact hid_ground
    · exact hblack x hx hxu fun hxg' => hxg ((List.mem_erase_of_ne hxi).2 hxg')
  | case5 unseen grey roots id c cs frames hc => cases h
  | case6 unseen grey roots id c cs frames hc hu n hn ih =>
    subst hgrey
    obtain ⟨hnm, hnid⟩ := find?_eq_some hn
    have hmem : ∀ x, x ∈ unseen.erase c ↔ x ∈ unseen ∧ x ≠ c := fun x => by
      rw [hnd.mem_erase_iff, and_comm]
    refine ih (hnd.erase _) (fun x hx => hsub x ((hmem x).1 hx).1) rfl ?_ ?_ ?_ ?_ h
    · intro x hx hxu
      rcases List.mem_cons.1 hx with rfl | hx
      · exact ((hmem _).1 hxu).2 rfl
      · exact hgu x hx ((hmem x).1 hxu).1
    · -- the frame below now has the new part above it, the child it just passed
      exact ⟨⟨n, hnm, hnid, [], by simp, by simp⟩,
        (hexp.weaken fun _ hx => by cases hx).advance fun _ => Or.inr rfl⟩
    · intro x hx hxu hxg
      have hxc : x ≠ c := fun e => hxg (e ▸ List.mem_cons_self)
      exact hblack x hx (fun hxu' => hxu ((hmem x).2 ⟨hxu', hxc⟩))
        fun hxg' => hxg (List.mem_cons_of_mem _ hxg')
    · obtain ⟨pre', hpre', hdone⟩ := hroots
      exact ⟨pre', hpre', fun r hr hru => hdone r hr ((hmem _).1 hru).1⟩
  | case7 unseen grey roots id c cs frames hc hu hn ih =>
    exact absurd (hsub c hu) (find?_eq_none.1 hn)
  | case8 unseen grey roots id c cs frames hc hu ih =>
    exact ih hnd hsub hgrey hgu (hexp.advance fun hcl => Or.inl (hblack c hcl hu hc)) hblack
      hroots h

theorem Path.source_mem_ids {g : Graph} {x y : PartId} (h : g.Path x y) : x ∈ g.ids := by
  obtain ⟨b, ⟨n, hn, hid, _⟩, _⟩ := Relation.TransGen.head'_iff.1 h
  exact mem_ids.2 ⟨n, hn, hid⟩

theorem findCycle_eq_none {g : Graph} (hg : g.ids.Nodup) (h : g.findCycle = none) : g.Acyclic := by
  have hground := @cycleFrom_eq_none g hg g.ids [] g.nodes [] hg (fun _ hx => hx) rfl (by simp) trivial
    (fun x hx hxu => absurd hx hxu) ⟨[], rfl, by simp⟩ h
  intro p hp
  exact (hground p hp.source_mem_ids).not_path hp

theorem findCycle_eq_none_iff {g : Graph} (hg : g.ids.Nodup) : g.findCycle = none ↔ g.Acyclic :=
  ⟨findCycle_eq_none hg, Acyclic.findCycle_eq_none⟩

/-- On a graph whose records have distinct ids, as those of a map from ids do, the search finds
a part exactly when some part lies below itself, a part its own child included; what it finds
lies on such a cycle, and when it finds nothing the graph is acyclic. Children that are not
live have no children of their own, so every cycle runs through live parts only. -/
theorem findCycle_answer {g : Graph} (hg : g.ids.Nodup) :
    (∀ x, g.findCycle = some x → g.Path x x) ∧
    ((∃ x, g.findCycle = some x) ↔ ∃ x, g.Path x x) ∧
    (g.findCycle = none ↔ g.Acyclic) ∧
    ∀ x, g.Path x x → x ∈ g.ids := by
  have hnone := findCycle_eq_none_iff hg
  refine ⟨fun x hx => findCycle_eq_some hx, ⟨fun ⟨x, hx⟩ => ⟨x, findCycle_eq_some hx⟩,
    fun ⟨x, hx⟩ => ?_⟩, hnone, fun x hx => hx.source_mem_ids⟩
  cases h : g.findCycle with
  | none => exact absurd hx (hnone.1 h x)
  | some y => exact ⟨y, rfl⟩

/-- Three parts: `a` holds `b` and a part that is gone, `b` holds `a` back, `c` stands alone. -/
theorem findCycle_answer_of_two_cycle :
    let a := IdStream.ofSerial 1
    let b := IdStream.ofSerial 2
    let g : Graph := { nodes := [
      { id := a, name := "a", seq := 1, children := ⟨[b, IdStream.ofSerial 9]⟩ },
      { id := b, name := "b", seq := 2, children := ⟨[a]⟩ },
      { id := IdStream.ofSerial 3, name := "c", seq := 3 }], nextSeq := 3 }
    g.ids.Nodup ∧
    ((∀ x, g.findCycle = some x → g.Path x x) ∧
      ((∃ x, g.findCycle = some x) ↔ ∃ x, g.Path x x) ∧
      (g.findCycle = none ↔ g.Acyclic) ∧
      ∀ x, g.Path x x → x ∈ g.ids) := by
  intro a b g
  have hg : g.ids.Nodup := by decide
  exact ⟨hg, findCycle_answer hg⟩

end Graph

end BillOfMaterials
