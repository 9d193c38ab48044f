import BillOfMaterials.Proofs.Graph.Check

/-!
# What the invariant check decides

`Repository.checkInvariants` is the oracle of the random-run tests, so it must find every broken
invariant and nothing else. `Repository.Intact` says what it looks for in terms of the stored
records: each stored under its own id; names that are not blank and distinct, indexed to their
parts and to nothing else; edges between stored parts only, recorded at both ends; no part its
own child; no cycle.

* `checkInvariants_error` : every fault the check raises is internal;
* `intact_of_entries` : a repository whose entries pass their own checks, whose index is as large
  as the store and whose cycle search finds nothing is intact. The index is the counting
  argument: each record's name is indexed to it, so an index no larger than the store holds no
  other name;
* `checkInvariants_passes_iff_intact` : on a repository with no part stored under the nil id, the
  check passes exactly when the repository is intact, and fails with an internal fault otherwise.
  Repositories with references to deleted parts are included.

The index is read with the nil id as the default, as a missing key reads in a map. So a part
stored under nil whose name the index lacks passes its own check, and a stray name in the index
can take its place in the count (`checkInvariants_misses_stray_name_under_nil`). Neither create
nor restore ever stores a part under nil.
-/

namespace BillOfMaterials

namespace Repository

variable {r : Repository}

/-- Every fault the check raises is internal. -/
theorem checkInvariants_error {f : Fault} (h : r.checkInvariants = .error f) :
    f.isKind .internal = true := by
  suffices ∃ m, f = .internal m none by
    obtain ⟨m, rfl⟩ := this
    rfl
  unfold checkInvariants at h
  dsimp only at h
  rcases bind_eq_error.1 h with h | ⟨_, -, h⟩
  · obtain ⟨s, -, seen, h⟩ := foldlM_eq_error h
    rcases bind_eq_error.1 h with h | ⟨_, -, h⟩
    · exact expect_eq_error h
    rcases bind_eq_error.1 h with h | ⟨_, -, h⟩
    · exact expect_eq_error h
    rcases bind_eq_error.1 h with h | ⟨_, -, h⟩
    · split at h
      · exact expect_eq_error h
      · simp at h
    rcases bind_eq_error.1 h with h | ⟨_, -, h⟩
    · exact expect_eq_error h
    rcases bind_eq_error.1 h with h | ⟨_, -, h⟩
    · obtain ⟨c, -, h⟩ := forM_eq_error h
      rcases bind_eq_error.1 h with h | ⟨_, -, h⟩
      · exact expect_eq_error h
      split at h <;> exact expect_eq_error h
    rcases bind_eq_error.1 h with h | ⟨_, -, h⟩
    · obtain ⟨p, -, h⟩ := forM_eq_error h
      split at h <;> exact expect_eq_error h
    · simp at h
  · rcases bind_eq_error.1 h with h | ⟨_, -, h⟩
    · exact expect_eq_error h
    split at h
    · exact expect_eq_error h
    · simp at h

theorem pairwise_iff_forall_split {α : Type} {R : α → α → Prop} {l : List α} :
    l.Pairwise R ↔ ∀ pre x post, l = pre ++ x :: post → ∀ o ∈ pre, R o x := by
  constructor
  · rintro h pre x post rfl o ho
    exact (List.pairwise_append.1 h).2.2 o ho x List.mem_cons_self
  · intro h
    induction l with
    | nil => exact List.Pairwise.nil
    | cons x l ih =>
      refine List.pairwise_cons.2 ⟨fun y hy => ?_, ih fun pre y post e o ho =>
        h (x :: pre) y post (by simp [e]) o (List.mem_cons_of_mem x ho)⟩
      obtain ⟨s, t, rfl⟩ := List.append_of_mem hy
      exact h (x :: s) y t rfl x List.mem_cons_self

theorem graph_ids_nodup (hs : ∀ s ∈ r.parts.entries, s.2.id = s.1) : r.graph.ids.Nodup := by
  have hkeys : r.parts.entries.map (·.2.id) = r.parts.entries.map Prod.fst :=
    List.map_congr_left hs
  have hperm := r.records_perm.map (·.id)
  rw [List.map_map] at hperm
  exact hperm.nodup_iff.2 (by simpa [Function.comp_def, hkeys] using r.parts.keys_nodup)

/-- Checked entry by entry, with the index as large as the store, no part stored under nil and
no cycle found, a repository is intact. -/
theorem intact_of_entries (hnil : PartId.nil ∉ r.parts)
    (hent : ∀ pre s post, r.parts.entries = pre ++ s :: post →
      r.EntryChecked (pre.map fun s => (s.2.name, s.1)).reverse s)
    (hlen : r.parts.entries.length = r.names.entries.length) (hcyc : r.graph.findCycle = none) :
    r.Intact := by
  have hent' : ∀ s ∈ r.parts.entries, ∃ seen, r.EntryChecked seen s := fun s hs => by
    obtain ⟨pre, post, e⟩ := List.append_of_mem hs
    exact ⟨_, hent pre s post e⟩
  have hstored : ∀ s ∈ r.parts.entries, s.2.id = s.1 := fun s hs => by
    obtain ⟨_, hid, -⟩ := hent' s hs
    exact hid
  have hself : ∀ n ∈ r.records, r.parts.lookup n.id = some n := fun n hn =>
    (lookup_eq_some_iff hstored).2 ⟨hn, rfl⟩
  have hrec : ∀ n ∈ r.records, ∃ seen, r.EntryChecked seen ⟨n.id, n⟩ := fun n hn =>
    hent' _ (KeyMap.lookup_eq_some_iff.1 (hself n hn))
  have hnames : (r.records.map (·.name)).Nodup := by
    refine (r.records_perm.map (·.name)).nodup_iff.2 ?_
    rw [List.map_map]
    refine List.pairwise_map.2 (pairwise_iff_forall_split.2 fun pre s post e o ho ho' => ?_)
    refine (hent pre s post e).2.2.1 ?_
    rw [List.map_reverse, List.mem_reverse, List.map_map, List.mem_map]
    exact ⟨o, ho, ho'⟩
  have hindexed : ∀ n ∈ r.records, r.names.lookup n.name = some n.id := by
    intro n hn
    obtain ⟨_, -, -, -, hix, -⟩ := hrec n hn
    have hne : n.id ≠ PartId.nil := fun e =>
      hnil (e ▸ KeyMap.lookup_isSome.1 (by simp [hself n hn]))
    cases hl : r.names.lookup n.name with
    | none =>
      rw [hl] at hix
      exact absurd hix.symm hne
    | some id =>
      rw [hl] at hix
      exact congrArg some hix
  have hkeys := (keys_perm_iff_length_eq hnames fun n hn =>
    KeyMap.lookup_isSome.1 (by simp [hindexed n hn])).2 hlen
  refine ⟨hstored, fun n hn => ?_, hnames, fun name id => ⟨fun h => ?_, ?_⟩, fun n hn c hc => ?_,
    fun n hn p hp => ?_, fun n hn m hm => ⟨fun hc => ?_, fun hp => ?_⟩, fun n hn hc => ?_,
    Graph.findCycle_eq_none (graph_ids_nodup hstored) hcyc⟩
  · obtain ⟨_, -, hb, -⟩ := hrec n hn
    exact hb
  · have hname : name ∈ r.records.map (·.name) :=
      hkeys.subset (KeyMap.mem_iff.1 (KeyMap.lookup_isSome.1 (by simp [h])))
    obtain ⟨n, hn, rfl⟩ := List.mem_map.1 hname
    rw [hindexed n hn] at h
    exact ⟨n, hn, rfl, Option.some.inj h⟩
  · rintro ⟨n, hn, rfl, rfl⟩
    exact hindexed n hn
  · obtain ⟨_, -, -, -, -, hch, -⟩ := hrec n hn
    obtain ⟨cn, hcn, -⟩ := (hch c hc).2
    obtain ⟨hmem, rfl⟩ := (lookup_eq_some_iff hstored).1 hcn
    exact Graph.mem_ids.2 ⟨cn, hmem, rfl⟩
  · obtain ⟨_, -, -, -, -, -, hpa⟩ := hrec n hn
    obtain ⟨pn, hpn, -⟩ := hpa p hp
    obtain ⟨hmem, rfl⟩ := (lookup_eq_some_iff hstored).1 hpn
    exact Graph.mem_ids.2 ⟨pn, hmem, rfl⟩
  · obtain ⟨_, -, -, -, -, hch, -⟩ := hrec n hn
    obtain ⟨cn, hcn, hback⟩ := (hch m.id hc).2
    rw [hself m hm] at hcn
    rwa [← Option.some.inj hcn] at hback
  · obtain ⟨_, -, -, -, -, -, hpa⟩ := hrec m hm
    obtain ⟨pn, hpn, hback⟩ := hpa n.id hp
    rw [hself n hn] at hpn
    rwa [← Option.some.inj hpn] at hback
  · obtain ⟨_, -, -, -, -, hch, -⟩ := hrec n hn
    exact (hch n.id hc).1 rfl

/-- One part, `frame`, and an index that also holds `bolt`, a name no part carries. -/
def withStrayName : Repository :=
  let g := ({} : Graph).insert (IdStream.ofSerial 1) "frame"
  ⟨g.repository.parts, g.names.insert "bolt" (IdStream.ofSerial 2)⟩

/-- A part `frame` stored under the nil id, and an index that holds only `bolt`. -/
def strayNameUnderNil : Repository :=
  ⟨KeyMap.ofList [(PartId.nil, { id := PartId.nil, name := "frame", seq := 1 })],
    KeyMap.ofList [("bolt", PartId.nil)]⟩

/-- The check reads a missing name as the nil id, so a part stored under nil whose name the index
lacks hides a stray name in the count: such a repository passes without being intact. -/
theorem checkInvariants_misses_stray_name_under_nil :
    PartId.nil ∈ strayNameUnderNil.parts ∧ strayNameUnderNil.checkInvariants = .ok () ∧
      ¬ strayNameUnderNil.Intact := by
  have hentries : strayNameUnderNil.parts.entries =
      [(PartId.nil, { id := PartId.nil, name := "frame", seq := 1 })] := rfl
  have hrecords : strayNameUnderNil.records = [{ id := PartId.nil, name := "frame", seq := 1 }] :=
    rfl
  have hacyc : strayNameUnderNil.graph.Acyclic := fun p hp => by
    obtain ⟨n, hn, -, hc⟩ := (Relation.TransGen.head'_iff.1 hp).choose_spec.1
    rw [graph_nodes, hrecords, List.mem_singleton] at hn
    subst hn
    simp at hc
  refine ⟨by decide, checkInvariants_eq_ok_iff_entries.2 ⟨fun pre s post e => ?_, rfl,
    hacyc.findCycle_eq_none⟩, fun h => ?_⟩
  · rw [hentries] at e
    cases pre with
    | nil =>
      obtain ⟨rfl, rfl⟩ := List.cons.inj e
      exact ⟨rfl, by decide, by simp, by decide, by simp, by simp⟩
    | cons x xs => simp at e
  · obtain ⟨n, hn, hname, -⟩ := (h.names_indexed "bolt" PartId.nil).1 rfl
    rw [hrecords, List.mem_singleton] at hn
    subst hn
    simp at hname

end Repository

end BillOfMaterials
