import BillOfMaterials.Proofs.Graph.FindCycle
import BillOfMaterials.Proofs.Except

/-!
# The invariant check

`Repository.checkInvariants` sweeps the stored entries for a record stored under another id, a
blank or shared name, a name the index points elsewhere, a part that is its own child and an
edge recorded at one end only or to a part that is gone; then it compares the number of names
met with the size of the index, and looks for a cycle.

* `checkInvariants_eq_ok_iff_entries` : the check passes exactly when every entry passes its
  own checks against the names met before it (`EntryChecked`), the index is as large as the
  store, and the cycle search finds nothing;
* `keys_perm_iff_length_eq` : the counting argument. When every record's name is in the index,
  the index holds no other name exactly when it is no larger than the store;
* `Intact` : the invariants in terms of the records, and `Intact.checkInvariants_eq_ok` : an
  intact repository passes;
* `WellFormed.checkInvariants_eq_ok` : the repository of a well-formed graph is intact, so the
  check finds nothing on it.
-/

namespace BillOfMaterials

namespace Repository

variable {r : Repository}

@[simp] theorem graph_nodes (r : Repository) : r.graph.nodes = r.records := rfl

theorem perm_insertBySeq (n : Node) : ∀ l : List Node, (insertBySeq n l).Perm (n :: l)
  | [] => .refl _
  | m :: ms => by
    unfold insertBySeq
    split
    · exact .refl _
    · exact ((perm_insertBySeq n ms).cons m).trans (.swap n m ms)

theorem records_perm (r : Repository) : r.records.Perm (r.parts.entries.map (·.2)) := by
  unfold records
  induction r.parts.entries.map (·.2) with
  | nil => exact .refl _
  | cons n l ih => exact (perm_insertBySeq n _).trans (ih.cons n)

@[simp] theorem mem_records {n : Node} : n ∈ r.records ↔ ∃ s ∈ r.parts.entries, s.2 = n := by
  rw [r.records_perm.mem_iff, List.mem_map]

@[simp] theorem length_records (r : Repository) : r.records.length = r.parts.entries.length := by
  rw [r.records_perm.length_eq, List.length_map]

/-- What the check asks of one entry, given the names met before it: a record stored under its
own id, with a name that is not blank, not met before and indexed to the entry; children other
than itself whose records list it as a parent, and parents whose records list it as a child. -/
def EntryChecked (r : Repository) (seen : List (String × PartId))
    (s : PartId × Node) : Prop :=
  s.2.id = s.1 ∧ Text.isBlank s.2.name = false ∧ s.2.name ∉ seen.map Prod.fst ∧
    (r.names.lookup s.2.name).getD PartId.nil = s.1 ∧
    (∀ c ∈ s.2.children.toList, c ≠ s.1 ∧
      ∃ cn, r.parts.lookup c = some cn ∧ s.1 ∈ cn.parents.toList) ∧
    ∀ p ∈ s.2.parents.toList, ∃ pn, r.parts.lookup p = some pn ∧ s.1 ∈ pn.children.toList

theorem exists_unit_ok {ε : Type} {x : Except ε Unit} {P : Prop} :
    (∃ a, x = .ok a ∧ P) ↔ x = .ok () ∧ P :=
  ⟨fun ⟨⟨⟩, h⟩ => h, fun h => ⟨(), h⟩⟩

@[simp] theorem expect_eq_ok {b : Bool} {m : String} :
    (if b then pure () else throw (.internal m none) : Except Fault Unit) = .ok () ↔ b = true := by
  cases b <;> simp

theorem expect_eq_error {b : Bool} {m : String} {f : Fault}
    (h : (if b then pure () else throw (.internal m none) : Except Fault Unit) = .error f) :
    ∃ m, f = .internal m none := by
  cases b
  · exact ⟨m, (throw_eq_error.1 h).symm⟩
  · simp at h

theorem lookup_eq_none_iff_not_mem {α β : Type} [BEq α] [LawfulBEq α] {l : List (α × β)} {a : α} :
    l.lookup a = none ↔ a ∉ l.map Prod.fst := by
  rw [List.lookup_eq_none_iff]
  simp only [List.mem_map, not_exists, not_and]
  constructor
  · intro h p hp e
    exact bne_iff_ne.1 (h p hp) e.symm
  · intro h p hp
    exact bne_iff_ne.2 fun e => h p hp e.symm

/-- The check passes exactly when every entry passes its own checks against the names met before
it, the index holds as many names as there are entries, and the cycle search finds nothing. -/
theorem checkInvariants_eq_ok_iff_entries :
    r.checkInvariants = .ok () ↔
      (∀ pre s post, r.parts.entries = pre ++ s :: post →
        r.EntryChecked (pre.map fun s => (s.2.name, s.1)).reverse s) ∧
      r.parts.entries.length = r.names.entries.length ∧ r.graph.findCycle = none := by
  unfold checkInvariants
  dsimp only
  rw [bind_eq_ok]
  refine (exists_congr fun seen => and_congr_left fun _ =>
    foldlM_cons_eq_ok_iff (k := fun s => (s.2.name, s.1)) (Q := r.EntryChecked) ?step _ _ _).trans ?_
  case step =>
    intro seen s r'
    obtain ⟨id, n⟩ := s
    simp only [EntryChecked, bind_eq_ok, exists_unit_ok, expect_eq_ok, pure_eq_ok, forM_eq_ok]
    simp only [beq_iff_eq, bne_iff_ne, ne_eq, Bool.not_eq_true']
    constructor
    · rintro ⟨hid, hb, hseen, hix, hch, hpa, rfl⟩
      refine ⟨rfl, hid, hb, ?_, hix, fun c hc => ?_, fun p hp => ?_⟩
      · cases hs : seen.lookup n.name with
        | some o => simp [hs] at hseen
        | none => exact lookup_eq_none_iff_not_mem.1 hs
      · obtain ⟨hne, h⟩ := hch c hc
        cases hl : r.parts.lookup c with
        | none => simp [hl] at h
        | some cn =>
          simp only [hl] at h
          exact ⟨hne, cn, rfl, by simpa [IdSet.has] using expect_eq_ok.1 h⟩
      · have h := hpa p hp
        cases hl : r.parts.lookup p with
        | none => simp [hl] at h
        | some pn =>
          simp only [hl] at h
          exact ⟨pn, rfl, by simpa [IdSet.has] using expect_eq_ok.1 h⟩
    · rintro ⟨rfl, hid, hb, hseen, hix, hch, hpa⟩
      refine ⟨hid, hb, by simp [lookup_eq_none_iff_not_mem.2 hseen], hix, fun c hc => ?_,
        fun p hp => ?_, rfl⟩
      · obtain ⟨hne, cn, hcn, hback⟩ := hch c hc
        simp [hne, hcn, IdSet.has, hback]
      · obtain ⟨pn, hpn, hback⟩ := hpa p hp
        simp [hpn, IdSet.has, hback]
  · simp only [List.append_nil]
    constructor
    · rintro ⟨_, ⟨rfl, hent⟩, h⟩
      rw [bind_eq_ok, exists_unit_ok, expect_eq_ok] at h
      refine ⟨hent, by simpa using h.1, ?_⟩
      cases hc : r.graph.findCycle <;> simp_all
    · rintro ⟨hent, hlen, hcyc⟩
      refine ⟨_, ⟨rfl, hent⟩, ?_⟩
      simp [hlen, hcyc]
theorem lookup_eq_some_iff (hs : ∀ s ∈ r.parts.entries, s.2.id = s.1) {id : PartId} {n : Node} :
    r.parts.lookup id = some n ↔ n ∈ r.records ∧ n.id = id := by
  rw [KeyMap.lookup_eq_some_iff, mem_records]
  constructor
  · intro h
    exact ⟨⟨_, h, rfl⟩, hs _ h⟩
  · rintro ⟨⟨s, hmem, rfl⟩, rfl⟩
    simpa [hs s hmem] using hmem

/-- The counting argument. When every record's name is in the index and the names of the records
are distinct, the index holds exactly those names if and only if it has as many entries as the
store. -/
theorem keys_perm_iff_length_eq (hnd : (r.records.map (·.name)).Nodup)
    (hsub : ∀ n ∈ r.records, n.name ∈ r.names) :
    r.names.keys.Perm (r.records.map (·.name)) ↔
      r.parts.entries.length = r.names.entries.length := by
  have hkeys : r.names.keys.length = r.names.entries.length := by simp [KeyMap.keys]
  constructor
  · intro h
    simpa [hkeys] using h.length_eq.symm
  · intro hlen
    have hsubset : r.records.map (·.name) ⊆ r.names.keys := by
      intro name hname
      obtain ⟨n, hn, rfl⟩ := List.mem_map.1 hname
      exact KeyMap.mem_iff.1 (hsub n hn)
    refine ((List.subperm_of_subset hnd hsubset).perm_of_length_le ?_).symm
    simp [hkeys, hlen]

/-- The invariants the check looks for: each record stored under its own id; names that are not
blank and distinct, indexed to their parts and to nothing else; edges between stored parts only,
recorded at both ends; no part its own child; no cycle. -/
structure Intact (r : Repository) : Prop where
  stored_under_id : ∀ s ∈ r.parts.entries, s.2.id = s.1
  name_nonblank : ∀ n ∈ r.records, Text.isBlank n.name = false
  names_nodup : (r.records.map (·.name)).Nodup
  names_indexed : ∀ name id, r.names.lookup name = some id ↔
    ∃ n ∈ r.records, n.name = name ∧ n.id = id
  children_live : ∀ n ∈ r.records, ∀ c ∈ n.children.toList, c ∈ r.graph.ids
  parents_live : ∀ n ∈ r.records, ∀ p ∈ n.parents.toList, p ∈ r.graph.ids
  mirror : ∀ n ∈ r.records, ∀ m ∈ r.records, m.id ∈ n.children.toList ↔ n.id ∈ m.parents.toList
  not_mem_children_self : ∀ n ∈ r.records, n.id ∉ n.children.toList
  acyclic : r.graph.Acyclic

namespace Intact

variable (h : r.Intact)
include h

theorem lookup_self {n : Node} (hn : n ∈ r.records) : r.parts.lookup n.id = some n :=
  (lookup_eq_some_iff h.stored_under_id).2 ⟨hn, rfl⟩

theorem entry_names_nodup : (r.parts.entries.map (·.2.name)).Nodup := by
  simpa [Function.comp_def] using (r.records_perm.map (·.name)).nodup_iff.1 h.names_nodup

theorem length_eq : r.parts.entries.length = r.names.entries.length := by
  refine (keys_perm_iff_length_eq h.names_nodup fun n hn => ?_).1 ?_
  · exact KeyMap.lookup_isSome.1 (by simp [(h.names_indexed n.name n.id).2 ⟨n, hn, rfl, rfl⟩])
  · refine (List.perm_ext_iff_of_nodup r.names.keys_nodup h.names_nodup).2 fun name => ?_
    change name ∈ r.names.keys ↔ _
    rw [← KeyMap.mem_iff, ← KeyMap.lookup_isSome, Option.isSome_iff_exists]
    simp only [h.names_indexed, List.mem_map]
    constructor
    · rintro ⟨_, n, hn, rfl, -⟩
      exact ⟨n, hn, rfl⟩
    · rintro ⟨n, hn, rfl⟩
      exact ⟨n.id, n, hn, rfl, rfl⟩

theorem entryChecked {pre post : List (PartId × Node)} {s : PartId × Node}
    (e : r.parts.entries = pre ++ s :: post) :
    r.EntryChecked (pre.map fun s => (s.2.name, s.1)).reverse s := by
  have hmem : s ∈ r.parts.entries := by simp [e]
  have hs : s.2 ∈ r.records := mem_records.2 ⟨s, hmem, rfl⟩
  have hid : s.2.id = s.1 := h.stored_under_id s hmem
  refine ⟨hid, h.name_nonblank _ hs, ?_, ?_, fun c hc => ?_, fun p hp => ?_⟩
  · have hnd := h.entry_names_nodup
    rw [e, List.map_append, List.map_cons, List.nodup_append] at hnd
    rw [List.map_reverse, List.mem_reverse, List.map_map, List.mem_map]
    rintro ⟨o, ho, e⟩
    exact hnd.2.2 _ (List.mem_map.2 ⟨o, ho, rfl⟩) _ List.mem_cons_self e
  · simp [(h.names_indexed _ _).2 ⟨s.2, hs, rfl, hid⟩]
  · obtain ⟨cn, hcn, rfl⟩ := Graph.mem_ids.1 (h.children_live _ hs c hc)
    refine ⟨fun e => h.not_mem_children_self _ hs ?_, cn, h.lookup_self hcn, ?_⟩
    · rwa [hid, ← e]
    · rw [← hid]
      exact (h.mirror _ hs cn hcn).1 hc
  · obtain ⟨pn, hpn, rfl⟩ := Graph.mem_ids.1 (h.parents_live _ hs p hp)
    refine ⟨pn, h.lookup_self hpn, ?_⟩
    rw [← hid]
    exact (h.mirror pn hpn _ hs).2 hp

/-- An intact repository passes the check. -/
theorem checkInvariants_eq_ok : r.checkInvariants = .ok () :=
  checkInvariants_eq_ok_iff_entries.2
    ⟨fun _ _ _ e => h.entryChecked e, h.length_eq, h.acyclic.findCycle_eq_none⟩

end Intact

end Repository

namespace Graph

variable {g : Graph}

@[simp] theorem repository_names (g : Graph) : g.repository.names = g.names := rfl

theorem repository_entries (hids : g.ids.Nodup) :
    g.repository.parts.entries = g.nodes.map fun n => (n.id, n) :=
  KeyMap.ofList_entries (by simpa [Function.comp_def, ids] using hids)

theorem mem_repository_records (hids : g.ids.Nodup) {n : Node} :
    n ∈ g.repository.records ↔ n ∈ g.nodes := by
  simp [repository_entries hids]

theorem WellFormed.repository_intact (h : g.WellFormed) : g.repository.Intact := by
  have hmem : ∀ n, n ∈ g.repository.records ↔ n ∈ g.nodes := fun _ =>
    mem_repository_records h.ids_nodup
  have hids : ∀ id, id ∈ g.repository.graph.ids ↔ id ∈ g.ids := fun _ => by simp [hmem]
  refine ⟨fun s hs => ?_, fun n hn => h.name_nonblank n ((hmem n).1 hn), ?_,
    fun name id => by simpa [hmem] using h.names_indexed name id, ?_, ?_, ?_, ?_, ?_⟩
  · rw [repository_entries h.ids_nodup, List.mem_map] at hs
    obtain ⟨n, -, rfl⟩ := hs
    rfl
  · have hperm : g.repository.records.Perm g.nodes := by
      simpa [repository_entries h.ids_nodup, Function.comp_def] using g.repository.records_perm
    exact (hperm.map (·.name)).nodup_iff.2 h.names_nodup
  · simpa [hmem, hids] using h.children_live
  · simpa [hmem, hids] using h.parents_live
  · simpa [hmem] using h.mirror
  · simpa [hmem] using fun n hn => h.not_mem_children_self hn
  · refine h.acyclic.mono fun a b hab => ?_
    obtain ⟨n, hn, ha, hb⟩ := hab
    exact ⟨n, (hmem n).1 hn, ha, hb⟩

/-- On a well-formed graph the check finds nothing. -/
theorem WellFormed.checkInvariants_eq_ok (h : g.WellFormed) : g.checkInvariants = .ok () :=
  h.repository_intact.checkInvariants_eq_ok

end Graph

end BillOfMaterials
