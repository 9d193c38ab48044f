import BillOfMaterials.Graph.IdSet
import Mathlib.Data.Finset.Dedup
import Mathlib.Data.Finset.Empty
import Mathlib.Data.Finset.Erase
import Mathlib.Data.Finset.Insert
import Mathlib.Data.List.Nodup

/-!
# The index of an id set

Each id set of a part's record is kept twice: the ids in the order they joined, and an index of
the members that answers lookups. The graph's records here hold `IdSet`, the order alone, and
read a lookup off it. `IdSet.Indexed` is the set with both parts: its lookup reads the index,
and its calls change the two parts each on its own, so they stay in step only because callers
keep one rule: a reorder names exactly the members, once each. Under that rule they do, and
every call answers as `IdSet`'s does.

* `Indexed.add`, `Indexed.remove`, `Indexed.reorder`, `Indexed.ids`: the calls; `Call`,
  `Indexed.run` for calls in turn, and `Indexed.RunAllowed` for a run whose reorders keep the
  rule;
* `Indexed.WellFormed`: the order has no repeats and the index holds exactly its ids;
  `WellFormed.apply` (one call) and `WellFormed.run` (a whole run) keep it;
* `WellFormed.add_eq`, `WellFormed.remove_eq`: on a well-formed set `add` and `remove` answer
  as `IdSet`'s do on the order alone (a reorder touches the order only), so `IdSet` loses
  nothing by dropping the index;
* `ofIdSet`: an `IdSet` with an index built from it; `allowed_reorder_ofIdSet`: a reorder is
  allowed on it when it names the members of the order, each once, as the reorder of a replace
  does (`Graph.Consistent.replace_reorder_allowed`);
* `run_keeps_index_in_step`: along any allowed run from a new set, the index stays in step with
  the order, `add` appends exactly an absent id, `remove` drops a member from its one place, and
  `ids` copies the order.
-/

namespace BillOfMaterials

namespace IdSet

/-- An id set with its index: the members in the order they joined, and the set of them that a
lookup reads. -/
structure Indexed where
  order : List PartId := []
  index : Finset PartId := ∅
  deriving DecidableEq

/-- A call on an id set. -/
inductive Call where
  | add (id : PartId)
  | remove (id : PartId)
  | reorder (ids : List PartId)
  deriving DecidableEq

namespace Indexed

/-- A new set: no ids and an empty index. -/
def empty : Indexed := {}

/-- Whether an id is a member, read off the index. -/
def has (s : Indexed) (id : PartId) : Bool := decide (id ∈ s.index)

/-- Adds an id the index lacks to the index and to the end of the order; the flag says whether
it was absent. -/
def add (s : Indexed) (id : PartId) : Bool × Indexed :=
  if s.has id then (false, s) else (true, ⟨s.order ++ [id], insert id s.index⟩)

/-- Deletes an id the index holds from the index and from its first place in the order; the flag
says whether it was a member. -/
def remove (s : Indexed) (id : PartId) : Bool × Indexed :=
  if s.has id then (true, ⟨s.order.erase id, s.index.erase id⟩) else (false, s)

/-- The order replaced by the given ids; the index is left as it is. -/
def reorder (s : Indexed) (ids : List PartId) : Indexed := { s with order := ids }

/-- A fresh list of the length of the order, each place copied from it. -/
def ids (s : Indexed) : List PartId := List.ofFn fun i : Fin s.order.length => s.order[i]

/-- The order alone. -/
def toIdSet (s : Indexed) : IdSet := ⟨s.order⟩

/-- An id set kept with an index, the index built from its order. -/
def ofIdSet (s : IdSet) : Indexed := ⟨s.toList, s.toList.toFinset⟩

/-- The set after a call, its flag dropped. -/
def apply (s : Indexed) : Call → Indexed
  | .add id => (s.add id).2
  | .remove id => (s.remove id).2
  | .reorder ids => s.reorder ids

/-- The set after calls in turn. -/
def run (s : Indexed) (calls : List Call) : Indexed := calls.foldl apply s

/-- The rule callers keep: a reorder names exactly the members, once each. -/
def Allowed (s : Indexed) : Call → Prop
  | .reorder ids => ids.Nodup ∧ ids.toFinset = s.index
  | .add _ => True
  | .remove _ => True

instance decidableAllowed (s : Indexed) : (c : Call) → Decidable (s.Allowed c)
  | .reorder ids => inferInstanceAs (Decidable (ids.Nodup ∧ ids.toFinset = s.index))
  | .add _ => isTrue trivial
  | .remove _ => isTrue trivial

/-- Every call of a run keeps the rule where it is made. -/
def RunAllowed : Indexed → List Call → Prop
  | _, [] => True
  | s, c :: cs => s.Allowed c ∧ RunAllowed (s.apply c) cs

instance decidableRunAllowed : (s : Indexed) → (cs : List Call) → Decidable (RunAllowed s cs)
  | _, [] => isTrue trivial
  | s, c :: cs =>
    have := decidableRunAllowed (s.apply c) cs
    inferInstanceAs (Decidable (s.Allowed c ∧ RunAllowed (s.apply c) cs))

/-- The order has no repeats and the index holds exactly its ids. -/
structure WellFormed (s : Indexed) : Prop where
  nodup : s.order.Nodup
  mem_index : ∀ x, x ∈ s.index ↔ x ∈ s.order

variable {s : Indexed}

@[simp] theorem toIdSet_toList (s : Indexed) : s.toIdSet.toList = s.order := rfl

@[simp] theorem run_nil (s : Indexed) : s.run [] = s := rfl

@[simp] theorem run_cons (s : Indexed) (c : Call) (cs : List Call) :
    s.run (c :: cs) = (s.apply c).run cs := rfl

theorem ids_eq_order (s : Indexed) : s.ids = s.order := List.ofFn_getElem

/-! ## The index, whatever the order -/

theorem mem_add_index (s : Indexed) (id x : PartId) :
    x ∈ (s.add id).2.index ↔ x ∈ s.index ∨ x = id := by
  unfold add has
  by_cases h : id ∈ s.index
  · simp only [h, decide_true, if_true, iff_self_or]
    rintro rfl
    exact h
  · simp [h, or_comm]

theorem mem_remove_index (s : Indexed) (id x : PartId) :
    x ∈ (s.remove id).2.index ↔ x ∈ s.index ∧ x ≠ id := by
  unfold remove has
  by_cases h : id ∈ s.index
  · simp [h, and_comm]
  · simp only [h, decide_false, Bool.false_eq_true, if_false, iff_self_and]
    rintro hx rfl
    exact h hx

/-! ## A well-formed set answers as its order -/

theorem WellFormed.empty : empty.WellFormed := ⟨List.nodup_nil, by simp [Indexed.empty]⟩

theorem WellFormed.has_eq (h : s.WellFormed) (id : PartId) : s.has id = s.toIdSet.has id := by
  simp [has, IdSet.has, h.mem_index]

/-- `add` answers as on the order alone. -/
theorem WellFormed.add_eq (h : s.WellFormed) (id : PartId) :
    ((s.add id).1, (s.add id).2.toIdSet) = s.toIdSet.add id := by
  unfold add IdSet.add
  rw [h.has_eq]
  split <;> rfl

/-- `remove` answers as on the order alone. -/
theorem WellFormed.remove_eq (h : s.WellFormed) (id : PartId) :
    ((s.remove id).1, (s.remove id).2.toIdSet) = s.toIdSet.remove id := by
  unfold remove IdSet.remove
  rw [h.has_eq]
  split <;> rfl

theorem WellFormed.add_fst (h : s.WellFormed) (id : PartId) :
    (s.add id).1 = (s.toIdSet.add id).1 :=
  congrArg Prod.fst (h.add_eq id)

theorem WellFormed.add_order (h : s.WellFormed) (id : PartId) :
    (s.add id).2.order = (s.toIdSet.add id).2.toList :=
  congrArg (fun r => r.2.toList) (h.add_eq id)

theorem WellFormed.remove_fst (h : s.WellFormed) (id : PartId) :
    (s.remove id).1 = (s.toIdSet.remove id).1 :=
  congrArg Prod.fst (h.remove_eq id)

theorem WellFormed.remove_order (h : s.WellFormed) (id : PartId) :
    (s.remove id).2.order = (s.toIdSet.remove id).2.toList :=
  congrArg (fun r => r.2.toList) (h.remove_eq id)

/-! ## Every allowed call keeps a set well formed -/

theorem WellFormed.add (h : s.WellFormed) (id : PartId) : (s.add id).2.WellFormed where
  nodup := by
    rw [h.add_order]
    exact IdSet.nodup_add h.nodup id
  mem_index x := by
    rw [mem_add_index, h.mem_index, h.add_order, IdSet.mem_add_toList, toIdSet_toList]

theorem WellFormed.remove (h : s.WellFormed) (id : PartId) : (s.remove id).2.WellFormed where
  nodup := by
    rw [h.remove_order]
    exact IdSet.nodup_remove h.nodup id
  mem_index x := by
    rw [mem_remove_index, h.mem_index, h.remove_order, IdSet.mem_remove_toList h.nodup,
      toIdSet_toList]

/-- A reorder that keeps the rule makes any set well formed: the new order has no repeats and
holds exactly the ids of the index. -/
theorem WellFormed.reorder {ids : List PartId} (hc : s.Allowed (.reorder ids)) :
    (s.reorder ids).WellFormed where
  nodup := hc.1
  mem_index x := by
    change x ∈ s.index ↔ x ∈ ids
    rw [← hc.2, List.mem_toFinset]

theorem WellFormed.ofIdSet {t : IdSet} (h : t.toList.Nodup) : (ofIdSet t).WellFormed :=
  ⟨h, by simp [Indexed.ofIdSet]⟩

/-- A reorder is allowed on an id set kept with an index exactly when it names the members of
the order, each once. -/
theorem allowed_reorder_ofIdSet {t : IdSet} {ids : List PartId} :
    (ofIdSet t).Allowed (.reorder ids) ↔ ids.Nodup ∧ ∀ x, x ∈ ids ↔ x ∈ t.toList := by
  refine and_congr_right fun _ => ?_
  rw [Finset.ext_iff]
  simp [Indexed.ofIdSet]

/-- The step: an allowed call keeps a set well formed. -/
theorem WellFormed.apply (h : s.WellFormed) {c : Call} (hc : s.Allowed c) :
    (s.apply c).WellFormed := by
  cases c with
  | add id => exact h.add id
  | remove id => exact h.remove id
  | reorder ids => exact WellFormed.reorder hc

/-- The run: a run of allowed calls keeps a set well formed. -/
theorem WellFormed.run (h : s.WellFormed) {cs : List Call} (hr : RunAllowed s cs) :
    (s.run cs).WellFormed := by
  induction cs generalizing s with
  | nil =>
    rw [run_nil]
    exact h
  | cons c cs ih =>
    obtain ⟨hc, hrest⟩ := hr
    rw [run_cons]
    exact ih (h.apply hc) hrest

/-! ## What each call answers on a well-formed set -/

theorem WellFormed.add_answer (h : s.WellFormed) (id : PartId) :
    ((s.add id).1 = true ↔ id ∉ s.order) ∧
      (s.add id).2.order = if id ∈ s.order then s.order else s.order ++ [id] := by
  refine ⟨?_, ?_⟩
  · rw [h.add_fst]
    unfold IdSet.add IdSet.has
    by_cases hid : id ∈ s.order <;> simp [hid]
  · rw [h.add_order, IdSet.add_toList, toIdSet_toList]

theorem WellFormed.remove_answer (h : s.WellFormed) (id : PartId) :
    ((s.remove id).1 = true ↔ id ∈ s.order) ∧
      (s.remove id).2.order = s.order.filter (· ≠ id) := by
  refine ⟨?_, ?_⟩
  · rw [h.remove_fst]
    unfold IdSet.remove IdSet.has
    by_cases hid : id ∈ s.order <;> simp [hid]
  · rw [h.remove_order, IdSet.remove_toList, toIdSet_toList, h.nodup.erase_eq_filter]
    exact List.filter_congr fun x _ => by grind

/-- Along any run of calls from a new set whose reorders each name exactly the members, once
each: the order keeps no repeats and the index holds exactly its ids; the next `add` appends
exactly an absent id and says whether it was absent; the next `remove` drops a member from its
one place, keeps the other ids in order and says whether it was there; `ids` is a copy of the
order. -/
theorem run_keeps_index_in_step (calls : List Call) (hr : RunAllowed Indexed.empty calls) :
    let t := Indexed.empty.run calls
    t.order.Nodup ∧ (∀ x, x ∈ t.index ↔ x ∈ t.order) ∧
      (∀ id, ((t.add id).1 = true ↔ id ∉ t.order) ∧
        (t.add id).2.order = if id ∈ t.order then t.order else t.order ++ [id]) ∧
      (∀ id, ((t.remove id).1 = true ↔ id ∈ t.order) ∧
        (t.remove id).2.order = t.order.filter (· ≠ id)) ∧
      t.ids = t.order := by
  intro t
  have ht : t.WellFormed := WellFormed.empty.run hr
  exact ⟨ht.nodup, ht.mem_index, ht.add_answer, ht.remove_answer, ids_eq_order t⟩

/-- Two ids added, one added again, the order turned round, the first removed and added back:
every reorder names the members, and the set answers as the order says. -/
theorem run_keeps_index_in_step_of_swap :
    let a := IdStream.ofSerial 1
    let b := IdStream.ofSerial 2
    let calls := [Call.add a, .add b, .add a, .reorder [b, a], .remove a, .add a]
    let t := Indexed.empty.run calls
    RunAllowed Indexed.empty calls ∧
    t.order.Nodup ∧ (∀ x, x ∈ t.index ↔ x ∈ t.order) ∧
      (∀ id, ((t.add id).1 = true ↔ id ∉ t.order) ∧
        (t.add id).2.order = if id ∈ t.order then t.order else t.order ++ [id]) ∧
      (∀ id, ((t.remove id).1 = true ↔ id ∈ t.order) ∧
        (t.remove id).2.order = t.order.filter (· ≠ id)) ∧
      t.ids = t.order := by
  -- `t` is left unintroduced: matching a local `t` against the theorem's would run the calls
  intro a b calls
  have hr : RunAllowed Indexed.empty calls := by decide
  exact ⟨hr, run_keeps_index_in_step calls hr⟩

end Indexed

end IdSet

end BillOfMaterials
