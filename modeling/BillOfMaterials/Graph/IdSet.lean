import BillOfMaterials.Part.Id

/-!
# Ordered id sets

The children and the parents of a part are each an `IdSet`: ids in the order they joined,
each at most once.

* `IdSet.add` appends an absent id and reports whether it was absent;
* `IdSet.remove` deletes an id, keeping the others in order, and reports whether it was there;
* `IdSet.reorder` replaces the order by a given one;
* `dedupe` keeps the first occurrence of each id of a list.

`add_toList`, `remove_toList` say what each does to the list (`mem_add_toList`,
`mem_remove_toList` to its members), and `nodup_add`, `nodup_remove` that a list without repeats
stays so; `nodup_dedupe` and `mem_dedupe` say that `dedupe` drops repeats and nothing else.
-/

namespace BillOfMaterials

/-- Ids in the order they joined. -/
structure IdSet where
  toList : List PartId := []
  deriving DecidableEq, Inhabited

namespace IdSet

/-- The empty set. -/
def empty : IdSet := {}

/-- Whether an id is a member. -/
def has (s : IdSet) (id : PartId) : Bool := s.toList.contains id

/-- The number of members. -/
def size (s : IdSet) : Nat := s.toList.length

/-- Appends an absent id; the flag says whether it was absent. -/
def add (s : IdSet) (id : PartId) : Bool × IdSet :=
  if s.has id then (false, s) else (true, ⟨s.toList ++ [id]⟩)

/-- Deletes an id; the flag says whether it was a member. -/
def remove (s : IdSet) (id : PartId) : Bool × IdSet :=
  if s.has id then (true, ⟨s.toList.erase id⟩) else (false, s)

/-- The same members in the given order. -/
def reorder (_ : IdSet) (ids : List PartId) : IdSet := ⟨ids⟩

theorem add_toList (s : IdSet) (id : PartId) :
    (s.add id).2.toList = if id ∈ s.toList then s.toList else s.toList ++ [id] := by
  unfold add has
  by_cases h : id ∈ s.toList <;> simp [h]

theorem remove_toList (s : IdSet) (id : PartId) : (s.remove id).2.toList = s.toList.erase id := by
  unfold remove has
  by_cases h : id ∈ s.toList
  · simp [h]
  · simp [h, List.erase_of_not_mem h]

theorem mem_add_toList (s : IdSet) (id x : PartId) :
    x ∈ (s.add id).2.toList ↔ x ∈ s.toList ∨ x = id := by
  rw [add_toList]
  split
  · rename_i hid
    exact ⟨Or.inl, fun h => h.elim (fun hx => hx) (fun e => e ▸ hid)⟩
  · simp

theorem mem_remove_toList {s : IdSet} (h : s.toList.Nodup) (id x : PartId) :
    x ∈ (s.remove id).2.toList ↔ x ∈ s.toList ∧ x ≠ id := by
  rw [remove_toList, h.mem_erase_iff, and_comm]

theorem nodup_add {s : IdSet} (h : s.toList.Nodup) (id : PartId) : (s.add id).2.toList.Nodup := by
  rw [add_toList]
  split
  · exact h
  · rename_i hn
    rw [List.nodup_append]
    exact ⟨h, List.nodup_cons.2 ⟨by simp, List.nodup_nil⟩, by
      intro a ha b hb; simp at hb; subst hb; intro e; subst e; exact hn ha⟩

theorem nodup_remove {s : IdSet} (h : s.toList.Nodup) (id : PartId) :
    (s.remove id).2.toList.Nodup := by
  rw [remove_toList]; exact h.erase id

end IdSet

/-- The ids of a list with every repeat dropped, first occurrences kept in order. -/
def dedupe (ids : List PartId) : List PartId :=
  (ids.foldl (fun acc id => if acc.contains id then acc else id :: acc) []).reverse

example : dedupe [IdStream.ofSerial 2, IdStream.ofSerial 1, IdStream.ofSerial 2] =
    [IdStream.ofSerial 2, IdStream.ofSerial 1] := by decide

theorem dedupe_foldl (l : List PartId) : ∀ acc : List PartId, acc.Nodup →
    (l.foldl (fun acc id => if acc.contains id then acc else id :: acc) acc).Nodup ∧
      ∀ x, x ∈ l.foldl (fun acc id => if acc.contains id then acc else id :: acc) acc ↔
        x ∈ acc ∨ x ∈ l := by
  induction l with
  | nil => intro acc h; simp [h]
  | cons y l ih =>
    intro acc h
    by_cases hy : y ∈ acc
    · -- a repeat leaves the accumulator as it is
      have hstep : (if acc.contains y then acc else y :: acc) = acc := by simp [hy]
      obtain ⟨hnd, hmem⟩ := ih acc h
      rw [List.foldl_cons, hstep]
      refine ⟨hnd, fun x => ?_⟩
      rw [hmem, List.mem_cons]
      constructor
      · rintro (hx | hx)
        · exact .inl hx
        · exact .inr (.inr hx)
      · rintro (hx | rfl | hx)
        · exact .inl hx
        · exact .inl hy
        · exact .inr hx
    · have hstep : (if acc.contains y then acc else y :: acc) = y :: acc := by simp [hy]
      obtain ⟨hnd, hmem⟩ := ih (y :: acc) (List.nodup_cons.2 ⟨hy, h⟩)
      rw [List.foldl_cons, hstep]
      refine ⟨hnd, fun x => ?_⟩
      rw [hmem, List.mem_cons, List.mem_cons]
      simp only [or_assoc, or_left_comm]

theorem nodup_dedupe (l : List PartId) : (dedupe l).Nodup :=
  List.pairwise_reverse.2 ((dedupe_foldl l [] List.nodup_nil).1.imp Ne.symm)

@[simp] theorem mem_dedupe {l : List PartId} {x : PartId} : x ∈ dedupe l ↔ x ∈ l := by
  rw [dedupe, List.mem_reverse, (dedupe_foldl l [] List.nodup_nil).2]
  simp

end BillOfMaterials
