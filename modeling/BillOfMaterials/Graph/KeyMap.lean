/-!
# Maps with distinct keys

The repository keeps two maps: the records by id, and the ids by name. A `KeyMap` is such a map,
kept as the list of its entries with no key twice. Go leaves the order of a map's entries open;
here they stand in the order their keys were last set.

* `KeyMap.lookup`, `KeyMap.insert`, `KeyMap.erase`, `KeyMap.size`, and `a ∈ m` for a key;
* `KeyMap.ofList` : the map of a list of pairs, the last value of a key winning;
* `lookup_insert`, `lookup_insert_ne`, `lookup_erase`, `lookup_erase_ne` : what a change does
  to a lookup; `lookup_eq_some_iff` : a lookup finds exactly the entries, since no key is
  repeated; `ofList_entries` : a list without repeated keys is its own map.
-/

namespace BillOfMaterials

/-- A map kept as its entries; no key occurs twice. -/
structure KeyMap (α β : Type) where
  entries : List (α × β)
  keys_nodup : (entries.map Prod.fst).Nodup

namespace KeyMap

variable {α β : Type}

/-- The empty map. -/
def empty : KeyMap α β := ⟨[], List.nodup_nil⟩

instance : EmptyCollection (KeyMap α β) := ⟨empty⟩

instance : Inhabited (KeyMap α β) := ⟨empty⟩

/-- The keys, in the order of the entries. -/
def keys (m : KeyMap α β) : List α := m.entries.map Prod.fst

instance : Membership α (KeyMap α β) := ⟨fun m a => a ∈ m.keys⟩

/-- The number of entries. -/
def size (m : KeyMap α β) : Nat := m.entries.length

@[simp] theorem mem_iff {a : α} {m : KeyMap α β} : a ∈ m ↔ a ∈ m.keys := Iff.rfl

@[simp] theorem length_keys (m : KeyMap α β) : m.keys.length = m.size := by
  simp [keys, size]

variable [DecidableEq α]

instance (a : α) (m : KeyMap α β) : Decidable (a ∈ m) :=
  inferInstanceAs (Decidable (a ∈ m.keys))

/-- The value of a key, if it has one. -/
def lookup (m : KeyMap α β) (a : α) : Option β := m.entries.lookup a

/-- The map without the entry of `a`. -/
def erase (m : KeyMap α β) (a : α) : KeyMap α β :=
  ⟨m.entries.filter (·.1 != a), List.Nodup.sublist ((List.filter_sublist).map _) m.keys_nodup⟩

theorem not_mem_keys_erase (m : KeyMap α β) (a : α) : a ∉ (m.erase a).keys := by
  simp [keys, erase]

/-- The map with `b` the value of `a`: the entry of `a` moves last. -/
def insert (m : KeyMap α β) (a : α) (b : β) : KeyMap α β :=
  ⟨(m.erase a).entries ++ [(a, b)], by
    rw [List.map_append, List.nodup_append]
    refine ⟨(m.erase a).keys_nodup, List.nodup_cons.2 ⟨List.not_mem_nil, List.nodup_nil⟩,
      fun x hx y hy e => ?_⟩
    rw [List.map_cons, List.map_nil, List.mem_singleton] at hy
    subst hy e
    exact m.not_mem_keys_erase _ hx⟩

/-- The map of a list of pairs, each setting its key in turn. -/
def ofList (l : List (α × β)) : KeyMap α β := l.foldl (fun m e => m.insert e.1 e.2) empty

@[simp] theorem lookup_empty (a : α) : (∅ : KeyMap α β).lookup a = none := rfl

theorem lookup_filter (l : List (α × β)) (k a : α) :
    (l.filter (·.1 != k)).lookup a = if a = k then none else l.lookup a := by
  induction l with
  | nil => split <;> rfl
  | cons e l ih =>
    obtain ⟨x, y⟩ := e
    by_cases hx : x = k
    · subst hx
      rw [List.filter_cons_of_neg (by simp), ih]
      by_cases h : a = x
      · simp [h]
      · simp [h, List.lookup_cons, beq_false_of_ne h]
    · rw [List.filter_cons_of_pos (by simpa using hx), List.lookup_cons, List.lookup_cons, ih]
      by_cases h : a = x
      · subst h
        simp [hx]
      · simp [beq_false_of_ne h]

@[simp] theorem lookup_erase (m : KeyMap α β) (a : α) : (m.erase a).lookup a = none := by
  simp [lookup, erase, lookup_filter]

theorem lookup_erase_ne (m : KeyMap α β) {a a' : α} (h : a' ≠ a) :
    (m.erase a).lookup a' = m.lookup a' := by
  simp [lookup, erase, lookup_filter, h]

@[simp] theorem lookup_insert (m : KeyMap α β) (a : α) (b : β) : (m.insert a b).lookup a = some b := by
  simp [insert, lookup, List.lookup_append, lookup_filter, erase]

theorem lookup_insert_ne (m : KeyMap α β) {a a' : α} (b : β) (h : a' ≠ a) :
    (m.insert a b).lookup a' = m.lookup a' := by
  simp [insert, lookup, List.lookup_append, lookup_filter, erase, h, List.lookup_cons,
    beq_false_of_ne h]

theorem lookup_eq_some_iff_of_nodup {a : α} {b : β} :
    ∀ {l : List (α × β)}, (l.map Prod.fst).Nodup → (l.lookup a = some b ↔ (a, b) ∈ l)
  | [], _ => by simp
  | (x, y) :: l, hl => by
    rw [List.map_cons, List.nodup_cons] at hl
    by_cases hx : a = x
    · subst hx
      simp only [List.lookup_cons, beq_self_eq_true, Option.some.injEq, List.mem_cons,
        Prod.mk.injEq, true_and]
      constructor
      · exact fun h => .inl h.symm
      · rintro (h | h)
        · exact h.symm
        · exact absurd (List.mem_map_of_mem (f := Prod.fst) h) hl.1
    · have hne : (a == x) = false := by simpa using hx
      simp only [List.lookup_cons, hne, List.mem_cons, Prod.mk.injEq, hx, false_and, false_or]
      exact lookup_eq_some_iff_of_nodup hl.2

/-- A lookup finds exactly the entries, as no key is repeated. -/
theorem lookup_eq_some_iff {m : KeyMap α β} {a : α} {b : β} :
    m.lookup a = some b ↔ (a, b) ∈ m.entries :=
  lookup_eq_some_iff_of_nodup m.keys_nodup

theorem lookup_isSome {m : KeyMap α β} {a : α} : (m.lookup a).isSome ↔ a ∈ m := by
  rw [lookup, List.lookup_isSome_iff, mem_iff, keys, List.mem_map]
  constructor
  · rintro ⟨p, hp, e⟩
    exact ⟨p, hp, (beq_iff_eq.1 e).symm⟩
  · rintro ⟨p, hp, e⟩
    exact ⟨p, hp, beq_iff_eq.2 e.symm⟩

theorem erase_of_not_mem {m : KeyMap α β} {a : α} (h : a ∉ m) : (m.erase a).entries = m.entries :=
  List.filter_eq_self.2 fun e he => by
    have : e.1 ≠ a := fun hea => h (hea ▸ List.mem_map_of_mem he)
    simpa using this

theorem foldl_insert_entries :
    ∀ (l : List (α × β)) (m : KeyMap α β), ((m.entries ++ l).map Prod.fst).Nodup →
      (l.foldl (fun m e => m.insert e.1 e.2) m).entries = m.entries ++ l
  | [], m, _ => by simp
  | (a, b) :: l, m, h => by
    have ha : a ∉ m := by
      rw [List.map_append, List.nodup_append] at h
      exact fun hm => h.2.2 a hm a List.mem_cons_self rfl
    have hentries : (m.insert a b).entries = m.entries ++ [(a, b)] := by
      simp only [insert, erase_of_not_mem ha]
    rw [List.foldl_cons, foldl_insert_entries l (m.insert a b) (by simpa [hentries] using h),
      hentries, List.append_assoc, List.singleton_append]

/-- A list whose keys are distinct is the list of entries of its own map. -/
theorem ofList_entries {l : List (α × β)} (h : (l.map Prod.fst).Nodup) : (ofList l).entries = l :=
  foldl_insert_entries l empty (by simpa [empty] using h)

end KeyMap

end BillOfMaterials
