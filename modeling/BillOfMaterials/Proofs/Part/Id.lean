import Mathlib
import BillOfMaterials.Part.Id
import BillOfMaterials.Proofs.Text.Utf8

/-!
# The canonical form of a part id reads back

`PartId.toString` writes the 32 hex digits of an id in groups of 8, 4, 4, 4 and 12 with
hyphens between; reading that text gives the id back (`PartId.parse?_toString`), so two ids
with the same text are the same id (`PartId.toString_injective`).

The text is ASCII, one byte per character, and 36 bytes long; `canonical_layout` says where the
hyphens stand and that dropping them gives the digits back, for any 32 digits. The digits are
`Nat.toDigits 16` of the id's number behind zeros, and `hexNumber?` reads such digits back
(`hexNumber?_toDigits`, `hexNumber?_zeros`).
-/

namespace BillOfMaterials.PartId

/-- Where the hyphens of the canonical form stand, for any 32 digits. -/
theorem canonical_layout {α : Type} (h : List α) (hl : h.length = 32) (x : α) :
    let L := h.take 8 ++ x :: (h.drop 8).take 4 ++ x :: (h.drop 12).take 4 ++ x :: (h.drop 16).take 4 ++
      x :: h.drop 20
    L.length = 36 ∧ L[8]? = some x ∧ L[13]? = some x ∧ L[18]? = some x ∧ L[23]? = some x ∧
      L.take 8 ++ (L.drop 9).take 4 ++ (L.drop 14).take 4 ++ (L.drop 19).take 4 ++ (L.drop 24).take 12 = h := by
  intro L
  obtain ⟨a, b, c, d, e, rfl, ha, hb, hc, hd, he⟩ : ∃ a b c d e : List α, h = a ++ b ++ c ++ d ++ e ∧
      a.length = 8 ∧ b.length = 4 ∧ c.length = 4 ∧ d.length = 4 ∧ e.length = 12 := by
    refine ⟨h.take 8, (h.drop 8).take 4, (h.drop 12).take 4, (h.drop 16).take 4, h.drop 20, ?_, ?_⟩
    · have step (n k : Nat) : h.drop n = (h.drop n).take k ++ h.drop (n + k) := by
        rw [← List.drop_drop, List.take_append_drop]
      rw [List.append_assoc, List.append_assoc, List.append_assoc, ← step 16 4, ← step 12 4,
        ← step 8 4, List.take_append_drop]
    · simp [hl]
  simp [L, ha, hb, hc, hd, he, List.drop_append, List.drop_eq_nil_of_le, List.take_of_length_le]

theorem mem_canonical_layout {α : Type} {h : List α} {x c : α}
    (hc : c ∈ h.take 8 ++ x :: (h.drop 8).take 4 ++ x :: (h.drop 12).take 4 ++ x :: (h.drop 16).take 4 ++
      x :: h.drop 20) : c = x ∨ c ∈ h := by
  simp only [List.mem_append, List.mem_cons] at hc
  rcases hc with ((((hc | hc | hc) | hc | hc) | hc | hc) | hc | hc)
  all_goals first
    | exact .inl hc
    | exact .inr (List.mem_of_mem_take hc)
    | exact .inr (List.mem_of_mem_drop (List.mem_of_mem_take hc))
    | exact .inr (List.mem_of_mem_drop hc)

theorem hexValue?_digitChar : ∀ d < 16, hexValue? (Nat.digitChar d).toUInt8 = some d := by decide

theorem digitChar_lt_128 : ∀ d < 16, (Nat.digitChar d).toNat < 128 := by decide

theorem hexNumber?_append_singleton (bs : List UInt8) (b : UInt8) :
    hexNumber? (bs ++ [b]) = (hexNumber? bs).bind fun n => (hexValue? b).map fun d => n * 16 + d := by
  simp only [hexNumber?, List.foldl_append, List.foldl_cons, List.foldl_nil]
  cases List.foldl _ (some 0) bs <;> cases hexValue? b <;> rfl

theorem hexNumber?_toDigits (n : Nat) : hexNumber? ((Nat.toDigits 16 n).map Char.toUInt8) = some n := by
  induction n using Nat.strong_induction_on with
  | _ n ih =>
    rw [Nat.toDigits_eq_if (by decide)]
    split
    · next h =>
      simp [hexNumber?, hexValue?_digitChar n h]
    · next h =>
      rw [List.map_append, List.map_singleton, hexNumber?_append_singleton, ih (n / 16) (by omega)]
      simp [hexValue?_digitChar (n % 16) (by omega)]
      omega

theorem hexNumber?_zeros (k : Nat) (bs : List UInt8) :
    hexNumber? (List.replicate k '0'.toUInt8 ++ bs) = hexNumber? bs := by
  have h : ∀ k, (List.replicate k '0'.toUInt8).foldl (fun acc b => do
      let n ← acc
      let d ← hexValue? b
      pure (n * 16 + d)) (some 0) = some 0 := by
    intro k
    induction k with
    | zero => rfl
    | succ k ih => rw [List.replicate_succ', List.foldl_append, ih]; rfl
  rw [hexNumber?, List.foldl_append, h]
  rfl

theorem hexPadded_val (id : PartId) :
    (Text.hexPadded 32 id.val).toList =
      List.replicate (32 - (Nat.toDigits 16 id.val).length) '0' ++ Nat.toDigits 16 id.val := by
  simp [Text.hexPadded]

theorem length_toDigits_val (id : PartId) : (Nat.toDigits 16 id.val).length ≤ 32 :=
  (Nat.length_toDigits_le_iff (by decide) (by decide)).2 id.isLt

theorem mem_toDigits {n : Nat} {c : Char} (h : c ∈ Nat.toDigits 16 n) :
    ∃ d < 16, c = Nat.digitChar d := by
  induction n using Nat.strong_induction_on with
  | _ n ih =>
    rw [Nat.toDigits_eq_if (by decide)] at h
    split at h
    · next hn => exact ⟨n, hn, List.eq_of_mem_singleton h⟩
    · rcases List.mem_append.1 h with h | h
      · exact ih (n / 16) (by omega) h
      · exact ⟨n % 16, Nat.mod_lt _ (by decide), List.eq_of_mem_singleton h⟩

theorem mem_hexPadded_val {id : PartId} {c : Char} (h : c ∈ (Text.hexPadded 32 id.val).toList) :
    c = '0' ∨ ∃ d < 16, c = Nat.digitChar d := by
  rw [hexPadded_val] at h
  rcases List.mem_append.1 h with h | h
  · exact .inl (List.eq_of_mem_replicate h)
  · exact .inr (mem_toDigits h)

theorem ofNat_val (id : PartId) : ofNat id.val = id := by
  cases id with
  | mk v hv => simp [ofNat, Nat.mod_eq_of_lt hv]

theorem hexNumber?_val (id : PartId) :
    hexNumber? ((Text.hexPadded 32 id.val).toList.map Char.toUInt8) = some id.val := by
  rw [hexPadded_val, List.map_append, List.map_replicate, hexNumber?_zeros, hexNumber?_toDigits]

/-- The canonical form of an id reads back as the id. -/
theorem parse?_toString (id : PartId) : parse? id.toString = .ok id := by
  have hl : (Text.hexPadded 32 id.val).toList.length = 32 := by
    have := length_toDigits_val id
    rw [hexPadded_val]
    simp only [List.length_append, List.length_replicate]
    omega
  have hascii : ∀ c ∈ (Text.hexPadded 32 id.val).toList, c.toNat < 128 := by
    intro c hc
    rcases mem_hexPadded_val hc with rfl | ⟨d, hd, rfl⟩
    · decide
    · exact digitChar_lt_128 d hd
  obtain ⟨hlen, h8, h13, h18, h23, hchain⟩ :=
    canonical_layout ((Text.hexPadded 32 id.val).toList.map Char.toUInt8) (by simp [hl]) '-'.toUInt8
  rw [parse?, toString, Text.Utf8.bytes_ofList_ascii]
  · simp only [List.map_append, List.map_cons, List.map_take, List.map_drop] at hlen h8 h13 h18 h23 hchain ⊢
    rw [parseBytes?, if_pos hlen, ofCanonical]
    simp only [h8, h13, h18, h23]
    rw [if_pos (by decide), hchain, ofHexDigits, hexNumber?_val]
    exact congrArg Except.ok (ofNat_val id)
  · intro c hc
    rcases mem_canonical_layout hc with rfl | hc
    · decide
    · exact hascii c hc

theorem toString_injective {id id' : PartId} (h : id.toString = id'.toString) : id = id' := by
  have := parse?_toString id'
  rw [← h, parse?_toString] at this
  exact Except.ok.inj this

end BillOfMaterials.PartId
