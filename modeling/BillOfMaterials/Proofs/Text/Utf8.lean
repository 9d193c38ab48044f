import Mathlib
import BillOfMaterials.Text.Utf8

/-!
# Reading back the bytes of a text

`Utf8.bytes` writes a text as UTF-8, one character after the other (`bytes_eq`), and the reader
of byte lists takes each character's bytes back as that character (`front?_encode`). So the
bytes of any text split into exactly its characters (`pieces_encode`), and reading them with
U+FFFD for stray bytes gives the text back (`lossy_bytes`), as does the strict reader, which
finds no stray byte (`decode?_bytes`). A text of ASCII characters is
written one byte per character (`bytes_ofList_ascii`).
-/

namespace BillOfMaterials.Text.Utf8

theorem toList_loop (bs : ByteArray) (i : Nat) (r : List UInt8) :
    ByteArray.toList.loop bs i r = r.reverse ++ bs.data.toList.drop i := by
  fun_induction ByteArray.toList.loop bs i r with
  | case1 i r h ih =>
    have hi : i < bs.data.toList.length := by simpa using h
    rw [ih, List.drop_eq_getElem_cons (l := bs.data.toList) hi]
    simp [ByteArray.get!, h]
  | case2 i r h =>
    rw [List.drop_eq_nil_of_le (by simpa using Nat.le_of_not_lt h)]
    simp

/-- The bytes of a text are the encodings of its characters, one after the other. -/
theorem bytes_eq (s : String) : bytes s = s.toList.flatMap String.utf8EncodeChar := by
  conv => lhs; rw [← String.ofList_toList (s := s)]
  rw [bytes, String.toUTF8_eq_toByteArray, String.toByteArray_ofList, List.utf8Encode,
    ByteArray.toList, toList_loop]
  simp

theorem ofNat_eq_of_toNat {c : Char} {n : Nat} (h : n = c.toNat) : Char.ofNat n = c :=
  h ▸ Char.ofNat_toNat c

/-- The encoding of a character reads back as that character, whatever follows it. The four
cases are the four lengths of an encoding; in each the lead byte falls in the range the reader
expects, the bytes after it are continuation bytes within the bounds that rule out overlong
forms, surrogates and code points past U+10FFFF, and their payload bits give the code point. -/
theorem front?_encode (c : Char) (rest : List UInt8) :
    front? (String.utf8EncodeChar c ++ rest) = some (c, rest) := by
  have hv : c.toNat < 0xd800 ∨ (0xdfff < c.toNat ∧ c.toNat < 0x110000) := c.valid
  have hn : c.val.toNat = c.toNat := rfl
  simp only [String.utf8EncodeChar, hn]
  split_ifs with h1 h2 h3
  · simp only [List.cons_append, List.nil_append, front?]
    rw [if_pos (by simp [UInt8.lt_iff_toNat_lt]; omega)]
    simp [UInt8.toNat_ofNat', Nat.mod_eq_of_lt (by omega : c.toNat < 256), Char.ofNat_toNat]
  · simp only [List.cons_append, List.nil_append, front?]
    rw [if_neg (by simp [UInt8.lt_iff_toNat_lt]; omega)]
    rw [if_pos (by simp [UInt8.le_iff_toNat_le]; omega)]
    simp [isTail, code2, UInt8.le_iff_toNat_le]
    exact ⟨by omega, ofNat_eq_of_toNat (by omega)⟩
  · simp only [List.cons_append, List.nil_append, front?]
    rw [if_neg (by simp [UInt8.lt_iff_toNat_lt]; omega)]
    rw [if_neg (by simp [UInt8.le_iff_toNat_le]; omega)]
    rw [if_pos (by simp [UInt8.le_iff_toNat_le]; omega)]
    simp [isTail, code3, secondLow, secondHigh, UInt8.le_iff_toNat_le, ← UInt8.toNat_inj]
    refine ⟨?_, ofNat_eq_of_toNat (by omega)⟩
    split_ifs <;> simp <;> omega
  · simp only [List.cons_append, List.nil_append, front?]
    rw [if_neg (by simp [UInt8.lt_iff_toNat_lt]; omega)]
    rw [if_neg (by simp [UInt8.le_iff_toNat_le]; omega)]
    rw [if_neg (by simp [UInt8.le_iff_toNat_le]; omega)]
    rw [if_pos (by simp [UInt8.le_iff_toNat_le]; omega)]
    simp [isTail, code4, secondLow, secondHigh, UInt8.le_iff_toNat_le, ← UInt8.toNat_inj]
    refine ⟨?_, ofNat_eq_of_toNat (by omega)⟩
    split_ifs <;> simp <;> omega

theorem pieces_encode (l : List Char) :
    pieces (l.flatMap String.utf8EncodeChar) = l.map .char := by
  induction l with
  | nil => rw [List.flatMap_nil, pieces]; rfl
  | cons c l ih =>
    rw [List.flatMap_cons, pieces]
    split
    · next c' rest h =>
      rw [front?_encode, Option.some.injEq, Prod.mk.injEq] at h
      obtain ⟨rfl, rfl⟩ := h
      simp only [ih, List.map_cons]
    · next h => simp [front?_encode] at h

/-- The bytes of a text read back as the text. -/
theorem lossy_bytes (s : String) : lossy (bytes s) = s := by
  rw [lossy, bytes_eq, pieces_encode, List.map_map]
  exact (congrArg String.ofList (List.map_id _)).trans String.ofList_toList

/-- The bytes of a text are well formed, and read back as the text. -/
theorem decode?_bytes (s : String) : decode? (bytes s) = some s := by
  rw [decode?, bytes_eq, pieces_encode, List.mapM_map]
  have hsome : ∀ l : List Char, l.mapM some = some l := by
    intro l
    induction l with
    | nil => rfl
    | cons c l ih => simp [ih]
  exact congrArg (Option.map String.ofList) (hsome s.toList) |>.trans
    (congrArg some String.ofList_toList)

theorem bytes_ofList_ascii (l : List Char) (h : ∀ c ∈ l, c.toNat < 128) :
    bytes (String.ofList l) = l.map Char.toUInt8 := by
  rw [bytes_eq, String.toList_ofList]
  induction l with
  | nil => rfl
  | cons c l ih =>
    have hc : c.toNat ≤ 127 := Nat.le_of_lt_succ (h c List.mem_cons_self)
    rw [List.flatMap_cons, List.map_cons, ih (fun d hd => h d (List.mem_cons_of_mem _ hd))]
    simp only [String.utf8EncodeChar, show c.val.toNat = c.toNat from rfl, if_pos hc]
    rfl

end BillOfMaterials.Text.Utf8
