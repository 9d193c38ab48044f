import Mathlib
import BillOfMaterials.Http.Url
import BillOfMaterials.Proofs.Text.Utf8

/-!
# Escaped parts of a URL read back

A client writes each path segment with `pathEscape` and each query key and value with
`queryEscape`. This module says what that spelling is and that the reader gets the text back:

* the bytes of a text: `bytesOf_append`, `bytesOf_join`; an ASCII byte list is the bytes of its
  text (`bytesOf_textOf_of_ascii`); a text without `/` has no slash byte (`slash_not_mem_bytesOf`);
* an escaped part holds printable ASCII only, never `#` or `?`; a segment never `/`, a query
  part never `&`, `;` or `=` (`mem_escape_pathSegment`, `mem_escape_queryComponent`), so the
  separators of the URL stay where the client put them;
* `unescape` takes the escaped form back to the bytes (`unescape_escape_pathSegment`,
  `unescape_escape_queryComponent`), and a query of one key and value reads back its value
  (`queryValue?_single`).
-/

namespace BillOfMaterials.Http

/-! ## The bytes of a text -/

theorem bytesOf_eq (s : String) : bytesOf s = s.toList.flatMap String.utf8EncodeChar :=
  Text.Utf8.bytes_eq s

theorem bytesOf_empty : bytesOf "" = [] := by
  simp [bytesOf_eq]

theorem bytesOf_append (s t : String) : bytesOf (s ++ t) = bytesOf s ++ bytesOf t := by
  simp only [bytesOf_eq, String.toList_append, List.flatMap_append]

theorem bytesOf_join (l : List String) : bytesOf (String.join l) = l.flatMap bytesOf := by
  rw [bytesOf_eq, String.toList_join, List.flatMap_assoc]
  congr 1
  funext s
  rw [bytesOf_eq]

theorem bytesOf_ne_nil {s : String} (h : s ≠ "") : bytesOf s ≠ [] := by
  rw [bytesOf_eq]
  obtain ⟨c, cs, hs⟩ := List.exists_cons_of_ne_nil (fun e => h (String.toList_eq_nil_iff.1 e))
  rw [hs, List.flatMap_cons]
  refine List.append_ne_nil_of_left_ne_nil ?_ _
  simp only [String.utf8EncodeChar]
  split_ifs <;> simp

theorem mem_utf8EncodeChar_ascii {c : Char} {b : UInt8} (hb : b.toNat < 0x80)
    (h : b ∈ String.utf8EncodeChar c) : c.toNat = b.toNat := by
  have hn : c.val.toNat = c.toNat := rfl
  simp only [String.utf8EncodeChar, hn] at h
  split_ifs at h with h1 h2 h3
  · rw [List.mem_singleton.1 h, UInt8.toNat_ofNat']
    omega
  all_goals
    simp only [List.mem_cons, List.not_mem_nil, or_false] at h
    exfalso
  · rcases h with rfl | rfl <;> simp only [UInt8.toNat_ofNat', Nat.reducePow] at hb <;> omega
  · rcases h with rfl | rfl | rfl <;> simp only [UInt8.toNat_ofNat', Nat.reducePow] at hb <;> omega
  · rcases h with rfl | rfl | rfl | rfl <;> simp only [UInt8.toNat_ofNat', Nat.reducePow] at hb <;>
      omega

theorem slash_not_mem_bytesOf {s : String} (h : '/' ∉ s.toList) : byte '/' ∉ bytesOf s := by
  intro hb
  rw [bytesOf_eq, List.mem_flatMap] at hb
  obtain ⟨c, hc, hcb⟩ := hb
  have hcn : c.toNat = 47 := mem_utf8EncodeChar_ascii (by decide) hcb
  exact h (by rwa [show c = '/' from Char.ext (UInt32.toNat_inj.1 hcn)] at hc)

theorem toNat_ofNat_ascii {n : Nat} (h : n < 0x80) : (Char.ofNat n).toNat = n := by
  rw [Char.ofNat, dif_pos (Or.inl (by omega))]
  rfl

theorem toUInt8_ofNat_toNat {b : UInt8} (h : b.toNat < 0x80) : (Char.ofNat b.toNat).toUInt8 = b := by
  apply UInt8.toNat_inj.1
  rw [Char.toUInt8, UInt32.toNat_toUInt8, Char.toNat_val, toNat_ofNat_ascii h]
  omega

/-- A list of ASCII bytes is the bytes of the text it reads as: each byte reads as the character
of that code, written back as the byte. -/
theorem bytesOf_textOf_of_ascii {bs : List UInt8} (h : ∀ b ∈ bs, b.toNat < 0x80) :
    bytesOf (textOf bs) = bs := by
  have hs : Text.Utf8.bytes (String.ofList (bs.map fun b => Char.ofNat b.toNat)) = bs := by
    rw [Text.Utf8.bytes_ofList_ascii, List.map_map]
    · exact (List.map_congr_left fun b hb => toUInt8_ofNat_toNat (h b hb)).trans (List.map_id bs)
    · intro c hc
      obtain ⟨b, hb, rfl⟩ := List.mem_map.1 hc
      rw [toNat_ofNat_ascii (h b hb)]
      exact h b hb
  calc bytesOf (textOf bs)
      = Text.Utf8.bytes (Text.Utf8.lossy (Text.Utf8.bytes
          (String.ofList (bs.map fun b => Char.ofNat b.toNat)))) := by rw [hs]; rfl
    _ = bs := by rw [Text.Utf8.lossy_bytes, hs]

/-! ## What an escaped part holds -/

/-- A byte that a URL holds as it is wherever it stands: printable ASCII, and neither `#`, which
starts the fragment, nor `?`, which starts the query. -/
def Plain (b : UInt8) : Prop := 0x20 < b.toNat ∧ b.toNat < 0x7F ∧ b.toNat ≠ 0x23 ∧ b.toNat ≠ 0x3F

instance : DecidablePred Plain := fun _ => inferInstanceAs (Decidable (_ ∧ _ ∧ _ ∧ _))

theorem escape_sets :
    bytesOf "!$&\x27()*+,;=:[]<>\"" =
      [33, 36, 38, 39, 40, 41, 42, 43, 44, 59, 61, 58, 91, 93, 60, 62, 34] ∧
    bytesOf "-_.~" = [45, 95, 46, 126] ∧
    bytesOf "$&+,/:;=?@" = [36, 38, 43, 44, 47, 58, 59, 61, 63, 64] ∧
    bytesOf "!()*" = [33, 40, 41, 42] := by
  cbv
  decide

theorem kept_pathSegment {c : UInt8} (h : shouldEscape .pathSegment c = false) :
    Plain c ∧ c.toNat ≠ 0x25 ∧ c.toNat ≠ 0x2F := by
  have hsep : byte '/' = 47 ∧ byte ';' = 59 ∧ byte ',' = 44 ∧ byte '?' = 63 := by decide
  simp only [shouldEscape, escape_sets, isLetter, isDigit, hsep] at h
  simp [UInt8.le_iff_toNat_le, ← UInt8.toNat_inj] at h
  unfold Plain
  omega

theorem kept_queryComponent {c : UInt8} (h : shouldEscape .queryComponent c = false) :
    Plain c ∧ c.toNat ≠ 0x25 ∧ c.toNat ≠ 0x2B ∧ c.toNat ≠ 0x26 ∧ c.toNat ≠ 0x3B ∧
      c.toNat ≠ 0x3D := by
  simp only [shouldEscape, escape_sets, isLetter, isDigit] at h
  simp [UInt8.le_iff_toNat_le, ← UInt8.toNat_inj] at h
  unfold Plain
  omega

theorem hexDigit_toNat {n : Nat} (h : n < 16) :
    (hexDigit n).toNat = if n < 10 then 0x30 + n else 0x37 + n := by
  unfold hexDigit
  split_ifs <;> simp only [Nat.toUInt8, UInt8.toNat_ofNat', Nat.reducePow] <;> omega

theorem hexValue?_hexDigit {n : Nat} (h : n < 16) : hexValue? (hexDigit n) = some n := by
  have hd := hexDigit_toNat h
  unfold hexValue? isDigit
  simp only [UInt8.le_iff_toNat_le, UInt8.reduceToNat, hd, Bool.and_eq_true, decide_eq_true_eq]
  split_ifs <;> first | omega | (congr 1; omega)

theorem mem_escapeByte {m : Component} {c b : UInt8} (h : b ∈ escapeByte m c) :
    (b = c ∧ shouldEscape m c = false) ∨ b.toNat = 0x2B ∨ b.toNat = 0x25 ∨
      (0x30 ≤ b.toNat ∧ b.toNat ≤ 0x39) ∨ (0x41 ≤ b.toNat ∧ b.toNat ≤ 0x46) := by
  have hhex : ∀ n < 16, (0x30 ≤ (hexDigit n).toNat ∧ (hexDigit n).toNat ≤ 0x39) ∨
      (0x41 ≤ (hexDigit n).toNat ∧ (hexDigit n).toNat ≤ 0x46) := fun n hn => by
    rw [hexDigit_toNat hn]
    split_ifs <;> omega
  unfold escapeByte at h
  split_ifs at h with hesc
  · rw [List.mem_singleton.1 h]
    exact .inr (.inl rfl)
  · have hc : c.toNat < 256 := c.toNat_lt
    simp only [List.mem_cons, List.not_mem_nil, or_false] at h
    rcases h with rfl | rfl | rfl
    · exact .inr (.inr (.inl rfl))
    · exact .inr (.inr (.inr (hhex _ (by omega))))
    · exact .inr (.inr (.inr (hhex _ (Nat.mod_lt _ (by omega)))))
  · rw [List.mem_singleton.1 h]
    exact .inl ⟨rfl, by simpa using hesc⟩

/-- An escaped path segment holds plain bytes and no slash. -/
theorem mem_escape_pathSegment {bs : List UInt8} {b : UInt8} (h : b ∈ escape .pathSegment bs) :
    Plain b ∧ b.toNat ≠ 0x2F := by
  obtain ⟨c, -, hb⟩ := List.mem_flatMap.1 h
  rcases mem_escapeByte hb with ⟨rfl, hk⟩ | hb | hb | hb | hb
  · exact ⟨(kept_pathSegment hk).1, (kept_pathSegment hk).2.2⟩
  all_goals
    unfold Plain
    omega

/-- An escaped query part holds plain bytes and none of `&`, `;` and `=`, which separate the
pairs of a query and a key from its value. -/
theorem mem_escape_queryComponent {bs : List UInt8} {b : UInt8}
    (h : b ∈ escape .queryComponent bs) :
    Plain b ∧ b.toNat ≠ 0x26 ∧ b.toNat ≠ 0x3B ∧ b.toNat ≠ 0x3D := by
  obtain ⟨c, -, hb⟩ := List.mem_flatMap.1 h
  rcases mem_escapeByte hb with ⟨rfl, hk⟩ | hb | hb | hb | hb
  · have := kept_queryComponent hk
    exact ⟨this.1, this.2.2.2.1, this.2.2.2.2.1, this.2.2.2.2.2⟩
  all_goals
    unfold Plain
    omega

theorem escape_ascii {m : Component} (hm : m = .pathSegment ∨ m = .queryComponent)
    {bs : List UInt8} : ∀ b ∈ escape m bs, b.toNat < 0x80 := by
  intro b hb
  rcases hm with rfl | rfl
  · exact Nat.lt_trans (mem_escape_pathSegment hb).1.2.1 (by decide)
  · exact Nat.lt_trans (mem_escape_queryComponent hb).1.2.1 (by decide)

theorem bytesOf_pathEscape (s : String) : bytesOf (pathEscape s) = escape .pathSegment (bytesOf s) :=
  bytesOf_textOf_of_ascii (escape_ascii (.inl rfl))

theorem bytesOf_queryEscape (s : String) :
    bytesOf (queryEscape s) = escape .queryComponent (bytesOf s) :=
  bytesOf_textOf_of_ascii (escape_ascii (.inr rfl))

/-! ## Reading escaped parts back -/

section Unescape
variable {m : Component} (hm : m ≠ .host ∧ m ≠ .zone)
include hm

theorem unescape_cons_plain {c : UInt8} (hc : c.toNat ≠ 0x25)
    (hplus : m = .queryComponent → c.toNat ≠ 0x2B) (rest : List UInt8) :
    unescape m (c :: rest) = (unescape m rest).map (c :: ·) := by
  have hpct : c ≠ byte '%' := fun e => hc (by rw [e]; rfl)
  rw [unescape.eq_def]
  dsimp only
  rw [if_neg hpct]
  by_cases hp : c = byte '+'
  · have hq : m ≠ .queryComponent := fun e => hplus e (by rw [hp]; rfl)
    rw [if_pos hp, if_neg hq]
  · rw [if_neg hp, if_neg (by simp [hm.1, hm.2])]

theorem unescape_percent {a b : UInt8} {x y : Nat} (ha : hexValue? a = some x)
    (hb : hexValue? b = some y) (more : List UInt8) :
    unescape m (byte '%' :: a :: b :: more) = (unescape m more).map ((x * 16 + y).toUInt8 :: ·) := by
  rw [unescape.eq_def]
  dsimp only
  rw [if_pos rfl]
  simp only [ha, hb, hm.1, hm.2, decide_false, Bool.false_and, Bool.false_eq_true, if_false]

end Unescape

/-- The components whose escaped bytes a reader takes back: a path segment read in a path, and a
query part read in a query. -/
def Reads (m m' : Component) : Prop :=
  m = .path ∧ m' = .pathSegment ∨ m = .queryComponent ∧ m' = .queryComponent

section Reads
variable {m m' : Component} (hr : Reads m m')
include hr

theorem Reads.not_host : m ≠ .host ∧ m ≠ .zone := by
  rcases hr with ⟨rfl, -⟩ | ⟨rfl, -⟩ <;> decide

theorem unescape_escapeByte_append (c : UInt8) (rest : List UInt8) :
    unescape m (escapeByte m' c ++ rest) = (unescape m rest).map (c :: ·) := by
  have hm := hr.not_host
  unfold escapeByte
  split_ifs with hesc hsp
  · -- a blank in a query part is written `+`, which a query reads as a blank
    simp only [Bool.and_eq_true, decide_eq_true_eq] at hsp
    obtain ⟨rfl, rfl⟩ := hsp
    have hq : m = .queryComponent := by
      rcases hr with ⟨-, h⟩ | ⟨h, -⟩
      · cases h
      · exact h
    rw [List.singleton_append, unescape.eq_def]
    dsimp only
    rw [if_neg (by decide), if_pos rfl, if_pos hq]
  · have hc : c.toNat < 256 := c.toNat_lt
    rw [List.cons_append, List.cons_append, List.singleton_append,
      unescape_percent hm (hexValue?_hexDigit (by omega)) (hexValue?_hexDigit (Nat.mod_lt _ (by omega)))]
    have hv : (c.toNat / 16 * 16 + c.toNat % 16).toUInt8 = c := by
      apply UInt8.toNat_inj.1
      simp only [Nat.toUInt8, UInt8.toNat_ofNat', Nat.reducePow]
      omega
    rw [hv]
  · simp only [Bool.not_eq_true] at hesc
    rw [List.singleton_append]
    rcases hr with ⟨rfl, rfl⟩ | ⟨-, rfl⟩
    · exact unescape_cons_plain hm (kept_pathSegment hesc).2.1 (fun h => by cases h) rest
    · exact unescape_cons_plain hm (kept_queryComponent hesc).2.1
        (fun _ => (kept_queryComponent hesc).2.2.1) rest

theorem unescape_escape_append (bs rest : List UInt8) :
    unescape m (escape m' bs ++ rest) = (unescape m rest).map (bs ++ ·) := by
  induction bs with
  | nil =>
    rw [escape, List.flatMap_nil, List.nil_append]
    cases unescape m rest <;> rfl
  | cons c bs ih =>
    rw [escape, List.flatMap_cons, List.append_assoc, ← escape, unescape_escapeByte_append hr, ih]
    cases unescape m rest <;> rfl

theorem unescape_escape (bs : List UInt8) : unescape m (escape m' bs) = .ok bs := by
  rw [← List.append_nil (escape m' bs), unescape_escape_append hr, unescape.eq_def]
  exact congrArg Except.ok (List.append_nil bs)

end Reads

/-! ## A query of one key -/

theorem cut?_eq_none {sep : UInt8} {bs : List UInt8} (h : sep ∉ bs) : cut? sep bs = none := by
  induction bs with
  | nil => rfl
  | cons c bs ih =>
    rw [List.mem_cons, not_or] at h
    rw [cut?, if_neg (Ne.symm h.1), ih h.2]
    rfl

theorem cut?_append_cons {sep : UInt8} {xs : List UInt8} (h : sep ∉ xs) (ys : List UInt8) :
    cut? sep (xs ++ sep :: ys) = some (xs, ys) := by
  induction xs with
  | nil => simp [cut?]
  | cons c xs ih =>
    rw [List.mem_cons, not_or] at h
    rw [List.cons_append, cut?, if_neg (Ne.symm h.1), ih h.2]
    rfl

theorem splitBytes_of_not_mem {sep : UInt8} {bs : List UInt8} (h : sep ∉ bs) :
    splitBytes sep bs = [bs] := by
  induction bs with
  | nil => rfl
  | cons c bs ih =>
    rw [List.mem_cons, not_or] at h
    rw [splitBytes, if_neg (Ne.symm h.1), ih h.2]

theorem queryValue?_nil (key : String) : queryValue? [] key = none := rfl

/-- The query a client writes for one key and a value reads back as that value. -/
theorem queryValue?_single (key value : String) :
    queryValue? (escape .queryComponent (bytesOf key) ++
      byte '=' :: escape .queryComponent (bytesOf value)) key = some (bytesOf value) := by
  have hr : Reads .queryComponent .queryComponent := .inr ⟨rfl, rfl⟩
  set k := escape .queryComponent (bytesOf key)
  set v := escape .queryComponent (bytesOf value)
  have hk : byte '=' ∉ k := fun h => (mem_escape_queryComponent h).2.2.2 rfl
  have hamp : byte '&' ∉ k ++ byte '=' :: v := by
    simp only [List.mem_append, List.mem_cons, not_or]
    exact ⟨fun h => (mem_escape_queryComponent h).2.1 rfl, by decide,
      fun h => (mem_escape_queryComponent h).2.1 rfl⟩
  have hsemi : (k ++ byte '=' :: v).contains (byte ';') = false := by
    simp only [List.contains_eq_mem, decide_eq_false_iff_not, List.mem_append, List.mem_cons,
      not_or]
    exact ⟨fun h => (mem_escape_queryComponent h).2.2.1 rfl, by decide,
      fun h => (mem_escape_queryComponent h).2.2.1 rfl⟩
  simp only [queryValue?, queryPairs, splitBytes_of_not_mem hamp, List.filterMap_cons,
    List.filterMap_nil, hsemi, cut?_append_cons hk, Option.getD_some]
  simp [k, v, unescape_escape hr]

/-! ## The URL of a client at `http://bom.test` -/

section ClientUrl
open Url

theorem any_control_eq_false {bs : List UInt8} (h : ∀ b ∈ bs, 0x20 < b.toNat ∧ b.toNat < 0x7F) :
    (bs.any fun c => c < 0x20 || c = 0x7F) = false := by
  refine List.any_eq_false.2 fun b hb => ?_
  have := h b hb
  simp only [Bool.or_eq_true, decide_eq_true_eq, UInt8.lt_iff_toNat_lt, ← UInt8.toNat_inj,
    UInt8.reduceToNat]
  omega

theorem splitScheme_http (rest : List UInt8) :
    splitScheme ([104, 116, 116, 112, 58] ++ rest) = .ok ([104, 116, 116, 112], rest) := by
  simp +decide [splitScheme, splitScheme.go]

theorem parseAuthority_bom :
    parseAuthority [98, 111, 109, 46, 116, 101, 115, 116] =
      .ok (none, [98, 111, 109, 46, 116, 101, 115, 116]) := by
  cbv

theorem parseCore_bom {P D q : List UInt8} (hP : P.head? = some (byte '/'))
    (hPp : ∀ b ∈ P, Plain b) (hqp : ∀ b ∈ q, Plain b) (hD : unescape .path P = .ok D) :
    ∃ u : Url, parseCore false ([104, 116, 116, 112, 58, 47, 47, 98, 111, 109, 46, 116, 101, 115, 116] ++
        P ++ (if q = [] then [] else byte '?' :: q)) = .ok u ∧
      u.host = [98, 111, 109, 46, 116, 101, 115, 116] ∧ u.path = D ∧ u.rawQuery = q := by
  obtain ⟨P', rfl⟩ : ∃ P', P = byte '/' :: P' := by
    cases P with
    | nil => cases hP
    | cons c P' => exact ⟨P', by simpa using hP⟩
  set A : List UInt8 := [47, 47, 98, 111, 109, 46, 116, 101, 115, 116] ++ byte '/' :: P' with hA
  set Q : List UInt8 := if q = [] then [] else byte '?' :: q with hQ
  have hAp : ∀ b ∈ A, Plain b := by
    intro b hb
    rcases List.mem_append.1 hb with hb | hb
    · simp only [List.mem_cons, List.not_mem_nil, or_false] at hb
      rcases hb with rfl | rfl | rfl | rfl | rfl | rfl | rfl | rfl | rfl | rfl <;> decide
    · exact hPp b hb
  have hnq : byte '?' ∉ A := fun h => (hAp _ h).2.2.2 rfl
  have hquery : ((decide ((A ++ Q).getLast? = some (byte '?')) &&
      decide (List.count (byte '?') (A ++ Q) = 1)) = false) ∧
      (cut? (byte '?') (A ++ Q) = some (A, q) ∨
        cut? (byte '?') (A ++ Q) = none ∧ Q = [] ∧ q = []) := by
    by_cases hq0 : q = []
    · have hQ0 : Q = [] := by rw [hQ, if_pos hq0]
      simp only [hQ0, hq0, List.append_nil, cut?_eq_none hnq, List.count_eq_zero_of_not_mem hnq]
      simp
    · rw [hQ, if_neg hq0]
      refine ⟨?_, .inl (cut?_append_cons hnq q)⟩
      obtain ⟨l, x, rfl⟩ := List.eq_nil_or_concat q |>.resolve_left hq0
      have hx : x ≠ byte '?' := fun e => (hqp x (by simp)).2.2.2 (by rw [e]; rfl)
      rw [List.concat_eq_append, ← List.cons_append, ← List.append_assoc, List.getLast?_concat]
      simp [hx]
  have hX : [104, 116, 116, 112, 58, 47, 47, 98, 111, 109, 46, 116, 101, 115, 116] ++ byte '/' :: P' ++
      Q = [104, 116, 116, 112, 58] ++ (A ++ Q) := by
    simp [hA]
  have hctl : (([104, 116, 116, 112, 58] ++ (A ++ Q)).any fun c => c < 0x20 || c = 0x7F) = false :=
    any_control_eq_false fun b hb => by
      simp only [List.mem_append, List.mem_cons, List.not_mem_nil, or_false] at hb
      rcases hb with (rfl | rfl | rfl | rfl | rfl) | hb | hb
      any_goals decide
      · exact ⟨(hAp b hb).1, (hAp b hb).2.1⟩
      · rw [hQ] at hb
        split_ifs at hb
        · cases hb
        · rcases List.mem_cons.1 hb with rfl | hb
          · decide
          · exact ⟨(hqp b hb).1, (hqp b hb).2.1⟩
  have hlower : List.map lowerByte [104, 116, 116, 112] = [104, 116, 116, 112] := by decide
  have hslashes : (bytesOf "//").isPrefixOf A = true := by
    rw [show bytesOf "//" = [47, 47] by cbv, hA]
    rfl
  have hdrop : A.drop 2 = [98, 111, 109, 46, 116, 101, 115, 116] ++ byte '/' :: P' := by
    rw [hA]
    rfl
  have hhost : cut? (byte '/') ([98, 111, 109, 46, 116, 101, 115, 116] ++ byte '/' :: P') =
      some ([98, 111, 109, 46, 116, 101, 115, 116], P') := cut?_append_cons (by decide) P'
  have hhead : A.head? = some (byte '/') := rfl
  have hstar : ([104, 116, 116, 112, 58] ++ (A ++ Q) = [byte '*']) = False := by
    simp
  rw [hX]
  obtain ⟨hlast, hcut | ⟨hcut, hQ0, rfl⟩⟩ := hquery
  rotate_left
  rw [hQ0, List.append_nil] at hlast hcut hctl hstar ⊢
  all_goals
    unfold parseCore
    simp only [hctl, splitScheme_http, hlast, hcut, hlower, hslashes, hdrop, hhost, hhead,
      parseAuthority_bom, Url.withPath, hD, Bool.false_eq_true, ↓reduceIte,
      Bool.and_false, bind, Except.bind, pure, Except.pure, hstar, ne_eq, not_true_eq_false,
      List.isEmpty_cons, Bool.not_false, Bool.true_or, Bool.and_true]
    exact ⟨_, rfl, rfl, rfl, rfl⟩

theorem parse_bom {s : String} {P D q : List UInt8}
    (hs : bytesOf s = bytesOf "http://bom.test" ++ P ++ (if q = [] then [] else byte '?' :: q))
    (hP : P.head? = some (byte '/')) (hPp : ∀ b ∈ P, Plain b) (hqp : ∀ b ∈ q, Plain b)
    (hD : unescape .path P = .ok D) :
    ∃ u : Url, Url.parse s = .ok u ∧ u.dropEmptyPort.path = D ∧ u.dropEmptyPort.rawQuery = q := by
  have hbase : bytesOf "http://bom.test" =
      [104, 116, 116, 112, 58, 47, 47, 98, 111, 109, 46, 116, 101, 115, 116] := by
    cbv
  rw [hbase] at hs
  have hfrag : byte '#' ∉ bytesOf s := by
    rw [hs]
    simp only [List.mem_append, List.mem_cons, List.not_mem_nil, or_false, not_or]
    refine ⟨⟨by decide, fun h => (hPp _ h).2.2.1 rfl⟩, ?_⟩
    split_ifs
    · simp
    · simp only [List.mem_cons, not_or]
      exact ⟨by decide, fun h => (hqp _ h).2.2.1 rfl⟩
  obtain ⟨u, hu, hhost, hpath, hquery⟩ := parseCore_bom hP hPp hqp hD
  have hdrop : u.dropEmptyPort = u := by
    rw [Url.dropEmptyPort, hhost, if_neg (by decide)]
  refine ⟨u, ?_, by rw [hdrop, hpath], by rw [hdrop, hquery]⟩
  rw [← hs] at hu
  rw [Url.parse]
  simp only [cut?_eq_none hfrag, hu]
  rfl

end ClientUrl

end BillOfMaterials.Http
