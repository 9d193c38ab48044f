import Mathlib
import BillOfMaterials.Json.Reader
import BillOfMaterials.Proofs.Except

/-!
# Reading back what is written

Every JSON value whose numbers are integers (`Json.IntNumbers`, as every number the library
writes) reads back from its compact text: `readText_render` for a whole text, `readFirst_render`
for the first value of a stream. The proof follows the writer piece by piece.

* Strings: each character's written form reads back as that character
  (`readString_escapeChar`), so a quoted text reads back as the text (`readString_escaped`);
  the `\u` escapes are four hex digits of a character that is no surrogate.
* Numbers: an integer's text is one number literal, read up to the first character that cannot
  continue a number (`readNumber_int`).
* Arrays and objects: the reader takes one unit of fuel for each nested read, and each nested
  read starts at a character of the text, so fuel above the length of the text suffices. The
  three readers are mutually recursive on the fuel; `ValuesReadBack`, `ItemsReadBack` and
  `MembersReadBack` say that each reads back what is written with a given fuel, the three
  `_succ` lemmas pass from one fuel to the next, and `readBack` is the induction.
-/

namespace BillOfMaterials.Json

/-! ## Strings -/

theorem hexPadded_two_of_lt : ∀ n < 0x40,
    (Text.hexPadded 2 n).toList.length = 2 ∧ hex4? ('0' :: '0' :: (Text.hexPadded 2 n).toList) = some n := by
  decide

theorem hexPadded_line_separators :
    (Text.hexPadded 4 0x2028).toList = ['2', '0', '2', '8'] ∧
      (Text.hexPadded 4 0x2029).toList = ['2', '0', '2', '9'] := by
  decide

theorem readString_unicode (acc rest : List Char) {a b c d : Char} {n : Nat}
    (h : hex4? [a, b, c, d] = some n) (hs : n < 0xD800) :
    readString acc ('\\' :: 'u' :: a :: b :: c :: d :: rest) = readString (Char.ofNat n :: acc) rest := by
  have hn : isSurrogate n = false := by simp [isSurrogate]; omega
  rw [readString.eq_3, h]
  simp only [hn, Bool.false_eq_true, if_false]

theorem readString_escape (acc rest : List Char) {e c : Char} (hu : e ≠ 'u')
    (h : simpleEscape? e = some c) :
    readString acc ('\\' :: e :: rest) = readString (c :: acc) rest := by
  rw [readString.eq_5 _ _ _ (fun _ _ _ _ _ he => absurd he hu) hu, h]

theorem readString_plain (acc rest : List Char) {c : Char} (hq : c ≠ '"') (hb : c ≠ '\\')
    (hc : 0x20 ≤ c.toNat) :
    readString acc (c :: rest) = readString (c :: acc) rest := by
  rw [readString.eq_7 _ _ _ hq (fun _ _ _ _ _ h => absurd h hb) (fun _ h => absurd h hb)
    (fun _ _ h => absurd h hb) (fun h => absurd h hb), if_neg (by omega)]

theorem readString_u00 (acc rest : List Char) {c : Char} (hc : c.toNat < 0x40) :
    readString acc (("\\u00" ++ Text.hexPadded 2 c.toNat).toList ++ rest) = readString (c :: acc) rest := by
  obtain ⟨hl, hx⟩ := hexPadded_two_of_lt c.toNat hc
  obtain ⟨x, y, hxy⟩ := List.length_eq_two.1 hl
  rw [hxy] at hx
  have hlit : "\\u00".toList = ['\\', 'u', '0', '0'] := rfl
  simp only [String.toList_append, hxy, hlit, List.cons_append, List.nil_append]
  rw [readString_unicode acc rest hx (by omega), Char.ofNat_toNat]

theorem readString_escapeChar (style : JsonStyle) (c : Char) (acc rest : List Char) :
    readString acc ((escapeChar style c).toList ++ rest) = readString (c :: acc) rest := by
  unfold escapeChar
  by_cases h1 : c = '"'
  · rw [if_pos h1]; subst h1; exact readString_escape acc rest (by decide) rfl
  rw [if_neg h1]
  by_cases h2 : c = '\\'
  · rw [if_pos h2]; subst h2; exact readString_escape acc rest (by decide) rfl
  rw [if_neg h2]
  by_cases h3 : c = '\x08'
  · rw [if_pos h3]; subst h3; exact readString_escape acc rest (by decide) rfl
  rw [if_neg h3]
  by_cases h4 : c = '\x0c'
  · rw [if_pos h4]; subst h4; exact readString_escape acc rest (by decide) rfl
  rw [if_neg h4]
  by_cases h5 : c = '\n'
  · rw [if_pos h5]; subst h5; exact readString_escape acc rest (by decide) rfl
  rw [if_neg h5]
  by_cases h6 : c = '\r'
  · rw [if_pos h6]; subst h6; exact readString_escape acc rest (by decide) rfl
  rw [if_neg h6]
  by_cases h7 : c = '\t'
  · rw [if_pos h7]; subst h7; exact readString_escape acc rest (by decide) rfl
  rw [if_neg h7]
  by_cases h8 : c.toNat < 0x20
  · rw [if_pos h8]; exact readString_u00 acc rest (by omega)
  rw [if_neg h8]
  by_cases h9 : (c = '\u2028' || c = '\u2029') = true
  · rw [if_pos h9]
    have hlit : "\\u".toList = ['\\', 'u'] := rfl
    rcases (by simpa using h9 : c = '\u2028' ∨ c = '\u2029') with rfl | rfl
    · simp only [String.toList_append, hlit, Char.reduceToNat, hexPadded_line_separators.1,
        List.cons_append, List.nil_append]
      exact readString_unicode acc rest (by decide) (by decide)
    · simp only [String.toList_append, hlit, Char.reduceToNat, hexPadded_line_separators.2,
        List.cons_append, List.nil_append]
      exact readString_unicode acc rest (by decide) (by decide)
  rw [if_neg h9]
  by_cases h10 : (style.htmlSafe && (c = '<' || c = '>' || c = '&')) = true
  · rw [if_pos h10]
    have hc : c.toNat < 0x40 := by
      rcases (by simpa using h10 : style.htmlSafe = true ∧ ((c = '<' ∨ c = '>') ∨ c = '&')).2
        with (rfl | rfl) | rfl <;> decide
    exact readString_u00 acc rest hc
  rw [if_neg h10]
  simp only [String.toList_singleton, List.singleton_append]
  exact readString_plain acc rest h1 h2 (by omega)


theorem readString_escaped (style : JsonStyle) (cs acc rest : List Char) :
    readString acc ((String.join (cs.map (escapeChar style))).toList ++ '"' :: rest) =
      .ok (String.ofList (acc.reverse ++ cs), rest) := by
  induction cs generalizing acc with
  | nil => simp [readString.eq_2]
  | cons c cs ih =>
    rw [List.map_cons, String.join_cons, String.toList_append, List.append_assoc,
      readString_escapeChar, ih]
    simp

theorem quote_toList (style : JsonStyle) (s : String) :
    (quote style s).toList = '"' :: (String.join (s.toList.map (escapeChar style))).toList ++ ['"'] := by
  simp [quote]


/-! ## Numbers -/

/-- Whether a character can continue a number literal. -/
def continuesNumber (c : Char) : Bool := isDigit c || c = '.' || c = 'e' || c = 'E'

theorem isDigit_of_mem_toDigits {n : Nat} {c : Char} (h : c ∈ Nat.toDigits 10 n) :
    isDigit c = true := by
  have := Char.isDigit_iff_toNat.1 (Nat.isDigit_of_mem_toDigits (by decide) (by decide) h)
  simp only [isDigit, Bool.and_eq_true, decide_eq_true_eq, Char.le_def]
  exact this

theorem toDigits_ten_head {n : Nat} (hn : 0 < n) : ∃ c cs, Nat.toDigits 10 n = c :: cs ∧ c ≠ '0' := by
  induction n using Nat.strong_induction_on with
  | _ n ih =>
    rw [Nat.toDigits_eq_if (by decide)]
    split
    · next h => exact ⟨_, [], rfl, by interval_cases n <;> decide⟩
    · next h =>
      obtain ⟨c, cs, hcs, hc⟩ := ih (n / 10) (by omega) (by omega)
      exact ⟨c, cs ++ _, by rw [hcs, List.cons_append], hc⟩

section Numbers

variable {rest : List Char} (hr : ∀ c ∈ rest.head?, continuesNumber c = false)
include hr

theorem takeWhile_digits_append (ds : List Char) (hds : ∀ d ∈ ds, isDigit d = true) :
    (ds ++ rest).takeWhile isDigit = ds ∧ (ds ++ rest).dropWhile isDigit = rest := by
  induction ds with
  | nil =>
    cases rest with
    | nil => simp
    | cons c cs =>
      have hc : isDigit c = false := by
        have := hr c rfl
        simp only [continuesNumber, Bool.or_eq_false_iff] at this
        exact this.1.1.1
      simp [hc]
  | cons d ds ih =>
    have hd : isDigit d = true := hds d List.mem_cons_self
    obtain ⟨h1, h2⟩ := ih (fun x hx => hds x (List.mem_cons_of_mem _ hx))
    simp [hd, h1, h2]

theorem readFraction_stop : readFraction rest = .ok ([], rest) := by
  cases rest with
  | nil => rfl
  | cons c cs =>
    have hc := hr c rfl
    simp only [continuesNumber, Bool.or_eq_false_iff, decide_eq_false_iff_not] at hc
    obtain ⟨⟨⟨-, hdot⟩, he⟩, hE⟩ := hc
    simp [readFraction, ok_bind, hdot, he, hE]

theorem readNumber_digits {ds : List Char} (hds : ∀ d ∈ ds, isDigit d = true) {c : Char}
    (hc : isDigit c = true) (h0 : c ≠ '0') :
    readNumber (c :: (ds ++ rest)) = .ok (String.ofList (c :: ds), rest) := by
  obtain ⟨h1, h2⟩ := takeWhile_digits_append hr ds hds
  have hm : c ≠ '-' := by rintro rfl; simp [isDigit] at hc
  simp [readNumber, ok_bind, hm, hc, h1, h2, readFraction_stop hr]

theorem readNumber_neg_digits {ds : List Char} (hds : ∀ d ∈ ds, isDigit d = true) {c : Char}
    (hc : isDigit c = true) (h0 : c ≠ '0') :
    readNumber ('-' :: c :: (ds ++ rest)) = .ok (String.ofList ('-' :: c :: ds), rest) := by
  obtain ⟨h1, h2⟩ := takeWhile_digits_append hr ds hds
  simp [readNumber, ok_bind, hc, h1, h2, readFraction_stop hr]

/-- An integer's text reads back as one number literal, up to a character that cannot continue
it. -/
theorem readNumber_int (i : Int) : readNumber ((toString i).toList ++ rest) = .ok (toString i, rest) := by
  rw [Int.toString_eq_repr]
  cases i with
  | ofNat m =>
    simp only [Int.repr, Nat.toList_repr]
    rcases Nat.eq_zero_or_pos m with rfl | hm
    · simp [readNumber, ok_bind, readFraction_stop hr]
      rfl
    · obtain ⟨c, cs, hcs, hc⟩ := toDigits_ten_head hm
      have hd := fun d (h : d ∈ Nat.toDigits 10 m) => isDigit_of_mem_toDigits h
      rw [hcs] at hd ⊢
      rw [List.cons_append, readNumber_digits hr (fun d h => hd d (List.mem_cons_of_mem _ h))
        (hd c List.mem_cons_self) hc, Nat.repr_eq_ofList_toDigits, hcs]
  | negSucc m =>
    obtain ⟨c, cs, hcs, hc⟩ := toDigits_ten_head (Nat.succ_pos m)
    have hd := fun d (h : d ∈ Nat.toDigits 10 (m + 1)) => isDigit_of_mem_toDigits h
    rw [hcs] at hd
    have hminus : "-".toList = ['-'] := rfl
    simp only [Int.repr, String.toList_append, Nat.toList_repr, hcs, hminus, List.cons_append,
      List.nil_append]
    rw [readNumber_neg_digits hr (fun d h => hd d (List.mem_cons_of_mem _ h))
        (hd c List.mem_cons_self) hc, Nat.repr_eq_ofList_toDigits, hcs]
    have hs : String.ofList ('-' :: c :: cs) = "-" ++ String.ofList (c :: cs) := by
      rw [← String.toList_inj]; simp [hminus]
    rw [hs]

end Numbers


/-! ## The shape of a written value -/

mutual
/-- Every number in a value is written as an integer, as the library writes the numbers it
sends. -/
def IntNumbers : Json → Prop
  | .number lit => ∃ i : Int, lit = toString i
  | .array items => IntNumbersItems items
  | .object ms => IntNumbersMembers ms
  | _ => True

/-- Every number in the items is written as an integer. -/
def IntNumbersItems : List Json → Prop
  | [] => True
  | j :: js => IntNumbers j ∧ IntNumbersItems js

/-- Every number in the members' values is written as an integer. -/
def IntNumbersMembers : List (String × Json) → Prop
  | [] => True
  | (_, v) :: ms => IntNumbers v ∧ IntNumbersMembers ms
end

theorem skipBlanks_cons {c : Char} (h : isBlank c = false) (cs : List Char) :
    skipBlanks (c :: cs) = c :: cs := by
  simp [skipBlanks, h]

theorem toString_int_head (i : Int) :
    ∃ c cs, (toString i).toList = c :: cs ∧ (c = '-' ∨ isDigit c = true) := by
  rw [Int.toString_eq_repr]
  cases i with
  | ofNat m =>
    obtain ⟨c, cs, hcs⟩ := List.exists_cons_of_ne_nil (Nat.toDigits_ne_nil (n := m) (b := 10))
    refine ⟨c, cs, by simp [Int.repr, hcs], .inr (isDigit_of_mem_toDigits (n := m) ?_)⟩
    rw [hcs]; exact List.mem_cons_self
  | negSucc m => exact ⟨'-', _, by simp [Int.repr]; rfl, .inl rfl⟩

theorem readValue_number_start {c : Char} (hc : c = '-' ∨ isDigit c = true) (fuel : Nat)
    (cs : List Char) :
    readValue (fuel + 1) (c :: cs) =
      (readNumber (c :: cs)).map fun (n, rest) => (.number n, rest) := by
  have hn : c.toNat = 45 ∨ (48 ≤ c.toNat ∧ c.toNat ≤ 57) := by
    rcases hc with rfl | hc
    · exact .inl rfl
    · simp only [isDigit, Bool.and_eq_true, decide_eq_true_eq, Char.le_def] at hc
      exact .inr hc
  have ne (d : Char) (hd : d.toNat ≠ 45 ∧ (d.toNat < 48 ∨ 57 < d.toNat)) : c ≠ d := by
    rintro rfl; omega
  have hb : isBlank c = false := by
    simp only [isBlank, Bool.or_eq_false_iff, decide_eq_false_iff_not]
    exact ⟨⟨⟨ne ' ' (by decide), ne '\t' (by decide)⟩, ne '\n' (by decide)⟩, ne '\r' (by decide)⟩
  have h1 := ne '{' (by decide)
  have h2 := ne '[' (by decide)
  have h3 := ne '"' (by decide)
  have h4 := ne 't' (by decide)
  have h5 := ne 'f' (by decide)
  have h6 := ne 'n' (by decide)
  have hs : (decide (c = '-') || isDigit c) = true := by
    rcases hc with rfl | hc <;> simp [*]
  rw [readValue.eq_2, skipBlanks_cons hb]
  simp only [hs, if_true]
  rfl

theorem render_head (style : JsonStyle) {j : Json} (hj : j.IntNumbers) :
    ∃ c cs, (render style j).toList = c :: cs ∧ isBlank c = false ∧ c ≠ ']' := by
  cases j with
  | null => exact ⟨'n', _, by simp [render]; rfl, by decide, by decide⟩
  | bool b =>
    cases b
    · exact ⟨'f', _, by simp [render]; rfl, by decide, by decide⟩
    · exact ⟨'t', _, by simp [render]; rfl, by decide, by decide⟩
  | number lit =>
    obtain ⟨i, rfl⟩ := hj
    obtain ⟨c, cs, hcs, hc⟩ := toString_int_head i
    refine ⟨c, cs, by simpa [render] using hcs, ?_, ?_⟩
    · rcases hc with rfl | hc
      · decide
      · simp only [isDigit, Bool.and_eq_true, decide_eq_true_eq, Char.le_def] at hc
        simp only [isBlank, Bool.or_eq_false_iff, decide_eq_false_iff_not]
        refine ⟨⟨⟨?_, ?_⟩, ?_⟩, ?_⟩ <;> (rintro rfl; simp at hc)
    · rcases hc with rfl | hc
      · decide
      · rintro rfl; simp [isDigit] at hc
  | string s => exact ⟨'"', _, quote_toList style s, by decide, by decide⟩
  | array items => exact ⟨'[', _, by simp [render]; rfl, by decide, by decide⟩
  | object ms => exact ⟨'{', _, by simp [render]; rfl, by decide, by decide⟩

theorem render_array_toList (style : JsonStyle) (items : List Json) :
    (render style (.array items)).toList = '[' :: (renderItems style items).toList ++ [']'] := by
  simp [render]

theorem render_object_toList (style : JsonStyle) (ms : List (String × Json)) :
    (render style (.object ms)).toList = '{' :: (renderMembers style ms).toList ++ ['}'] := by
  simp [render]

theorem renderItems_cons_cons (style : JsonStyle) (j j' : Json) (js : List Json) :
    (renderItems style (j :: j' :: js)).toList =
      (render style j).toList ++ ',' :: (renderItems style (j' :: js)).toList := by
  simp [renderItems]

theorem renderMembers_singleton (style : JsonStyle) (k : String) (v : Json) :
    (renderMembers style [(k, v)]).toList =
      (quote style k).toList ++ ':' :: (render style v).toList := by
  simp [renderMembers]

theorem renderMembers_cons_cons (style : JsonStyle) (k : String) (v : Json) (m : String × Json)
    (ms : List (String × Json)) :
    (renderMembers style ((k, v) :: m :: ms)).toList =
      (quote style k).toList ++ ':' :: (render style v).toList ++ ',' ::
        (renderMembers style (m :: ms)).toList := by
  simp [renderMembers]

theorem renderMembers_cons (style : JsonStyle) (m : String × Json) (ms : List (String × Json)) :
    ∃ more, (renderMembers style (m :: ms)).toList = '"' :: more := by
  obtain ⟨k, v⟩ := m
  cases ms with
  | nil => exact ⟨_, by rw [renderMembers_singleton, quote_toList]; rfl⟩
  | cons m' ms => exact ⟨_, by rw [renderMembers_cons_cons, quote_toList]; rfl⟩

theorem renderItems_cons (style : JsonStyle) (j : Json) (js : List Json) :
    ∃ more, (renderItems style (j :: js)).toList = (render style j).toList ++ more := by
  cases js with
  | nil => exact ⟨[], by simp [renderItems]⟩
  | cons j' js => exact ⟨_, renderItems_cons_cons style j j' js⟩

theorem stops_of_closing {c : Char} (hc : c = ',' ∨ c = ']' ∨ c = '}') (rest : List Char) :
    ∀ d ∈ (c :: rest).head?, continuesNumber d = false := by
  intro d hd
  simp only [List.head?_cons, Option.mem_def, Option.some.injEq] at hd
  subst hd
  rcases hc with rfl | rfl | rfl <;> decide

theorem readValue_array (fuel : Nat) {c : Char} (cs : List Char) (hb : isBlank c = false)
    (hc : c ≠ ']') : readValue (fuel + 1) ('[' :: c :: cs) = readItems fuel [] (c :: cs) := by
  rw [readValue.eq_2, skipBlanks_cons (by decide)]
  simp [skipBlanks_cons hb, hc]

theorem readValue_object (fuel : Nat) (cs : List Char) :
    readValue (fuel + 1) ('{' :: '"' :: cs) = readMembers fuel [] ('"' :: cs) := by
  rw [readValue.eq_2, skipBlanks_cons (by decide)]
  simp [skipBlanks_cons (c := '"') (by decide)]

/-! ## Reading back, fuel by fuel -/

variable (style : JsonStyle)

/-- With this fuel, every value with integer numbers reads back from its text, whatever follows
that cannot continue a number. -/
def ValuesReadBack (fuel : Nat) : Prop :=
  ∀ j : Json, j.IntNumbers → (render style j).length < fuel → ∀ rest : List Char,
    (∀ c ∈ rest.head?, continuesNumber c = false) →
    readValue fuel ((render style j).toList ++ rest) = .ok (j, rest)

/-- With this fuel, array items read back from their text up to the closing bracket. -/
def ItemsReadBack (fuel : Nat) : Prop :=
  ∀ js : List Json, js ≠ [] → IntNumbersItems js → (renderItems style js).length + 1 < fuel →
    ∀ (acc : List Json) (rest : List Char),
    readItems fuel acc ((renderItems style js).toList ++ ']' :: rest) =
      .ok (.array (acc.reverse ++ js), rest)

/-- With this fuel, object members read back from their text up to the closing brace. -/
def MembersReadBack (fuel : Nat) : Prop :=
  ∀ ms : List (String × Json), ms ≠ [] → IntNumbersMembers ms →
    (renderMembers style ms).length + 1 < fuel → ∀ (acc : List (String × Json)) (rest : List Char),
    readMembers fuel acc ((renderMembers style ms).toList ++ '}' :: rest) =
      .ok (.object (acc.reverse ++ ms), rest)

variable {style}

theorem valuesReadBack_succ {fuel : Nat} (hi : ItemsReadBack style fuel)
    (hm : MembersReadBack style fuel) : ValuesReadBack style (fuel + 1) := by
  intro j hj hf rest hr
  cases j with
  | null => simp [render, readValue, skipBlanks, isBlank, readLiteral]
  | bool b => cases b <;> simp [render, readValue, skipBlanks, isBlank, readLiteral]
  | number lit =>
    obtain ⟨i, rfl⟩ := hj
    obtain ⟨c, cs, hcs, hc⟩ := toString_int_head i
    have hn := readNumber_int hr i
    rw [hcs, List.cons_append] at hn
    rw [render, hcs, List.cons_append, readValue_number_start hc, hn]
    rfl
  | string s =>
    simp only [render, quote_toList, List.cons_append, List.append_assoc]
    rw [readValue.eq_2, skipBlanks_cons (by decide)]
    simp only [readString_escaped, List.reverse_nil, List.nil_append, String.ofList_toList, ok_bind]
    rfl
  | array items =>
    cases items with
    | nil => simp [render, renderItems, readValue, skipBlanks, isBlank]
    | cons j js =>
      obtain ⟨c, cs, hcs, hb, hc⟩ := render_head style (j := j) hj.1
      obtain ⟨more, hmore⟩ := renderItems_cons style j js
      have hlen : (renderItems style (j :: js)).length + 1 < fuel := by
        rw [← String.length_toList, render_array_toList] at hf
        simp only [List.length_cons, List.length_append, String.length_toList] at hf
        omega
      have h := hi (j :: js) (List.cons_ne_nil _ _) hj hlen [] rest
      rw [hmore, hcs] at h
      rw [render_array_toList, hmore, hcs]
      simp only [List.cons_append, List.append_assoc] at h ⊢
      rw [readValue_array fuel _ hb hc]
      simpa using h
  | object ms =>
    cases ms with
    | nil => simp [render, renderMembers, readValue, skipBlanks, isBlank]
    | cons m ms =>
      obtain ⟨more, hmore⟩ := renderMembers_cons style m ms
      have hlen : (renderMembers style (m :: ms)).length + 1 < fuel := by
        rw [← String.length_toList, render_object_toList] at hf
        simp only [List.length_cons, List.length_append, String.length_toList] at hf
        omega
      have h := hm (m :: ms) (List.cons_ne_nil _ _) hj hlen [] rest
      rw [hmore] at h
      rw [render_object_toList, hmore]
      simp only [List.cons_append, List.append_assoc] at h ⊢
      rw [readValue_object fuel]
      simpa using h

theorem itemsReadBack_succ {fuel : Nat} (hv : ValuesReadBack style fuel)
    (hi : ItemsReadBack style fuel) : ItemsReadBack style (fuel + 1) := by
  intro js hne hjs hf acc rest
  rcases js with _ | ⟨j, _ | ⟨j', js⟩⟩
  · exact absurd rfl hne
  · -- the last item, then the closing bracket
    have hj : (render style j).length < fuel := by
      simp only [renderItems] at hf
      omega
    have h := hv j hjs.1 hj (']' :: rest) (stops_of_closing (by simp) rest)
    rw [show (renderItems style [j]) = render style j by simp [renderItems], readItems.eq_2, h, ok_bind]
    simp [skipBlanks, isBlank]
  · -- an item, a comma, and the items after it
    have hlen := congrArg List.length (renderItems_cons_cons style j j' js)
    simp only [String.length_toList, List.length_append, List.length_cons] at hlen
    have h := hv j hjs.1 (by omega) (',' :: ((renderItems style (j' :: js)).toList ++ ']' :: rest))
      (stops_of_closing (by simp) _)
    have ht := hi (j' :: js) (List.cons_ne_nil _ _) hjs.2 (by omega) (j :: acc) rest
    rw [renderItems_cons_cons, List.append_assoc, List.cons_append, readItems.eq_2, h, ok_bind]
    simp only [skipBlanks_cons (c := ',') (by decide)]
    rw [ht]
    simp

theorem readMembers_key_comma (fuel : Nat) (acc : List (String × Json)) (k : String)
    {cs rest rest' : List Char} {v : Json} (h : readValue fuel cs = .ok (v, rest))
    (hs : skipBlanks rest = ',' :: rest') :
    readMembers (fuel + 1) acc ((quote style k).toList ++ ':' :: cs) =
      readMembers fuel ((k, v) :: acc) rest' := by
  rw [quote_toList, readMembers.eq_2]
  simp only [List.cons_append, List.append_assoc]
  rw [skipBlanks_cons (by decide)]
  simp only [readString_escaped, List.reverse_nil, List.nil_append, String.ofList_toList, ok_bind]
  simp only [skipBlanks_cons (c := ':') (by decide), h, ok_bind, hs]

theorem readMembers_key_close (fuel : Nat) (acc : List (String × Json)) (k : String)
    {cs rest rest' : List Char} {v : Json} (h : readValue fuel cs = .ok (v, rest))
    (hs : skipBlanks rest = '}' :: rest') :
    readMembers (fuel + 1) acc ((quote style k).toList ++ ':' :: cs) =
      .ok (.object ((k, v) :: acc).reverse, rest') := by
  rw [quote_toList, readMembers.eq_2]
  simp only [List.cons_append, List.append_assoc]
  rw [skipBlanks_cons (by decide)]
  simp only [readString_escaped, List.reverse_nil, List.nil_append, String.ofList_toList, ok_bind]
  simp only [skipBlanks_cons (c := ':') (by decide), h, ok_bind, hs]
  rfl

theorem membersReadBack_succ {fuel : Nat} (hv : ValuesReadBack style fuel)
    (hm : MembersReadBack style fuel) : MembersReadBack style (fuel + 1) := by
  intro ms hne hms hf acc rest
  rcases ms with _ | ⟨⟨k, v⟩, _ | ⟨m', ms⟩⟩
  · exact absurd rfl hne
  · -- the last member, then the closing brace
    have hlen := congrArg List.length (renderMembers_singleton style k v)
    simp only [String.length_toList, List.length_append, List.length_cons] at hlen
    have h := hv v hms.1 (by omega) ('}' :: rest) (stops_of_closing (by simp) rest)
    rw [renderMembers_singleton, List.append_assoc, List.cons_append,
      readMembers_key_close fuel acc k h (skipBlanks_cons (c := '}') (by decide) rest)]
    simp
  · -- a member, a comma, and the members after it
    have hlen := congrArg List.length (renderMembers_cons_cons style k v m' ms)
    simp only [String.length_toList, List.length_append, List.length_cons] at hlen
    have h := hv v hms.1 (by omega) (',' :: ((renderMembers style (m' :: ms)).toList ++ '}' :: rest))
      (stops_of_closing (by simp) _)
    have ht := hm (m' :: ms) (List.cons_ne_nil _ _) hms.2 (by omega) ((k, v) :: acc) rest
    rw [renderMembers_cons_cons]
    simp only [List.append_assoc, List.cons_append]
    rw [readMembers_key_comma fuel acc k h (skipBlanks_cons (c := ',') (by decide) _), ht]
    simp

/-- Every value with integer numbers reads back from its text, with fuel above the length of
the text: each nested read takes one unit of fuel and at least one character. -/
theorem readBack (fuel : Nat) :
    ValuesReadBack style fuel ∧ ItemsReadBack style fuel ∧ MembersReadBack style fuel := by
  induction fuel with
  | zero =>
    refine ⟨fun _ _ hf => absurd hf (Nat.not_lt_zero _), fun _ _ _ hf => ?_, fun _ _ _ hf => ?_⟩
    · omega
    · omega
  | succ fuel ih =>
    obtain ⟨hv, hi, hm⟩ := ih
    exact ⟨valuesReadBack_succ hi hm, itemsReadBack_succ hv hi, membersReadBack_succ hv hm⟩

theorem readValue_render {j : Json} (hj : j.IntNumbers) :
    readValue ((render style j).toList.length + 1) (render style j).toList = .ok (j, []) := by
  simpa using (@readBack style ((render style j).toList.length + 1)).1 j hj
    (by rw [String.length_toList]; omega) [] (by simp)

/-- A value with integer numbers reads back from its text. -/
theorem readText_render {j : Json} (hj : j.IntNumbers) : readText (render style j) = .ok j := by
  obtain ⟨c, cs, hcs, hb, -⟩ := render_head style hj
  have h := @readValue_render style j hj
  rw [hcs] at h
  simp only [readText, hcs, skipBlanks_cons hb, h, ok_bind]
  rfl

/-- A value with integer numbers is the first value of a stream holding its text. -/
theorem readFirst_render {j : Json} (hj : j.IntNumbers) : readFirst (render style j) = .ok j := by
  obtain ⟨c, cs, hcs, hb, -⟩ := render_head style hj
  have h := @readValue_render style j hj
  rw [hcs] at h
  simp only [readFirst, hcs, skipBlanks_cons hb, h, ok_bind]
  rfl

end BillOfMaterials.Json
