/-!
# UTF-8 byte strings

Texts that the service cuts at byte offsets (an id's prefix, a body read in part) may end in
the middle of a character, so a few printers work on bytes rather than on `String`.

* `Utf8.front?` reads one well-formed character (RFC 3629 §4) at the front of a byte list;
* `Utf8.pieces` splits a byte list into characters and stray bytes, a stray byte being one that
  starts no well-formed character; `Utf8.front?_length` is the step that makes it end.
-/

namespace BillOfMaterials.Text

/-- What a reader of UTF-8 finds at one place: a character, or a byte that starts none. -/
inductive Piece where
  | char (c : Char)
  | stray (b : UInt8)
  deriving DecidableEq, Repr

namespace Utf8

/-- A continuation byte, `%x80-BF`. -/
def isTail (b : UInt8) : Bool := 0x80 ≤ b && b ≤ 0xBF

/-- The code point of a two-byte sequence. -/
def code2 (a b : UInt8) : Nat := (a.toNat % 0x20) * 0x40 + b.toNat % 0x40

/-- The code point of a three-byte sequence. -/
def code3 (a b c : UInt8) : Nat :=
  (a.toNat % 0x10) * 0x1000 + (b.toNat % 0x40) * 0x40 + c.toNat % 0x40

/-- The code point of a four-byte sequence. -/
def code4 (a b c d : UInt8) : Nat :=
  (a.toNat % 0x08) * 0x40000 + (b.toNat % 0x40) * 0x1000 + (c.toNat % 0x40) * 0x40 +
    d.toNat % 0x40

/-- The least second byte after a three- or four-byte lead, which rules out overlong forms. -/
def secondLow (a : UInt8) : UInt8 :=
  if a = 0xE0 then 0xA0 else if a = 0xF0 then 0x90 else 0x80

/-- The greatest second byte after a lead, which rules out surrogates and code points past
`U+10FFFF`. -/
def secondHigh (a : UInt8) : UInt8 :=
  if a = 0xED then 0x9F else if a = 0xF4 then 0x8F else 0xBF

/-- The well-formed character at the front of a byte list and the bytes after it. -/
def front? : List UInt8 → Option (Char × List UInt8)
  | [] => none
  | a :: r =>
    if a < 0x80 then some (Char.ofNat a.toNat, r)
    else if 0xC2 ≤ a && a ≤ 0xDF then
      match r with
      | b :: r' => if isTail b then some (Char.ofNat (code2 a b), r') else none
      | [] => none
    else if 0xE0 ≤ a && a ≤ 0xEF then
      match r with
      | b :: c :: r' =>
        if secondLow a ≤ b && b ≤ secondHigh a && isTail c then
          some (Char.ofNat (code3 a b c), r')
        else none
      | _ => none
    else if 0xF0 ≤ a && a ≤ 0xF4 then
      match r with
      | b :: c :: d :: r' =>
        if secondLow a ≤ b && b ≤ secondHigh a && isTail c && isTail d then
          some (Char.ofNat (code4 a b c d), r')
        else none
      | _ => none
    else none

theorem front?_length {bs rest : List UInt8} {c : Char} (h : front? bs = some (c, rest)) :
    rest.length < bs.length := by
  unfold front? at h
  split at h
  · simp at h
  · repeat' split at h
    all_goals first
      | (simp only [Option.some.injEq, Prod.mk.injEq] at h; rw [← h.2]; simp only [List.length_cons]; omega)
      | simp at h

/-- A byte list split into characters and stray bytes, front to back. A stray byte is taken
alone, so reading goes on at the next byte. -/
def pieces (bs : List UInt8) : List Piece :=
  match h : front? bs with
  | some (c, rest) =>
    have := front?_length h
    .char c :: pieces rest
  | none =>
    match bs with
    | [] => []
    | b :: rest => .stray b :: pieces rest
termination_by bs.length

/-- The bytes of a text. -/
def bytes (s : String) : List UInt8 := s.toUTF8.toList

/-- The text of a byte list, with U+FFFD for each stray byte. -/
def lossy (bs : List UInt8) : String :=
  String.ofList ((pieces bs).map fun
    | .char c => c
    | .stray _ => '�')

/-- The text of a byte list, if every byte belongs to a well-formed character. -/
def decode? (bs : List UInt8) : Option String :=
  ((pieces bs).mapM fun (p : Piece) => match p with
    | .char c => some c
    | .stray _ => none).map String.ofList

end Utf8

end BillOfMaterials.Text
