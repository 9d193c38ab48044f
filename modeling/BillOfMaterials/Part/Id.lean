import BillOfMaterials.Text.Quoted

/-!
# Part ids

A part id is a 128-bit UUID, written in the canonical form of 32 lower-case hex digits in
groups of 8, 4, 4, 4 and 12 joined by hyphens.

Reading accepts four spellings, told apart by their length in bytes:

* 36: the canonical form, either case;
* 45: the canonical form behind a `urn:uuid:` prefix, the prefix in either case;
* 38: the canonical form between two characters that are not looked at, as in `{...}`;
* 32: the hex digits alone.

Any other length is `IdError.badLength`; a wrong prefix is `IdError.badPrefix`; a hyphen out of
place or a character that is no hex digit is `IdError.badFormat`.

Fresh ids come from an `IdStream`: the k-th id drawn is `00000000-0000-4000-8000-` followed by
k in twelve hex digits (`IdStream.ofSerial`).
-/

namespace BillOfMaterials

/-- A part id: a 128-bit number. -/
structure PartId where
  val : Nat
  /-- The bound 2^128. -/
  isLt : val < 0x100000000000000000000000000000000
  deriving DecidableEq

/-- Why a text is not a part id. -/
inductive IdError where
  | badLength (bytes : Nat)
  | badPrefix (pre : List UInt8)
  | badFormat
  deriving DecidableEq

/-- The message of a reading error. -/
def IdError.message : IdError → String
  | .badLength n => "invalid UUID length: " ++ toString n
  | .badPrefix pre => "invalid urn prefix: " ++ Text.quoteBytes pre
  | .badFormat => "invalid UUID format"

namespace PartId

/-- The all-zero id, which names no part. -/
def nil : PartId := ⟨0, by decide⟩

instance : Inhabited PartId := ⟨nil⟩

/-- The id of a number, taken modulo 2^128. -/
def ofNat (n : Nat) : PartId := ⟨n % 0x100000000000000000000000000000000, Nat.mod_lt _ (by decide)⟩

/-- The canonical form. -/
def toString (id : PartId) : String :=
  let h := (Text.hexPadded 32 id.val).toList
  String.ofList (h.take 8 ++ '-' :: (h.drop 8).take 4 ++ '-' :: (h.drop 12).take 4 ++
    '-' :: (h.drop 16).take 4 ++ '-' :: h.drop 20)

instance : ToString PartId := ⟨PartId.toString⟩

/-- The value of a hex digit, either case. -/
def hexValue? (b : UInt8) : Option Nat :=
  if 0x30 ≤ b && b ≤ 0x39 then some (b.toNat - 0x30)
  else if 0x61 ≤ b && b ≤ 0x66 then some (b.toNat - 0x61 + 10)
  else if 0x41 ≤ b && b ≤ 0x46 then some (b.toNat - 0x41 + 10)
  else none

/-- The number a list of hex digits spells, most significant first. -/
def hexNumber? (bs : List UInt8) : Option Nat :=
  bs.foldl (fun acc b => do
    let n ← acc
    let d ← hexValue? b
    pure (n * 16 + d)) (some 0)

/-- The number of 32 hex digits, as an id. -/
def ofHexDigits (bs : List UInt8) : Except IdError PartId :=
  match hexNumber? bs with
  | some n => .ok (ofNat n)
  | none => .error .badFormat

/-- Reads the first 36 bytes as the canonical form, hyphens at 8, 13, 18 and 23. -/
def ofCanonical (bs : List UInt8) : Except IdError PartId :=
  let hyphen (i : Nat) := bs[i]? == some 0x2D
  if hyphen 8 && hyphen 13 && hyphen 18 && hyphen 23 then
    ofHexDigits (bs.take 8 ++ (bs.drop 9).take 4 ++ (bs.drop 14).take 4 ++
      (bs.drop 19).take 4 ++ (bs.drop 24).take 12)
  else .error .badFormat

/-- The lower-case form of an ASCII letter; other bytes are kept. -/
def asciiLower (b : UInt8) : UInt8 := if 0x41 ≤ b && b ≤ 0x5A then b + 0x20 else b

/-- Reads an id, given as bytes, in any of the four accepted spellings. -/
def parseBytes? (bs : List UInt8) : Except IdError PartId :=
  if bs.length = 36 then ofCanonical bs
  else if bs.length = 45 then
    if (bs.take 9).map asciiLower = Text.Utf8.bytes "urn:uuid:" then ofCanonical (bs.drop 9)
    else .error (.badPrefix (bs.take 9))
  else if bs.length = 38 then ofCanonical (bs.drop 1)
  else if bs.length = 32 then ofHexDigits bs
  else .error (.badLength bs.length)

/-- Reads an id in any of the four accepted spellings. -/
def parse? (s : String) : Except IdError PartId := parseBytes? (Text.Utf8.bytes s)

example : (parse? "URN:UUID:00000000-0000-4000-8000-00000000000A").map toString =
    .ok "00000000-0000-4000-8000-00000000000a" := by cbv

example : (parse? "x").map toString = .error (.badLength 1) := by cbv

end PartId

/-- A source of fresh ids: how many have been drawn. -/
structure IdStream where
  drawn : Nat := 0
  deriving DecidableEq

namespace IdStream

/-- The id drawn k-th. -/
def ofSerial (k : Nat) : PartId := PartId.ofNat (0x4000 * 0x10000000000000000 + 0x8000 * 0x1000000000000 + k % 0x1000000000000)

/-- The next id and the stream after it. -/
def next (s : IdStream) : PartId × IdStream := (ofSerial (s.drawn + 1), ⟨s.drawn + 1⟩)

example : (ofSerial 1).toString = "00000000-0000-4000-8000-000000000001" := by cbv

end IdStream

end BillOfMaterials
