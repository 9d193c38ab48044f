import BillOfMaterials.Decimal.Binary64
import BillOfMaterials.Text.Utf8

/-!
# Values of an embedded SQL database

* `Value`: `NULL`, a 64-bit integer, a real, a text or a blob; `Value.textForm` is the text a
  number becomes, reals to fifteen significant digits (`Value.realLayout`);
* `readReal`, `readInt`: the number at the start of a text, with how much of the text it is;
* `Affinity`: how a column converts what is stored in it, `Value.withAffinity`; comparisons
  convert their operands with `Value.forComparison`;
* `Collation`: how texts compare; `Value.compareWith` orders values of all classes: `NULL`,
  numbers, texts, blobs;
* `SqlError`: a failure with its result code, written `kind: message (code)`.
-/

namespace BillOfMaterials.Sql

/-- A value in a cell. -/
inductive Value where
  | null
  | int (n : Int)
  | real (x : Binary64)
  | text (s : String)
  | blob (bytes : List UInt8)
  deriving DecidableEq, Inhabited

/-- A failure reported by the database: its result code and its message. -/
structure SqlError where
  code : Nat
  message : String
  deriving DecidableEq, Inhabited

/-- The kind of failure a result code names; an extended code names the kind of its low byte. -/
def codeText (code : Nat) : String :=
  match code % 256 with
  | 1 => "SQL logic error"
  | 5 => "database is locked"
  | 7 => "out of memory"
  | 8 => "attempt to write a readonly database"
  | 14 => "unable to open database file"
  | 18 => "string or blob too big"
  | 19 => "constraint failed"
  | 20 => "datatype mismatch"
  | 25 => "column index out of range"
  | _ => "unknown error"

/-- The text of a failure: `kind: message (code)`, or `kind (code)` when the message only
repeats the kind. -/
def SqlError.render (e : SqlError) : String :=
  let kind := codeText e.code
  if e.message = kind then kind ++ " (" ++ toString e.code ++ ")"
  else kind ++ ": " ++ e.message ++ " (" ++ toString e.code ++ ")"

/-- A failure of the statement itself, code 1. -/
def logicError (m : String) : SqlError := ⟨1, m⟩

/-- ASCII upper case, as keywords and names are compared. -/
def upper (s : String) : String :=
  s.map fun c => if 'a' ≤ c && c ≤ 'z' then Char.ofNat (c.toNat - 32) else c

/-- ASCII lower case. -/
def lower (s : String) : String :=
  s.map fun c => if 'A' ≤ c && c ≤ 'Z' then Char.ofNat (c.toNat + 32) else c

/-- Whether two names are the same up to ASCII case. -/
def sameName (a b : String) : Bool := upper a == upper b

/-- The smallest and largest 64-bit integers. -/
def minInt : Int := -0x8000000000000000
def maxInt : Int := 0x7FFFFFFFFFFFFFFF

/-- Whether an integer fits in 64 bits. -/
def fits (n : Int) : Bool := minInt ≤ n && n ≤ maxInt

/-! ## Numbers in text -/

/-- The blanks around numbers in text: space, tab, newline, vertical tab, form feed, return. -/
def isBlank (c : Char) : Bool := c = ' ' || ('\t' ≤ c && c ≤ '\r')

/-- The significand stops taking digits once it reaches this, so that it stays within 64 bits;
later digits before the point only raise the exponent. -/
def significandLimit : Nat := 1844674407370955160

/-- Reads digits into a significand: `(s, shift, count)`, where digits before the point that do
not fit raise `shift`, and digits after it that fit lower it. -/
def takeDigits (afterPoint : Bool) : List Char → Nat × Int × Nat → Nat × Int × Nat
  | [], acc => acc
  | c :: rest, (s, shift, count) =>
    let d := c.toNat - '0'.toNat
    if afterPoint then
      if s < significandLimit then takeDigits afterPoint rest (s * 10 + d, shift - 1, count + 1)
      else takeDigits afterPoint rest (s, shift, count)
    else if s ≥ significandLimit then takeDigits afterPoint rest (s, shift + 1, count)
    else takeDigits afterPoint rest (s * 10 + d, shift, count + 1)

/-- A sign at the front: whether it is a minus, and the rest. -/
def takeSign : List Char → Bool × List Char
  | '-' :: rest => (true, rest)
  | '+' :: rest => (false, rest)
  | cs => (false, cs)

/-- The number at the start of a text, blanks around it allowed: an optional sign, digits, an
optional point and digits, an optional exponent. With it comes how the text reads: `1` a whole
integer, `2` or `3` a number with a point or an exponent, `-1` such a number followed by other
text, `0` anything else. The value is the nearest double to what was read; an exponent beyond
the range of doubles gives infinity or zero. -/
def readReal (s : String) : Binary64 × Int :=
  let cs := s.toList.dropWhile isBlank
  if cs.isEmpty then (Binary64.zero, 0)
  else
    let (neg, cs) := takeSign cs
    let whole := cs.takeWhile Char.isDigit
    let cs := cs.drop whole.length
    let (s1, shift1, count1) := takeDigits false whole (0, 0, 0)
    let (hasPoint, frac, cs) := match cs with
      | '.' :: rest =>
        let f := rest.takeWhile Char.isDigit
        (true, f, rest.drop f.length)
      | _ => (false, [], cs)
    let (sig, shift, count) := takeDigits true frac (s1, shift1, count1)
    let (hasExp, expValid, expValue, cs) := match cs with
      | c :: rest =>
        if c = 'e' || c = 'E' then
          let (eneg, rest) := takeSign rest
          let ed := rest.takeWhile Char.isDigit
          let v : Nat := ed.foldl (fun (v : Nat) (d : Char) => if v < 10000 then v * 10 + (d.toNat - '0'.toNat) else 10000) 0
          (true, !ed.isEmpty, (if eneg then -(v : Int) else v), rest.drop ed.length)
        else (false, true, 0, cs)
      | [] => (false, true, 0, [])
    let rest := cs.dropWhile isBlank
    let kind : Int := 1 + (if hasPoint then 1 else 0) + (if hasExp then 1 else 0)
    let e := shift + expValue
    let value :=
      if sig = 0 then (if neg then Binary64.zero.neg else Binary64.zero)
      else if e > 350 then (if neg then Binary64.infinity.neg else Binary64.infinity)
      else if e < -400 then (if neg then Binary64.zero.neg else Binary64.zero)
      else Binary64.ofDecimal neg sig e
    let code : Int :=
      if rest.isEmpty && count > 0 && expValid then kind
      else if kind ≥ 2 && (kind = 3 || expValid) && count > 0 then -1
      else 0
    (value, code)

/-- The integer at the start of a text, blanks before it and a sign allowed, saturated to 64
bits, with how the text reads: `0` an integer that fits, `1` one followed by other text, `2`
one too large, `3` exactly `2^63`, `-1` no digits at all. -/
def readInt (s : String) : Int × Int :=
  let cs := s.toList.dropWhile isBlank
  let (neg, cs) := takeSign cs
  let zeros := cs.takeWhile (· = '0')
  let cs := cs.drop zeros.length
  let ds := cs.takeWhile Char.isDigit
  let rest := cs.drop ds.length
  let u : Nat := ds.foldl (fun u d => u * 10 + (d.toNat - '0'.toNat)) 0
  let value : Int :=
    if u > 0x7FFFFFFFFFFFFFFF then (if neg then minInt else maxInt)
    else if neg then -(u : Int) else u
  let code : Int :=
    if ds.isEmpty && zeros.isEmpty then -1
    else if rest.any (fun c => !isBlank c) then 1
    else 0
  if ds.length < 19 then (value, code)
  else
    let c := if ds.length > 19 then Ordering.gt else compare u 0x8000000000000000
    match c with
    | .lt => (value, code)
    | .gt => ((if neg then minInt else maxInt), 2)
    | .eq => if neg then (minInt, code) else (maxInt, 3)

/-- A finite real as an integer: truncated toward zero, held to 64 bits. -/
def int64Of (x : Binary64) : Int :=
  if x.isNaN then 0
  else if x.compareInt minInt != .gt then minInt
  else if x.compareInt (maxInt + 1) != .lt then maxInt
  else x.truncate

/-- Whether a real is the same as an integer of magnitude below `2^51`, or is zero. -/
def realSameAsInt (x : Binary64) (i : Int) : Bool :=
  x.isZero || (x = Binary64.ofInt i && -0x8000000000000 ≤ i && i < 0x8000000000000)

/-- A real as an integer, for deciding whether it is one: held just inside 64 bits. -/
def realToInt (x : Binary64) : Int :=
  if x.compareInt (-9223372036854774784) = .lt then minInt
  else if x.compareInt 9223372036854774784 = .gt then maxInt
  else x.truncate

/-- A real that is an integer strictly inside the 64-bit range becomes that integer. -/
def integerAffinity (x : Binary64) : Value :=
  let i := int64Of x
  if !x.isNaN && x.compareInt i = .eq && minInt < i && i < maxInt then .int i else .real x

/-- A text that reads wholly as a number becomes that number: an integer when it is one that
fits, else a real, made an integer when `tryInt` and it is one. Other texts stay. -/
def numericText (tryInt : Bool) (s : String) : Value :=
  let (r, code) := readReal s
  if code ≤ 0 then .text s
  else
    let alsoInt : Option Int :=
      if code = 1 then
        let i := realToInt r
        if realSameAsInt r i then some i
        else
          let (j, c) := readInt s
          if c = 0 then some j else none
      else none
    match alsoInt with
    | some i => .int i
    | none => if tryInt then integerAffinity r else .real r

/-! ## Text forms -/

/-- Reals are written with fifteen significant digits, a half rounded up, positionally for
exponents from -4 to 14 and with `.0` when nothing follows the point. -/
def Value.realLayout : Layout :=
  { digits := some 15, lowest := -4, highest := 14, pointZero := true,
    infinity := "Inf", negInfinity := "-Inf", nan := "NaN", zero := "0.0", negZero := "0.0" }

/-- The text a number is written as. -/
def realText (x : Binary64) : String := x.render Value.realLayout

/-- The text form of a value: numbers written out, a blob's bytes read as text; `NULL` has
none. -/
def Value.textForm : Value → Option String
  | .null => none
  | .int n => some (toString n)
  | .real x => some (realText x)
  | .text s => some s
  | .blob bs => some (Text.Utf8.lossy bs)

/-- The bytes of a value as a caller asking for bytes reads them: numbers as their text. -/
def Value.byteForm : Value → Option (List UInt8)
  | .null => none
  | .blob bs => some bs
  | v => v.textForm.map Text.Utf8.bytes

/-- The name of the storage class of a value. -/
def Value.typeName : Value → String
  | .null => "null"
  | .int _ => "integer"
  | .real _ => "real"
  | .text _ => "text"
  | .blob _ => "blob"

/-- Whether a value is `NULL`. -/
def Value.isNull : Value → Bool
  | .null => true
  | _ => false

/-- Whether a value is a blob. -/
def Value.isBlob : Value → Bool
  | .blob _ => true
  | _ => false

/-- Whether a value is a number. -/
def Value.isNumber : Value → Bool
  | .int _ | .real _ => true
  | _ => false

/-- A value as a real, texts and blobs by the number at their start. -/
def Value.toReal : Value → Binary64
  | .null => Binary64.zero
  | .int n => Binary64.ofInt n
  | .real x => x
  | v => (readReal (v.textForm.getD "")).1

/-- A value as an integer, reals truncated, texts and blobs by the integer at their start. -/
def Value.toInt : Value → Int
  | .null => 0
  | .int n => n
  | .real x => int64Of x
  | v => (readInt (v.textForm.getD "")).1

/-- The number a value stands for in arithmetic: a text or blob is an integer when it reads
as one, or when no number with a point or exponent starts it; else the real at its start. -/
def Value.numeric : Value → Value
  | .text s => numericOf s
  | .blob bs => numericOf (Text.Utf8.lossy bs)
  | v => v
where
  numericOf (s : String) : Value :=
    let (r, code) := readReal s
    let (i, ic) := readInt s
    if code = 0 && ic ≤ 1 then .int i
    else if code = 1 && ic = 0 then .int i
    else .real r

/-- Whether a value counts as true; `NULL` is neither. Texts and blobs count by the number at
their start. -/
def Value.truth? : Value → Option Bool
  | .null => none
  | .int n => some (n ≠ 0)
  | v => some (!v.toReal.isZero)

/-- A truth value as the database writes one. -/
def ofBool (b : Bool) : Value := .int (if b then 1 else 0)

/-! ## Affinity -/

/-- How a column converts what is stored in it, from its declared type. -/
inductive Affinity where
  | blob
  | text
  | numeric
  | integer
  | real
  deriving DecidableEq, Inhabited

/-- Whether an affinity is one of the numeric ones. -/
def Affinity.isNumeric : Affinity → Bool
  | .numeric | .integer | .real => true
  | _ => false

/-- Whether `part` occurs in `s`. -/
def mentions (s part : String) : Bool := (s.splitOn part).length > 1

/-- The affinity of a declared type, in upper case: `INT` anywhere makes it integer; else
`CHAR`, `CLOB` or `TEXT` text; else `BLOB` blob; else `REAL`, `FLOA` or `DOUB` real; else
numeric. -/
def affinityOf (type : String) : Affinity :=
  if mentions type "INT" then .integer
  else if mentions type "CHAR" || mentions type "CLOB" || mentions type "TEXT" then .text
  else if mentions type "BLOB" then .blob
  else if mentions type "REAL" || mentions type "FLOA" || mentions type "DOUB" then .real
  else .numeric

/-- The affinity of a column's declared type; a column without one keeps values as they are. -/
def columnAffinity (type : String) : Affinity := if type.isEmpty then .blob else affinityOf type

/-- A value as a column of an affinity stores it. A numeric column makes a text that reads
wholly as a number that number, and a real that is an integer an integer; a real column keeps
every number as a real. A text column writes numbers as text. Blobs and `NULL` stay. -/
def Value.withAffinity (a : Affinity) (v : Value) : Value :=
  match a with
  | .blob => v
  | .text =>
    match v with
    | .int _ | .real _ => .text (v.textForm.getD "")
    | _ => v
  | .numeric | .integer | .real =>
    let w := match v with
      | .text s => numericText true s
      | .real x => integerAffinity x
      | _ => v
    match a, w with
    | .real, .int n => .real (Binary64.ofInt n)
    | _, _ => w

/-- The affinity a comparison applies, from those of its operands (`none` for an operand with
none): two with affinities compare numerically when either is numeric, else as they are; one
with an affinity lends it. -/
def comparisonAffinity : Option Affinity → Option Affinity → Option Affinity
  | some a, some b => if a.isNumeric || b.isNumeric then some .numeric else none
  | some a, none => some a
  | none, some b => some b
  | none, none => none

/-- Converts the two operands of a comparison by its affinity: numerically, texts that read as
numbers; as text, numbers when either operand is a text. -/
def Value.forComparison (a : Option Affinity) (x y : Value) : Value × Value :=
  match a with
  | some .numeric | some .integer | some .real =>
    let conv (v : Value) : Value := match v with
      | .text s => numericText false s
      | _ => v
    (conv x, conv y)
  | some .text =>
    match x, y with
    | .text _, _ | _, .text _ =>
      let conv (v : Value) : Value := if v.isNumber then .text (v.textForm.getD "") else v
      (conv x, conv y)
    | _, _ => (x, y)
  | _ => (x, y)

/-! ## Collation and order -/

/-- How texts compare: byte by byte, with ASCII letters folded, or with trailing spaces
ignored. -/
inductive Collation where
  | binary
  | nocase
  | rtrim
  deriving DecidableEq, Inhabited

/-- The collation a name stands for, up to ASCII case. -/
def Collation.ofName? (n : String) : Option Collation :=
  match upper n with
  | "BINARY" => some .binary
  | "NOCASE" => some .nocase
  | "RTRIM" => some .rtrim
  | _ => none

/-- The bytes a collation compares for a text. -/
def Collation.key (c : Collation) (s : String) : List UInt8 :=
  let bs := Text.Utf8.bytes s
  match c with
  | .binary => bs
  | .nocase => bs.map fun b => if 0x41 ≤ b && b ≤ 0x5A then b + 0x20 else b
  | .rtrim => (bs.reverse.dropWhile (· = 0x20)).reverse

/-- Compares two reals that are not `NaN`. -/
def compareReal (a b : Binary64) : Ordering :=
  if a.toFloat < b.toFloat then .lt else if b.toFloat < a.toFloat then .gt else .eq

/-- Orders two values: `NULL` first, then numbers by value, then texts by the collation, then
blobs byte by byte. -/
def Value.compareWith (c : Collation) : Value → Value → Ordering
  | .null, .null => .eq
  | .null, _ => .lt
  | _, .null => .gt
  | .int a, .int b => compare a b
  | .real a, .real b => compareReal a b
  | .real a, .int b => a.compareInt b
  | .int a, .real b => (b.compareInt a).swap
  | .int _, _ | .real _, _ => .lt
  | _, .int _ | _, .real _ => .gt
  | .text a, .text b => compare (c.key a) (c.key b)
  | .text _, .blob _ => .lt
  | .blob _, .text _ => .gt
  | .blob a, .blob b => compare a b

end BillOfMaterials.Sql
