/-!
# Binary64 numbers and their decimal digits

Double-precision numbers kept as their 64 bits, read and written as decimals with exact
arithmetic on naturals.

* `Binary64`: the bits of a number; `toFloat` and `ofFloat` move to and from `Float`, whose
  operations are the hardware's;
* `Binary64.significand`, `Binary64.exponent`: a finite number is `± significand * 2^exponent`;
* `Binary64.ofRatio`: the number nearest to a ratio of naturals, a tie going to the even
  significand; `Binary64.ofDecimal` and `Binary64.ofInt` read through it;
* `Binary64.compareInt`, `Binary64.truncate`: exact comparison with an integer, and the
  integer part;
* `Decimal`: digits and a power of ten. `Binary64.roundDigits x k` is `|x|` to `k`
  significant digits, a half going up; `Binary64.shortest x` has the fewest significant digits
  that read back as `x`, the nearer of two candidates, a tie to the even one.
-/

namespace BillOfMaterials

/-- A double-precision number, kept as its 64 bits. -/
structure Binary64 where
  bits : UInt64
  deriving DecidableEq, Inhabited

/-- A decimal number `digits * 10^exp`. -/
structure Decimal where
  digits : Nat
  exp : Int
  deriving DecidableEq, Inhabited

/-- `⌊log₂ (n / q)⌋` for positive `n` and `q`. -/
def log2Ratio (n q : Nat) : Int :=
  if q ≤ n then ((n / q).log2 : Int) else -((((q + n - 1) / n - 1).log2 + 1 : Nat) : Int)

/-- The number of decimal digits of a natural, one for zero. -/
def digitCount (n : Nat) : Nat := (Nat.toDigits 10 n).length

/-- `⌊log₁₀ (n / q)⌋` for positive `n` and `q`: below one, `10^j ≥ ⌈q / n⌉` first holds for
`j` the digit count of `⌈q / n⌉ - 1`. -/
def log10Ratio (n q : Nat) : Int :=
  if q ≤ n then (digitCount (n / q) : Int) - 1 else -((digitCount ((q + n - 1) / n - 1) : Nat) : Int)

/-- `n / q` scaled by `10^s`, as a ratio. -/
def scale10 (n q : Nat) (s : Int) : Nat × Nat :=
  if 0 ≤ s then (n * Nat.pow 10 s.toNat, q) else (n, q * Nat.pow 10 (-s).toNat)

namespace Binary64

/-- The number as a `Float`. -/
def toFloat (x : Binary64) : Float := Float.ofBits x.bits

/-- The bits of a `Float`. -/
def ofFloat (f : Float) : Binary64 := ⟨f.toBits⟩

/-- Positive zero. -/
def zero : Binary64 := ⟨0⟩

/-- Positive infinity. -/
def infinity : Binary64 := ⟨0x7FF0000000000000⟩

/-- Whether the sign bit is set. -/
def negative (x : Binary64) : Bool := x.bits >>> 63 == 1

/-- The biased exponent field. -/
def biased (x : Binary64) : Nat := ((x.bits >>> 52) &&& 0x7FF).toNat

/-- The fraction field. -/
def fraction (x : Binary64) : Nat := (x.bits &&& 0xFFFFFFFFFFFFF).toNat

/-- Whether the number is not a number. -/
def isNaN (x : Binary64) : Bool := x.biased == 0x7FF && x.fraction != 0

/-- Whether the number is infinite. -/
def isInfinite (x : Binary64) : Bool := x.biased == 0x7FF && x.fraction == 0

/-- Whether the number is a zero of either sign. -/
def isZero (x : Binary64) : Bool := x.biased == 0 && x.fraction == 0

/-- The number with the sign flipped. -/
def neg (x : Binary64) : Binary64 := ⟨x.bits ^^^ 0x8000000000000000⟩

/-- The significand of a finite number, with its hidden bit. -/
def significand (x : Binary64) : Nat :=
  if x.biased == 0 then x.fraction else x.fraction + 0x10000000000000

/-- The power of two the significand of a finite number is scaled by. -/
def exponent (x : Binary64) : Int := (if x.biased == 0 then (1 : Int) else x.biased) - 1075

/-- `|x|` of a finite number as a ratio of naturals. -/
def ratio (x : Binary64) : Nat × Nat :=
  if 0 ≤ x.exponent then (x.significand * Nat.pow 2 x.exponent.toNat, 1)
  else (x.significand, Nat.pow 2 (-x.exponent).toNat)

/-- The number `± m * 2^e` for a significand below `2^53` whose exponent is at least -1074,
below `2^52` only at -1074: a significand of `2^53` carries into the exponent, and a value of
`2^1024` or more is infinite. -/
def encode (neg : Bool) (m : Nat) (e : Int) : Binary64 :=
  let (m, e) := if 0x20000000000000 ≤ m then (m / 2, e + 1) else (m, e)
  let sign : UInt64 := if neg then 0x8000000000000000 else 0
  if m = 0 then ⟨sign⟩
  else if e + 52 > 1023 then ⟨sign ||| 0x7FF0000000000000⟩
  else if m < 0x10000000000000 then ⟨sign ||| m.toUInt64⟩
  else ⟨sign ||| ((e + 1075).toNat.toUInt64 <<< 52) ||| (m - 0x10000000000000).toUInt64⟩

/-- The number nearest to `± n / q`, a tie going to the even significand; `q` is positive. The
exponent is chosen so that the significand has 53 bits, or fewer at the least exponent. -/
def ofRatio (neg : Bool) (n q : Nat) : Binary64 :=
  if n = 0 then encode neg 0 0
  else
    let e : Int := max (log2Ratio n q - 52) (-1074)
    let (a, b) := if 0 ≤ e then (n, q * Nat.pow 2 e.toNat) else (n * Nat.pow 2 (-e).toNat, q)
    let m := a / b
    let r := a % b
    let m := if 2 * r > b || (2 * r = b && m % 2 = 1) then m + 1 else m
    encode neg m e

/-- The number nearest to `± m * 10^e`. -/
def ofDecimal (neg : Bool) (m : Nat) (e : Int) : Binary64 :=
  let (n, q) := scale10 m 1 e
  ofRatio neg n q

/-- The number nearest to an integer. -/
def ofInt (i : Int) : Binary64 := ofRatio (i < 0) i.natAbs 1

/-- Compares a number that is not `NaN` with an integer, exactly. -/
def compareInt (x : Binary64) (i : Int) : Ordering :=
  if x.isInfinite then (if x.negative then .lt else .gt)
  else
    let (n, q) := x.ratio
    let v : Int := if x.negative then -(n : Int) else n
    compare v (i * q)

/-- The integer part of a finite number, rounded toward zero. -/
def truncate (x : Binary64) : Int :=
  let (n, q) := x.ratio
  if x.negative then -((n / q : Nat) : Int) else ((n / q : Nat) : Int)

/-- `|x|` of a finite number that is not zero, to `k` significant digits, a half rounded up;
a carry may leave `k + 1` digits. -/
def roundDigits (x : Binary64) (k : Nat) : Decimal :=
  let (n, q) := x.ratio
  let s := (k : Int) - 1 - log10Ratio n q
  let (a, b) := scale10 n q s
  let t := a / b
  ⟨if 2 * (a % b) ≥ b then t + 1 else t, -s⟩

/-- Compares `c * 10^(-s)` with `l * 2^t`. -/
def compareScaled (c : Nat) (s : Int) (l : Nat) (t : Int) : Ordering :=
  let lhs := c * (if s < 0 then Nat.pow 10 (-s).toNat else 1) * (if t < 0 then Nat.pow 2 (-t).toNat else 1)
  let rhs := l * (if 0 < s then Nat.pow 10 s.toNat else 1) * (if 0 < t then Nat.pow 2 t.toNat else 1)
  compare lhs rhs

/-- Whether `c * 10^(-s)` reads back as the finite positive `x`: it lies strictly between the
midpoints to the neighbours of `x`, or on one when the significand is even. In units of
`2^(exponent - 2)` the midpoints are `4m ± 2`, the lower `4m - 1` where the spacing halves
below a power of two. -/
def readsBack (x : Binary64) (c : Nat) (s : Int) : Bool :=
  let m := x.significand
  let t := x.exponent - 2
  let low := if m = 0x10000000000000 && x.biased > 1 then 4 * m - 1 else 4 * m - 2
  match compareScaled c s low t, compareScaled c s (4 * m + 2) t with
  | .gt, .lt => true
  | .eq, _ => m % 2 = 0
  | _, .eq => m % 2 = 0
  | _, _ => false

/-- The candidates with `k` significant digits for the finite positive `x` that read back:
the two neighbours of `x` on that grid, the nearer first when both do. -/
def shortestAt (x : Binary64) (k : Nat) : Option Decimal :=
  let (n, q) := x.ratio
  let s := (k : Int) - 1 - log10Ratio n q
  let (a, b) := scale10 n q s
  let lo := a / b
  let frac := a % b
  let okLo := x.readsBack lo s
  let okHi := frac ≠ 0 && x.readsBack (lo + 1) s
  if okLo && okHi then
    some ⟨if 2 * frac < b || (2 * frac = b && lo % 2 = 0) then lo else lo + 1, -s⟩
  else if okLo then some ⟨lo, -s⟩
  else if okHi then some ⟨lo + 1, -s⟩
  else none

/-- The fewest significant digits that read back as the finite `|x|`, which is not zero;
seventeen always do. -/
def shortest (x : Binary64) : Decimal :=
  ((List.range 17).findSome? fun i => x.shortestAt (i + 1)).getD (x.roundDigits 17)

end Binary64

namespace Decimal

/-- Drops trailing zero digits, raising the exponent; `fuel` bounds the digits dropped. -/
def stripZeros : Nat → Decimal → Decimal
  | 0, d => d
  | fuel + 1, d =>
    if d.digits ≠ 0 && d.digits % 10 = 0 then stripZeros fuel ⟨d.digits / 10, d.exp + 1⟩ else d

/-- The same number without trailing zero digits. -/
def normalize (d : Decimal) : Decimal := stripZeros (digitCount d.digits) d

/-- The significant digits as text. -/
def digitText (d : Decimal) : String := String.ofList (Nat.toDigits 10 d.digits)

/-- How many digits stand before the decimal point: the exponent of the leading digit, plus
one. -/
def point (d : Decimal) : Int := d.exp + digitCount d.digits

end Decimal

/-- How a number is written as text. -/
structure Layout where
  /-- Significant digits, a half rounded up; none for the fewest that read back. -/
  digits : Option Nat
  /-- The least exponent of the leading digit written positionally. -/
  lowest : Int
  /-- The greatest exponent of the leading digit written positionally. -/
  highest : Int
  /-- Whether a number without fraction digits is written with `.0`. -/
  pointZero : Bool
  /-- The texts of infinity and of negative infinity. -/
  infinity : String
  negInfinity : String
  /-- The text of not a number. -/
  nan : String
  /-- The text of zero, and of negative zero. -/
  zero : String
  negZero : String

namespace Binary64

/-- A number as text: positional when the exponent of its leading digit is in the layout's
range, else a leading digit, the other digits after a point, and `e` with a signed exponent
of at least two digits. -/
def render (l : Layout) (x : Binary64) : String :=
  if x.isNaN then l.nan
  else if x.isInfinite then (if x.negative then l.negInfinity else l.infinity)
  else if x.isZero then (if x.negative then l.negZero else l.zero)
  else
    let d := (match l.digits with
      | some k => x.roundDigits k
      | none => x.shortest).normalize
    let ds := (d.digitText).toList
    let p := d.point
    let sign := if x.negative then "-" else ""
    let body :=
      if p - 1 < l.lowest || p - 1 > l.highest then
        let e := p - 1
        let ePart := String.ofList (Nat.toDigits 10 e.natAbs)
        let ePart := if ePart.length < 2 then "0" ++ ePart else ePart
        String.ofList (ds.take 1) ++
          (if ds.length > 1 then "." ++ String.ofList (ds.drop 1) else if l.pointZero then ".0" else "") ++
          "e" ++ (if e < 0 then "-" else "+") ++ ePart
      else if p ≤ 0 then
        "0." ++ String.ofList (List.replicate (-p).toNat '0') ++ String.ofList ds
      else if ds.length ≤ p.toNat then
        String.ofList ds ++ String.ofList (List.replicate (p.toNat - ds.length) '0') ++
          (if l.pointZero then ".0" else "")
      else String.ofList (ds.take p.toNat) ++ "." ++ String.ofList (ds.drop p.toNat)
    sign ++ body

end Binary64

end BillOfMaterials
