import BillOfMaterials.Sql.Value

/-!
# Formatting values as text

`formatText f args` is the text the `printf` and `format` functions make from a format and
values, byte by byte as the database does it.

* A conversion is `%`, flags (`-` left, `+` or a blank before positive numbers, `#`
  alternate form, `!` characters rather than bytes and more digits, `0` zero padding, `,`
  thousands), a width and a precision, each a number or `*` for the next argument, any `l`
  length letters, and a letter;
* `d i u o x X p r` read an integer, `f e E g G` a real, `s z q Q w c` a text; `%%` is a
  percent sign and `n` writes nothing. Another letter, or a format ending inside a conversion,
  ends the output there; a missing argument reads as zero or as no text;
* reals are written from at most sixteen significant digits (26 with `!`), a half rounded up,
  with `Inf`, `NaN`, and for zero padding `null` and a run of nines for infinity.
-/

namespace BillOfMaterials.Sql

/-- A character of the formatter's alphabet as its byte. -/
def byteOf (c : Char) : UInt8 := c.toNat.toUInt8

/-- The bytes of a text of single-byte characters. -/
def asciiBytes (s : String) : List UInt8 := s.toList.map byteOf

/-- The flags, width and precision of a conversion. -/
structure Spec where
  left : Bool := false
  sign : Option UInt8 := none
  alternate : Bool := false
  characters : Bool := false
  zeroPad : Bool := false
  thousands : Bool := false
  width : Nat := 0
  precision : Option Nat := none
  deriving Inhabited

/-- The next argument as an integer, zero when none is left. -/
def takeInt : List Value → Int × List Value
  | [] => (0, [])
  | v :: rest => (v.toInt, rest)

/-- The next argument as a real, zero when none is left. -/
def takeReal : List Value → Binary64 × List Value
  | [] => (Binary64.zero, [])
  | v :: rest => (v.toReal, rest)

/-- The next argument's text as bytes: none for `NULL` or when no argument is left. -/
def takeText : List Value → Option (List UInt8) × List Value
  | [] => (none, [])
  | v :: rest => (v.textForm.map Text.Utf8.bytes, rest)

/-- A 64-bit integer cut to its low 32 bits, as a signed number. -/
def toInt32 (n : Int) : Int :=
  let m := n % 4294967296
  if m ≥ 2147483648 then m - 4294967296 else m

/-- The value of a run of decimal digit bytes. -/
def digitsValue (ds : List UInt8) : Nat := ds.foldl (fun v b => v * 10 + (b - byteOf '0').toNat) 0

/-- Whether a byte is a decimal digit. -/
def isDigitByte (b : UInt8) : Bool := byteOf '0' ≤ b && b ≤ byteOf '9'

/-- Reads the flags, width and precision after a `%` up to the conversion letter: the letter
(none when the format ends first), the spec, the rest of the format and the arguments left.
`fuel` bounds the bytes read. -/
def readSpec : Nat → Spec → List UInt8 → List Value → Option UInt8 × Spec × List UInt8 × List Value
  | 0, spec, rest, args => (none, spec, rest, args)
  | _ + 1, spec, [], args => (none, spec, [], args)
  | fuel + 1, spec, c :: rest, args =>
    if c == byteOf '-' then readSpec fuel { spec with left := true } rest args
    else if c == byteOf '+' then readSpec fuel { spec with sign := some (byteOf '+') } rest args
    else if c == byteOf ' ' then readSpec fuel { spec with sign := some (byteOf ' ') } rest args
    else if c == byteOf '#' then readSpec fuel { spec with alternate := true } rest args
    else if c == byteOf '!' then readSpec fuel { spec with characters := true } rest args
    else if c == byteOf '0' then readSpec fuel { spec with zeroPad := true } rest args
    else if c == byteOf ',' then readSpec fuel { spec with thousands := true } rest args
    else if c == byteOf 'l' then
      match rest with
      | l :: after => if l == byteOf 'l' then (after.head?, spec, after.drop 1, args)
        else (some l, spec, after, args)
      | [] => (none, spec, [], args)
    else if isDigitByte c then
      let ds := (c :: rest).takeWhile isDigitByte
      let after := (c :: rest).dropWhile isDigitByte
      let spec := { spec with width := digitsValue ds % 2147483648 }
      match after with
      | n :: more =>
        if n == byteOf '.' || n == byteOf 'l' then readSpec fuel spec after args
        else (some n, spec, more, args)
      | [] => (none, spec, [], args)
    else if c == byteOf '*' then
      let (w, args) := takeInt args
      let w := toInt32 w
      let spec := if w < 0 then { spec with left := true, width := if w ≥ -2147483647 then w.natAbs else 0 }
        else { spec with width := w.toNat }
      match rest with
      | n :: more =>
        if n == byteOf '.' || n == byteOf 'l' then readSpec fuel spec rest args
        else (some n, spec, more, args)
      | [] => (none, spec, [], args)
    else if c == byteOf '.' then
      let (spec, after, args) := match rest with
        | s :: more =>
          if s == byteOf '*' then
            let (p, args) := takeInt args
            let p := toInt32 p
            ({ spec with precision := if p ≥ 0 then some p.toNat
                else if p ≥ -2147483647 then some p.natAbs else none }, more, args)
          else
            ({ spec with precision := some (digitsValue ((s :: more).takeWhile isDigitByte) % 2147483648) },
              (s :: more).dropWhile isDigitByte, args)
        | [] => ({ spec with precision := some 0 }, [], args)
      match after with
      | n :: more =>
        if n == byteOf 'l' then readSpec fuel spec after args else (some n, spec, more, args)
      | [] => (none, spec, [], args)
    else (some c, spec, rest, args)

/-- The digits of a natural, most significant first. -/
def digitsOf (v : Nat) : List Nat := (Nat.toDigits 10 v).map fun c => c.toNat - '0'.toNat

/-- Digits without the zeros that end them. -/
def dropTrailingZeros (ds : List Nat) : List Nat := (ds.reverse.dropWhile (· == 0)).reverse

/-- The digits the formatter reads a finite positive `n / q` as, whose leading digit has
`point - 1` as its power of ten: the integer part of the number scaled to nineteen digits, or to
eighteen when nineteen would pass `2^63 - 1024`. -/
def rawDigits (n q : Nat) (point : Int) : List Nat :=
  let (a, b) := scale10 n q (19 - point)
  let v := a / b
  if v ≤ 9223372036854774784 then digitsOf v
  else
    let (a, b) := scale10 n q (18 - point)
    digitsOf (a / b)

/-- The significant digits of a finite number and the number of them before the decimal point,
as the formatter takes them. With `round > 0`, that many digits but at most `most`, a half
rounded up; when the number's own digits (`rawDigits`) are no more than `round` and `most`
they are kept as they are. With `round ≤ 0`, the digits reach `-round` places after the point:
a first digit of five or more at the place after the last rounds up to a one there, fewer
digits are left alone. Trailing zeros are dropped; zero is the digit `0` with the point after
it. -/
def decodeDigits (x : Binary64) (round : Int) (most : Nat) : List Nat × Int :=
  if x.isZero then ([0], 1)
  else
    let (n, q) := x.ratio
    let point := log10Ratio n q + 1
    let raw := rawDigits n q point
    let round := if round ≤ 0 then point + round.natAbs else round
    if round ≤ 0 then
      if round == 0 && raw.headD 0 ≥ 5 then ([1], point + 1)
      else (dropTrailingZeros raw, point)
    else if round.toNat ≥ raw.length && raw.length ≤ most then (dropTrailingZeros raw, point)
    else
      let d := (x.roundDigits (min round.toNat most)).normalize
      (digitsOf d.digits, d.point)

/-- Groups digits by threes from the right with commas. -/
def groupThousands (ds : List UInt8) : List UInt8 :=
  let n := ds.length
  (ds.zipIdx.flatMap fun (d, i) =>
    if i > 0 && (n - i) % 3 == 0 then [byteOf ',', d] else [d])

/-- The bytes of a digit. -/
def digitByte (d : Nat) : UInt8 := (d + '0'.toNat).toUInt8

/-- The text of an integer under `d i u o x X p r`: signed for `d i r`, else its 64 bits read
without sign; at least `precision` digits, zero padded to the width under `0`, grouped under
`,`, the sign before, and `0`, `0x` or `0X` before that under `#`; `r` adds `st`, `nd`, `rd`
or `th`. -/
def integerText (spec : Spec) (conv : Char) (v : Int) : List UInt8 :=
  let signed := conv == 'd' || conv == 'i' || conv == 'r'
  let (mag, sign) : Nat × Option UInt8 :=
    if signed then (if v < 0 then (v.natAbs, some (byteOf '-')) else (v.toNat, spec.sign))
    else ((v % 18446744073709551616).toNat, none)
  let base := if conv == 'o' then 8 else if conv == 'x' || conv == 'X' || conv == 'p' then 16 else 10
  let digits := (Nat.toDigits base mag).map fun c => byteOf (if conv == 'X' then c.toUpper else c)
  let digits := if conv == 'r' then
      let x := mag % 10
      let suffix := if x ≥ 4 || (mag / 10) % 10 == 1 then "th"
        else if x == 1 then "st" else if x == 2 then "nd" else if x == 3 then "rd" else "th"
      digits ++ asciiBytes suffix
    else digits
  let signWidth := if sign.isSome then 1 else 0
  let precision : Nat := match spec.precision with
    | some p => if spec.zeroPad && p + signWidth < spec.width then spec.width - signWidth else p
    | none => if spec.zeroPad && signWidth < spec.width then spec.width - signWidth else 0
  let digits := List.replicate (precision - digits.length) (byteOf '0') ++ digits
  let digits := if spec.thousands then groupThousands digits else digits
  let lead := if spec.alternate && mag != 0 then
      (if conv == 'o' then "0" else if conv == 'x' || conv == 'p' then "0x" else if conv == 'X' then "0X" else "")
    else ""
  asciiBytes lead ++ sign.toList ++ digits

/-- The text of a real under `f e E g G`. `f` writes `precision` places after the point, `e` one
digit before it and `precision` after with an exponent, `g` `precision` significant digits in
whichever of the two fits the exponent, trailing zeros dropped but under `#`. -/
def realText' (spec : Spec) (conv : Char) (x : Binary64) : List UInt8 :=
  let generic := conv == 'g' || conv == 'G'
  let precision := spec.precision.getD 6
  let precision := if generic && precision == 0 then 1 else precision
  let round : Int := if conv == 'f' then -(precision : Int)
    else if generic then precision else precision + 1
  if x.isNaN then asciiBytes (if spec.zeroPad then "null" else "NaN")
  else if x.isInfinite && !spec.zeroPad then
    if x.negative then asciiBytes "-Inf" else spec.sign.toList ++ asciiBytes "Inf"
  else
    let (digits, point) := if x.isInfinite then ([9], 1000)
      else decodeDigits x round (if spec.characters then 26 else 16)
    let sign : Option UInt8 := if x.negative && !x.isZero then some (byteOf '-') else spec.sign
    let exp := point - 1
    let precision : Nat := if generic && precision > 0 then precision - 1 else precision
    let (expForm, precision, trim) : Bool × Nat × Bool :=
      if generic then
        if exp < -4 || exp > precision then (true, precision, !spec.alternate)
        else (false, (precision - exp).toNat, !spec.alternate)
      else (conv == 'e' || conv == 'E', precision, spec.characters)
    let e2 : Int := if expForm then 0 else point - 1
    let dot := precision > 0 || spec.alternate || spec.characters
    let (whole, rest) : List UInt8 × List Nat :=
      if e2 < 0 then ([byteOf '0'], digits)
      else
        (List.range (e2.toNat + 1)).reverse.foldl (fun (acc : List UInt8 × List Nat) pos =>
          let d := acc.2.headD 0
          let out := acc.1 ++ [digitByte d] ++
            (if spec.thousands && pos % 3 == 0 && pos > 1 then [byteOf ','] else [])
          (out, acc.2.drop 1)) ([], digits)
    let zeros := if e2 < 0 then min (e2 + 1).natAbs precision else 0
    let places := precision - zeros
    let frac := (List.range places).map fun i => digitByte (rest.getD i 0)
    let body := whole ++ (if dot then [byteOf '.'] else []) ++ List.replicate zeros (byteOf '0') ++ frac
    let body :=
      if trim && dot then
        let kept := (body.reverse.dropWhile (· == byteOf '0')).reverse
        if kept.getLast? == some (byteOf '.') then
          (if spec.characters then kept ++ [byteOf '0'] else kept.dropLast)
        else kept
      else body
    let body := if expForm then
        let e := point - 1
        let mark := byteOf (if conv == 'E' || conv == 'G' then 'E' else 'e')
        let eDigits := (Nat.toDigits 10 e.natAbs).map byteOf
        let eDigits := if eDigits.length < 2 then byteOf '0' :: eDigits else eDigits
        body ++ [mark, byteOf (if e < 0 then '-' else '+')] ++ eDigits
      else body
    let out := sign.toList ++ body
    if spec.zeroPad && !spec.left && out.length < spec.width then
      sign.toList ++ List.replicate (spec.width - out.length) (byteOf '0') ++ body
    else out

/-- The bytes of a text cut to a precision: bytes, or characters under `!`. -/
def cutText (characters : Bool) (precision : Option Nat) (bs : List UInt8) : List UInt8 :=
  match precision with
  | none => bs
  | some p =>
    if characters then
      let starts := bs.zipIdx.filter fun (b, _) => b &&& 0xC0 != 0x80
      match starts[p]? with
      | some (_, i) => bs.take i
      | none => bs
    else bs.take p

/-- The continuation bytes of UTF-8 characters among bytes. -/
def continuations (bs : List UInt8) : Nat := (bs.filter fun b => b &&& 0xC0 == 0x80).length

/-- Pads a conversion's text to the width with blanks, on the left or under `-` on the right;
`extra` widens it by bytes that do not count as characters. -/
def pad (spec : Spec) (extra : Nat) (bs : List UInt8) : List UInt8 :=
  let width := spec.width + extra
  if bs.length < width then
    let blanks := List.replicate (width - bs.length) (byteOf ' ')
    if spec.left then bs ++ blanks else blanks ++ bs
  else bs

/-- The longest text a value may have. -/
def maxLength : Nat := 1000000000

/-- What a conversion does: write bytes and leave arguments, end the output, or ask for more
room than a text may have. -/
inductive Piece where
  | write (bs : List UInt8) (args : List Value)
  | stop
  | tooBig

/-- What one conversion writes, and the arguments it leaves. -/
def convert (spec : Spec) (conv : Char) (args : List Value) : Piece :=
  if spec.width ≥ maxLength || spec.precision.getD 0 ≥ maxLength then .tooBig
  else if conv == '%' then .write (pad spec 0 [byteOf '%']) args
  else if conv == 'n' then .write [] args
  else if ['d', 'i', 'u', 'o', 'x', 'X', 'p', 'r'].contains conv then
    let (v, args) := takeInt args
    .write (pad spec 0 (integerText spec conv v)) args
  else if ['f', 'e', 'E', 'g', 'G'].contains conv then
    let (x, args) := takeReal args
    .write (pad spec 0 (realText' spec conv x)) args
  else if conv == 's' || conv == 'z' then
    let (t, args) := takeText args
    let out := cutText spec.characters spec.precision (t.getD [])
    .write (pad spec (if spec.characters && spec.width > 0 then continuations out else 0) out) args
  else if conv == 'q' || conv == 'Q' || conv == 'w' then
    let (t, args) := takeText args
    let quote := byteOf (if conv == 'w' then '"' else '\x27')
    let text := t.getD (asciiBytes (if conv == 'Q' then "NULL" else "(NULL)"))
    let text := cutText spec.characters spec.precision text
    let escaped := text.flatMap fun b => if b == quote then [b, b] else [b]
    let out := if t.isSome && conv == 'Q' then quote :: escaped ++ [quote] else escaped
    .write (pad spec (if spec.characters && spec.width > 0 then continuations out else 0) out) args
  else if conv == 'c' then
    let (t, args) := takeText args
    let ch := match t with
      | some (b :: rest) =>
        if b &&& 0xC0 == 0xC0 then b :: (rest.takeWhile (· &&& 0xC0 == 0x80)).take 3 else [b]
      | _ => [0]
    let copies := max (spec.precision.getD 1) 1
    let out := (List.replicate copies ch).flatten
    let blanks := List.replicate (spec.width - copies) (byteOf ' ')
    .write (if spec.left then out ++ blanks else blanks ++ out) args
  else .stop

/-- Writes a format, a conversion at a time; none when the text would be too long. `fuel`
bounds the steps. -/
def formatLoop : Nat → List UInt8 → List Value → List UInt8 → Option (List UInt8)
  | 0, _, _, out => some out
  | _ + 1, [], _, out => some out
  | fuel + 1, c :: rest, args, out =>
    if c != byteOf '%' then formatLoop fuel rest args (out ++ [c])
    else if rest.isEmpty then some (out ++ [byteOf '%'])
    else
      match readSpec (rest.length + 1) {} rest args with
      | (some conv, spec, rest, args) =>
        match convert spec (Char.ofNat conv.toNat) args with
        | .write piece args =>
          if out.length + piece.length ≥ maxLength then none else formatLoop fuel rest args (out ++ piece)
        | .stop => some out
        | .tooBig => none
      | (none, _, _, _) => some out

/-- The text `printf` makes of a format and values; none (a `NULL`) when it would be longer
than a text may be. -/
def formatText (f : String) (args : List Value) : Option String :=
  let bs := Text.Utf8.bytes f
  (formatLoop (bs.length + 1) bs args []).map Text.Utf8.lossy

end BillOfMaterials.Sql
