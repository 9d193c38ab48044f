import BillOfMaterials.Sql.Value

/-!
# Mathematical functions

The database's mathematical functions read each argument as a number: a text that reads as one
counts, any other text, a blob or `NULL` makes the answer `NULL`. They answer a real, and a
result that is not a number is `NULL`:

* `ceil`, `ceiling`, `floor` and `trunc` keep an integer as it is and make a real integral;
* `ln`, `log10`, `log2` and `log` (of one argument in base ten, of two with the base first)
  are `NULL` for an argument that is not above zero and for a base that is not above one;
* `exp`, `sqrt`, `pow` (`power`), `atan2`, the circular and hyperbolic functions and their
  inverses, `radians`, `degrees` and `pi` are those of the binary64 library;
* `mod` is the remainder with the sign of the dividend, computed exactly (`remainder`).

`mathFunction` answers for these names and leaves every other name alone.
-/

namespace BillOfMaterials.Sql

/-- A value as the mathematical functions read it: a text that reads as a number is that
number, anything else stays as it is. -/
def numericArgument : Value → Value
  | .text s => numericText false s
  | v => v

/-- The real that an argument stands for, when it reads as a number. -/
def realArgument (v : Value) : Option Float :=
  match numericArgument v with
  | .int n => some (Binary64.ofInt n).toFloat
  | .real x => some x.toFloat
  | _ => none

/-- A real answer; one that is not a number is `NULL`. -/
def realAnswer (f : Float) : Value := if f.isNaN then .null else .real (Binary64.ofFloat f)

/-- The double nearest to π. -/
def piValue : Float := Float.ofBits 0x400921FB54442D18

/-- A quiet not-a-number. -/
def notANumber : Float := Float.ofBits 0x7FF8000000000000

/-- The remainder of `x / y` with the sign of `x`: `x - k * y` for the integer `k` that the
quotient truncates to. It is computed on exact ratios, and is exact, since such a remainder is
always a double. It is not a number when `y` is zero or `x` is infinite, and is `x` itself when
only `y` is infinite. -/
def remainder (x y : Binary64) : Float :=
  if x.isNaN || y.isNaN || x.isInfinite || y.isZero then notANumber
  else if y.isInfinite then x.toFloat
  else
    let (nx, qx) := x.ratio
    let (ny, qy) := y.ratio
    let k := (nx * qy) / (qx * ny)
    (Binary64.ofRatio x.negative (nx * qy - k * ny * qx) (qx * qy)).toFloat

/-- The rounding functions, by name. -/
def roundingMath? : String → Option (Float → Float)
  | "ceil" | "ceiling" => some Float.ceil
  | "floor" => some Float.floor
  | "trunc" => some fun x => if x < 0 then Float.ceil x else Float.floor x
  | _ => none

/-- The functions of one real, by name. -/
def unaryMath? : String → Option (Float → Float)
  | "exp" => some Float.exp
  | "sqrt" => some Float.sqrt
  | "sin" => some Float.sin
  | "cos" => some Float.cos
  | "tan" => some Float.tan
  | "asin" => some Float.asin
  | "acos" => some Float.acos
  | "atan" => some Float.atan
  | "sinh" => some Float.sinh
  | "cosh" => some Float.cosh
  | "tanh" => some Float.tanh
  | "asinh" => some Float.asinh
  | "acosh" => some Float.acosh
  | "atanh" => some Float.atanh
  | "radians" => some fun x => x * (piValue / 180)
  | "degrees" => some fun x => x * (180 / piValue)
  | _ => none

/-- The logarithms of one argument: `ln`, `log2`, and `log10` or `log` in base ten. `NULL` for
an argument that is not a number above zero. -/
def logarithm (fn : String) (v : Value) : Value :=
  match realArgument v with
  | some x =>
    if x ≤ 0 then .null
    else realAnswer (match fn with
      | "ln" => Float.log x
      | "log2" => Float.log2 x
      | _ => Float.log10 x)
  | none => .null

/-- `log(b, x)`: the logarithm of `x` in base `b`; `NULL` unless `b` is a number above one and
`x` reads as one above zero. -/
def logarithmIn (b x : Value) : Value :=
  match realArgument b with
  | some b =>
    let lb := Float.log b
    let x := x.toReal.toFloat
    if b ≤ 0 || lb ≤ 0 || x ≤ 0 then .null else realAnswer (Float.log x / lb)
  | none => .null

/-- A function of two reals over two arguments that must both read as numbers. -/
def binaryMath (f : Float → Float → Float) (a b : Value) : Value :=
  match realArgument a, realArgument b with
  | some x, some y => realAnswer (f x y)
  | _, _ => .null

/-- The value of a mathematical function of a (lower case) name over its arguments; `none`
for any other name. -/
def mathFunction (fn : String) (args : List Value) : Option Value :=
  let arg (i : Nat) : Value := args.getD i .null
  match roundingMath? fn, unaryMath? fn with
  | some f, _ =>
    some (match numericArgument (arg 0) with
      | .int n => .int n
      | .real x => realAnswer (f x.toFloat)
      | _ => .null)
  | none, some f => some (((realArgument (arg 0)).map fun x => realAnswer (f x)).getD .null)
  | none, none =>
    match fn with
    | "pi" => some (realAnswer piValue)
    | "ln" | "log2" | "log10" => some (logarithm fn (arg 0))
    | "log" => some (if args.length == 2 then logarithmIn (arg 0) (arg 1) else logarithm fn (arg 0))
    | "pow" | "power" => some (binaryMath Float.pow (arg 0) (arg 1))
    | "atan2" => some (binaryMath Float.atan2 (arg 0) (arg 1))
    | "mod" =>
      some (binaryMath (fun x y => remainder (Binary64.ofFloat x) (Binary64.ofFloat y)) (arg 0) (arg 1))
    | _ => none

/-- The number of arguments a mathematical function takes, for the names it has. -/
def mathArity (fn : String) (n : Nat) : Option Bool :=
  match roundingMath? fn, unaryMath? fn with
  | some _, _ | none, some _ => some (n == 1)
  | none, none =>
    match fn with
    | "pi" => some (n == 0)
    | "ln" | "log2" | "log10" => some (n == 1)
    | "log" => some (n == 1 || n == 2)
    | "pow" | "power" | "atan2" | "mod" => some (n == 2)
    | _ => none

end BillOfMaterials.Sql
