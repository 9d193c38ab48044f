import BillOfMaterials.Sql.Value

/-!
# Aggregate functions

An aggregate query computes one value for each group of rows from the values an argument takes
on its rows:

* `count` the rows (`count(*)`) or the values that are not `NULL`;
* `sum`, `total` and `avg` add the values as numbers: `sum` stays an integer while every value
  is one and the total fits in 64 bits (beyond, it fails with `integer overflow`), else it adds
  reals with a compensation for the digits lost at each step (`SumState`); `total` is always a
  real, `avg` the real mean;
* `min` and `max` the least and greatest value that is not `NULL`, under the argument's
  collation, the first of equals kept;
* `group_concat` and `string_agg` the texts of the values that are not `NULL`, each after the
  separator its own row gives (a comma when none is given).

`DISTINCT` keeps the first of the values equal under the collation.
-/

namespace BillOfMaterials.Sql

/-- Whether a function of `n` arguments is an aggregate. -/
def isAggregate (fn : String) (n : Nat) : Bool :=
  match lower fn with
  | "count" => n ≤ 1
  | "sum" | "total" | "avg" | "min" | "max" => n == 1
  | "group_concat" => n == 1 || n == 2
  | "string_agg" => n == 2
  | _ => false

/-- The values of a list that are not `NULL`, each kept once: the first of those equal under
the collation. -/
def distinctValues (coll : Collation) : List Value → List Value
  | [] => []
  | v :: vs =>
    let rest := distinctValues coll (vs.filter fun w => v.compareWith coll w != .eq)
    if v.isNull then distinctValues coll vs else v :: rest
termination_by vs => vs.length
decreasing_by
  all_goals simp_wf
  all_goals
    have := List.length_filter_le (fun w => v.compareWith coll w != .eq) vs
    omega

/-- A running sum: the integer total while every value is an integer and the total fits, else
a real total with the error of its rounding (the compensation of Kahan, Babuška and Neumaier);
how many values were added, and whether an integer total overflowed. -/
structure SumState where
  count : Nat := 0
  exact : Bool := true
  total : Int := 0
  sum : Float := 0
  error : Float := 0
  overflow : Bool := false

/-- The magnitude from which an integer is added to a real total in two parts, so that no digit
of it is lost: two to the 52nd. -/
def splitFrom : Int := 4503599627370496

/-- Adds a real to a real total, carrying the rounding error. -/
def SumState.addReal (s : SumState) (r : Float) : SumState :=
  let t := s.sum + r
  let e := if s.sum.abs > r.abs then (s.sum - t) + r else (r - t) + s.sum
  { s with sum := t, error := s.error + e }

/-- Adds an integer to a real total: a large one as a multiple of 16384 and the rest. -/
def SumState.addInt (s : SumState) (i : Int) : SumState :=
  if i ≤ -splitFrom || i ≥ splitFrom then
    let small := i.tmod 16384
    (s.addReal (Float.ofInt (i - small))).addReal (Float.ofInt small)
  else s.addReal (Float.ofInt i)

/-- A real total starting from an integer total. -/
def SumState.toReal (s : SumState) : SumState :=
  if s.total ≤ -splitFrom || s.total ≥ splitFrom then
    let small := s.total.tmod 16384
    { s with exact := false, sum := Float.ofInt (s.total - small), error := Float.ofInt small }
  else { s with exact := false, sum := Float.ofInt s.total, error := 0 }

/-- Adds a value: `NULL` is skipped; an integer is added exactly while it can be; anything
else is added as a real. -/
def SumState.add (s : SumState) (v : Value) : SumState :=
  match v.withAffinity .numeric with
  | .null => s
  | .int i =>
    let s := { s with count := s.count + 1 }
    if s.exact then
      if fits (s.total + i) then { s with total := s.total + i }
      else { s.toReal with overflow := true }.addInt i
    else s.addInt i
  | w =>
    let s := { s with count := s.count + 1 }
    let r := w.toReal.toFloat
    if s.exact then s.toReal.addReal r else s.addReal r

/-- The real total, with its error added unless the error is not finite. -/
def SumState.real (s : SumState) : Float :=
  if s.exact then Float.ofInt s.total
  else if s.error.isNaN || s.error.isInf then s.sum else s.sum + s.error

/-- A real as a value. -/
def realValue (f : Float) : Value := .real (Binary64.ofFloat f)

/-- The least or greatest value that is not `NULL`, the first of equals kept; with the
position of the row it came from. -/
def extreme (greatest : Bool) (coll : Collation) (vs : List Value) : Option (Value × Nat) :=
  vs.zipIdx.foldl (fun best (v, i) =>
    if v.isNull then best
    else match best with
      | none => some (v, i)
      | some (b, j) =>
        let o := b.compareWith coll v
        if (greatest && o == .lt) || (!greatest && o == .gt) then some (v, i) else some (b, j)) none

/-- Joins the texts of values that are not `NULL`, each after its separator but the first. -/
def concatValues (pairs : List (Value × Value)) : Value :=
  let parts := pairs.filterMap fun (v, sep) => v.textForm.map fun t => (t, (sep.textForm.getD ""))
  match parts with
  | [] => .null
  | (t, _) :: rest => .text (rest.foldl (fun acc (u, sep) => acc ++ sep ++ u) t)

/-- The value of an aggregate over the argument values of a group's rows; `coll` is the
collation of the first argument. -/
def aggregate (fn : String) (distinct : Bool) (coll : Collation) (rows : List (List Value)) :
    Except SqlError Value :=
  let firsts := rows.map (·.headD .null)
  let xs := if distinct then distinctValues coll firsts else firsts
  match lower fn with
  | "count" =>
    if rows.all (·.isEmpty) then .ok (.int rows.length)
    else .ok (.int (xs.filter (!·.isNull)).length)
  | "sum" =>
    let s := xs.foldl SumState.add {}
    if s.count == 0 then .ok .null
    else if s.exact then .ok (.int s.total)
    else if s.overflow then .error (logicError "integer overflow")
    else .ok (realValue s.real)
  | "total" => .ok (realValue (xs.foldl SumState.add {}).real)
  | "avg" =>
    let s := xs.foldl SumState.add {}
    if s.count == 0 then .ok .null else .ok (realValue (s.real / Float.ofNat s.count))
  | "min" => .ok (((extreme false coll xs).map (·.1)).getD .null)
  | "max" => .ok (((extreme true coll xs).map (·.1)).getD .null)
  | _ =>
    let seps := rows.map fun r => if r.length > 1 then r.getD 1 .null else .text ","
    if distinct then .ok (concatValues (xs.map fun v => (v, .text ",")))
    else .ok (concatValues (firsts.zip seps))

end BillOfMaterials.Sql
