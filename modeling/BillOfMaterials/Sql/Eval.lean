import BillOfMaterials.Sql.Syntax
import BillOfMaterials.Sql.Format
import BillOfMaterials.Sql.Json
import BillOfMaterials.Sql.Calendar
import BillOfMaterials.Sql.Aggregate
import BillOfMaterials.Sql.Mathematics

/-!
# Evaluating SQL expressions

* `Scope`: the rows an expression reads, each a `Source` with its columns, and the values of
  the parameters;
* `Expr.affinity`, `Expr.collation`: what a comparison takes from its operands: a column lends
  its affinity and collation, `CAST` its type's affinity, `COLLATE` its collation;
* `arith`: the arithmetic of values: integers while they stay within 64 bits, reals
  otherwise, `NULL` for a division by zero; `compareValues`: a comparison after its affinity,
  under its collation;
* `callFunction`: the scalar functions. `LIKE` and `GLOB` find no match in a blob and none for
  a blob pattern. This library has no source of chance: `random()` is zero and
  `randomblob(n)` is `n` zero bytes;
* `Expr.eval`: the value of an expression, or a `Halt` (a failure or a `RAISE`);
* `Expr.problems`: what is wrong with an expression's names, in the order the database meets
  them; the database reports the last.
-/

namespace BillOfMaterials.Sql

/-- How a row lends its columns to expressions: a row of a table or view read by a query
lends affinity and collation, a trigger's `new` or `old` row collation only, and the row an
upsert did not insert neither. -/
inductive SourceKind where
  | table
  /-- A row of a view: a column lends the affinity of the expression it stands for, if any
  (its type is then that affinity's name), and its collation. -/
  | view
  | trigger
  | excluded
  deriving DecidableEq, Inhabited

/-- A row visible to expressions: the name it is reached by, its columns and values, its row
id if it has one, whether a column name alone reaches it, and how many queries out it belongs
to (zero for the query reading it). -/
structure Source where
  name : String
  columns : List Column
  values : List Value
  rowid : Option Int := none
  kind : SourceKind := .table
  bare : Bool := true
  level : Nat := 0
  /-- Columns a join on equal values left to the tables before: a name alone and `*` do not
  reach them here. -/
  merged : List String := []
  deriving Inhabited

/-- A row as a query inside the one reading it sees it: one level further out. -/
def Source.outward (s : Source) : Source := { s with level := s.level + 1 }

/-- Why evaluation stopped: a failure, or a `RAISE`. -/
inductive Halt where
  | error (e : SqlError)
  | raise (action : RaiseAction) (message : String)
  deriving Inhabited

/-- A part of a table's definition whose expressions must give the same value every time and
may hold no query: a `CHECK` constraint or a generated column. -/
inductive Fixed where
  | check
  | generated
  deriving DecidableEq, Inhabited

/-- A part of a table's definition as one, in failures: "a CHECK constraint". -/
def Fixed.one : Fixed → String
  | .check => "a CHECK constraint"
  | .generated => "a generated column"

/-- Parts of a table's definition of a kind, in failures: "CHECK constraints". -/
def Fixed.many : Fixed → String
  | .check => "CHECK constraints"
  | .generated => "generated columns"

/-- How the queries inside expressions run, given the rows outside them and the parameters:
their rows, and their columns once their names are checked. -/
structure Subqueries where
  rows : Select → List Source → List Value → Except Halt (List (List Value))
  columns : Select → List Source → List Value → Except SqlError (List Column)
  deriving Inhabited

/-- What an expression reads: rows, and parameters by position. -/
structure Scope where
  sources : List Source := []
  params : List Value := []
  /-- The part of a table's definition the expression belongs to, if any: there it must not
  read the clock, and holds no query. -/
  fixedIn : Option Fixed := none
  /-- How the queries in the expression run; none where no query may stand. -/
  queries : Option Subqueries := none
  /-- The rows of the group an aggregate query computes a row for, each with the rows outside
  it: what aggregate functions read. -/
  group : Option (List (List Source)) := none
  /-- Whether aggregate functions may stand here, as names are checked. -/
  aggregates : Bool := false
  deriving Inhabited

/-- The names that reach a row's id. -/
def isRowidName (n : String) : Bool := ["ROWID", "OID", "_ROWID_"].contains (upper n)

/-- A column reached in a row: the row, the column (none for the row id) and the value. -/
structure Cell where
  source : Source
  column : Option Column
  value : Value

/-- The cell a name reaches in a row, if any: a column of that name, else the row id. -/
def Source.cell? (s : Source) (n : String) : Option Cell :=
  match s.columns.findIdx? (sameName ·.name n) with
  | some i => some ⟨s, s.columns[i]?, s.values.getD i .null⟩
  | none =>
    match s.rowid with
    | some r => if isRowidName n then some ⟨s, none, .int r⟩ else none
    | none => none

/-- The cells of the innermost level that has any. -/
def innermost (cells : List Cell) : List Cell :=
  match (cells.map (·.source.level)).min? with
  | some lv => cells.filter (·.source.level == lv)
  | none => []

/-- The cell a reference reaches, in the innermost query that has one: by the row's name when
one is written, else in the rows a bare name reaches; two rows of a query with the column make
the name ambiguous. -/
def Scope.find (sc : Scope) (table : Option String) (n : String) : Except SqlError (Option Cell) :=
  match table with
  | some t => .ok (innermost (sc.sources.filterMap fun s => if sameName s.name t then s.cell? n else none)).head?
  | none =>
    match innermost ((sc.sources.filter fun s => s.bare && !s.merged.any (sameName · n)).filterMap (·.cell? n)) with
    | [] => .ok none
    | [c] => .ok (some c)
    | _ :: _ :: _ => .error (logicError ("ambiguous column name: " ++ n))

/-- The failure for a name no row has. -/
def noSuchColumn (table : Option String) (n : String) : SqlError :=
  logicError ("no such column: " ++ (match table with
    | some t => t ++ "." ++ n
    | none => n))

/-- The value of a reference: a cell, else for a quoted name its own text and for `TRUE` and
`FALSE` one and zero. -/
def Scope.reference (sc : Scope) (table : Option String) (n : String) (quoted : Bool) :
    Except SqlError Value := do
  match ← sc.find table n with
  | some c => pure c.value
  | none =>
    if table.isNone && quoted then pure (.text n)
    else if table.isNone && !quoted && upper n == "TRUE" then pure (.int 1)
    else if table.isNone && !quoted && upper n == "FALSE" then pure (.int 0)
    else throw (noSuchColumn table n)

/-! ## Affinity and collation of expressions -/

/-- The affinity an expression lends a comparison: a column of a row read by a query has its
column's, a row id is an integer, `CAST` has its type's, `COLLATE` its operand's. -/
def Expr.affinity (sc : Scope) : Expr → Option Affinity
  | .column t n _ =>
    match sc.find t n with
    | .ok (some c) =>
      match c.column with
      | some col =>
        match c.source.kind with
        | .table => some col.affinity
        | .view => if col.type.isEmpty then none else some col.affinity
        | _ => none
      | none => if c.source.kind == .excluded then none else some .integer
    | _ => none
  | .cast _ ty => some (affinityOf (upper ty))
  | .collate e _ => e.affinity sc
  | .subquery q =>
    match sc.queries with
    | some qs =>
      match qs.columns q sc.sources sc.params with
      | .ok (c :: _) => if c.type.isEmpty then none else some c.affinity
      | _ => none
    | none => none
  | _ => none

mutual

/-- Whether an expression has a `COLLATE` in it. -/
def Expr.hasCollate : Expr → Bool
  | .collate .. => true
  | .literal _ | .param _ | .column .. | .raise .. | .subquery _ | .exists _ => false
  | .neg e | .pos e | .bitNot e | .not e | .isNull e _ | .cast e _ | .inQuery e _ _ => e.hasCollate
  | .arith _ a b | .cmp _ a b | .and a b | .or a b => a.hasCollate || b.hasCollate
  | .call _ args _ => anyCollate args
  | .between e lo hi _ => e.hasCollate || lo.hasCollate || hi.hasCollate
  | .inList e items _ => e.hasCollate || anyCollate items
  | .like _ e p esc _ => e.hasCollate || p.hasCollate || maybeCollate esc
  | .case s arms o => maybeCollate s || armsCollate arms || maybeCollate o

/-- Whether an expression of a list has a `COLLATE` in it. -/
def anyCollate : List Expr → Bool
  | [] => false
  | e :: es => e.hasCollate || anyCollate es

/-- Whether the arms of a `CASE` have a `COLLATE` in them. -/
def armsCollate : List (Expr × Expr) → Bool
  | [] => false
  | (w, t) :: rest => w.hasCollate || t.hasCollate || armsCollate rest

/-- Whether an optional expression has a `COLLATE` in it. -/
def maybeCollate : Option Expr → Bool
  | some e => e.hasCollate
  | none => false

end

/-- The first expression of a list with a `COLLATE` in it. -/
def firstCollating : List Expr → Option Expr
  | [] => none
  | e :: es => if e.hasCollate then some e else firstCollating es

/-- The operands of an expression as its collation is sought among them: the left operand,
the right operand, and the listed ones (arguments, `IN` items, `BETWEEN` bounds, `CASE`
arms). -/
def Expr.parts : Expr → Option Expr × Option Expr × List Expr
  | .neg e | .bitNot e | .not e | .isNull e _ | .inQuery e _ _ => (some e, none, [])
  | .arith _ a b | .cmp _ a b | .and a b | .or a b => (some a, some b, [])
  | .call _ args _ => (none, none, args)
  | .between e lo hi _ => (some e, none, [lo, hi])
  | .inList e items _ => (some e, none, items)
  | .like _ e p esc _ => (none, none, [p, e] ++ esc.toList)
  | .case s arms o => (s, none, arms.flatMap (fun (w, t) => [w, t]) ++ o.toList)
  | _ => (none, none, [])

/-- The collation of an expression, if it has one: `COLLATE` names it, a column of a table or
trigger row has its column's; through `CAST` and unary plus, and into the operand that holds
a `COLLATE`, the left one first. `fuel` bounds the depth. -/
def Expr.collationFuel (sc : Scope) : Nat → Expr → Option Collation
  | 0, _ => none
  | fuel + 1, e =>
    match e with
    | .collate _ n => Collation.ofName? n
    | .column t n _ =>
      match sc.find t n with
      | .ok (some c) =>
        match c.column with
        | some col => if c.source.kind == .excluded then none else some col.collation
        | none => none
      | _ => none
    | .cast x _ | .pos x => x.collationFuel sc fuel
    | _ =>
      if !e.hasCollate then none
      else
        let (left, right, list) := e.parts
        match left with
        | some l =>
          if l.hasCollate then l.collationFuel sc fuel
          else
            match firstCollating list, right with
            | some x, _ => x.collationFuel sc fuel
            | none, some r => r.collationFuel sc fuel
            | none, none => none
        | none =>
          match firstCollating list, right with
          | some x, _ => x.collationFuel sc fuel
          | none, some r => r.collationFuel sc fuel
          | none, none => none

mutual

/-- The number of nodes of an expression, which bounds the depth of the search for its
collation. -/
def Expr.depth : Expr → Nat
  | .literal _ | .param _ | .column .. | .raise .. | .subquery _ | .exists _ => 1
  | .neg e | .pos e | .bitNot e | .not e | .isNull e _ | .cast e _ | .collate e _ | .inQuery e _ _ =>
    e.depth + 1
  | .arith _ a b | .cmp _ a b | .and a b | .or a b => a.depth + b.depth + 1
  | .call _ args _ => depthAll args + 1
  | .between e lo hi _ => e.depth + lo.depth + hi.depth + 1
  | .inList e items _ => e.depth + depthAll items + 1
  | .like _ e p esc _ => e.depth + p.depth + depthMaybe esc + 1
  | .case s arms o => depthMaybe s + depthArms arms + depthMaybe o + 1

/-- The nodes of a list of expressions. -/
def depthAll : List Expr → Nat
  | [] => 0
  | e :: es => e.depth + depthAll es

/-- The nodes of the arms of a `CASE`. -/
def depthArms : List (Expr × Expr) → Nat
  | [] => 0
  | (w, t) :: rest => w.depth + t.depth + depthArms rest

/-- The nodes of an optional expression. -/
def depthMaybe : Option Expr → Nat
  | some e => e.depth
  | none => 0

end

/-- The collation of an expression, if it has one. -/
def Expr.collation (sc : Scope) (e : Expr) : Option Collation := e.collationFuel sc (e.depth + 1)

/-- The collation a comparison of two operands uses: the one named by a `COLLATE` in the left
operand, else in the right; else the left operand's, else the right's; else byte order. -/
def compareCollation (sc : Scope) (a b : Expr) : Collation :=
  let c := if a.hasCollate then a.collation sc
    else if b.hasCollate then b.collation sc
    else (a.collation sc).orElse fun _ => b.collation sc
  c.getD .binary

/-! ## Operators -/

/-- An integer as its 64 bits. -/
def bitsOf (n : Int) : UInt64 := UInt64.ofInt n

/-- 64 bits as a signed integer. -/
def signedOf (u : UInt64) : Int :=
  if u.toNat ≥ 0x8000000000000000 then (u.toNat : Int) - 0x10000000000000000 else u.toNat

/-- The bitwise operators on the integers of two values; a shift by a negative amount shifts
the other way, by 64 or more it leaves nothing but the sign. -/
def bitwise (op : ArithOp) (a b : Int) : Int :=
  match op with
  | .bitAnd => signedOf (bitsOf a &&& bitsOf b)
  | .bitOr => signedOf (bitsOf a ||| bitsOf b)
  | _ =>
    if b = 0 then a
    else
      let left := (op == .shl) != (b < 0)
      let n := b.natAbs
      if n ≥ 64 then (if a ≥ 0 || left then 0 else -1)
      else if left then signedOf (bitsOf a <<< n.toUInt64)
      else a / (Nat.pow 2 n : Int)

/-- Real arithmetic on the values read as reals; a division by zero and a result that is not a
number are `NULL`. The remainder is taken of the integers. -/
def realArith (op : ArithOp) (x y : Value) : Value :=
  let a := x.toReal.toFloat
  let b := y.toReal.toFloat
  let r : Option Float := match op with
    | .add => some (a + b)
    | .sub => some (a - b)
    | .mul => some (a * b)
    | .div => if b == 0 then none else some (a / b)
    | _ =>
      let i := x.toInt
      let j := y.toInt
      if j = 0 then none
      else some (Binary64.ofInt (i.tmod (if j = -1 then 1 else j))).toFloat
  match r with
  | some f => if f.isNaN then .null else .real (Binary64.ofFloat f)
  | none => .null

/-- The arithmetic of two values. `||` joins their texts. The bitwise operators work on their
integers. The others work on integers when both values are or read as integers and the result
stays within 64 bits (a division truncates, and by zero is `NULL`), else on reals. `NULL`
gives `NULL`. -/
def arith (op : ArithOp) (x y : Value) : Value :=
  if x.isNull || y.isNull then .null
  else
    match op with
    | .concat =>
      match x.textForm, y.textForm with
      | some a, some b => .text (a ++ b)
      | _, _ => .null
    | .bitAnd | .bitOr | .shl | .shr => .int (bitwise op x.toInt y.toInt)
    | _ =>
      match x.numeric, y.numeric with
      | .int i, .int j =>
        let r : Option (Option Int) := match op with
          | .add => some (some (i + j))
          | .sub => some (some (i - j))
          | .mul => some (some (i * j))
          | .div => if j = 0 then some none else if j = -1 && i = minInt then none else some (some (i.tdiv j))
          | _ => if j = 0 then some none else some (some (i.tmod (if j = -1 then 1 else j)))
        match r with
        | some (some n) => if fits n then .int n else realArith op x y
        | some none => .null
        | none => realArith op x y
      | _, _ => realArith op x y

/-- The result of a comparison under an affinity and a collation: `NULL` when an operand is
`NULL`, except for `IS` and `IS NOT`, for which `NULL` equals only `NULL`. -/
def compareValues (op : CmpOp) (aff : Option Affinity) (coll : Collation) (x y : Value) : Value :=
  if x.isNull || y.isNull then
    match op with
    | .is => ofBool (x.isNull && y.isNull)
    | .isNot => ofBool !(x.isNull && y.isNull)
    | _ => .null
  else
    let (x, y) := Value.forComparison aff x y
    let o := x.compareWith coll y
    ofBool (match op with
      | .lt => o == .lt
      | .le => o != .gt
      | .gt => o == .gt
      | .ge => o != .lt
      | .eq | .is => o == .eq
      | .ne | .isNot => o != .eq)

/-- A value under `NOT`. -/
def notValue (v : Value) : Value :=
  match v.truth? with
  | some b => ofBool !b
  | none => .null

/-- A text or blob read as a number the way `CAST … AS NUMERIC` reads it: an integer when it
reads as one (or as nothing better) and fits, or when it is a real equal to a small integer;
else a real. -/
def numerify (v : Value) : Value :=
  match v with
  | .text _ | .blob _ =>
    let s := v.textForm.getD ""
    let (r, code) := readReal s
    let (i, ic) := readInt s
    if (code = 0 || code = 1) && ic ≤ 1 then .int i
    else
      let j := realToInt r
      if realSameAsInt r j then .int j else .real r
  | _ => v

/-- A value cast to a type: to the type's affinity, texts becoming blobs of their bytes, blobs
texts, and numbers converted as `CAST` converts them. -/
def castTo (type : String) (v : Value) : Value :=
  match v with
  | .null => .null
  | _ =>
    match affinityOf (upper type) with
    | .blob => match v with
      | .blob bs => .blob bs
      | _ => .blob (Text.Utf8.bytes (v.textForm.getD ""))
    | .text => .text (v.textForm.getD "")
    | .numeric => numerify v
    | .integer => .int v.toInt
    | .real => .real v.toReal

/-! ## Patterns -/

/-- Whether a text matches a `LIKE` pattern: `%` matches any run, `_` any one character, the
escape character makes the next one plain, and ASCII letters match either case. `fuel` bounds
the work. -/
def likeMatch (esc : Option Char) : Nat → List Char → List Char → Bool
  | 0, _, _ => false
  | _, [], s => s.isEmpty
  | fuel + 1, p :: ps, s =>
    if some p = esc then
      match ps, s with
      | q :: qs, c :: cs => (foldAscii q == foldAscii c) && likeMatch esc fuel qs cs
      | _, _ => false
    else if p = '%' then
      (List.range (s.length + 1)).any fun i => likeMatch esc fuel ps (s.drop i)
    else
      match s with
      | c :: cs => (p = '_' || foldAscii p == foldAscii c) && likeMatch esc fuel ps cs
      | [] => false
where
  foldAscii (c : Char) : Char := if 'A' ≤ c && c ≤ 'Z' then Char.ofNat (c.toNat + 32) else c

/-- The characters of a `GLOB` set after its `[`: whether `c` is in it, and the pattern after
its `]`; `none` when it does not close. -/
def globSet (c : Char) (ps : List Char) : Option (Bool × List Char) :=
  let (invert, ps) := match ps with
    | '^' :: rest => (true, rest)
    | _ => (false, ps)
  let (seenFirst, ps) := match ps with
    | ']' :: rest => (c == ']', rest)
    | _ => (false, ps)
  let body := ps.takeWhile (· ≠ ']')
  let after := ps.drop body.length
  match after with
  | [] => none
  | _ :: rest =>
    let rec scan : List Char → Bool
      | a :: '-' :: b :: more => (a ≤ c && c ≤ b) || scan more
      | a :: more => a = c || scan more
      | [] => false
    some ((seenFirst || scan body) != invert, rest)

/-- Whether a text matches a `GLOB` pattern: `*` matches any run, `?` any one character,
`[…]` one of a set, letters in their case. -/
def globMatch : Nat → List Char → List Char → Bool
  | 0, _, _ => false
  | _, [], s => s.isEmpty
  | fuel + 1, p :: ps, s =>
    if p = '*' then (List.range (s.length + 1)).any fun i => globMatch fuel ps (s.drop i)
    else
      match s with
      | [] => false
      | c :: cs =>
        if p = '?' then globMatch fuel ps cs
        else if p = '[' then
          match globSet c ps with
          | some (true, rest) => globMatch fuel rest cs
          | _ => false
        else p = c && globMatch fuel ps cs

/-! ## Functions -/

/-- The number of arguments a function takes, if the function is known. -/
def arityOk (fn : String) (n : Nat) : Option Bool :=
  match lower fn with
  | "length" | "typeof" | "lower" | "upper" | "abs" | "hex" | "quote" | "unicode" | "sign"
  | "likely" | "unlikely" | "octet_length" | "zeroblob" | "soundex" | "randomblob" => some (n == 1)
  | "random" | "sqlite_version" => some (n == 0)
  | "unhex" => some (n == 1 || n == 2)
  | "match" => some (n == 2)
  | "coalesce" | "concat_ws" => some (n ≥ 2)
  | "ifnull" | "nullif" | "instr" | "likelihood" | "glob" => some (n == 2)
  | "iif" | "replace" => some (n == 3)
  | "substr" | "substring" | "like" => some (n == 2 || n == 3)
  | "trim" | "ltrim" | "rtrim" | "round" => some (n == 1 || n == 2)
  | "min" | "max" | "concat" => some (n ≥ 1)
  | "count" => some (n ≤ 1)
  | "sum" | "total" | "avg" => some (n == 1)
  | "group_concat" => some (n == 1 || n == 2)
  | "string_agg" => some (n == 2)
  | "char" | "printf" | "format" => some true
  | "current_timestamp" | "current_date" | "current_time" => some (n == 0)
  | f =>
    if isCalendarFunction f then some true
    else match mathArity f n with
      | some ok => some ok
      | none => jsonArity f n

/-- The hex digits of bytes, in upper case. -/
def hexText (bs : List UInt8) : String :=
  let digit (n : Nat) : Char := if n < 10 then Char.ofNat (48 + n) else Char.ofNat (55 + n)
  String.ofList (bs.flatMap fun b => [digit (b.toNat / 16), digit (b.toNat % 16)])

/-- The bytes that a text of hex digits stands for, two digits a byte in either case, the
characters of `pass` skipped between pairs; `none` when another character stands in it or a
digit has no partner. The text ends at its first `NUL`. -/
def unhexChars (pass : List Char) : List Char → Option (List UInt8)
  | [] => some []
  | c :: rest =>
    if c = '\x00' then some []
    else if c.isHexDigit then
      match rest with
      | d :: more =>
        if d.isHexDigit then (unhexChars pass more).map ((16 * hexValue c + hexValue d).toUInt8 :: ·)
        else none
      | [] => none
    else if pass.contains c then unhexChars pass rest
    else none
where
  hexValue (c : Char) : Nat :=
    if c.isDigit then c.toNat - 48 else if c ≤ 'F' then c.toNat - 55 else c.toNat - 87

/-- The Soundex digit of a letter: zero for vowels, `H`, `W`, `Y` and anything that is not a
letter. A byte above ASCII is read without its high bit. -/
def soundexDigit (b : UInt8) : Nat :=
  let c := (b &&& 0x7F).toNat
  let c := if 0x61 ≤ c && c ≤ 0x7A then c - 32 else c
  if c < 0x41 || c > 0x5A then 0
  else ("01230120022455012623010202".toList.getD (c - 0x41) '0').toNat - 48

/-- The Soundex code of a text: its first ASCII letter in upper case, then the digits of the
letters from there on, a digit written again only after a vowel or another digit, up to three
digits padded with zeros; `?000` when the text has no ASCII letter. -/
def soundex (bs : List UInt8) : String :=
  let isLetter (b : UInt8) : Bool := (0x41 ≤ b && b ≤ 0x5A) || (0x61 ≤ b && b ≤ 0x7A)
  match (bs.takeWhile (· != 0)).dropWhile (!isLetter ·) with
  | [] => "?000"
  | first :: rest =>
    let step (acc : List Nat × Nat) (b : UInt8) : List Nat × Nat :=
      if acc.1.length ≥ 3 then acc
      else
        let code := soundexDigit b
        if code == 0 then (acc.1, 0)
        else if code == acc.2 then acc
        else (acc.1 ++ [code], code)
    let digits := (rest.foldl step ([], soundexDigit first)).1
    let lead := if 0x61 ≤ first then first - 32 else first
    String.ofList (Char.ofNat lead.toNat ::
      (digits ++ List.replicate (3 - digits.length) 0).map fun d => Char.ofNat (48 + d))

/-- `substr`: `len` characters (bytes of a blob) from position `start`, counted from one, from
the end when negative; a negative length takes the characters before the position. -/
def substring (v : Value) (start : Int) (len : Option Int) : Value :=
  let (items, isBlob) : List (List UInt8) × Bool := match v with
    | .blob bs => (bs.map ([·]), true)
    | _ => ((v.textForm.getD "").toList.map fun c => Text.Utf8.bytes (String.singleton c), false)
  let size : Int := items.length
  let (p2, negLen) : Int × Bool := match len with
    | some l => if l < 0 then (-l, true) else (l, false)
    | none => (1000000000, false)
  let (p1, p2) : Int × Int :=
    if start < 0 then
      let p1 := start + size
      if p1 < 0 then (0, p2 + p1) else (p1, p2)
    else if start > 0 then (start - 1, p2)
    else (0, if p2 > 0 then p2 - 1 else p2)
  let (p1, p2) := if negLen then
      let q := p1 - p2
      if q < 0 then (0, p2 + q) else (q, p2)
    else (p1, p2)
  let taken := (items.drop p1.toNat).take p2.toNat
  if isBlob then .blob taken.flatten else .text (Text.Utf8.lossy taken.flatten)

/-- Trims the characters of `set` from the ends of a text: the start when `front`, the end
when `back`. -/
def trimText (front back : Bool) (set : List Char) (s : String) : String :=
  let cs := s.toList
  let cs := if front then cs.dropWhile set.contains else cs
  let cs := if back then (cs.reverse.dropWhile set.contains).reverse else cs
  String.ofList cs

/-- Where `needle` first occurs in `hay`, counted from one; zero when it does not. -/
def position {α : Type} [BEq α] (hay needle : List α) : Nat :=
  match (List.range (hay.length + 1)).find? fun i => (hay.drop i).take needle.length == needle with
  | some i => if i + needle.length ≤ hay.length then i + 1 else 0
  | none => 0

/-- Replaces every occurrence of a nonempty `pat` in `s` by `rep`; `fuel` bounds the steps. -/
def replaceAll : Nat → List Char → List Char → List Char → List Char
  | 0, _, _, s => s
  | _, _, _, [] => []
  | fuel + 1, pat, rep, c :: cs =>
    if (c :: cs).take pat.length == pat then rep ++ replaceAll fuel pat rep ((c :: cs).drop pat.length)
    else c :: replaceAll fuel pat rep cs

/-- A value as a quoted literal. A real is written with fifteen digits when they read back as
the same number, else with all the digits the formatter finds (`%!0.20e`). -/
def quoteValue : Value → String
  | .null => "NULL"
  | .int n => toString n
  | .real x =>
    let t := realText x
    if (readReal t).1.toFloat == x.toFloat then t
    else (formatText "%!0.20e" [.real x]).getD t
  | .text s => "\x27" ++ String.ofList (s.toList.flatMap fun c => if c = '\x27' then [c, c] else [c]) ++ "\x27"
  | .blob bs => "X\x27" ++ hexText bs ++ "\x27"

/-- `round`: a real to `digits` places after the point, a half away from zero. -/
def roundReal (x : Binary64) (digits : Int) : Binary64 :=
  let r := x.toFloat
  if r < -4503599627370496.0 || r > 4503599627370496.0 || x.isNaN then x
  else if digits ≤ 0 then
    Binary64.ofInt (Binary64.ofFloat (if r < 0 then r - 0.5 else r + 0.5)).truncate
  else
    let (n, q) := x.ratio
    let (a, b) := scale10 n q digits
    let t := a / b + (if 2 * (a % b) ≥ b then 1 else 0)
    Binary64.ofDecimal x.negative t (-digits)

/-- Calls a function on values; `coll` is the collation its comparisons use. -/
def callFunction (fn : String) (args : List Value) (coll : Collation) : Except SqlError Value :=
  let arg (i : Nat) : Value := args.getD i .null
  let text (i : Nat) : Option String := (arg i).textForm
  let anyNull := args.any (·.isNull)
  match lower fn with
  | "length" =>
    pure (match arg 0 with
      | .null => .null
      | .text s => .int (s.toList.takeWhile (· ≠ '\x00')).length
      | .blob bs => .int bs.length
      | v => .int (v.textForm.getD "").utf8ByteSize)
  | "octet_length" =>
    pure (match (arg 0).byteForm with
      | some bs => .int bs.length
      | none => .null)
  | "typeof" => pure (.text (arg 0).typeName)
  | "lower" => pure ((text 0).map (Value.text ∘ lower) |>.getD .null)
  | "upper" => pure ((text 0).map (Value.text ∘ upper) |>.getD .null)
  | "abs" =>
    match arg 0 with
    | .null => pure .null
    | .int n =>
      if n = minInt then throw (logicError "integer overflow") else pure (.int n.natAbs)
    | v => pure (.real (let x := v.toReal; if x.negative then x.neg else x))
  | "coalesce" | "ifnull" => pure ((args.find? (!·.isNull)).getD .null)
  | "nullif" => pure (if (arg 0).compareWith coll (arg 1) != .eq then arg 0 else .null)
  | "iif" => pure (if (arg 0).truth? == some true then arg 1 else arg 2)
  | "likely" | "unlikely" | "likelihood" => pure (arg 0)
  | "substr" | "substring" =>
    if anyNull then pure .null
    else pure (substring (arg 0) (arg 1).toInt (if args.length > 2 then some (arg 2).toInt else none))
  | "trim" | "ltrim" | "rtrim" =>
    match text 0, (if args.length > 1 then text 1 else some " ") with
    | some s, some set =>
      let f := lower fn
      pure (.text (trimText (f != "rtrim") (f != "ltrim") set.toList s))
    | _, _ => pure .null
  | "replace" =>
    match text 0, text 1, text 2 with
    | some s, some pat, some rep =>
      if pat.isEmpty then pure (arg 0)
      else pure (.text (String.ofList (replaceAll (s.length + 1) pat.toList rep.toList s.toList)))
    | _, _, _ => pure .null
  | "instr" =>
    if anyNull then pure .null
    else match arg 0, arg 1 with
      | .blob a, .blob b => pure (.int (position a b))
      | x, y => pure (.int (position (x.textForm.getD "").toList (y.textForm.getD "").toList))
  | "hex" => pure (.text (hexText ((arg 0).byteForm.getD [])))
  | "quote" => pure (.text (quoteValue (arg 0)))
  | "unicode" =>
    pure (match (text 0).bind (·.toList.head?) with
      | some c => .int c.toNat
      | none => .null)
  | "char" =>
    pure (.text (String.ofList (args.map fun v =>
      let n := v.toInt
      if n < 0 || n > 0x10FFFF then Char.ofNat 0xFFFD else Char.ofNat n.toNat)))
  | "sign" =>
    pure (match (arg 0).numeric with
      | .int n => .int (if n > 0 then 1 else if n < 0 then -1 else 0)
      | .real x => if x.isNaN then .null else .int (if x.isZero then 0 else if x.negative then -1 else 1)
      | _ => .null)
  | "zeroblob" => pure (.blob (List.replicate (arg 0).toInt.toNat 0))
  | "min" | "max" =>
    if args.length < 2 then throw (logicError ("misuse of aggregate function " ++ fn ++ "()"))
    else if anyNull then pure .null
    else
      let better (a b : Value) : Bool :=
        if lower fn == "min" then b.compareWith coll a == .lt else b.compareWith coll a == .gt
      pure (args.foldl (fun a b => if better a b then b else a) (arg 0))
  | "concat" => pure (.text (String.join (args.map fun v => v.textForm.getD "")))
  | "concat_ws" =>
    match arg 0 with
    | .null => pure .null
    | sep => pure (.text ((sep.textForm.getD "").intercalate
        ((args.drop 1).filterMap (·.textForm))))
  | "round" =>
    if anyNull then pure .null
    else pure (.real (roundReal (arg 0).toReal (if args.length > 1 then max 0 (min 30 (arg 1).toInt) else 0)))
  | "printf" | "format" =>
    match args with
    | f :: rest =>
      match f.textForm with
      | some f => pure ((formatText f rest).map Value.text |>.getD .null)
      | none => pure .null
    | [] => pure .null
  | "like" | "glob" =>
    -- a blob matches no pattern and is no pattern
    if (arg 0).isBlob || (arg 1).isBlob then pure (.int 0)
    else do
      let esc : Option (Option Char) ← if args.length > 2 then
          match text 2 with
          | some e =>
            match e.toList with
            | [c] => pure (some (some c))
            | _ => throw (logicError "ESCAPE expression must be a single character")
          | none => pure none
        else pure (some none)
      match esc, text 0, text 1 with
      | some esc, some p, some s =>
        let fuel := p.length * (s.length + 1) + 1
        if lower fn == "glob" then pure (ofBool (globMatch fuel p.toList s.toList))
        else pure (ofBool (likeMatch esc fuel p.toList s.toList))
      | _, _, _ => pure .null
  | "unhex" =>
    match text 0, (if args.length > 1 then text 1 else some "") with
    | some h, some pass => pure (((unhexChars pass.toList h.toList).map Value.blob).getD .null)
    | _, _ => pure .null
  | "soundex" => pure (.text (soundex ((arg 0).byteForm.getD [])))
  | "random" => pure (.int 0)
  | "randomblob" =>
    let n := (arg 0).toInt
    pure (.blob (List.replicate (if n < 1 then 1 else n.toNat) 0))
  | "sqlite_version" => pure (.text "3.46.1")
  | "match" => throw (logicError "unable to use function MATCH in the requested context")
  | f =>
    match mathFunction f args with
    | some v => pure v
    | none => throw (logicError ("no such function: " ++ fn))

/-! ## Evaluation -/

/-- The failure of an aggregate function where none may stand. -/
def misuseOfAggregate (fn : String) : SqlError := logicError ("misuse of aggregate function " ++ fn ++ "()")

/-- Whether a value is among values, under an affinity and a collation: `NULL` when it is not
found but `NULL` is among them or is the value, false among none. -/
def membership (aff : Option Affinity) (coll : Collation) (x : Value) (vs : List Value) (negated : Bool) :
    Value :=
  let found := vs.any fun v => (compareValues .eq aff coll x v).truth? == some true
  let result :=
    if vs.isEmpty then ofBool false
    else if found then ofBool true
    else if x.isNull || vs.any (·.isNull) then .null
    else ofBool false
  if negated then notValue result else result

/-- The rows of a query inside an expression, over the scope's rows. -/
def Scope.runQuery (sc : Scope) (q : Select) : Except Halt (List (List Value)) :=
  match sc.queries with
  | some qs => qs.rows q sc.sources sc.params
  | none => .error (.error (logicError ("subqueries prohibited in " ++ ((sc.fixedIn.map (·.many)).getD "this place"))))

/-- The columns of a query inside an expression, when its names are right. -/
def Scope.queryColumns (sc : Scope) (q : Select) : Option (List Column) :=
  sc.queries.bind fun qs => (qs.columns q sc.sources sc.params).toOption

/-- The problems of a query inside an expression: its own, then a number of columns other than
the one expected, if one is. -/
def Scope.queryProblems (sc : Scope) (q : Select) (expected : Option Nat) : List SqlError :=
  match sc.queries with
  | none => [logicError ("subqueries prohibited in " ++ ((sc.fixedIn.map (·.many)).getD "CHECK constraints"))]
  | some qs =>
    match qs.columns q sc.sources sc.params, expected with
    | .error e, _ => [e]
    | .ok cols, some n =>
      if cols.length != n then
        [logicError ("sub-select returns " ++ toString cols.length ++ " columns - expected " ++ toString n)]
      else []
    | .ok _, none => []

/-- Whether an expression is a call whose text is marked as JSON. -/
def Expr.marksJson : Expr → Bool
  | .call fn _ _ => Sql.marksJson (lower fn)
  | _ => false

/-- The collation a function call compares with: that of its first argument with one. -/
def argsCollation (sc : Scope) (args : List Expr) : Collation :=
  (args.findSome? (·.collation sc)).getD .binary

mutual

/-- The value of an expression over a scope. `AND` and `OR` skip their right operand when the
left decides; `CASE` evaluates only the arm it takes. -/
def Expr.eval (sc : Scope) : Expr → Except Halt Value
  | .literal v => .ok v
  | .param i => .ok (sc.params.getD i .null)
  | .column t n q => (sc.reference t n q).mapError .error
  | .neg e => do pure (arith .sub (.int 0) (← e.eval sc))
  | .pos e => e.eval sc
  | .bitNot e => do
    let v ← e.eval sc
    pure (if v.isNull then .null else .int (signedOf (~~~ (bitsOf v.toInt))))
  | .not e => do pure (notValue (← e.eval sc))
  | .arith op a b => do
    let x ← a.eval sc
    let y ← b.eval sc
    pure (arith op x y)
  | .cmp op a b => do
    let x ← a.eval sc
    let y ← b.eval sc
    pure (compareValues op (comparisonAffinity (a.affinity sc) (b.affinity sc))
      (compareCollation sc a b) x y)
  | .and a b => do
    let x ← a.eval sc
    if x.truth? == some false then pure (ofBool false)
    else
      let y ← b.eval sc
      pure (match x.truth?, y.truth? with
        | _, some false => ofBool false
        | some true, some true => ofBool true
        | _, _ => .null)
  | .or a b => do
    let x ← a.eval sc
    if x.truth? == some true then pure (ofBool true)
    else
      let y ← b.eval sc
      pure (match x.truth?, y.truth? with
        | _, some true => ofBool true
        | some false, some false => ofBool false
        | _, _ => .null)
  | .isNull e negated => do
    let v ← e.eval sc
    pure (ofBool (v.isNull != negated))
  | .collate e _ => e.eval sc
  | .cast e ty => do pure (castTo ty (← e.eval sc))
  | .call fn args distinct => do
    if isAggregate fn args.length then
      match sc.group with
      | some rows =>
        let vals ← rows.mapM fun srcs => evalAll { sc with sources := srcs, group := none } args
        return ← (aggregate fn distinct (argsCollation sc args) vals).mapError .error
      | none => throw (.error (misuseOfAggregate fn))
    let vs ← evalAll sc args
    match jsonFunction (lower fn) vs (args.map Expr.marksJson) with
    | some r => r.mapError .error
    | none =>
      match calendarFunction (lower fn) vs, sc.fixedIn with
      | some (true, _), some place =>
        throw (.error (logicError ("non-deterministic use of " ++ lower fn ++ "() in " ++ place.one)))
      | some (_, v), _ => pure v
      | none, _ => (callFunction fn vs (argsCollation sc args)).mapError .error
  | .between e lo hi negated => do
    let x ← e.eval sc
    let l ← lo.eval sc
    let h ← hi.eval sc
    let ge := compareValues .ge (comparisonAffinity (e.affinity sc) (lo.affinity sc))
      (compareCollation sc e lo) x l
    let le := compareValues .le (comparisonAffinity (e.affinity sc) (hi.affinity sc))
      (compareCollation sc e hi) x h
    let both := match ge.truth?, le.truth? with
      | some false, _ | _, some false => ofBool false
      | some true, some true => ofBool true
      | _, _ => .null
    pure (if negated then notValue both else both)
  | .inList e items negated => do
    let x ← e.eval sc
    let vs ← evalAll sc items
    pure (membership (comparisonAffinity (e.affinity sc) none) ((e.collation sc).getD .binary) x vs negated)
  | .like glob e p esc negated => do
    let x ← e.eval sc
    let pv ← p.eval sc
    let ev ← evalMaybe sc esc
    let args := [pv, x] ++ ev.toList
    let r ← (callFunction (if glob then "glob" else "like") args .binary).mapError .error
    pure (if negated then notValue r else r)
  | .case subject arms other => do
    let s ← evalMaybe sc subject
    match ← evalArms sc subject s arms with
    | some v => pure v
    | none => pure ((← evalMaybe sc other).getD .null)
  | .raise act msg => .error (.raise act msg)
  | .subquery q => do
    let rows ← sc.runQuery q
    pure ((rows.head?.bind (·.head?)).getD .null)
  | .exists q => do pure (ofBool !(← sc.runQuery q).isEmpty)
  | .inQuery e q negated => do
    let x ← e.eval sc
    let rows ← sc.runQuery q
    let col := (sc.queryColumns q).bind (·.head?)
    let colAffinity := col.bind fun c => if c.type.isEmpty then none else some c.affinity
    let coll := (e.collation sc).getD ((col.map (·.collation)).getD .binary)
    pure (membership (comparisonAffinity (e.affinity sc) colAffinity) coll x (rows.map (·.headD .null)) negated)

/-- The values of expressions, left to right. -/
def evalAll (sc : Scope) : List Expr → Except Halt (List Value)
  | [] => .ok []
  | e :: es => do
    let v ← e.eval sc
    let vs ← evalAll sc es
    pure (v :: vs)

/-- The value of an optional expression. -/
def evalMaybe (sc : Scope) : Option Expr → Except Halt (Option Value)
  | some e => do pure (some (← e.eval sc))
  | none => .ok none

/-- The arms of a `CASE`: the first whose condition holds, or whose value equals the subject,
gives the result; none when no arm is taken. -/
def evalArms (sc : Scope) (subject : Option Expr) (s : Option Value) :
    List (Expr × Expr) → Except Halt (Option Value)
  | [] => .ok none
  | (w, t) :: rest => do
    let c ← w.eval sc
    let hit := match subject, s with
      | some se, some sv =>
        (compareValues .eq (comparisonAffinity (se.affinity sc) (w.affinity sc))
          (compareCollation sc se w) sv c).truth? == some true
      | _, _ => c.truth? == some true
    if hit then do pure (some (← t.eval sc)) else evalArms sc subject s rest

end

/-! ## Checking names -/

mutual

/-- What is wrong with the names of an expression over a scope, node before operands: unknown
columns, functions and collations, a function given the wrong number of arguments, and a
`RAISE` where no trigger runs. -/
def Expr.problems (sc : Scope) (inTrigger : Bool) : Expr → List SqlError
  | .literal _ | .param _ => []
  | .column t n q =>
    match sc.find t n with
    | .error e => [e]
    | .ok (some _) => []
    | .ok none =>
      if t.isNone && (q || upper n == "TRUE" || upper n == "FALSE") then [] else [noSuchColumn t n]
  | .neg e | .pos e | .bitNot e | .not e | .isNull e _ | .cast e _ => e.problems sc inTrigger
  | .collate e c =>
    (if (Collation.ofName? c).isNone then [logicError ("no such collation sequence: " ++ c)] else []) ++
      e.problems sc inTrigger
  | .arith _ a b | .cmp _ a b | .and a b | .or a b => a.problems sc inTrigger ++ b.problems sc inTrigger
  | .call fn args _ =>
    let agg := isAggregate fn args.length
    (match arityOk fn args.length with
      | none => [logicError ("no such function: " ++ fn)]
      | some false => [logicError ("wrong number of arguments to function " ++ fn ++ "()")]
      | some true => if agg && !sc.aggregates then [misuseOfAggregate fn] else []) ++
      allProblems (if agg then { sc with aggregates := false } else sc) inTrigger args
  | .between e lo hi _ => e.problems sc inTrigger ++ lo.problems sc inTrigger ++ hi.problems sc inTrigger
  | .inList e items _ => e.problems sc inTrigger ++ allProblems sc inTrigger items
  | .like _ e p esc _ => p.problems sc inTrigger ++ e.problems sc inTrigger ++ maybeProblems sc inTrigger esc
  | .case s arms o => maybeProblems sc inTrigger s ++ armsProblems sc inTrigger arms ++ maybeProblems sc inTrigger o
  | .raise .. => if inTrigger then [] else [logicError "RAISE() may only be used within a trigger-program"]
  | .subquery q => sc.queryProblems q (some 1)
  | .exists q => sc.queryProblems q none
  | .inQuery e q _ => e.problems sc inTrigger ++ sc.queryProblems q (some 1)

/-- The problems of expressions, left to right. -/
def allProblems (sc : Scope) (inTrigger : Bool) : List Expr → List SqlError
  | [] => []
  | e :: es => e.problems sc inTrigger ++ allProblems sc inTrigger es

/-- The problems of an optional expression. -/
def maybeProblems (sc : Scope) (inTrigger : Bool) : Option Expr → List SqlError
  | some e => e.problems sc inTrigger
  | none => []

/-- The problems of the arms of a `CASE`. -/
def armsProblems (sc : Scope) (inTrigger : Bool) : List (Expr × Expr) → List SqlError
  | [] => []
  | (w, t) :: rest => w.problems sc inTrigger ++ t.problems sc inTrigger ++ armsProblems sc inTrigger rest

end

/-- Checks the names of an expression: the last problem met is the failure. -/
def Expr.check (sc : Scope) (inTrigger : Bool) (e : Expr) : Except SqlError Unit :=
  match (e.problems sc inTrigger).getLast? with
  | some p => .error p
  | none => .ok ()

end BillOfMaterials.Sql
