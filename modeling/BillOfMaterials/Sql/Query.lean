import BillOfMaterials.Sql.Tables

/-!
# Queries

`Database.selectRows` answers the columns and rows of a query over a scope of outer rows. A
select reads the rows of its tables (joined in order: each pair of rows meeting the join's
condition, with the rows of an outer join that meet none), keeps those its filter holds of, and
makes a row of values of each. An aggregate query (one with `GROUP BY`, or an aggregate among its
items) makes a row of each group instead: the groups in order of their keys, each read through
the row its last `min` or `max` took its value from (the last row when all are `NULL`), else
its first row. `DISTINCT` keeps the first of
equal rows; `ORDER BY` sorts stably (`NULL` first when ascending), by result columns named by
alias or position or by expressions over the rows; `LIMIT` and `OFFSET` cut.

A compound query joins the rows of its sides: `UNION ALL` keeps all, the others keep distinct
rows in order. A query named by `WITH` is read where it is named, like a view; one that reads
itself in the last select of a `UNION` is recursive: its first select's rows, then the rows the
last select adds from those added last, until it adds none.

The names of a select are checked before any row is read: the tables, the items, `HAVING`, the
filter with the join conditions, `ORDER BY`, `GROUP BY`. A query inside an expression runs
through the `Subqueries` of its scope, which `subqueriesOf` makes from the query runner.
-/

namespace BillOfMaterials.Sql

/-- A named query in reach, as `WITH` binds it: a query with the names of its columns if given,
or the rows a recursive query added last. -/
inductive Bound where
  | query (columns : Option (List String)) (q : Select)
  | rows (columns : List Column) (rows : List (List Value))
  deriving Inhabited

/-- How a query runs: whether a missing table it names is written with its schema (in the
queries of views and triggers), whether it only checks names and reads no row, whether a
trigger runs it, and the named queries in reach, innermost first. -/
structure QueryMode where
  qualify : Bool := false
  probe : Bool := false
  inTrigger : Bool := false
  ctes : List (String × Bound) := []
  deriving Inhabited

/-- The failure for a table no name reaches. -/
def noSuchTable (qualify : Bool) (n : String) : SqlError :=
  logicError ("no such table: " ++ (if qualify then "main." else "") ++ n)

/-- What a query reads other queries through: their columns and rows, by how they run, the
views and named queries being read, and the scope of outer rows. -/
abbrev Inner := QueryMode → List String → Select → Scope → Except Halt (List Column × List (List Value))

/-- The queries inside expressions, run through `inner`: their rows, and their columns once
their names are checked. The rows outside a query are a level further out for it. -/
def subqueriesOf (inner : Inner) (mode : QueryMode) (reading : List String) : Subqueries where
  rows q srcs ps := do
    let (_, rows) ← inner { mode with probe := false } reading q { sources := srcs.map (·.outward), params := ps }
    pure rows
  columns q srcs ps :=
    match inner { mode with probe := true } reading q { sources := srcs.map (·.outward), params := ps } with
    | .ok (cols, _) => .ok cols
    | .error h => .error h.toError

/-! ## Items -/

/-- The columns a `SELECT` item makes, `own` being the rows of the select's own tables: each
column of them, or its alias, else the column it names, else the text it was written as, with
the affinity and collation of its expression. -/
def resultColumns (sc : Scope) (own : List Source) : SelectItem → List Column
  | .star => own.flatMap fun s => (s.columns.filter fun c => !s.merged.any (sameName · c.name))
  | .tableStar t => ((own.find? (sameName ·.name t)).map (·.columns)).getD []
  | .expr e asName text =>
    let n := match asName, e with
      | some a, _ => a
      | none, .column _ c _ => c
      | none, _ => text
    [{ name := n, type := typeOfAffinity (e.affinity sc), collation := (e.collation sc).getD .binary }]

/-- The values a `SELECT` item gives for a row. -/
def itemValues (sc : Scope) (own : List Source) : SelectItem → Except Halt (List Value)
  | .star => .ok (own.flatMap fun s =>
    ((s.columns.zip s.values).filter fun (c, _) => !s.merged.any (sameName · c.name)).map (·.2))
  | .tableStar t => .ok (((own.find? (sameName ·.name t)).map (·.values)).getD [])
  | .expr e _ _ => do pure [← e.eval sc]

/-- The problems of a `SELECT` item's names. -/
def itemProblems (sc : Scope) (own : List Source) (inTrigger : Bool) : SelectItem → List SqlError
  | .star => if own.isEmpty then [logicError "no tables specified"] else []
  | .tableStar t => if own.any (sameName ·.name t) then [] else [logicError ("no such table: " ++ t)]
  | .expr e _ _ => e.problems sc inTrigger

/-- The direct operands of an expression, not looking into its queries. -/
def Expr.children : Expr → List Expr
  | .literal _ | .param _ | .column .. | .raise .. | .subquery _ | .exists _ => []
  | .neg e | .pos e | .bitNot e | .not e | .isNull e _ | .collate e _ | .cast e _ | .inQuery e _ _ => [e]
  | .arith _ a b | .cmp _ a b | .and a b | .or a b => [a, b]
  | .call _ args _ => args
  | .between e lo hi _ => [e, lo, hi]
  | .inList e items _ => e :: items
  | .like _ e p esc _ => [e, p] ++ esc.toList
  | .case s arms o => s.toList ++ arms.flatMap (fun (w, t) => [w, t]) ++ o.toList

/-- The aggregate calls of an expression, outside its queries and the arguments of aggregates,
each as its name and arguments; `fuel` bounds the depth. -/
def aggregateCalls : Nat → Expr → List (String × List Expr)
  | 0, _ => []
  | fuel + 1, e =>
    match e with
    | .call fn args _ => if isAggregate fn args.length then [(fn, args)] else args.flatMap (aggregateCalls fuel)
    | _ => e.children.flatMap (aggregateCalls fuel)

/-- The aggregate calls of an expression. -/
def Expr.aggregateCalls (e : Expr) : List (String × List Expr) := Sql.aggregateCalls (e.depth + 1) e

/-- The aggregate calls of a `SELECT` item. -/
def SelectItem.aggregateCalls : SelectItem → List (String × List Expr)
  | .expr e _ _ => e.aggregateCalls
  | _ => []

mutual

/-- An expression with the column references `f` gives an expression for replaced, not looking
into its queries. -/
def Expr.substitute (f : Option String → String → Bool → Option Expr) : Expr → Expr
  | .literal v => .literal v
  | .param i => .param i
  | .column t n q => (f t n q).getD (.column t n q)
  | .neg e => .neg (e.substitute f)
  | .pos e => .pos (e.substitute f)
  | .bitNot e => .bitNot (e.substitute f)
  | .not e => .not (e.substitute f)
  | .arith op a b => .arith op (a.substitute f) (b.substitute f)
  | .cmp op a b => .cmp op (a.substitute f) (b.substitute f)
  | .and a b => .and (a.substitute f) (b.substitute f)
  | .or a b => .or (a.substitute f) (b.substitute f)
  | .isNull e neg => .isNull (e.substitute f) neg
  | .collate e c => .collate (e.substitute f) c
  | .cast e ty => .cast (e.substitute f) ty
  | .call fn args d => .call fn (substituteAll f args) d
  | .between e lo hi neg => .between (e.substitute f) (lo.substitute f) (hi.substitute f) neg
  | .inList e items neg => .inList (e.substitute f) (substituteAll f items) neg
  | .like g e p esc neg => .like g (e.substitute f) (p.substitute f) (substituteMaybe f esc) neg
  | .case s arms o => .case (substituteMaybe f s) (substituteArms f arms) (substituteMaybe f o)
  | .raise a m => .raise a m
  | .subquery q => .subquery q
  | .exists q => .exists q
  | .inQuery e q neg => .inQuery (e.substitute f) q neg

/-- Expressions with column references replaced. -/
def substituteAll (f : Option String → String → Bool → Option Expr) : List Expr → List Expr
  | [] => []
  | e :: es => e.substitute f :: substituteAll f es

/-- The arms of a `CASE` with column references replaced. -/
def substituteArms (f : Option String → String → Bool → Option Expr) : List (Expr × Expr) → List (Expr × Expr)
  | [] => []
  | (w, t) :: rest => (w.substitute f, t.substitute f) :: substituteArms f rest

/-- An optional expression with column references replaced. -/
def substituteMaybe (f : Option String → String → Bool → Option Expr) : Option Expr → Option Expr
  | some e => some (e.substitute f)
  | none => none

end

/-- The argument of the last `min` or `max` among aggregate calls, if any is either, and
whether it is `max`: the rows of a group are then read through the row its value came from. -/
def extremeCall (calls : List (String × List Expr)) : Option (Bool × Expr) :=
  match (calls.filter fun (fn, args) => (lower fn == "min" || lower fn == "max") && args.length == 1).getLast? with
  | some (fn, [a]) => some (lower fn == "max", a)
  | _ => none

/-! ## Order -/

/-- Compares rows of keys in order, each key under its collation; `NULL` equals `NULL`. -/
def compareKeys : List Collation → List Value → List Value → Ordering
  | c :: cs, x :: xs, y :: ys =>
    match x.compareWith c y with
    | .eq => compareKeys cs xs ys
    | o => o
  | _, _, _ => .eq

/-- How an `ORDER BY` term compares: its collation, whether descending, and whether `NULL`
comes first, as said or as the direction makes it. -/
structure SortTerm where
  collation : Collation
  descending : Bool
  nullsFirst : Bool

/-- Compares rows of sort keys by the terms in order. -/
def compareSorted : List SortTerm → List Value → List Value → Ordering
  | t :: ts, x :: xs, y :: ys =>
    let o := match x.isNull, y.isNull with
      | true, true => Ordering.eq
      | true, false => if t.nullsFirst then .lt else .gt
      | false, true => if t.nullsFirst then .gt else .lt
      | false, false =>
        let o := x.compareWith t.collation y
        if t.descending then o.swap else o
    if o == .eq then compareSorted ts xs ys else o
  | _, _, _ => .eq

/-- Rows sorted stably by their keys. -/
def sortRows {α : Type} (terms : List SortTerm) (rows : List (α × List Value)) : List (α × List Value) :=
  rows.mergeSort fun a b => compareSorted terms a.2 b.2 != .gt

/-- The first of each run of rows equal under the collations. -/
def distinctRows {α : Type} (colls : List Collation) (rows : List (List Value × α)) : List (List Value × α) :=
  (rows.foldl (fun (kept : List (List Value × α)) r =>
    if kept.any fun k => compareKeys colls k.1 r.1 == .eq then kept else r :: kept) []).reverse

/-- Rows in ascending order, each kept once: how the compound operators but `UNION ALL` answer. -/
def sortedDistinct (colls : List Collation) (rows : List (List Value)) : List (List Value) :=
  let sorted := rows.mergeSort fun a b => compareKeys colls a b != .gt
  (sorted.foldl (fun (kept : List (List Value)) r =>
    match kept with
    | k :: _ => if compareKeys colls k r == .eq then kept else r :: kept
    | [] => [r]) []).reverse

/-- Rows grouped by their keys: the groups in ascending order of keys, the rows of each in the
order they came. -/
def groupRows {α : Type} (colls : List Collation) (rows : List (List Value × α)) : List (List α) :=
  let sorted := rows.mergeSort fun a b => compareKeys colls a.1 b.1 != .gt
  let (groups, current) := sorted.foldl (fun (acc : List (List α) × Option (List Value × List α)) r =>
    match acc.2 with
    | some (k, members) =>
      if compareKeys colls k r.1 == .eq then (acc.1, some (k, r.2 :: members))
      else (members.reverse :: acc.1, some (r.1, [r.2]))
    | none => (acc.1, some (r.1, [r.2]))) ([], none)
  (match current with
    | some (_, members) => members.reverse :: groups
    | none => groups).reverse

/-- An ordinal as failures write it: `1st`, `2nd`, `3rd`, `4th`, … -/
def ordinal (n : Nat) : String :=
  let suffix :=
    if n % 100 ≥ 11 && n % 100 ≤ 13 then "th"
    else match n % 10 with
      | 1 => "st"
      | 2 => "nd"
      | 3 => "rd"
      | _ => "th"
  toString n ++ suffix

/-- An expression without the `COLLATE` around it. -/
def Expr.uncollated : Expr → Expr
  | .collate e _ => e.uncollated
  | e => e

/-- How an `ORDER BY` term of a select reads a row: as a result column, by position, or as an
expression over the row. -/
inductive OrderKey where
  | column (i : Nat)
  | expr (e : Expr)

/-- What an `ORDER BY` term of a select reads: the result column whose alias it is, the column
at the position it gives, else the expression itself. `widths` are the numbers of columns the
items make. -/
def orderKey (items : List SelectItem) (widths : List Nat) (i : Nat) (e : Expr) : Except SqlError OrderKey :=
  let ncols : Nat := widths.foldl (· + ·) 0
  match e.uncollated with
  | .literal (.int k) =>
    if 1 ≤ k && k ≤ (ncols : Int) then .ok (.column (k.toNat - 1))
    else .error (logicError (ordinal (i + 1) ++ " ORDER BY term out of range - should be between 1 and " ++
      toString ncols))
  | .column none n _ =>
    match items.findIdx? fun
      | .expr _ (some a) _ => sameName a n
      | _ => false with
    | some j => .ok (.column ((widths.take j).foldl (· + ·) 0))
    | none => .ok (.expr e)
  | _ => .ok (.expr e)

/-- The result column an `ORDER BY` term of a compound query names: by position, or by the
name of a column. -/
def compoundOrderKey (cols : List Column) (i : Nat) (e : Expr) : Except SqlError Nat :=
  match e.uncollated with
  | .literal (.int k) =>
    if 1 ≤ k && k ≤ (cols.length : Int) then .ok (k.toNat - 1)
    else .error (logicError (ordinal (i + 1) ++ " ORDER BY term out of range - should be between 1 and " ++
      toString cols.length))
  | .column none n _ =>
    match cols.findIdx? (sameName ·.name n) with
    | some j => .ok j
    | none => .error (logicError (ordinal (i + 1) ++ " ORDER BY term does not match any column in the result set"))
  | _ => .error (logicError (ordinal (i + 1) ++ " ORDER BY term does not match any column in the result set"))

/-- The number a `LIMIT` or `OFFSET` gives: an integer, or a value that reads wholly as one;
anything else is a datatype mismatch. -/
def countValue (sc : Scope) (e : Expr) : Except Halt Int := do
  match (← e.eval sc).withAffinity .numeric with
  | .int n => pure n
  | _ => throw (.error ⟨20, "datatype mismatch"⟩)

/-- Rows cut by a limit (none or a negative one keeps all) after an offset. -/
def cutRows {α : Type} (sc : Scope) (limit offset : Option Expr) (rows : List α) : Except Halt (List α) := do
  let skip ← match offset with
    | some e => do pure (← countValue sc e).toNat
    | none => pure 0
  match limit with
  | some e => do
    let n ← countValue sc e
    pure (if n < 0 then rows.drop skip else (rows.drop skip).take n.toNat)
  | none => pure (rows.drop skip)

/-! ## Joins -/

/-- A row of a table with every value `NULL`, as an outer join pairs rows with no match. -/
def Source.nulled (s : Source) : Source := { s with values := s.values.map fun _ => .null, rowid := none }

/-- Equal values in the named columns, each read from the first table before that has it and
from the table joined. -/
def usingCondition (before : List Source) (here : Source) (names : List String) : Except SqlError (Option Expr) := do
    let eqs ← names.mapM fun n =>
      match before.find? (fun s => (s.columns.findIdx? (sameName ·.name n)).isSome),
          here.columns.findIdx? (sameName ·.name n) with
      | some s, some _ => pure (Expr.cmp .eq (.column (some s.name) n false) (.column (some here.name) n false))
      | _, _ => throw (logicError ("cannot join using column " ++ n ++ " - column not present in both tables"))
    pure (eqs.foldl (fun acc e => some (match acc with
      | some a => Expr.and a e
      | none => e)) none)

/-- The condition of a join as an expression over the rows before and the row joined: its `ON`
expression, or equal values in the columns it names (`USING`) or shares (`NATURAL`); with the
names of those columns, which the joined table then leaves to the tables before. -/
def joinCondition (before : List Source) (here : Source) : JoinOn → Except SqlError (Option Expr × List String)
  | .none => .ok (none, [])
  | .on e => .ok (some e, [])
  | .using names => do pure (← usingCondition before here names, names)
  | .natural =>
    let shared := (here.columns.filter fun c =>
      before.any fun s => (s.columns.findIdx? (sameName ·.name c.name)).isSome).map (·.name)
    do pure (← usingCondition before here shared, shared)

/-- Joins the rows of a table to the rows of the tables before it: each pair the condition holds
of; for a left join each row before with no match paired with `NULL`s, for a right join each row
of the table with no match after `NULL`s. -/
def joinRows (holds : List Source → Except Halt Bool) (kind : JoinKind) (blanks : List Source)
    (blank : Source) (before : List (List Source)) (rows : List Source) : Except Halt (List (List Source)) := do
  let paired ← before.flatMapM fun l => do
    let ms ← rows.filterM fun r => holds (l ++ [r])
    pure (if ms.isEmpty && (kind == .left || kind == .full) then [l ++ [blank.nulled]] else ms.map fun r => l ++ [r])
  if kind == .right || kind == .full then
    let lone ← rows.filterM fun r => do pure !(← before.anyM fun l => holds (l ++ [r]))
    pure (paired ++ lone.map fun r => blanks.map (·.nulled) ++ [r])
  else pure paired

/-! ## Reading named tables -/

/-- Whether a query reads a table of a name in the `FROM` of one of its selects, not looking
into queries within them. -/
def Select.readsTable (n : String) : Select → Bool
  | .core _ _ sources _ _ _ => sources.any fun (item, _, _) =>
    match item with
    | .named m _ => sameName m n
    | .query .. => false
  | .compound _ l r => l.readsTable n || r.readsTable n
  | .ordered q _ _ _ => q.readsTable n
  | .withCtes _ body => body.readsTable n
  | .values _ => false

/-- The parts of a recursive query named `n`: the operator, the select of its first rows, the
select that adds rows from those added last, and the limit and offset of the whole; none when
the query does not read itself so. -/
def recursion (n : String) : Select → Option (CompoundOp × Select × Select × Option Expr × Option Expr)
  | .compound op l r =>
    if (op == .union || op == .unionAll) && r.readsTable n && !l.readsTable n then some (op, l, r, none, none)
    else none
  | .ordered (.compound op l r) [] limit offset =>
    if (op == .union || op == .unionAll) && r.readsTable n && !l.readsTable n then some (op, l, r, limit, offset)
    else none
  | _ => none

/-- The most steps a recursive query takes. -/
def recursionLimit : Nat := 100000

/-- The rows of a recursive query `n` after those `found`: the rows its step adds from those
added `last`, until it adds none or has as many as `enough`; `UNION` adds only rows not found
yet. `fuel` bounds the steps. -/
def recursiveRows (inner : Inner) (mode : QueryMode) (reading : List String) (params : List Value)
    (n : String) (op : CompoundOp) (step : Select) (cols : List Column) (enough : Option Nat) :
    Nat → List (List Value) → List (List Value) → Except Halt (List (List Value))
  | 0, found, _ => .ok found
  | fuel + 1, found, last =>
    let full : Bool := match enough with
      | some k => decide (found.length ≥ k)
      | none => false
    if last.isEmpty || full then .ok found
    else do
      let (_, rows) ← inner { mode with ctes := (n, .rows cols last) :: mode.ctes } reading step { params := params }
      let colls := cols.map (·.collation)
      let fresh := if op == .union then
          (distinctRows colls (rows.map (·, ()))).map (·.1) |>.filter fun r =>
            !found.any fun f => compareKeys colls f r == .eq
        else rows
      recursiveRows inner mode reading params n op step cols enough fuel (found ++ fresh) fresh

/-- Renames columns by a list of names, which must be as many. -/
def renameColumns (what : String) (names : Option (List String)) (cols : List Column) : Except Halt (List Column) :=
  match names with
  | some ns =>
    if ns.length != cols.length then
      .error (.error (logicError (what ++ " has " ++ toString cols.length ++ " values for " ++
        toString ns.length ++ " columns")))
    else .ok ((cols.zip ns).map fun (c, n) => { c with name := n })
  | none => .ok (distinctColumns cols)

/-- The columns and rows of a named query in reach. -/
def cteRows (inner : Inner) (mode : QueryMode) (reading : List String) (params : List Value)
    (n : String) (names : Option (List String)) (q : Select) : Except Halt (List Column × List (List Value)) := do
  let reading := n :: reading
  match recursion n q with
  | some (op, first, step, limit, offset) => do
    let (cols, rows) ← inner mode reading first { params := params }
    let cols ← renameColumns ("table " ++ n) names cols
    if mode.probe then
      let _ ← inner { mode with ctes := (n, .rows cols []) :: mode.ctes } reading step { params := params }
      return (cols, [])
    let sc : Scope := { params := params }
    let enough ← match limit with
      | some e => do
        let k ← countValue sc e
        let skip ← match offset with
          | some o => do pure (← countValue sc o).toNat
          | none => pure 0
        pure (if k < 0 then none else some (k.toNat + skip))
      | none => pure none
    let first := if op == .union then (distinctRows (cols.map (·.collation)) (rows.map (·, ()))).map (·.1)
      else rows
    let all ← recursiveRows inner mode reading params n op step cols enough recursionLimit first first
    pure (cols, ← cutRows sc limit offset all)
  | none => do
    let (cols, rows) ← inner mode reading q { params := params }
    pure (← renameColumns ("table " ++ n) names cols, rows)

/-- The columns of a named table, view or query in reach, whether its rows have ids, and its
rows as sources named `asName` (none when probing). A view or named query met again while it is
read is circularly defined. -/
def Database.namedRows (db : Database) (inner : Inner) (mode : QueryMode) (reading : List String)
    (params : List Value) (n asName : String) : Except Halt (List Column × Bool × List Source) :=
  match mode.ctes.find? (sameName ·.1 n) with
  | some (_, .rows cols rows) =>
    .ok (cols, false, if mode.probe then [] else
      rows.map fun vals => { name := asName, columns := cols, values := vals, kind := .view })
  | some (m, .query names q) => do
    if reading.any (sameName · m) then throw (.error (logicError ("circular reference: " ++ m)))
    let (cols, rows) ← cteRows inner mode reading params m names q
    pure (cols, false, rows.map fun vals => { name := asName, columns := cols, values := vals, kind := .view })
  | none =>
    match db.table? n with
    | some t =>
      .ok (t.shape.columns, !t.shape.withoutRowid, if mode.probe then [] else t.rows.map (t.shape.source asName))
    | none =>
      match db.view? n with
      | some v => do
        if reading.any (sameName · v.name) then
          throw (.error (logicError ("view " ++ v.name ++ " is circularly defined")))
        let (cols, rows) ← inner { mode with qualify := !v.temporary, inTrigger := false, ctes := [] }
          (v.name :: reading) v.query {}
        let cols ← match v.columns with
          | some ns =>
            if ns.length != cols.length then
              throw (.error (logicError ("expected " ++ toString ns.length ++ " columns for \x27" ++ v.name ++
                "\x27 but got " ++ toString cols.length)))
            else pure ((cols.zip ns).map fun (c, n) => { c with name := n })
          | none => pure (distinctColumns cols)
        pure (cols, false, rows.map fun vals => { name := asName, columns := cols, values := vals, kind := .view })
      | none => .error (.error (noSuchTable mode.qualify n))

/-- The row a table of a `FROM` clause offers while names are checked, and its rows. -/
def Database.fromRows (db : Database) (inner : Inner) (mode : QueryMode) (reading : List String)
    (outer : Scope) : FromItem → Except Halt (Source × List Source)
  | .named n asName => do
    let name := asName.getD n
    let (cols, hasRowid, rows) ← db.namedRows inner mode reading outer.params n name
    let cte := mode.ctes.any (sameName ·.1 n)
    let kind := if !cte && (db.table? n).isSome then SourceKind.table else .view
    pure ({ name := name, columns := cols, values := cols.map fun _ => .null,
            rowid := if hasRowid then some 0 else none, kind := kind }, rows)
  | .query q asName => do
    let name := asName.getD ""
    let (cols, rows) ← inner mode reading q outer
    let cols := distinctColumns cols
    pure ({ name := name, columns := cols, values := cols.map fun _ => .null, kind := .view },
      rows.map fun vals => { name := name, columns := cols, values := vals, kind := .view })

/-! ## Selects -/

/-- The columns of a select, and for each row it answers its values with the keys of `order`.
Names are checked first; then the tables are joined, filtered, grouped when the select is an
aggregate, and each row or group makes a row of values. -/
def Database.coreRows (db : Database) (inner : Inner) (mode : QueryMode) (reading : List String)
    (distinct : Bool) (items : List SelectItem) (sources : List (FromItem × JoinKind × JoinOn))
    (filter : Option Expr) (groupBy : List Expr) (having : Option Expr)
    (order : List (Expr × Bool × Option Bool)) (outer : Scope) :
    Except Halt (List Column × List (List Value × List Value)) := do
  let tables : List (Source × List Source × JoinKind × JoinOn) ← sources.mapM fun (item, kind, on) => do
    let (blank, rows) ← db.fromRows inner mode reading outer item
    pure (blank, rows, kind, on)
  let joins : List (Option Expr × List String) ← (tables.zipIdx.mapM
    fun (t : (Source × List Source × JoinKind × JoinOn) × Nat) =>
      joinCondition ((tables.take t.2).map (·.1)) t.1.1 t.1.2.2.2).mapError Halt.error
  let tables := (tables.zip joins).map fun ((blank, rows, kind, on), (_, merged)) =>
    (({ blank with merged } : Source), rows.map fun (r : Source) => { r with merged }, kind, on)
  let conditions := joins.map (·.1)
  let blanks := tables.map (·.1)
  let base : Scope :=
    { outer with
      sources := blanks ++ outer.sources, queries := some (subqueriesOf inner mode reading),
      group := none, aggregates := false, fixedIn := none }
  let calls := items.flatMap (·.aggregateCalls)
  let aggregated := !groupBy.isEmpty || !calls.isEmpty
  let aliases : List (String × Expr) := items.filterMap fun
    | .expr e (some a) _ => some (a, e)
    | _ => none
  let ownName (n : String) : Bool := blanks.any fun b => (b.cell? n).isSome
  let aliased (e : Expr) : Expr := e.substitute fun t n _ =>
    if t.isNone && !ownName n then (aliases.find? (sameName ·.1 n)).map (·.2) else none
  let filter := filter.map aliased
  let having := having.map aliased
  let groupBy := groupBy.map aliased
  let conditions := conditions.map (·.map aliased)
  let check (ps : List (List SqlError)) : Except Halt Unit := (firstFailure ps).mapError Halt.error
  check (items.map (itemProblems { base with aggregates := true } blanks mode.inTrigger))
  if having.isSome && !aggregated then throw (.error (logicError "HAVING clause on a non-aggregate query"))
  check [(having.map (·.problems { base with aggregates := true } mode.inTrigger)).getD []]
  let whereScope := { base with aggregates := aggregated }
  let filterTerms := filter.toList ++ conditions.filterMap id
  check [filterTerms.flatMap (·.problems whereScope mode.inTrigger)]
  if aggregated then
    if let some (fn, _) := (filterTerms.flatMap (·.aggregateCalls)).head? then
      throw (.error (logicError ("misuse of aggregate: " ++ fn ++ "()")))
  let widths := items.map fun it => (resultColumns base blanks it).length
  let keys : List OrderKey ← (order.zipIdx.mapM fun (t : (Expr × Bool × Option Bool) × Nat) =>
    orderKey items widths t.2 t.1.1).mapError Halt.error
  let keys := keys.map fun
    | .expr e => OrderKey.expr (aliased e)
    | k => k
  check (keys.map fun
    | .expr e =>
      if !aggregated then
        match e.aggregateCalls with
        | (fn, _) :: _ => [logicError ("misuse of aggregate: " ++ fn ++ "()")]
        | [] => e.problems base mode.inTrigger
      else e.problems { base with aggregates := true } mode.inTrigger
    | .column _ => [])
  check (groupBy.map (·.problems { base with aggregates := true } mode.inTrigger))
  if groupBy.any fun e => !e.aggregateCalls.isEmpty then
    throw (.error (logicError "aggregate functions are not allowed in the GROUP BY clause"))
  let columns := items.flatMap (resultColumns base blanks)
  if mode.probe then return (columns, [])
  let rowScope (row : List Source) : Scope := { base with sources := row ++ outer.sources }
  let joined ← (tables.zip conditions).zipIdx.foldlM (fun (acc : List (List Source)) (((blank, rows, kind, _), c), i) =>
    joinRows (fun row => do
      match c with
      | some e => pure ((← e.eval (rowScope row)).truth? == some true)
      | none => pure true) kind (blanks.take i) blank acc rows) [[]]
  let kept ← joined.filterM fun row => do
    match filter with
    | some f => pure ((← f.eval (rowScope row)).truth? == some true)
    | none => pure true
  let finish (sc : Scope) (own : List Source) : Except Halt (List Value × List Value) := do
    let vals ← items.flatMapM (itemValues sc own)
    let ks ← keys.mapM fun
      | .column j => pure (vals.getD j .null)
      | .expr e => e.eval sc
    pure (vals, ks)
  let rows ← if !aggregated then kept.mapM fun row => finish (rowScope row) row
    else do
      let groups ← if groupBy.isEmpty then pure [kept]
        else do
          let keyed ← kept.mapM fun row => do pure (← groupBy.mapM (·.eval (rowScope row)), row)
          pure (groupRows (groupBy.map fun e => (e.collation base).getD .binary) keyed)
      let extreme := extremeCall calls
      groups.filterMapM fun members => do
        let whole := members.map (· ++ outer.sources)
        let pick ← match extreme, members.head? with
          | _, none => pure (blanks.map (·.nulled))
          | some (greatest, arg), some first => do
            let vs ← members.mapM fun row => arg.eval (rowScope row)
            pure (match Sql.extreme greatest ((arg.collation base).getD .binary) vs with
              | some (_, j) => members.getD j first
              | none => members.getLastD first)
          | none, some first => pure first
        let sc := { rowScope pick with group := some whole }
        let keep ← match having with
          | some h => do pure ((← h.eval sc).truth? == some true)
          | none => pure true
        if keep then do pure (some (← finish sc pick)) else pure none
  let rows := if distinct then distinctRows (columns.map (·.collation)) rows else rows
  pure (columns, rows)

/-- The sort terms of an `ORDER BY`: each term's collation (its own `COLLATE`, else that of the
column or expression it reads), direction, and place of `NULL`. -/
def sortTerms (sc : Scope) (columns : List Column) (order : List (Expr × Bool × Option Bool))
    (keys : List (Option Nat)) : List SortTerm :=
  (order.zip keys).map fun ((e, desc, nulls), k) =>
    let coll := if e.hasCollate then (e.collation sc).getD .binary
      else match k with
        | some j => (columns.getD j default).collation
        | none => (e.collation sc).getD .binary
    ⟨coll, desc, nulls.getD !desc⟩

/-- The columns and rows of a query over a scope of outer rows; `fuel` bounds the depth of the
queries read through. -/
def Database.selectRows (db : Database) : Nat → QueryMode → List String → Select → Scope →
    Except Halt (List Column × List (List Value))
  | 0, _, _, _, _ => .error (.error (logicError "too many levels of queries"))
  | fuel + 1, mode, reading, q, outer =>
    let inner : Inner := db.selectRows fuel
    let sc : Scope :=
      { outer with
        queries := some (subqueriesOf inner mode reading), group := none, aggregates := false, fixedIn := none }
    match q with
    | .core distinct items sources filter groupBy having => do
      let (cols, rows) ← db.coreRows inner mode reading distinct items sources filter groupBy having [] outer
      pure (cols, rows.map (·.1))
    | .ordered (.core distinct items sources filter groupBy having) order limit offset => do
      let (cols, rows) ← db.coreRows inner mode reading distinct items sources filter groupBy having order outer
      let widths := items.map fun it => match it with
        | .expr .. => 1
        | _ => 0
      let keys := order.zipIdx.map fun (t : (Expr × Bool × Option Bool) × Nat) =>
        match orderKey items widths t.2 t.1.1 with
        | .ok (.column j) => some j
        | _ => none
      (limit.map (·.problems sc mode.inTrigger)).forM fun ps => (firstFailure [ps]).mapError Halt.error
      (offset.map (·.problems sc mode.inTrigger)).forM fun ps => (firstFailure [ps]).mapError Halt.error
      if mode.probe then return (cols, [])
      let sorted := sortRows (sortTerms sc cols order keys) (rows.map fun (v, k) => (v, k))
      pure (cols, ← cutRows sc limit offset (sorted.map (·.1)))
    | .ordered inner_ order limit offset => do
      let (cols, rows) ← inner mode reading inner_ outer
      let keys ← (order.zipIdx.mapM fun (t : (Expr × Bool × Option Bool) × Nat) =>
        compoundOrderKey cols t.2 t.1.1).mapError Halt.error
      if mode.probe then return (cols, [])
      let terms := (order.zip keys).map fun ((e, desc, nulls), j) =>
        SortTerm.mk (if e.hasCollate then (e.collation sc).getD .binary else (cols.getD j default).collation)
          desc (nulls.getD !desc)
      let sorted := sortRows terms (rows.map fun r => (r, keys.map fun j => r.getD j .null))
      pure (cols, ← cutRows sc limit offset (sorted.map (·.1)))
    | .values rows => do
      (firstFailure (rows.flatMap fun es => es.map (·.problems sc mode.inTrigger))).mapError Halt.error
      let width := (rows.head?.map (·.length)).getD 0
      let cols : List Column := (List.range width).map fun i => { name := "column" ++ toString (i + 1) }
      if mode.probe then return (cols, [])
      pure (cols, ← rows.mapM (evalAll sc))
    | .compound op l r => do
      let (lc, lrows) ← inner mode reading l outer
      let (rc, rrows) ← inner mode reading r outer
      if lc.length != rc.length then
        throw (.error (logicError ("SELECTs to the left and right of " ++ op.name ++
          " do not have the same number of result columns")))
      let colls := lc.map (·.collation)
      let same (a b : List Value) : Bool := compareKeys colls a b == .eq
      pure (lc, match op with
        | .unionAll => lrows ++ rrows
        | .union => sortedDistinct colls (lrows ++ rrows)
        | .intersect => sortedDistinct colls (lrows.filter fun a => rrows.any (same a))
        | .except => sortedDistinct colls (lrows.filter fun a => !rrows.any (same a)))
    | .withCtes ctes body =>
      inner { mode with ctes := ctes.map (fun (n, cols, q) => (n, Bound.query cols q)) ++ mode.ctes } reading body outer

/-- Enough fuel for the queries of a database: each view read through at most once, and a few
dozen levels of queries within queries. -/
def Database.queryFuel (db : Database) : Nat := 4 * db.views.length + 64

/-- The queries inside expressions of a statement, run on a database. -/
def Database.subqueries (db : Database) (mode : QueryMode) : Subqueries :=
  subqueriesOf (db.selectRows db.queryFuel) mode []

end BillOfMaterials.Sql
