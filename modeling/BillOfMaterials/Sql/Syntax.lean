import BillOfMaterials.Sql.Value

/-!
# SQL statements as trees

The statements a schema script and a store run, as the parser builds them:

* `Expr`: literals, parameters, column references (a table or `new`, `old`, `excluded` in
  front, or none), operators, `COLLATE`, `CAST`, function calls, `BETWEEN`, `IN`, `LIKE` and
  `GLOB`, `CASE`, `RAISE`, and queries as values (`(SELECT …)`, `EXISTS`, `IN (SELECT …)`);
* `Column`, `Key`, `Check`, `Shape`: the parts of a table's definition;
* `Select`: queries, whose expressions may hold queries in turn: the items, the tables read
  (joined), the filter, the grouping, the order and the limit; compound queries, `VALUES` and
  `WITH`;
* `Dml`: the statements that change rows, which trigger bodies are made of; `Trigger`,
  `View`, `Index`;
* `Statement`: all of these, with the `CREATE` and `DROP` statements and transactions.
-/

namespace BillOfMaterials.Sql

/-- A comparison. `is` and `isNot` treat `NULL` as a value. -/
inductive CmpOp where
  | lt
  | le
  | gt
  | ge
  | eq
  | ne
  | is
  | isNot
  deriving DecidableEq, Inhabited

/-- An arithmetic, bitwise or text operator of two operands. -/
inductive ArithOp where
  | add
  | sub
  | mul
  | div
  | rem
  | concat
  | bitAnd
  | bitOr
  | shl
  | shr
  deriving DecidableEq, Inhabited

/-- What `RAISE` does: skip the row, or fail the statement in one of three ways. -/
inductive RaiseAction where
  | ignore
  | rollback
  | abort
  | fail
  deriving DecidableEq, Inhabited

/-- How a compound query joins the rows of its two sides: all of both, the distinct rows of
either, of both, or of the left but not the right. -/
inductive CompoundOp where
  | unionAll
  | union
  | intersect
  | except
  deriving DecidableEq, Inhabited

/-- A compound operator as written. -/
def CompoundOp.name : CompoundOp → String
  | .unionAll => "UNION ALL"
  | .union => "UNION"
  | .intersect => "INTERSECT"
  | .except => "EXCEPT"

/-- How a table is joined to the tables before it: every pair of rows that meets the condition;
also each row before it with no match (`LEFT`), each of its own rows with no match (`RIGHT`), or
both (`FULL`). -/
inductive JoinKind where
  | inner
  | left
  | right
  | full
  deriving DecidableEq, Inhabited

mutual

/-- An expression. -/
inductive Expr where
  | literal (v : Value)
  /-- A parameter, by its position from zero. -/
  | param (index : Nat)
  /-- A column, with the table or row name written before it, if any. A name that was quoted
  reads as a text when no column has it. -/
  | column (table : Option String) (name : String) (quoted : Bool)
  | neg (e : Expr)
  | pos (e : Expr)
  | bitNot (e : Expr)
  | not (e : Expr)
  | arith (op : ArithOp) (a b : Expr)
  | cmp (op : CmpOp) (a b : Expr)
  | and (a b : Expr)
  | or (a b : Expr)
  /-- `e IS NULL`, or `e IS NOT NULL` when `negated`. -/
  | isNull (e : Expr) (negated : Bool)
  | collate (e : Expr) (name : String)
  | cast (e : Expr) (type : String)
  /-- A function call, its name as written; `distinct` when an aggregate is to see each value
  once. -/
  | call (name : String) (args : List Expr) (distinct : Bool)
  | between (e lo hi : Expr) (negated : Bool)
  | inList (e : Expr) (items : List Expr) (negated : Bool)
  /-- `e LIKE pattern [ESCAPE c]`, or `GLOB` when `glob`. -/
  | like (glob : Bool) (e pattern : Expr) (escape : Option Expr) (negated : Bool)
  /-- `CASE [subject] WHEN … THEN … [ELSE …] END`. -/
  | case (subject : Option Expr) (arms : List (Expr × Expr)) (otherwise : Option Expr)
  | raise (action : RaiseAction) (message : String)
  /-- A query in parentheses: the first value of its first row, `NULL` when it has none. -/
  | subquery (q : Select)
  /-- `EXISTS (query)`: whether the query has a row. -/
  | exists (q : Select)
  /-- `e IN (query)`, or `NOT IN` when `negated`. -/
  | inQuery (e : Expr) (q : Select) (negated : Bool)

/-- An item of a `SELECT` list: every column, every column of one table, or an expression with
its alias and the text it was written as. -/
inductive SelectItem where
  | star
  | tableStar (table : String)
  | expr (e : Expr) (asName : Option String) (text : String)

/-- What a query reads rows from, with its alias: a table or view, or a query. -/
inductive FromItem where
  | named (name : String) (asName : Option String)
  | query (q : Select) (asName : Option String)

/-- The condition a table is joined on: none, an expression, or equal values in the named
columns (`USING`, or every column of the same name when `NATURAL`). -/
inductive JoinOn where
  | none
  | on (e : Expr)
  | using (columns : List String)
  | natural

/-- A query. -/
inductive Select where
  /-- `SELECT [DISTINCT] items FROM … WHERE … GROUP BY … HAVING …`; the tables each with how
  they are joined to those before. -/
  | core (distinct : Bool) (items : List SelectItem) (sources : List (FromItem × JoinKind × JoinOn))
      (filter : Option Expr) (groupBy : List Expr) (having : Option Expr)
  /-- `VALUES (…), (…)`. -/
  | values (rows : List (List Expr))
  | compound (op : CompoundOp) (left right : Select)
  /-- A query with its rows sorted by terms (each descending or not, with `NULL` first or last
  when said) and cut by a limit and an offset. -/
  | ordered (q : Select) (orderBy : List (Expr × Bool × Option Bool)) (limit offset : Option Expr)
  /-- `WITH name [(columns)] AS (query), … body`: queries named for the body to read. -/
  | withCtes (ctes : List (String × Option (List String) × Select)) (body : Select)

end

instance : Inhabited Expr := ⟨.literal .null⟩

instance : Inhabited Select := ⟨.values []⟩

instance : Inhabited SelectItem := ⟨.star⟩

/-- Named queries that a statement or query may read, as `WITH` gives them. -/
abbrev Ctes := List (String × Option (List String) × Select)

/-- What a failed constraint does: fail the statement in one of three ways, skip the row, or
make room by deleting the rows in the way. -/
inductive Conflict where
  | rollback
  | abort
  | fail
  | ignore
  | replace
  deriving DecidableEq, Inhabited

/-- A column: its name, its declared type in upper case, whether it refuses `NULL` (and what
then happens), its default, how its texts compare, and for a generated column the expression
its value is computed by. -/
structure Column where
  name : String
  type : String := ""
  notNull : Option Conflict := none
  default : Option Expr := none
  collation : Collation := .binary
  generated : Option Expr := none
  deriving Inhabited

/-- The affinity of a column. -/
def Column.affinity (c : Column) : Affinity := columnAffinity c.type

/-- The kind of a unique key, which decides the code of a conflict. -/
inductive KeyKind where
  | primary
  | unique
  deriving DecidableEq, Inhabited

/-- A unique key: its columns by position, each with its collation, and what a conflict
does. -/
structure Key where
  kind : KeyKind
  columns : List (Nat × Collation)
  conflict : Option Conflict := none
  deriving Inhabited

/-- A `CHECK` constraint: how a failure names it, its expression, and where it was declared. -/
structure Check where
  label : String
  expr : Expr
  /-- The column whose definition holds the constraint, if a column's does. -/
  column : Option String := none
  deriving Inhabited

/-- The shape of a table: columns, unique keys, checks, and the column that stands for the row
id, if any. -/
structure Shape where
  name : String
  columns : List Column := []
  keys : List Key := []
  checks : List Check := []
  rowid : Option Nat := none
  /-- Whether every value must have the declared type of its column. -/
  strict : Bool := false
  /-- Whether the table has no row ids of its own. -/
  withoutRowid : Bool := false
  /-- Whether the table lives only as long as the connection that made it. -/
  temporary : Bool := false
  deriving Inhabited

/-- The rows an `INSERT` adds. -/
inductive InsertRows where
  | values (rows : List (List Expr))
  | defaults
  | query (q : Select)
  deriving Inhabited

/-- What an `INSERT` does when a row conflicts on its target key. -/
inductive UpsertAction where
  | nothing
  /-- Changes the row in the way; `excluded` names the row that was not inserted. -/
  | update (sets : List (String × Expr)) (filter : Option Expr)
  deriving Inhabited

/-- An `ON CONFLICT` clause: the key columns it is about, if named, and what it does. -/
structure Upsert where
  target : Option (List String)
  action : UpsertAction
  deriving Inhabited

/-- A statement that reads or changes rows. -/
inductive Dml where
  | insert (table : String) (conflict : Option Conflict) (columns : Option (List String))
      (rows : InsertRows) (upsert : Option Upsert)
  | update (table : String) (conflict : Option Conflict) (sets : List (String × Expr))
      (filter : Option Expr)
  | delete (table : String) (filter : Option Expr)
  | select (q : Select)
  deriving Inhabited

/-- When a trigger runs, relative to the change. -/
inductive TriggerTime where
  | before
  | after
  | insteadOf
  deriving DecidableEq, Inhabited

/-- The change a trigger runs on; an update trigger may name the columns it watches. -/
inductive TriggerEvent where
  | insert
  | delete
  | update (columns : List String)
  deriving Inhabited

/-- A trigger: its name, its table, when and on what it runs, its condition, and its body. -/
structure Trigger where
  name : String
  table : String
  time : TriggerTime
  event : TriggerEvent
  condition : Option Expr := none
  body : List Dml
  temporary : Bool := false
  deriving Inhabited

/-- A view: its name, the names of its columns if given, and its query. -/
structure View where
  name : String
  columns : Option (List String) := none
  query : Select
  temporary : Bool := false
  deriving Inhabited

/-- An index: its name, its table, its columns with their collations, and whether it keeps the
rows unique. -/
structure Index where
  name : String
  table : String
  unique : Bool
  columns : List (String × Option Collation)
  deriving Inhabited

/-- A column added by `ALTER TABLE`: the column, whether it was declared a primary key or
unique, and its checks. -/
structure ColumnDef where
  column : Column
  primary : Bool := false
  unique : Bool := false
  checks : List Check := []
  deriving Inhabited

/-- What an `ALTER TABLE` changes. -/
inductive Alteration where
  | renameTable (name : String)
  | renameColumn (old new : String)
  | addColumn (column : ColumnDef)
  | dropColumn (name : String)
  deriving Inhabited

/-- What a `DROP` removes. -/
inductive ObjectKind where
  | table
  | view
  | trigger
  | index
  deriving DecidableEq, Inhabited

/-- A statement. -/
inductive Statement where
  | createTable (ifNotExists : Bool) (shape : Shape)
  /-- `CREATE TABLE name AS SELECT ...`: a table of the query's columns and rows. -/
  | createTableAs (ifNotExists : Bool) (name : String) (temporary : Bool) (q : Select)
  | createView (ifNotExists : Bool) (view : View)
  | createTrigger (ifNotExists : Bool) (trigger : Trigger)
  | createIndex (ifNotExists : Bool) (index : Index)
  | drop (kind : ObjectKind) (ifExists : Bool) (name : String)
  | alter (table : String) (change : Alteration)
  /-- A statement that reads or changes rows, with the queries it names first (`WITH`) and
  the items it answers for each row it changes (`RETURNING`). -/
  | dml (ctes : Ctes) (d : Dml) (returning : List SelectItem)
  | begin
  | commit
  /-- `ROLLBACK`, of the whole transaction or back to a savepoint. -/
  | rollback (savepoint : Option String)
  | savepoint (name : String)
  | release (name : String)
  /-- A statement that changes nothing a later connection sees. -/
  | noop
  deriving Inhabited

end BillOfMaterials.Sql
