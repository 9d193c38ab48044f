import BillOfMaterials.Sql.Parser
import BillOfMaterials.Sql.Eval

/-!
# Tables of an embedded SQL database

* `Row`, `Table`, `Database`: a database holds tables (their shapes and rows in order of row
  id), views, triggers (newest first) and indexes;
* `Stop`: why a change stopped short: a row left alone by `RAISE(IGNORE)`, or a failure with
  the database a `FAIL` keeps;
* `Shape.source`: a row as the source expressions read; `Database.keysOf`: the unique keys of a
  table, its own and those of its unique indexes; `clash`: whether two rows meet on a key.
-/

namespace BillOfMaterials.Sql

/-- A row: its id and its values. -/
structure Row where
  rowid : Int
  values : List Value
  deriving Inhabited

/-- A table: its shape and its rows, in order of row id. -/
structure Table where
  shape : Shape
  rows : List Row := []
  deriving Inhabited

/-- A database: tables, views, triggers (newest first) and indexes. -/
structure Database where
  tables : List Table := []
  views : List View := []
  triggers : List Trigger := []
  indexes : List Index := []
  deriving Inhabited

/-- Why a change stopped short. -/
inductive Stop where
  /-- `RAISE(IGNORE)`: the row is left alone; the database as the triggers left it. -/
  | ignore (db : Database)
  /-- A failure, with the database a `FAIL` keeps. -/
  | fail (e : SqlError) (kept : Option Database)
  deriving Inhabited

/-- A failure that undoes the statement. -/
def Stop.abort (e : SqlError) : Stop := .fail e none

/-- A failure under a resolution: `FAIL` keeps the changes made so far. -/
def failWith (mode : Conflict) (db : Database) (e : SqlError) : Stop :=
  .fail e (if mode == .fail then some db else none)

/-- A halted evaluation as a stop: a `RAISE` with a message fails with code 1811, `FAIL`
keeping the changes so far; `RAISE(IGNORE)` leaves the row. -/
def Halt.toStop (db : Database) : Halt → Stop
  | .error e => .fail e none
  | .raise .ignore _ => .ignore db
  | .raise act msg => .fail ⟨1811, msg⟩ (if act == .fail then some db else none)

/-- A halted evaluation where no trigger runs, as a failure. -/
def Halt.toError : Halt → SqlError
  | .error e => e
  | .raise _ _ => logicError "RAISE() may only be used within a trigger-program"

namespace Database

/-- The table of a name, up to ASCII case. -/
def table? (db : Database) (n : String) : Option Table := db.tables.find? (sameName ·.shape.name n)

/-- The view of a name, up to ASCII case. -/
def view? (db : Database) (n : String) : Option View := db.views.find? (sameName ·.name n)

/-- Replaces the rows of a table. -/
def setRows (db : Database) (n : String) (rows : List Row) : Database :=
  { db with tables := db.tables.map fun t => if sameName t.shape.name n then { t with rows := rows } else t }

/-- The unique keys of a table: its own, then those of its unique indexes. -/
def keysOf (db : Database) (sh : Shape) : List Key :=
  sh.keys ++ (db.indexes.filter fun ix => ix.unique && sameName ix.table sh.name).map fun ix =>
    ⟨.unique, ix.columns.filterMap (fun (n, coll) => (columnIndex? sh.columns n).map fun i =>
      (i, coll.getD (sh.columns.getD i default).collation)), none⟩

end Database

/-! ## Rows and constraints -/

namespace Shape

/-- The affinity of a column of a table: a column of type `ANY` in a strict table keeps values
as they are. -/
def affinityAt (sh : Shape) (c : Column) : Affinity :=
  if sh.strict && c.type == "ANY" then .blob else c.affinity

/-- Values under the affinities of their columns. -/
def withAffinities (sh : Shape) (vals : List Value) : List Value :=
  (sh.columns.zip vals).map fun (c, v) => v.withAffinity (sh.affinityAt c)

/-- The storage class a column of a strict table refuses a value of, if it does: a column takes
`NULL` and values of its declared type, a `REAL` column integers too, an `ANY` column all. -/
def strictRefusal? (type : String) : Value → Option String
  | .null => none
  | .int _ => if ["INT", "INTEGER", "REAL", "ANY"].contains type then none else some "INT"
  | .real _ => if ["REAL", "ANY"].contains type then none else some "REAL"
  | .text _ => if ["TEXT", "ANY"].contains type then none else some "TEXT"
  | .blob _ => if ["BLOB", "ANY"].contains type then none else some "BLOB"

/-- The conflict failure of a unique key. -/
def keyError (sh : Shape) (k : Key) : SqlError :=
  ⟨if k.kind == .primary then 1555 else 2067, "UNIQUE constraint failed: " ++
    ", ".intercalate (k.columns.map fun (i, _) => sh.name ++ "." ++ (sh.columns.getD i default).name)⟩

/-- The source a row of the table is to expressions. -/
def source (sh : Shape) (name : String) (r : Row) : Source :=
  { name := name, columns := sh.columns, values := r.values,
    rowid := if sh.withoutRowid then none else some r.rowid }

/-- The source a row of the table is while only names are checked. -/
def blank (sh : Shape) (name : String) : Source := sh.source name ⟨0, sh.columns.map fun _ => .null⟩

end Shape

/-- Whether two rows clash on a key: equal under the key's collations in every key column,
none of them `NULL`. -/
def clash (k : Key) (a b : List Value) : Bool :=
  k.columns.all fun (i, coll) =>
    let x := a.getD i .null
    let y := b.getD i .null
    !x.isNull && !y.isNull && x.compareWith coll y == .eq

/-- Inserts a row in order of row id. -/
def insertByRowid (r : Row) : List Row → List Row
  | [] => [r]
  | s :: rest => if r.rowid < s.rowid then r :: s :: rest else s :: insertByRowid r rest

/-- The type name a column of a view gets for the affinity of its expression, empty for
none. -/
def typeOfAffinity : Option Affinity → String
  | some .integer => "INTEGER"
  | some .text => "TEXT"
  | some .blob => "BLOB"
  | some .real => "REAL"
  | some .numeric => "NUMERIC"
  | none => ""

/-- A name without its `:digits` ending: the characters before the last one that is not a
digit, when that one is a colon (the first character counting as not a digit). -/
def withoutCount (n : String) : String :=
  let cs := n.toList
  let digits := (cs.reverse.takeWhile Char.isDigit).length
  let j := if digits ≥ cs.length then 0 else cs.length - 1 - digits
  if cs.getD j ' ' = ':' then String.ofList (cs.take j) else n

/-- Names made distinct up to ASCII case, as the columns of a query's result are: a name met
before takes `:1`, `:2`, ... after its base (the name without a `:digits` ending), the first
one not met before. -/
def uniqueNames (names : List String) : List String :=
  names.foldl (fun taken n =>
    if !taken.any (sameName · n) then taken ++ [n]
    else
      let base := withoutCount n
      let tries := (List.range (taken.length + 1)).map fun k => base ++ ":" ++ toString (k + 1)
      taken ++ [(tries.find? fun t => !taken.any (sameName · t)).getD n]) []

/-- Columns renamed by `uniqueNames`. -/
def distinctColumns (cols : List Column) : List Column :=
  ((uniqueNames (cols.map (·.name))).zip cols).map fun (n, c) => { c with name := n }

/-- Checks names in order, the last problem of the first expression with one failing. -/
def firstFailure : List (List SqlError) → Except SqlError Unit
  | [] => .ok ()
  | ps :: rest =>
    match ps.getLast? with
    | some p => .error p
    | none => firstFailure rest

end BillOfMaterials.Sql
