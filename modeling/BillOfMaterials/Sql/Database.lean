import BillOfMaterials.Sql.Query

/-!
# An embedded SQL database

A database holds tables, views, triggers and indexes, and runs the statements of
`Sql.Syntax` on them.

* `Database.query`: the rows of a `SELECT` over a table or a view;
* `Database.execDml`: an `INSERT`, `UPDATE`, `DELETE` or `SELECT`. The statement is prepared
  first (`Database.prepare`): its names are checked, and so are those of every trigger it may
  fire, whether or not a row ever fires it. Then a row is made ready (its row id an integer,
  each value under its column's affinity), `BEFORE` triggers run, then the checks in order:
  `NOT NULL` column by column, `CHECK` in the order written (false fails, `NULL` passes), the
  types of a strict table, then the unique keys, the key an upsert names first. Then the row
  is written and `AFTER` triggers run. A failed constraint does what its resolution says:
  `IGNORE` skips the row, `REPLACE` makes room, the others fail;
* triggers run newest first, never one that is already running; `RAISE(IGNORE)` leaves the
  row that fired it alone, another `RAISE` fails with code 1811;
* `Database.exec`: any statement; `Database.runScript` runs a script one statement at a time up
  to the first failure, undoing an unfinished transaction, and forgets temporary objects.

Tables named by the queries of views and by the statements of triggers belong to the schema
and are written `main.name` when missing.
-/

namespace BillOfMaterials.Sql

/-! ## Planning changes -/

/-- What a statement runs in: the `new` and `old` rows of the trigger running it, the
parameters, the triggers running, the resolution of the statement that fired them, and
whether the schema owns the statement (a trigger's). -/
structure Context where
  outer : List Source := []
  params : List Value := []
  active : List String := []
  conflict : Option Conflict := none
  inTrigger : Bool := false
  qualify : Bool := false
  /-- The queries the statement names first (`WITH`). -/
  ctes : List (String × Bound) := []
  deriving Inhabited

namespace Context

/-- How a statement's queries run. -/
def mode (cx : Context) (probe : Bool) : QueryMode :=
  { qualify := cx.qualify, probe := probe, inTrigger := cx.inTrigger, ctes := cx.ctes }

/-- The scope a statement's expressions see outside its rows, their queries run on a
database. -/
def scope (cx : Context) (db : Database) : Scope :=
  { sources := cx.outer, params := cx.params, queries := some (db.subqueries (cx.mode false)) }

/-- The scope of a statement's expressions with a row of its own in front. -/
def withRow (cx : Context) (db : Database) (s : Source) : Scope :=
  { cx.scope db with sources := s :: cx.outer }

end Context

/-- The change a trigger is asked about. -/
inductive Change where
  | insert
  | delete
  /-- An update of the named columns. -/
  | update (columns : List String)

/-- Whether a trigger runs on a change of a table at a time. -/
def Trigger.runsOn (tr : Trigger) (table : String) (time : TriggerTime) : Change → Bool
  | .insert => sameName tr.table table && tr.time == time && (match tr.event with | .insert => true | _ => false)
  | .delete => sameName tr.table table && tr.time == time && (match tr.event with | .delete => true | _ => false)
  | .update cols =>
    sameName tr.table table && tr.time == time && (match tr.event with
      | .update [] => true
      | .update watched => watched.any fun w => cols.any (sameName w)
      | _ => false)

/-- The `new` or `old` row of a trigger. -/
def triggerSource (name : String) (cols : List Column) (vals : List Value) (rowid : Int) : Source :=
  { name := name, columns := cols, values := vals, rowid := some rowid, kind := .trigger, bare := false }

/-- What a statement changes: a table, or a view whose `INSTEAD OF` triggers do the change. -/
inductive Target where
  | table (sh : Shape)
  | view (name : String) (columns : List Column)

/-- The columns of a target. -/
def Target.columns : Target → List Column
  | .table sh => sh.columns
  | .view _ cols => cols

/-- The columns a view's rows have, or a failure of its query's names. -/
def Database.viewColumns (db : Database) (n : String) : Except SqlError (List Column) :=
  match db.namedRows (db.selectRows db.queryFuel) { probe := true } [] [] n n with
  | .ok (cols, _, _) => .ok cols
  | .error h => .error h.toError

/-- The target a statement names: a table, or a view with an `INSTEAD OF` trigger for the
change; any other view cannot be changed. -/
def Database.target (db : Database) (cx : Context) (tn : String) (change : Change) : Except SqlError Target :=
  match db.table? tn with
  | some t => .ok (.table t.shape)
  | none =>
    match db.view? tn with
    | some v => do
      let cols ← db.viewColumns v.name
      if db.triggers.any (·.runsOn tn .insteadOf change) then pure (.view v.name cols)
      else throw (logicError ("cannot modify " ++ v.name ++ " because it is a view"))
    | none => .error (noSuchTable cx.qualify tn)

/-- The upsert a statement's `ON CONFLICT` clause resolves to: the unique key it names (none
for any key), and what it does. -/
structure UpsertPlan where
  key : Option Key
  action : UpsertAction

/-- How an `INSERT` places its values: the columns they go to, and its upsert. -/
structure InsertPlan where
  columns : List Nat
  upsert : Option UpsertPlan

/-- Checks an `INSERT`: its column list, the names of its values and their number, then its
upsert, whose target must be the columns of a unique key. -/
def Database.planInsert (db : Database) (cx : Context) (target : Target) (tn : String)
    (cols : Option (List String)) (rows : InsertRows) (upsert : Option Upsert) : Except SqlError InsertPlan := do
  let tcols := target.columns
  let idx ← match cols with
    | some ns => ns.mapM fun n => match columnIndex? tcols n with
      | some i =>
        if (tcols.getD i default).generated.isSome then
          throw (logicError ("cannot INSERT into generated column \"" ++ (tcols.getD i default).name ++ "\""))
        else pure i
      | none => throw (logicError ("table " ++ tn ++ " has no column named " ++ n))
    | none => pure (match rows with
      | .defaults => []
      | _ => (List.range tcols.length).filter fun i => (tcols.getD i default).generated.isNone)
  let supplied ← match rows with
    | .values rs => do
      for es in rs do
        firstFailure (es.map (·.problems (cx.scope db) cx.inTrigger))
      pure ((rs.head?.map (·.length)).getD 0)
    | .defaults => pure 0
    | .query q =>
      match db.selectRows db.queryFuel (cx.mode true) [] q (cx.scope db) with
      | .ok (qcols, _) => pure qcols.length
      | .error h => throw h.toError
  if supplied != 0 && supplied != idx.length then
    throw (logicError (if cols.isSome then
      toString supplied ++ " values for " ++ toString idx.length ++ " columns"
      else "table " ++ tn ++ " has " ++ toString idx.length ++ " columns but " ++
        toString supplied ++ " values were supplied"))
  let plan ← match upsert, target with
    | none, _ => pure none
    | some _, .view .. => throw (logicError "cannot UPSERT a view")
    | some u, .table sh => do
      let key ← match u.target with
        | some names => do
          let wanted ← names.mapM fun n => match columnIndex? sh.columns n with
            | some i => pure i
            | none => throw (noSuchColumn none n)
          match (db.keysOf sh).find? fun k =>
              k.columns.length == wanted.length && k.columns.all fun (i, _) => wanted.contains i with
          | some k => pure (some k)
          | none => throw (logicError "ON CONFLICT clause does not match any PRIMARY KEY or UNIQUE constraint")
        | none => pure none
      pure (some ⟨key, u.action⟩)
  pure ⟨idx, plan⟩

/-- Checks the assignments of an update over a scope: each expression, then its column; then
the filter. Answers the positions assigned. -/
def checkSets (sc : Scope) (inTrigger : Bool) (cols : List Column) (sets : List (String × Expr))
    (filter : Option Expr) : Except SqlError (List (Nat × Expr)) := do
  let idx ← sets.mapM fun (n, e) => do
    e.check sc inTrigger
    match columnIndex? cols n with
    | some i =>
      if (cols.getD i default).generated.isSome then
        throw (logicError ("cannot UPDATE generated column \"" ++ (cols.getD i default).name ++ "\""))
      else pure (i, e)
    | none => throw (noSuchColumn none n)
  match filter with
  | some f => f.check sc inTrigger
  | none => pure ()
  pure idx

/-- The row a target offers expressions while names are checked. -/
def Target.blank (tn : String) : Target → Source
  | .table sh => sh.blank tn
  | .view _ cols => { name := tn, columns := cols, values := cols.map fun _ => .null, kind := .view }

/-- The row an upsert did not insert. -/
def excludedSource (sh : Shape) (vals : List Value) (rowid : Int) : Source :=
  { name := "excluded", columns := sh.columns, values := vals, rowid := some rowid, kind := .excluded, bare := false }

/-- The names of the columns of assignments. -/
def setNames (sets : List (String × Expr)) : List String := sets.map (·.1)

/-- How the queries of a trigger's statements run. -/
def triggerMode (tr : Trigger) : QueryMode := { qualify := !tr.temporary, inTrigger := true }

/-- The scope of a trigger: its `old` row for updates and deletes, its `new` row for inserts
and updates. -/
def triggerScope (tr : Trigger) (cols : List Column) (params : List Value) (queries : Subqueries) : Scope :=
  let blank := cols.map fun _ => Value.null
  let old := match tr.event with
    | .insert => []
    | _ => [triggerSource "old" cols blank 0]
  let new := match tr.event with
    | .delete => []
    | _ => [triggerSource "new" cols blank 0]
  { sources := old ++ new, params := params, queries := some queries }

/-- The context of a trigger's statements. -/
def Context.enter (cx : Context) (tr : Trigger) (srcs : List Source) : Context :=
  { outer := srcs, params := cx.params, active := tr.name :: cx.active, conflict := cx.conflict,
    inTrigger := true, qualify := !tr.temporary }

/-- The columns of a table or view, as its triggers see them. -/
def Database.columnsOf (db : Database) (n : String) : List Column :=
  match db.table? n with
  | some t => t.shape.columns
  | none => (db.viewColumns n).toOption.getD []

mutual

/-- Prepares a statement: checks its names, then those of the triggers it may fire, in the
order they are met: `BEFORE` triggers, an upsert's update and its triggers, `AFTER`
triggers. -/
def Database.prepare (db : Database) : Nat → Context → Dml → Except SqlError Unit
  | 0, _, _ => .ok ()
  | _ + 1, cx, .select q =>
    match db.selectRows db.queryFuel (cx.mode true) [] q (cx.scope db) with
    | .ok _ => .ok ()
    | .error h => .error h.toError
  | fuel + 1, cx, .insert tn _ cols rows upsert => do
    let target ← db.target cx tn .insert
    let plan ← db.planInsert cx target tn cols rows upsert
    match target with
    | .view .. => db.prepareTriggers fuel cx tn .insteadOf .insert
    | .table sh =>
      db.prepareTriggers fuel cx tn .before .insert
      if let some ⟨_, .update sets filter⟩ := plan.upsert then
        let sc : Scope := cx.withRow db (sh.blank tn)
        let sc := { sc with sources := sc.sources.take 1 ++
          [excludedSource sh (sh.columns.map fun _ => .null) 0] ++ cx.outer }
        let _ ← checkSets sc cx.inTrigger sh.columns sets filter
        db.prepareTriggers fuel cx tn .before (.update (setNames sets))
        db.prepareTriggers fuel cx tn .after (.update (setNames sets))
      db.prepareTriggers fuel cx tn .after .insert
  | fuel + 1, cx, .update tn _ sets filter => do
    let target ← db.target cx tn (.update (setNames sets))
    let _ ← checkSets (cx.withRow db (target.blank tn)) cx.inTrigger target.columns sets filter
    match target with
    | .view .. => db.prepareTriggers fuel cx tn .insteadOf (.update (setNames sets))
    | .table _ =>
      db.prepareTriggers fuel cx tn .before (.update (setNames sets))
      db.prepareTriggers fuel cx tn .after (.update (setNames sets))
  | fuel + 1, cx, .delete tn filter => do
    let target ← db.target cx tn .delete
    if let some f := filter then f.check (cx.withRow db (target.blank tn)) cx.inTrigger
    match target with
    | .view .. => db.prepareTriggers fuel cx tn .insteadOf .delete
    | .table _ =>
      db.prepareTriggers fuel cx tn .before .delete
      db.prepareTriggers fuel cx tn .after .delete

/-- Prepares the triggers that run on a change at a time: each one's condition, then its
statements. -/
def Database.prepareTriggers (db : Database) : Nat → Context → String → TriggerTime → Change →
    Except SqlError Unit
  | 0, _, _, _, _ => .ok ()
  | fuel + 1, cx, tn, time, change =>
    (db.triggers.filter fun tr => tr.runsOn tn time change && !cx.active.contains tr.name).forM fun tr => do
      let sc := triggerScope tr (db.columnsOf tn) cx.params (db.subqueries (triggerMode tr))
      if let some c := tr.condition then c.check sc true
      tr.body.forM (db.prepare fuel (cx.enter tr sc.sources))

end

/-! ## Changes -/

/-- The default value of a column, under no row. -/
def Column.defaultValue (c : Column) : Except Halt Value :=
  match c.default with
  | some e => e.eval {}
  | none => .ok .null

/-- The row id a new row gets: one more than the largest, one in an empty table. -/
def nextRowid (rows : List Row) : Int := rows.foldl (fun m r => max m r.rowid) 0 + 1

/-- A row's values with its generated columns computed from the others, each under its
column's affinity. A generated column may read another; as many passes as there are columns
settle every chain of them. -/
def Shape.withGenerated (sh : Shape) (table : String) (rowid : Int) (vals : List Value) :
    Except Halt (List Value) :=
  if sh.columns.all (·.generated.isNone) then .ok vals
  else
    (List.range sh.columns.length).foldlM (fun vals _ =>
      sh.columns.zipIdx.foldlM (fun (vals : List Value) (c, i) =>
        match c.generated with
        | some e => do
          let v ← e.eval { sources := [sh.source table ⟨rowid, vals⟩], fixedIn := some .generated }
          pure (vals.set i (v.withAffinity (sh.affinityAt c)))
        | none => pure vals) vals) vals

/-- Checks a row against `NOT NULL`, `CHECK` and the types of a strict table, under the
statement's resolution `mode` when it has one. Answers the row to write (a `NULL` replaced by
its column's default under `REPLACE`), or none when the row is to be skipped. -/
def checkRow (db : Database) (sh : Shape) (table : String) (mode : Option Conflict) (rowid : Int)
    (vals : List Value) (outer : Scope) : Except Stop (Option (List Value)) := do
  let mut vals := vals
  for (c, i) in sh.columns.zipIdx do
    if let some cmode := c.notNull then
      if (vals.getD i .null).isNull then
        let m := mode.getD cmode
        if m == .ignore then return none
        let dflt ← if m == .replace then (c.defaultValue.mapError (·.toStop db)) else pure .null
        if m == .replace && !dflt.isNull then vals := vals.set i (dflt.withAffinity (sh.affinityAt c))
        else throw (failWith (if m == .replace then .abort else m) db
          ⟨1299, "NOT NULL constraint failed: " ++ sh.name ++ "." ++ c.name⟩)
  let sc : Scope := { outer with sources := [sh.source table ⟨rowid, vals⟩], fixedIn := some .check }
  for k in sh.checks do
    let v ← (k.expr.eval sc).mapError (·.toStop db)
    if v.truth? == some false then
      let m := mode.getD .abort
      if m == .ignore then return none
      throw (failWith (if m == .replace then .abort else m) db ⟨275, "CHECK constraint failed: " ++ k.label⟩)
  if sh.strict then
    for (c, v) in sh.columns.zip vals do
      if let some kind := Shape.strictRefusal? c.type v then
        throw (.abort ⟨3091, "cannot store " ++ kind ++ " value in " ++ c.type ++ " column " ++
          sh.name ++ "." ++ c.name⟩)
  return some vals

/-- Whether a filter holds of a row. -/
def holds (db : Database) (sc : Scope) : Option Expr → Except Stop Bool
  | some f => do pure ((← (f.eval sc).mapError (·.toStop db)).truth? == some true)
  | none => .ok true

/-- Values after assignments over a scope. -/
def assign (db : Database) (sc : Scope) (vals : List Value) (sets : List (Nat × Expr)) :
    Except Stop (List Value) :=
  sets.foldlM (fun (vs : List Value) (i, e) => do pure (vs.set i (← (e.eval sc).mapError (·.toStop db)))) vals

/-- Continues past a row left alone by `RAISE(IGNORE)`. -/
def skipIgnored : Except Stop Database → Except Stop Database
  | .error (.ignore db) => .ok db
  | r => r

mutual

/-- Runs the triggers of a table that match a change at a time, newest first, skipping those
already running; `old` and `new` are the rows with their ids. -/
def fireTriggers : Nat → Database → Context → String → TriggerTime → Change →
    Option (List Value × Int) → Option (List Value × Int) → Except Stop Database
  | 0, _, _, _, _, _, _, _ => .error (.abort (logicError "too many levels of trigger recursion"))
  | fuel + 1, db, cx, table, time, change, old, new =>
    let trs := db.triggers.filter fun tr => tr.runsOn table time change && !cx.active.contains tr.name
    trs.foldlM (fun db tr => runTrigger fuel db cx tr old new) db

/-- Runs one trigger: its condition under `new` and `old`, then its body in order. -/
def runTrigger : Nat → Database → Context → Trigger → Option (List Value × Int) →
    Option (List Value × Int) → Except Stop Database
  | 0, _, _, _, _, _ => .error (.abort (logicError "too many levels of trigger recursion"))
  | fuel + 1, db, cx, tr, old, new => do
    let cols := db.columnsOf tr.table
    let srcs := (old.map fun (v, r) => triggerSource "old" cols v r).toList ++
      (new.map fun (v, r) => triggerSource "new" cols v r).toList
    let sc : Scope := { sources := srcs, params := cx.params, queries := some (db.subqueries (triggerMode tr)) }
    if !(← holds db sc tr.condition) then return db
    tr.body.foldlM (fun db d => execDml fuel db (cx.enter tr srcs) d) db

/-- Runs a statement that reads or changes rows. -/
def execDml : Nat → Database → Context → Dml → Except Stop Database
  | 0, _, _, _ => .error (.abort (logicError "too many levels of trigger recursion"))
  | _ + 1, db, cx, .select q => do
    let _ ← (db.selectRows db.queryFuel (cx.mode false) [] q (cx.scope db)).mapError (·.toStop db)
    pure db
  | fuel + 1, db, cx, .insert tn conflict cols rows upsert => do
    let target ← (db.target cx tn .insert).mapError Stop.abort
    let plan ← (db.planInsert cx target tn cols rows upsert).mapError Stop.abort
    let tcols := target.columns
    let given : List (List Value) ← match rows with
      | .values rs => rs.mapM fun es => (evalAll (cx.scope db) es).mapError (·.toStop db)
      | .defaults => pure [[]]
      | .query q => do
        let (_, rs) ← (db.selectRows db.queryFuel (cx.mode false) [] q (cx.scope db)).mapError (·.toStop db)
        pure rs
    let mode := cx.conflict.orElse fun _ => conflict
    given.foldlM (fun db vals => do
      let full ← tcols.zipIdx.mapM fun (c, i) =>
        match plan.columns.idxOf? i with
        | some j => pure (vals.getD j .null)
        | none => c.defaultValue.mapError (·.toStop db)
      match target with
      | .table _ => skipIgnored (insertRow fuel db cx tn mode plan.upsert full)
      | .view .. => skipIgnored (fireTriggers fuel db cx tn .insteadOf .insert none (some (full, 0)))) db
  | fuel + 1, db, cx, .update tn conflict sets filter => do
    let target ← (db.target cx tn (.update (setNames sets))).mapError Stop.abort
    let setIdx ← (checkSets (cx.withRow db (target.blank tn)) cx.inTrigger target.columns sets filter).mapError Stop.abort
    let mode := cx.conflict.orElse fun _ => conflict
    match target with
    | .view v _ => do
      let (_, _, srcs) ← (db.namedRows (db.selectRows db.queryFuel) (cx.mode false) [] cx.params v tn).mapError (·.toStop db)
      srcs.zipIdx.foldlM (fun db (src, i) => do
        let sc := cx.withRow db src
        if !(← holds db sc filter) then return db
        let newVals ← assign db sc src.values setIdx
        skipIgnored (fireTriggers fuel db cx tn .insteadOf (.update (setNames sets))
          (some (src.values, i)) (some (newVals, i)))) db
    | .table sh => do
      let some t := db.table? tn | pure db
      let chosen ← t.rows.filterM fun r => holds db (cx.withRow db (sh.source tn r)) filter
      chosen.foldlM (fun db r => do
        let some t := db.table? tn | pure db
        let some cur := t.rows.find? (·.rowid == r.rowid) | pure db
        let newVals ← assign db (cx.withRow db (sh.source tn cur)) cur.values setIdx
        skipIgnored (updateRow fuel db cx tn mode cur newVals (setNames sets))) db
  | fuel + 1, db, cx, .delete tn filter => do
    let target ← (db.target cx tn .delete).mapError Stop.abort
    match target with
    | .view v _ => do
      let (_, _, srcs) ← (db.namedRows (db.selectRows db.queryFuel) (cx.mode false) [] cx.params v tn).mapError (·.toStop db)
      srcs.zipIdx.foldlM (fun db (src, i) => do
        if !(← holds db (cx.withRow db src) filter) then return db
        skipIgnored (fireTriggers fuel db cx tn .insteadOf .delete (some (src.values, i)) none)) db
    | .table sh => do
      let some t := db.table? tn | pure db
      let chosen ← t.rows.filterM fun r => holds db (cx.withRow db (sh.source tn r)) filter
      chosen.foldlM (fun db r => skipIgnored (deleteRow fuel db cx tn r)) db

/-- Inserts a row of values for every column. -/
def insertRow : Nat → Database → Context → String → Option Conflict → Option UpsertPlan →
    List Value → Except Stop Database
  | 0, _, _, _, _, _, _ => .error (.abort (logicError "too many levels of trigger recursion"))
  | fuel + 1, db, cx, tn, mode, plan, vals => do
    let some t := db.table? tn | pure db
    let sh := t.shape
    let vals ← match sh.rowid with
      | some i =>
        match vals.getD i .null with
        | .null => pure vals
        | v => match v.withAffinity .integer with
          | .int n => pure (vals.set i (.int n))
          | _ => throw (.abort ⟨20, "datatype mismatch"⟩)
      | none => pure vals
    let vals := sh.withAffinities vals
    let given : Option Int := sh.rowid.bind fun i => match vals.getD i .null with
      | .int n => some n
      | _ => none
    let vals ← (sh.withGenerated tn (given.getD (-1)) vals).mapError (·.toStop db)
    let db ← fireTriggers fuel db cx tn .before .insert none (some (vals, given.getD (-1)))
    let some t := db.table? tn | pure db
    let rowid := given.getD (nextRowid t.rows)
    let vals := match sh.rowid with
      | some i => vals.set i (.int rowid)
      | none => vals
    let some vals ← checkRow db sh tn mode rowid vals (cx.scope db) | pure db
    if let some p := plan then
      let inTheWay := match p.key with
        | some k => t.rows.find? fun (r : Row) => clash k vals r.values
        | none => (db.keysOf sh).findSome? fun k => t.rows.find? fun (r : Row) => clash k vals r.values
      if let some old := inTheWay then
        match p.action with
        | .nothing => return db
        | .update sets filter =>
          let sc : Scope := { cx.scope db with sources := [sh.source tn old, excludedSource sh vals rowid] ++ cx.outer }
          if !(← holds db sc filter) then return db
          let setIdx := sets.filterMap fun (n, e) => (columnIndex? sh.columns n).map (·, e)
          let newVals ← assign db sc old.values setIdx
          return ← updateRow fuel db cx tn (some .abort) old newVals (setNames sets)
    let mut rows := t.rows
    for k in db.keysOf sh do
      if rows.any fun r => clash k vals r.values then
        let m := (mode.orElse fun _ => k.conflict).getD .abort
        if m == .ignore then return db
        else if m == .replace then rows := rows.filter fun r => !clash k vals r.values
        else throw (failWith m db (sh.keyError k))
    let db := db.setRows tn (insertByRowid ⟨rowid, vals⟩ rows)
    fireTriggers fuel db cx tn .after .insert none (some (vals, rowid))

/-- Updates a row to new values; `changed` names the columns set. -/
def updateRow : Nat → Database → Context → String → Option Conflict → Row → List Value →
    List String → Except Stop Database
  | 0, _, _, _, _, _, _, _ => .error (.abort (logicError "too many levels of trigger recursion"))
  | fuel + 1, db, cx, tn, mode, old, newVals, changed => do
    let some t := db.table? tn | pure db
    let sh := t.shape
    let newVals ← match sh.rowid with
      | some i =>
        match (newVals.getD i .null).withAffinity .integer with
        | .int n => pure (newVals.set i (.int n))
        | _ => throw (.abort ⟨20, "datatype mismatch"⟩)
      | none => pure newVals
    let newVals := sh.withAffinities newVals
    let newRowid : Int := match sh.rowid with
      | some i => match newVals.getD i .null with
        | .int n => n
        | _ => old.rowid
      | none => old.rowid
    let newVals ← (sh.withGenerated tn newRowid newVals).mapError (·.toStop db)
    let db ← fireTriggers fuel db cx tn .before (.update changed) (some (old.values, old.rowid))
      (some (newVals, newRowid))
    let some t := db.table? tn | pure db
    let some cur := t.rows.find? (·.rowid == old.rowid) | pure db
    let setCols := sh.columns.zipIdx.filter fun (c, _) => changed.any (sameName c.name)
    let newVals := setCols.foldl (fun (vs : List Value) (_, i) => vs.set i (newVals.getD i .null)) cur.values
    let newVals ← (sh.withGenerated tn newRowid newVals).mapError (·.toStop db)
    let some newVals ← checkRow db sh tn mode newRowid newVals (cx.scope db) | pure db
    let mut others := t.rows.filter (·.rowid != old.rowid)
    for k in db.keysOf sh do
      if others.any fun r => clash k newVals r.values then
        let m := (mode.orElse fun _ => k.conflict).getD .abort
        if m == .ignore then return db
        else if m == .replace then others := others.filter fun r => !clash k newVals r.values
        else throw (failWith m db (sh.keyError k))
    let db := db.setRows tn (insertByRowid ⟨newRowid, newVals⟩ others)
    fireTriggers fuel db cx tn .after (.update changed) (some (old.values, old.rowid))
      (some (newVals, newRowid))

/-- Deletes a row. -/
def deleteRow : Nat → Database → Context → String → Row → Except Stop Database
  | 0, _, _, _, _ => .error (.abort (logicError "too many levels of trigger recursion"))
  | fuel + 1, db, cx, tn, r => do
    let db ← fireTriggers fuel db cx tn .before .delete (some (r.values, r.rowid)) none
    let some t := db.table? tn | pure db
    if !(t.rows.any (·.rowid == r.rowid)) then return db
    let db := db.setRows tn (t.rows.filter (·.rowid != r.rowid))
    fireTriggers fuel db cx tn .after .delete (some (r.values, r.rowid)) none

end

/-! ## Renaming -/

/-- A name, renamed when it is `old`, up to ASCII case. -/
def renameIn (old new n : String) : String := if sameName n old then new else n

/-- What a renaming changes: the names of columns, and the names of tables (where a table is
read or written, and before a column). -/
structure Renaming where
  column : String → String
  table : String → String

mutual

/-- An expression renamed. -/
def Expr.rename (r : Renaming) : Expr → Expr
  | .literal v => .literal v
  | .param i => .param i
  | .column t n q => .column (t.map r.table) (r.column n) q
  | .neg e => .neg (e.rename r)
  | .pos e => .pos (e.rename r)
  | .bitNot e => .bitNot (e.rename r)
  | .not e => .not (e.rename r)
  | .arith op a b => .arith op (a.rename r) (b.rename r)
  | .cmp op a b => .cmp op (a.rename r) (b.rename r)
  | .and a b => .and (a.rename r) (b.rename r)
  | .or a b => .or (a.rename r) (b.rename r)
  | .isNull e neg => .isNull (e.rename r) neg
  | .collate e c => .collate (e.rename r) c
  | .cast e ty => .cast (e.rename r) ty
  | .call fn args d => .call fn (renameAll r args) d
  | .between e lo hi neg => .between (e.rename r) (lo.rename r) (hi.rename r) neg
  | .inList e items neg => .inList (e.rename r) (renameAll r items) neg
  | .like g e p esc neg => .like g (e.rename r) (p.rename r) (renameMaybe r esc) neg
  | .case s arms o => .case (renameMaybe r s) (renameArms r arms) (renameMaybe r o)
  | .raise a m => .raise a m
  | .subquery q => .subquery (q.rename r)
  | .exists q => .exists (q.rename r)
  | .inQuery e q neg => .inQuery (e.rename r) (q.rename r) neg

/-- Expressions renamed. -/
def renameAll (r : Renaming) : List Expr → List Expr
  | [] => []
  | e :: es => e.rename r :: renameAll r es

/-- The arms of a `CASE` renamed. -/
def renameArms (r : Renaming) : List (Expr × Expr) → List (Expr × Expr)
  | [] => []
  | (w, t) :: rest => (w.rename r, t.rename r) :: renameArms r rest

/-- An optional expression renamed. -/
def renameMaybe (r : Renaming) : Option Expr → Option Expr
  | some e => some (e.rename r)
  | none => none

/-- An item of a `SELECT` list renamed. -/
def SelectItem.rename (r : Renaming) : SelectItem → SelectItem
  | .star => .star
  | .tableStar t => .tableStar (r.table t)
  | .expr e a t => .expr (e.rename r) a t

/-- Items of a `SELECT` list renamed. -/
def renameItems (r : Renaming) : List SelectItem → List SelectItem
  | [] => []
  | i :: is => i.rename r :: renameItems r is

/-- A table of a `FROM` clause renamed. -/
def FromItem.rename (r : Renaming) : FromItem → FromItem
  | .named n a => .named (r.table n) a
  | .query q a => .query (q.rename r) a

/-- A join condition renamed. -/
def JoinOn.rename (r : Renaming) : JoinOn → JoinOn
  | .none => .none
  | .on e => .on (e.rename r)
  | .using ns => .using (ns.map r.column)
  | .natural => .natural

/-- The tables of a `FROM` clause renamed. -/
def renameSources (r : Renaming) : List (FromItem × JoinKind × JoinOn) → List (FromItem × JoinKind × JoinOn)
  | [] => []
  | (f, k, on) :: rest => (f.rename r, k, on.rename r) :: renameSources r rest

/-- The terms of an `ORDER BY` renamed. -/
def renameTerms (r : Renaming) : List (Expr × Bool × Option Bool) → List (Expr × Bool × Option Bool)
  | [] => []
  | (e, d, n) :: rest => (e.rename r, d, n) :: renameTerms r rest

/-- Rows of `VALUES` renamed. -/
def renameRows (r : Renaming) : List (List Expr) → List (List Expr)
  | [] => []
  | es :: rest => renameAll r es :: renameRows r rest

/-- The named queries of a `WITH` renamed. -/
def renameCtes (r : Renaming) : List (String × Option (List String) × Select) →
    List (String × Option (List String) × Select)
  | [] => []
  | (n, cols, q) :: rest => (n, cols, q.rename r) :: renameCtes r rest

/-- A query renamed. -/
def Select.rename (r : Renaming) : Select → Select
  | .core d items sources filter groupBy having =>
    .core d (renameItems r items) (renameSources r sources) (renameMaybe r filter) (renameAll r groupBy)
      (renameMaybe r having)
  | .values rows => .values (renameRows r rows)
  | .compound op a b => .compound op (a.rename r) (b.rename r)
  | .ordered q terms limit offset =>
    .ordered (q.rename r) (renameTerms r terms) (renameMaybe r limit) (renameMaybe r offset)
  | .withCtes ctes body => .withCtes (renameCtes r ctes) (body.rename r)

end

/-- Renames column `old` to `new`. -/
def columnRenaming (old new : String) : Renaming := ⟨renameIn old new, id⟩

/-- Renames table `old` to `new`. -/
def tableRenaming (old new : String) : Renaming := ⟨id, renameIn old new⟩

/-- A statement on table `new` where it was on `old`. -/
def Dml.renameTable (old new : String) : Dml → Dml
  | .insert t c cols rows up =>
    .insert (renameIn old new t) c cols (match rows with
      | .query q => .query (q.rename (tableRenaming old new))
      | r => r) up
  | .update t c sets f => .update (renameIn old new t) c sets f
  | .delete t f => .delete (renameIn old new t) f
  | .select q => .select (q.rename (tableRenaming old new))

/-- Assignments with column `old` renamed. -/
def renameSets (old new : String) (sets : List (String × Expr)) : List (String × Expr) :=
  sets.map fun (n, e) => (renameIn old new n, e.rename (columnRenaming old new))

/-- A statement with references to column `old` renamed. -/
def Dml.renameColumn (old new : String) : Dml → Dml
  | .insert t c cols rows up =>
    .insert t c (cols.map (·.map (renameIn old new)))
      (match rows with
        | .values rs => .values (renameRows (columnRenaming old new) rs)
        | .query q => .query (q.rename (columnRenaming old new))
        | .defaults => .defaults)
      (up.map fun u => { target := u.target.map (·.map (renameIn old new)),
                         action := match u.action with
                           | .nothing => .nothing
                           | .update sets f => .update (renameSets old new sets) (f.map (·.rename (columnRenaming old new))) })
  | .update t c sets f => .update t c (renameSets old new sets) (f.map (·.rename (columnRenaming old new)))
  | .delete t f => .delete t (f.map (·.rename (columnRenaming old new)))
  | .select q => .select (q.rename (columnRenaming old new))

/-- The text of a `CHECK` label with the name `old` renamed where it stands as a name of its own:
not a function's name and not before a `.`. -/
def relabel (old new label : String) : String :=
  let src := label.toList
  let ts := lex src
  let spans := ts.zipIdx.filterMap fun (l, i) =>
    let next := ts[i + 1]?
    let beforeCall := next.any fun m => m.isSym "(" || m.isSym "."
    match l.token with
    | .word w => if sameName w old && !beforeCall then some (l.start, l.stop, new) else none
    | .quotedName w =>
      if sameName w old && !beforeCall then some (l.start, l.stop, "\"" ++ new ++ "\"") else none
    | _ => none
  let (out, pos) := spans.foldl (fun (acc : String × Nat) (a, b, r) =>
    (acc.1 ++ String.ofList ((src.drop acc.2).take (a - acc.2)) ++ r, b)) ("", 0)
  out ++ String.ofList (src.drop pos)

/-- Whether a default is a value as written: a literal, signed, cast or with a collation. -/
def Expr.isPlainValue : Expr → Bool
  | .literal _ => true
  | .neg e | .pos e | .cast e _ | .collate e _ => e.isPlainValue
  | _ => false

namespace Database

/-- Enough fuel for the triggers of a database: every trigger running at most once on the
way down, a few steps each. -/
def triggerFuel (db : Database) : Nat := 8 * (db.triggers.length + 2)

/-- The rows of a query. -/
def query (db : Database) (q : Select) (params : List Value := []) : Except SqlError (List (List Value)) :=
  match db.selectRows db.queryFuel {} [] q { params := params } with
  | .ok (_, rows) => .ok rows
  | .error h => .error h.toError

/-- How a statement failed: the failure, and the database a `FAIL` keeps. -/
structure Failure where
  error : SqlError
  kept : Option Database := none
  deriving Inhabited

/-- Checks the names of the items a statement answers for each row it changes (`RETURNING`):
they read the row of its table. -/
def checkReturning (db : Database) (cx : Context) (d : Dml) (returning : List SelectItem) : Except SqlError Unit :=
  if returning.isEmpty then .ok ()
  else
    let target : Option (String × Change) := match d with
      | .insert tn .. => some (tn, .insert)
      | .update tn _ sets _ => some (tn, .update (setNames sets))
      | .delete tn _ => some (tn, .delete)
      | .select _ => none
    match target with
    | some (tn, change) => do
      let t ← db.target cx tn change
      let blank := t.blank tn
      firstFailure (returning.map (itemProblems (cx.withRow db blank) [blank] false))
    | none => .ok ()

/-- Runs a statement that reads or changes rows in a context, once prepared, with the items it
answers checked; a failure undoes it, but for `FAIL`. -/
def execIn (db : Database) (cx : Context) (d : Dml) (returning : List SelectItem) : Except Failure Database := do
  (db.prepare db.triggerFuel cx d).mapError (⟨·, none⟩)
  (db.checkReturning cx d returning).mapError (⟨·, none⟩)
  match Sql.execDml (db.triggerFuel + 1) db cx d with
  | .ok db => .ok db
  | .error (.ignore db) => .ok db
  | .error (.fail e kept) => .error ⟨e, kept⟩

/-- Runs a statement that reads or changes rows, with parameters. -/
def execDml (db : Database) (d : Dml) (params : List Value := []) : Except Failure Database :=
  db.execIn { params := params } d []

/-- Whether a name is taken by a table or a view; the failure names which. -/
def nameTaken (db : Database) (n : String) : Option String :=
  match db.table? n, db.view? n with
  | some t, _ => some ("table " ++ t.shape.name ++ " already exists")
  | _, some v => some ("view " ++ v.name ++ " already exists")
  | none, none => none

/-- The types a column of a strict table may have. -/
def strictTypes : List String := ["INT", "INTEGER", "REAL", "TEXT", "BLOB", "ANY"]

/-- Creates a table: the name must be free, a strict table's columns typed, a table without
row ids keyed, and the names in its checks known. -/
def createTable (db : Database) (ine : Bool) (sh : Shape) : Except SqlError Database := do
  if let some m := db.nameTaken sh.name then
    if ine then return db else throw (logicError m)
  if (upper sh.name).startsWith "SQLITE_" then
    throw (logicError ("object name reserved for internal use: " ++ sh.name))
  if sh.strict then
    for c in sh.columns do
      if c.type.isEmpty then throw (logicError ("missing datatype for " ++ sh.name ++ "." ++ c.name))
      if !strictTypes.contains c.type then
        throw (logicError ("unknown datatype for " ++ sh.name ++ "." ++ c.name ++ ": \"" ++ c.type ++ "\""))
  if sh.withoutRowid && !(sh.keys.any (·.kind == .primary)) then
    throw (logicError ("PRIMARY KEY missing on table " ++ sh.name))
  let probe (place : Fixed) : Scope := { sources := [sh.blank sh.name], fixedIn := some place }
  let checkFailure := firstFailure (sh.checks.map fun k => k.expr.problems (probe .check) false)
  let generatedFailure :=
    firstFailure (sh.columns.filterMap fun c => c.generated.map (·.problems (probe .generated) false))
  match generatedFailure, checkFailure with
  | .error e, _ => throw e
  | _, .error e => throw e
  | _, _ => pure ()
  if sh.columns.all (·.generated.isSome) then
    throw (logicError "must have at least one non-generated column")
  pure { db with tables := db.tables ++ [{ shape := sh }] }

/-- The type a column made from a query's result is declared with: the standard name of its
affinity, none for a blob. -/
def declaredType : Affinity → String
  | .integer => "INT"
  | .text => "TEXT"
  | .real => "REAL"
  | .numeric => "NUM"
  | .blob => ""

/-- Creates a table from a query: its columns are the query's, named apart, with the type of
their affinity (and no collation: the schema text keeps none), and its rows the query's rows
under those types. -/
def createTableAs (db : Database) (ine : Bool) (n : String) (temp : Bool) (q : Select) :
    Except SqlError Database := do
  if let some m := db.nameTaken n then
    if ine then return db else throw (logicError m)
  if (upper n).startsWith "SQLITE_" then
    throw (logicError ("object name reserved for internal use: " ++ n))
  let (cols, rows) ← (db.selectRows db.queryFuel {} [] q {}).mapError (·.toError)
  let cols := (distinctColumns cols).map fun c =>
    ({ name := c.name, type := declaredType c.affinity } : Column)
  let sh : Shape := { name := n, columns := cols, temporary := temp }
  let rows := rows.zipIdx.map fun (vals, i) => ({ rowid := i + 1, values := sh.withAffinities vals } : Row)
  pure { db with tables := db.tables ++ [{ shape := sh, rows := rows }] }

/-- Creates a view; the name must be free. -/
def createView (db : Database) (ine : Bool) (v : View) : Except SqlError Database := do
  if let some m := db.nameTaken v.name then
    if ine then return db else throw (logicError m)
  pure { db with views := db.views ++ [v] }

/-- Creates a trigger on a table, or with `INSTEAD OF` on a view. -/
def createTrigger (db : Database) (ine : Bool) (tr : Trigger) : Except SqlError Database := do
  let isView := (db.view? tr.table).isSome
  if (db.table? tr.table).isNone && !isView then
    throw (logicError ("no such table: main." ++ tr.table))
  if db.triggers.any (sameName ·.name tr.name) then
    if ine then return db else throw (logicError ("trigger " ++ tr.name ++ " already exists"))
  if isView && tr.time != .insteadOf then
    throw (logicError ("cannot create " ++ (if tr.time == .before then "BEFORE" else "AFTER") ++
      " trigger on view: " ++ tr.table))
  if !isView && tr.time == .insteadOf then
    throw (logicError ("cannot create INSTEAD OF trigger on table: " ++ tr.table))
  pure { db with triggers := tr :: db.triggers }

/-- Creates an index; a unique one must hold of the rows already there. -/
def createIndex (db : Database) (ine : Bool) (ix : Index) : Except SqlError Database := do
  if db.indexes.any (sameName ·.name ix.name) then
    if ine then return db else throw (logicError ("index " ++ ix.name ++ " already exists"))
  if (db.table? ix.name).isSome || (db.view? ix.name).isSome then
    throw (logicError ("there is already a table named " ++ ix.name))
  let some t := db.table? ix.table
    | if (db.view? ix.table).isSome then throw (logicError "views may not be indexed")
      else throw (logicError ("no such table: main." ++ ix.table))
  for (n, _) in ix.columns do
    if (columnIndex? t.shape.columns n).isNone then throw (noSuchColumn none n)
  let db' := { db with indexes := db.indexes ++ [ix] }
  if ix.unique then
    if let some k := (db'.keysOf t.shape).getLast? then
      let bad := t.rows.zipIdx.any fun (r, i) => (t.rows.drop (i + 1)).any fun s => clash k r.values s.values
      if bad then throw (t.shape.keyError k)
  pure db'

/-- Drops an object; a table takes its triggers and indexes with it. -/
def drop (db : Database) (kind : ObjectKind) (ie : Bool) (n : String) : Except SqlError Database :=
  match kind with
  | .table =>
    match db.table? n, db.view? n with
    | some t, _ =>
      let tn := t.shape.name
      .ok { db with
            tables := db.tables.filter (!sameName ·.shape.name tn),
            triggers := db.triggers.filter (!sameName ·.table tn),
            indexes := db.indexes.filter (!sameName ·.table tn) }
    | none, some v => .error (logicError ("use DROP VIEW to delete view " ++ v.name))
    | none, none => if ie then .ok db else .error (logicError ("no such table: " ++ n))
  | .view =>
    match db.view? n, db.table? n with
    | some v, _ =>
      .ok { db with
            views := db.views.filter (!sameName ·.name v.name),
            triggers := db.triggers.filter (!sameName ·.table v.name) }
    | none, some t => .error (logicError ("use DROP TABLE to delete table " ++ t.shape.name))
    | none, none => if ie then .ok db else .error (logicError ("no such view: " ++ n))
  | .trigger =>
    if db.triggers.any (sameName ·.name n) then .ok { db with triggers := db.triggers.filter (!sameName ·.name n) }
    else if ie then .ok db else .error (logicError ("no such trigger: " ++ n))
  | .index =>
    if db.indexes.any (sameName ·.name n) then .ok { db with indexes := db.indexes.filter (!sameName ·.name n) }
    else if ie then .ok db else .error (logicError ("no such index: " ++ n))

/-- Runs an `ALTER TABLE`. -/
def alter (db : Database) (tn : String) : Alteration → Except SqlError Database
  | .renameTable n => do
    let isView := (db.view? tn).isSome
    if (db.table? tn).isNone && !isView then throw (noSuchTable false tn)
    if (db.table? n).isSome || (db.view? n).isSome || db.indexes.any (sameName ·.name n) then
      throw (logicError ("there is already another table or index with this name: " ++ n))
    if (upper n).startsWith "SQLITE_" then throw (logicError ("object name reserved for internal use: " ++ n))
    let some t := db.table? tn
      | throw (logicError ("view " ++ ((db.view? tn).map (·.name)).getD tn ++ " may not be altered"))
    let old := t.shape.name
    let tables := db.tables.map fun u =>
      if sameName u.shape.name old then { u with shape := { u.shape with name := n } } else u
    let triggers := db.triggers.map fun tr =>
      { tr with table := renameIn old n tr.table, body := tr.body.map (Dml.renameTable old n) }
    let indexes := db.indexes.map fun ix => { ix with table := renameIn old n ix.table }
    let views := db.views.map fun v => { v with query := v.query.rename (tableRenaming old n) }
    pure { db with tables, triggers, indexes, views }
  | .renameColumn oldName newName => do
    let some t := db.table? tn
      | match db.view? tn with
        | some v => throw (logicError ("cannot rename columns of view \"" ++ v.name ++ "\""))
        | none => throw (noSuchTable false tn)
    let sh := t.shape
    let some i := columnIndex? sh.columns oldName
      | throw (logicError ("no such column: \"" ++ oldName ++ "\""))
    if sh.columns.zipIdx.any fun (c, j) => j != i && sameName c.name newName then
      throw (logicError ("duplicate column name: " ++ newName))
    let old := (sh.columns.getD i default).name
    let columns := sh.columns.map fun c =>
      { c with name := if sameName c.name old then newName else c.name,
               generated := c.generated.map (·.rename (columnRenaming old newName)) }
    let checks := sh.checks.map fun k =>
      { k with expr := k.expr.rename (columnRenaming old newName), label := relabel old newName k.label,
               column := k.column.map (renameIn old newName) }
    let shape := { sh with columns, checks }
    let tables := db.tables.map fun u => if sameName u.shape.name sh.name then { u with shape } else u
    let indexes := db.indexes.map fun ix =>
      if sameName ix.table sh.name then
        { ix with columns := ix.columns.map fun (n, c) => (renameIn old newName n, c) }
      else ix
    let triggers := db.triggers.map fun tr =>
      if sameName tr.table sh.name then
        { tr with
          event := match tr.event with
            | .update cols => .update (cols.map (renameIn old newName))
            | e => e
          condition := tr.condition.map (·.rename (columnRenaming old newName))
          body := tr.body.map (Dml.renameColumn old newName) }
      else tr
    let views := db.views.map fun v =>
      if v.query.readsTable sh.name then { v with query := v.query.rename (columnRenaming old newName) } else v
    pure { db with tables, indexes, triggers, views }
  | .addColumn d => do
    let some t := db.table? tn
      | if (db.view? tn).isSome then throw (logicError "Cannot add a column to a view")
        else throw (noSuchTable false tn)
    let sh := t.shape
    let c := d.column
    if (columnIndex? sh.columns c.name).isSome then throw (logicError ("duplicate column name: " ++ c.name))
    if d.primary then throw (logicError "Cannot add a PRIMARY KEY column")
    if d.unique then throw (logicError "Cannot add a UNIQUE column")
    let filled := !t.rows.isEmpty
    let dflt := match c.default with
      | some (.literal .null) => none
      | e => e
    if c.generated.isNone then
      if c.notNull.isSome && dflt.isNone && filled then
        throw (logicError "Cannot add a NOT NULL column with default value NULL")
      if (dflt.map (!·.isPlainValue)).getD false && filled then
        throw (logicError "Cannot add a column with non-constant default")
    let shape := { sh with columns := sh.columns ++ [{ c with default := dflt }], checks := sh.checks ++ d.checks }
    let value := match dflt with
      | some e => ((e.eval {}).toOption.getD .null).withAffinity (shape.affinityAt c)
      | none => .null
    let rows ← t.rows.mapM fun r =>
      match shape.withGenerated shape.name r.rowid (r.values ++ [value]) with
      | .ok vals => pure { r with values := vals }
      | .error h => throw h.toError
    if !shape.checks.isEmpty || (c.notNull.isSome && c.generated.isSome) || shape.strict then
      for r in rows do
        for k in shape.checks do
          let sc : Scope := { sources := [shape.source shape.name r], fixedIn := some .check }
          if ((k.expr.eval sc).toOption.bind (·.truth?)) == some false then
            throw ⟨1811, "CHECK constraint failed"⟩
        if c.notNull.isSome && (r.values.getLast?.getD .null).isNull then
          throw ⟨1811, "NOT NULL constraint failed"⟩
    let tables := db.tables.map fun u => if sameName u.shape.name sh.name then { shape, rows } else u
    pure { db with tables }
  | .dropColumn n => do
    let some t := db.table? tn
      | match db.view? tn with
        | some v => throw (logicError ("cannot drop column from view \"" ++ v.name ++ "\""))
        | none => throw (noSuchTable false tn)
    let sh := t.shape
    let some i := columnIndex? sh.columns n | throw (logicError ("no such column: \"" ++ n ++ "\""))
    let name := (sh.columns.getD i default).name
    let inKey (kind : KeyKind) := sh.keys.any fun k => k.kind == kind && k.columns.any (·.1 == i)
    if inKey .primary then throw (logicError ("cannot drop PRIMARY KEY column: \"" ++ name ++ "\""))
    if inKey .unique then throw (logicError ("cannot drop UNIQUE column: \"" ++ name ++ "\""))
    if sh.columns.length ≤ 1 then
      throw (logicError ("cannot drop column \"" ++ name ++ "\": no other columns exist"))
    let shift (j : Nat) : Nat := if j > i then j - 1 else j
    let shape : Shape := { sh with
      columns := sh.columns.eraseIdx i
      keys := sh.keys.map fun k => { k with columns := k.columns.map fun (j, c) => (shift j, c) }
      checks := sh.checks.filter fun k => !(k.column.any (sameName · name))
      rowid := sh.rowid.map shift }
    let probe (place : Fixed) : Scope := { sources := [shape.blank shape.name], fixedIn := some place }
    let problems := (shape.checks.map fun k => k.expr.problems (probe .check) false) ++
      shape.columns.filterMap fun c => c.generated.map (·.problems (probe .generated) false)
    if let .error e := firstFailure problems then
      throw (logicError ("error in table " ++ shape.name ++ " after drop column: " ++ e.message))
    for ix in db.indexes do
      if sameName ix.table sh.name && ix.columns.any (sameName ·.1 name) then
        throw (logicError ("error in index " ++ ix.name ++ " after drop column: no such column: " ++ name))
    let rows := t.rows.map fun r => { r with values := r.values.eraseIdx i }
    let tables := db.tables.map fun u => if sameName u.shape.name sh.name then { shape, rows } else u
    pure { db with tables }

/-- Runs a statement other than a transaction's start or end. -/
def exec (db : Database) : Statement → Except Failure Database
  | .createTable ine sh => (db.createTable ine sh).mapError (⟨·, none⟩)
  | .createTableAs ine n temp q => (db.createTableAs ine n temp q).mapError (⟨·, none⟩)
  | .createView ine v => (db.createView ine v).mapError (⟨·, none⟩)
  | .createTrigger ine tr => (db.createTrigger ine tr).mapError (⟨·, none⟩)
  | .createIndex ine ix => (db.createIndex ine ix).mapError (⟨·, none⟩)
  | .drop kind ie n => (db.drop kind ie n).mapError (⟨·, none⟩)
  | .alter t a => (db.alter t a).mapError (⟨·, none⟩)
  | .dml ctes d returning => db.execIn { ctes := ctes.map fun (n, cols, q) => (n, .query cols q) } d returning
  | .begin | .commit | .rollback _ | .savepoint _ | .release _ | .noop => .ok db

/-- Forgets the temporary objects, as closing the connection that made them does. -/
def dropTemporary (db : Database) : Database :=
  { db with
    tables := db.tables.filter (!·.shape.temporary), views := db.views.filter (!·.temporary),
    triggers := db.triggers.filter (!·.temporary) }

/-- An open transaction: the database when it began, whether `BEGIN` began it (else its first
savepoint did), and its savepoints, newest first, each with the database when it was set. -/
structure Transaction where
  before : Database
  begun : Bool
  savepoints : List (String × Database) := []

/-- The savepoints of a transaction from the newest one of a name on, if it has one. -/
def Transaction.from? (t : Transaction) (n : String) : Option (List (String × Database)) :=
  match t.savepoints.dropWhile (!sameName ·.1 n) with
  | [] => none
  | kept => some kept

/-- Runs statements from lexemes, one at a time, in the open transaction if there is one. A
failure stops the run; the database is then as the failed statement left it, or as before
the transaction when one is open. `fuel` bounds the statements. -/
def runFrom (src : List Char) : Nat → Database → Option Transaction → List Lexeme →
    Database × Option SqlError
  | 0, db, _, _ => (db, none)
  | fuel + 1, db, open_, ts =>
    let stop (db : Database) (e : SqlError) : Database × Option SqlError :=
      match open_ with
      | some t => (t.before, some e)
      | none => (db, some e)
    let noSavepoint (n : String) : SqlError := logicError ("no such savepoint: " ++ n)
    match nextStatement src ts.length ts with
    | .error e => stop db e
    | .ok none => ((open_.map (·.before)).getD db, none)
    | .ok (some (st, rest)) =>
      match st with
      | .begin =>
        if open_.isSome then stop db (logicError "cannot start a transaction within a transaction")
        else runFrom src fuel db (some ⟨db, true, []⟩) rest
      | .commit =>
        if open_.isNone then stop db (logicError "cannot commit - no transaction is active")
        else runFrom src fuel db none rest
      | .rollback none =>
        match open_ with
        | some t => runFrom src fuel t.before none rest
        | none => stop db (logicError "cannot rollback - no transaction is active")
      | .savepoint n =>
        match open_ with
        | some t => runFrom src fuel db (some { t with savepoints := (n, db) :: t.savepoints }) rest
        | none => runFrom src fuel db (some ⟨db, false, [(n, db)]⟩) rest
      | .rollback (some n) =>
        match open_.bind fun t => (t.from? n).map (t, ·) with
        | some (t, kept@((_, at_) :: _)) => runFrom src fuel at_ (some { t with savepoints := kept }) rest
        | _ => stop db (noSavepoint n)
      | .release n =>
        match open_.bind fun t => (t.from? n).map (t, ·) with
        | some (t, _ :: older) =>
          -- releasing the savepoint that began the transaction commits it
          if older.isEmpty && !t.begun then runFrom src fuel db none rest
          else runFrom src fuel db (some { t with savepoints := older }) rest
        | _ => stop db (noSavepoint n)
      | _ =>
        match db.exec st with
        | .ok db => runFrom src fuel db open_ rest
        | .error f => stop (f.kept.getD db) f.error

/-- Runs a script on a connection of its own: statements in order up to the first failure,
which is answered with the database as that failure left it. A transaction left open is
undone, and temporary objects go with the connection. -/
def runScript (db : Database) (script : String) : Database × Option SqlError :=
  let src := script.toList
  let ts := lex src
  let (db, err) := runFrom src (ts.length + 1) db none ts
  (db.dropTemporary, err)

/-- Runs a script, failing at its first failure. -/
def run (db : Database) (script : String) : Except SqlError Database :=
  match db.runScript script with
  | (db, none) => .ok db
  | (_, some e) => .error e

end Database

end BillOfMaterials.Sql
