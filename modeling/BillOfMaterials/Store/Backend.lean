import BillOfMaterials.Store.Files
import BillOfMaterials.Store.Postgres
import BillOfMaterials.Store.Graph
import BillOfMaterials.Store.Objects
import BillOfMaterials.Config
import BillOfMaterials.Engine

/-!
# Stores

A `Store` keeps the whole graph for the next start: `Store.load` reads the last snapshot saved
(the empty one when none was) and `Store.save` replaces it. The backend is chosen by the
configuration when the store is opened (`Store.connect`):

* `memory` or nothing: the encoded snapshot in the store itself, with a count of saves;
* `sqlite`: a database file; opening makes the directories above it and the `state` table,
  loading and saving read and write the row of bucket `parts`;
* `postgres`: a `PgServer`;
* `neo4j`: a `GraphServer`, the graph as nodes and edges rather than one text;
* `s3`: an object of an `ObjectService`; the bucket is required, and a named profile of
  shared settings must exist.

Anything else is refused as a configuration error. What a store works on lies outside it in
`Backends`; `Backends.close` puts back what a store changed. `Store.flush` is one save of an
engine's graph, as the saver makes it.
-/

namespace BillOfMaterials

/-- What the stores of a program work on: its files and the servers it can reach. -/
structure Backends where
  files : Files
  postgres : PgServer
  graph : GraphServer
  objects : ObjectService
  /-- The named profile of shared settings the object client is told to use, if any. -/
  profile : Option String := none
  /-- The profiles of shared settings that exist. -/
  profiles : List String := []
  deriving Inhabited

/-- An open store. -/
inductive Store where
  | memory (data : String) (saves : Nat)
  | sqlite (files : Files) (path : String) (db : Sql.Database)
  | postgres (server : PgServer)
  | graph (server : GraphServer)
  | objects (service : ObjectService) (bucket key : String)
  deriving Inhabited

namespace Store

/-- The table a database store keeps its snapshot in. -/
def stateTable : String :=
  "CREATE TABLE IF NOT EXISTS state (\n\t\tbucket TEXT PRIMARY KEY,\n\t\tpayload BLOB NOT NULL\n\t)"

/-- The bucket the snapshot is kept under. -/
def bucket : String := "parts"

/-- The query that reads the snapshot: `SELECT payload FROM state WHERE bucket = ?`. -/
def loadQuery : Sql.Select :=
  .core false [.expr (.column none "payload" false) none "payload"] [(.named "state" none, .inner, .none)]
    (some (.cmp .eq (.column none "bucket" false) (.param 0))) [] none

/-- The statement that writes the snapshot: `INSERT INTO state(bucket,payload) VALUES(?,?)
ON CONFLICT(bucket) DO UPDATE SET payload=excluded.payload`. -/
def saveStatement : Sql.Dml :=
  .insert "state" none (some ["bucket", "payload"]) (.values [[.param 0, .param 1]])
    (some ⟨some ["bucket"], .update [("payload", .column (some "excluded") "payload" false)] none⟩)

/-- Numbers read as bytes are written the shortest way that reads back, with an exponent
from a million on and below a ten-thousandth. -/
def shortestLayout : Layout :=
  { digits := none, lowest := -4, highest := 5, pointZero := false,
    infinity := "+Inf", negInfinity := "-Inf", nan := "NaN", zero := "0", negZero := "-0" }

/-- The bytes the snapshot is read back as: a real in its shortest text, another number in its
text, `NULL` as nothing. -/
def payloadBytes : Sql.Value → List UInt8
  | .real x => Text.Utf8.bytes (x.render shortestLayout)
  | v => v.byteForm.getD []

/-- The name of a backend as logs show it: nothing is `memory`. -/
def backendName (b : String) : String := if b.isEmpty then "memory" else b

/-- Opens a database file: its directories, then its `state` table. -/
def openSqlite (fs : Files) (path : String) : Except Fault Store := do
  let path := if path.isEmpty then "bom.db" else path
  let failed (m : String) : Fault := .storeFailed "sqlite" "open" (some (.text m))
  let fs ← (fs.mkdirAll (Path.dir path)).mapError fun m => failed ("create dirs: " ++ m)
  let some db := fs.openDatabase path
    | throw (failed ("create state table: " ++ (Sql.SqlError.render ⟨14, "out of memory"⟩)))
  let db ← (db.run stateTable).mapError fun e => failed ("create state table: " ++ e.render)
  pure (.sqlite fs path db)

/-- Opens the store a configuration names; the entries are what the logger gets. -/
def connect (cfg : Config) (w : Backends) (logger : Logger) : Except Fault (Store × List LogEntry) := do
  let (s, logs) ← match cfg.storeBackend with
    | "memory" | "" => pure (Store.memory "" 0, [])
    | "sqlite" => do pure (← openSqlite w.files cfg.sqlitePath, [])
    | "postgres" => do
      w.postgres.connect cfg.postgresDsn
      pure (.postgres w.postgres, [])
    | "neo4j" => do
      let logs ← (w.graph.connect cfg.neo4jUri logger).mapError fun m =>
        Fault.storeFailed "neo4j" "open" (some (.text m))
      pure (.graph w.graph, logs)
    | "s3" => do
      if cfg.s3Bucket.isEmpty then throw (.configMissing "S3_BUCKET")
      if let some p := w.profile then
        if p ≠ "default" && !w.profiles.contains p then
          throw (.storeFailed "s3" "open" (some (.text ("failed to get shared config profile, " ++ p))))
      let key := if cfg.s3Key.isEmpty then "bom/snapshot.json" else cfg.s3Key
      pure (.objects w.objects cfg.s3Bucket key, [])
    | b => throw (.configInvalid "STORE_BACKEND" ("unknown backend " ++ Text.quote b))
  let opened := (logger.entry? .info "Opened snapshot store"
    [("backend", .string (backendName cfg.storeBackend))]).toList
  pure (s, logs ++ opened)

/-- Reads the last snapshot saved. -/
def load : Store → Except Fault StoredSnapshot
  | .memory data _ =>
    (StoredSnapshot.decode data).mapError fun e => .storeFailed "memory" "decode" (some (.text e.message))
  | .sqlite _ _ db =>
    match db.query loadQuery [.text bucket] with
    | .error e => .error (.storeFailed "sqlite" "load" (some (.text e.render)))
    | .ok [] => .ok {}
    | .ok (row :: _) =>
      let text := Text.Utf8.lossy (payloadBytes (row.headD .null))
      (StoredSnapshot.decode text).mapError fun e => .storeFailed "sqlite" "decode" (some (.text e.message))
  | .postgres srv => srv.load
  | .graph srv => srv.read.mapError fun m => .storeFailed "neo4j" "load" (some (.text m))
  | .objects svc b k => svc.load b k

/-- Replaces the snapshot saved. -/
def save (st : Store) (s : Snapshot) : Except Fault Store :=
  match st with
  | .memory _ saves => .ok (.memory s.encode (saves + 1))
  | .sqlite fs path db =>
    match db.execDml saveStatement [.text bucket, .blob (Text.Utf8.bytes s.encode)] with
    | .ok db => .ok (.sqlite fs path db)
    | .error f => .error (.storeFailed "sqlite" "save" (some (.text ("upsert parts: " ++ f.error.render))))
  | .postgres srv => (srv.save s).map .postgres
  | .graph srv =>
    match srv.write s with
    | .ok srv => .ok (.graph srv)
    | .error m => .error (.storeFailed "neo4j" "save" (some (.text m)))
  | .objects svc b k => (svc.save b k s).map fun svc => .objects svc b k

/-- Replaces the snapshot saved; the entries are what the logger gets: a graph store notes
the nodes and edges it wrote. -/
def saveLogged (st : Store) (s : Snapshot) (logger : Logger) : Except Fault Store × List LogEntry :=
  match st.save s with
  | .ok (.graph srv) =>
    (.ok (.graph srv), (logger.entry? .debug "Saved graph to neo4j"
      [("parts", .ofNat s.parts.length), ("edges", .ofNat s.edgeCount)]).toList)
  | r => (r, [])

/-- Saves the graph of an engine now; the entries are what the logger gets. -/
def flush (st : Store) (e : Engine) (logger : Logger) : Except Fault Store × List LogEntry :=
  let snap := e.snapshot
  match st.saveLogged snap logger with
  | (.ok st, logs) =>
    (.ok st, logs ++ (logger.entry? .debug "Saved snapshot"
      [("parts", .ofNat snap.parts.length), ("edges", .ofNat snap.edgeCount)]).toList)
  | (.error f, logs) => (.error f, logs)

/-- How many saves a memory store has taken. -/
def saves? : Store → Option Nat
  | .memory _ n => some n
  | _ => none

end Store

namespace Backends

/-- The backends with what a store changed put back. -/
def close (w : Backends) : Store → Backends
  | .memory .. => w
  | .sqlite fs path db => { w with files := fs.putDatabase path db }
  | .postgres srv => { w with postgres := srv }
  | .graph srv => { w with graph := srv }
  | .objects svc _ _ => { w with objects := svc }

end Backends

end BillOfMaterials
