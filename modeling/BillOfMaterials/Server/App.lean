import BillOfMaterials.Api.Service
import BillOfMaterials.Engine.Journal
import BillOfMaterials.Store.Backend
import BillOfMaterials.Server.Listen

/-!
# The server

An `App` ties the engine, its store and the routes together.

* `App.start`: opens the store, loads it and restores the graph on a fresh engine; a refused
  snapshot is labelled `restore snapshot`. It logs `Graph restored` with the backend and the
  counts, after the engine's own entry;
* `App.handle`: answers a request through the routes. A change of the graph marks a save as
  pending, as the saver's change hook does;
* `App.serve`: listens on the configured port until it is stopped, then flushes a pending save.
  The answer is the first failure: that of the listener, else that of the last save. Between
  the two the server logs that it shuts down. When saves come while serving does not change
  what is stored at the end, so serving is modelled by its end.
-/

namespace BillOfMaterials

open Http

/-- A server: its configuration, logger, store and routes, and the change count of the engine
at the last save. -/
structure App where
  cfg : Config
  logger : Logger
  store : Store
  service : Service
  saved : Nat := 0
  deriving Inhabited

namespace App

/-- Starts a server on the backends; the entries are what it logged. A start that fails after
the store was opened leaves the backends as the store left them. -/
def start (cfg : Config) (w : Backends) (logger : Logger) :
    Except (Fault × Backends) App × List LogEntry :=
  match Store.connect cfg w logger with
  | .error f => (.error (f, w), [])
  | .ok (st, opened) =>
    match st.load with
    | .error f => (.error (f, w.close st), opened)
    | .ok stored =>
      let snap := stored.toSnapshot
      match Engine.restoreLogged {} logger snap with
      | (.error f, logs) => (.error (.labelled "restore snapshot" f, w.close st), opened ++ logs)
      | (.ok e, logs) =>
        let stats := e.stats
        let restored := (logger.entry? .info "Graph restored" [("backend", .string cfg.storeBackend),
          ("parts", .ofNat stats.parts), ("edges", .ofNat stats.edges)]).toList
        (.ok { cfg, logger, store := st, service := { engine := e }, saved := e.changes },
          opened ++ logs ++ restored)

/-- The backends with what the server's store changed put back. -/
def backendsAfter (a : App) (w : Backends) : Backends := w.close a.store

/-- Whether a save is pending. -/
def pending (a : App) : Bool := a.service.engine.changes ≠ a.saved

/-- Answers one request. -/
def handle (a : App) (req : Request) : Response × App :=
  let (r, s) := a.service.handle req
  (r, { a with service := s })

/-- Answers requests in order. -/
def handleAll (a : App) : List Request → List Response × App
  | [] => ([], a)
  | r :: rs =>
    let (x, a) := a.handle r
    let (xs, a) := a.handleAll rs
    (x :: xs, a)

/-- Saves the graph when a save is pending. -/
def flushPending (a : App) : Except Fault App × List LogEntry :=
  if a.pending then
    match a.store.flush a.service.engine a.logger with
    | (.ok st, logs) => (.ok { a with store := st, saved := a.service.engine.changes }, logs)
    | (.error f, logs) => (.error f, logs)
  else (.ok a, [])

/-- Serves until stopped, then flushes; the entries are what it logged. -/
def serve (a : App) : Except Fault Unit × App × List LogEntry :=
  let started := (a.logger.entry? .info "Server started" [("port", .string a.cfg.port)]).toList
  let stopping := (a.logger.entry? .info "Shutting down server..." []).toList
  let listen := (listenFailure? a.cfg.port).map fun m => Fault.text ("listen: " ++ m)
  match a.flushPending with
  | (.ok a, logs) =>
    ((match listen with
      | some f => .error f
      | none => .ok ()), a, started ++ stopping ++ logs)
  | (.error f, logs) => (.error (listen.getD f), a, started ++ stopping ++ logs)

end App

end BillOfMaterials
