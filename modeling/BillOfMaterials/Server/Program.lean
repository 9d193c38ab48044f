import BillOfMaterials.Server.App
import BillOfMaterials.Cli.Run

/-!
# The server program

The whole command line of the server, from its environment and backends to what it logs, its
exit status, and the backends it leaves:

1. the configuration is loaded and the logger made; a refusal of either is a panic, status 2;
2. the server starts; a failure is fatal, status 1;
3. it serves until it is stopped or its listener fails; a failure is logged as an error, and
   either way the status is 0.
-/

namespace BillOfMaterials

/-- Runs the server program. -/
def serverProgram (env : Environment) (w : Backends) : ProgramRun × Backends :=
  match Config.load env with
  | .error f => (ProgramRun.panicked {} ("Failed to load configuration: " ++ f.message), w)
  | .ok cfg =>
    match Level.ofSettings cfg.env cfg.logLevel with
    | .error f => (ProgramRun.panicked {} ("Failed to initialize logger: " ++ f.message), w)
    | .ok level =>
      let logger := Logger.forEnv cfg.env level
      let run := ({ logger } : ProgramRun).log (logger.entry? .info "Starting BOM server..." []).toList
      match App.start cfg w logger with
      | (.error (f, w), logs) => ((run.log logs).fatal "Failed to initialize server" f, w)
      | (.ok a, logs) =>
        let (r, a, served) := a.serve
        let run := (run.log logs).log served
        let w := a.backendsAfter w
        match r with
        | .error f =>
          (run.log (logger.entry? .error "Server stopped with error" [("error", .string f.message)]).toList, w)
        | .ok () => (run.log (logger.entry? .info "Server exited" []).toList, w)

end BillOfMaterials
