import BillOfMaterials.Seed.Sample
import BillOfMaterials.Store.Backend
import BillOfMaterials.Cli.Flags
import BillOfMaterials.Cli.Run

/-!
# The seeding program

The whole command line of the seeding program, from its environment, arguments and backends
to what it logs, its exit status, and the backends it leaves:

1. the flags are read (`-force`); a refused flag prints its message and the usage, status 2;
2. the configuration is loaded and the logger made; a refusal of either is a panic, status 2;
3. the store is opened and loaded; a failure is fatal, status 1;
4. a store that has parts is left alone unless `-force` is given, status 0;
5. the sample is seeded on a fresh engine and saved; a failure is fatal, status 1;
6. the counts of the graph are logged, status 0.
-/

namespace BillOfMaterials

/-- The flags of the seeding program. -/
def seedFlags : List FlagSpec := [⟨"force", .bool⟩]

/-- The usage text of the seeding program. -/
def seedUsage : String :=
  "Usage of bom-seed:\n  -force\n    \tOverwrite the stored graph even if it has parts\n"

/-- Runs the seeding program. -/
def seedProgram (env : Environment) (args : List String) (w : Backends) : ProgramRun × Backends :=
  match readFlags seedFlags args with
  | .help => ({ stderr := [.text seedUsage] }, w)
  | .failure m => ({ stderr := [.text (m ++ "\n" ++ seedUsage)], exit := 2 }, w)
  | .ok values _ =>
    let force := flagValue? values "force" == some "true"
    match Config.load env with
    | .error f => (ProgramRun.panicked {} ("Failed to load configuration: " ++ f.message), w)
    | .ok cfg =>
      match Level.ofSettings cfg.env cfg.logLevel with
      | .error f => (ProgramRun.panicked {} ("Failed to initialize logger: " ++ f.message), w)
      | .ok level =>
        let logger := Logger.forEnv cfg.env level
        let run := ({ logger } : ProgramRun).log (logger.entry? .info "Starting graph seeding..." []).toList
        match Store.connect cfg w logger with
        | .error f => (run.fatal "Failed to open store" f, w)
        | .ok (st, logs) =>
          let run := run.log logs
          match st.load with
          | .error f => (run.fatal "Failed to load stored graph" f, w.close st)
          | .ok existing =>
            if existing.partCount > 0 && !force then
              (run.log (logger.entry? .info "Store already has parts, skipping (use -force to overwrite)"
                [("parts", .ofNat existing.partCount)]).toList, w.close st)
            else
              let (r, e, logs) := seed {} logger bicycle
              let run := run.log logs
              match r with
              | .error f => (run.fatal "Failed to build sample graph" f, w.close st)
              | .ok () =>
                match st.saveLogged e.snapshot logger with
                | (.error f, logs) => ((run.log logs).fatal "Failed to save sample graph" f, w.close st)
                | (.ok st, logs) =>
                  let run := run.log logs
                  let stats := e.stats
                  (run.log (logger.entry? .info "Seeding completed successfully"
                    [("backend", .string cfg.storeBackend), ("parts", .ofNat stats.parts),
                     ("edges", .ofNat stats.edges)]).toList, w.close st)

end BillOfMaterials
