import BillOfMaterials.Cli.Program
import BillOfMaterials.Client.Local
import BillOfMaterials.Seed.Program
import BillOfMaterials.Server.Program

/-!
# The command line

One executable for the three programs, chosen by the first argument: `client`, `seed` or
`server`, the other arguments going to the program. The programs are pure; this layer only
reads the environment, prints what a run wrote and exits with its status.

A run starts from a machine of its own: the usual system files, a working directory, and no
database server, graph server or object service to reach. The client reaches the service at
`bom.test` in the same process.
-/

namespace BillOfMaterials

/-- The environment variables the programs read. -/
def variableNames : List String :=
  ["PORT", "ENV", "LOG_LEVEL", "STORE_BACKEND", "SAVE_DEBOUNCE_MS", "SHUTDOWN_TIMEOUT_SEC",
   "SQLITE_PATH", "POSTGRES_DSN", "NEO4J_URI", "NEO4J_USER", "NEO4J_PASSWORD", "S3_BUCKET",
   "S3_REGION", "S3_ENDPOINT", "S3_KEY", "S3_PATH_STYLE", "BOM_SERVER_URL"]

/-- The backends of a run working in `cwd`, with the named profile of shared settings. -/
def localBackends (cwd : String) (profile : Option String) : Backends :=
  { files := Files.standard cwd, postgres := { socketDir := "" }, graph := {}, objects := {}, profile }

/-- The usage text of the executable. -/
def commandUsage : String := "usage: bom client|seed|server [args]\n"

/-- Runs the program a command line names. -/
def runCommandLine (env : Environment) (cwd : String) (profile : Option String) :
    List String → ProgramRun
  | "client" :: args => (clientProgram env args Service.hostLink {}).1
  | "seed" :: args => (seedProgram env args (localBackends cwd profile)).1
  | "server" :: _ => (serverProgram env (localBackends cwd profile)).1
  | _ => { stderr := [.text commandUsage], exit := 2 }

end BillOfMaterials

/-- Reads the environment, runs the program named by the arguments, prints what it wrote and
exits with its status. -/
def main (args : List String) : IO UInt32 := do
  let env ← BillOfMaterials.variableNames.filterMapM fun n => do
    pure ((← IO.getEnv n).map fun v => (n, v))
  let cwd := ((← IO.getEnv "PWD").getD "/")
  let profile ← IO.getEnv "AWS_PROFILE"
  let run := BillOfMaterials.runCommandLine env cwd profile args
  IO.print run.stdout
  IO.eprint run.stderrText
  pure (UInt32.ofNat run.exit)
