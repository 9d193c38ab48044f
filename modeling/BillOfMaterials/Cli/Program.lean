import BillOfMaterials.Cli.Command
import BillOfMaterials.Cli.Flags
import BillOfMaterials.Cli.Run
import BillOfMaterials.Config

/-!
# The client program

The whole command line of the client, from its environment and arguments to what it writes
and its exit status:

1. the configuration is loaded; a refused one is printed, status 1;
2. the flags are read, the server defaulting to the configured one; `-h` prints the usage,
   status 0; a refused flag prints its message and the usage, status 2;
3. the logger writes errors only, or everything with `-v`;
4. the command runs: its output goes to standard output, status 0; a usage error prints the
   usage, status 2; a failed call logs `Command failed` at debug level and prints
   `error: ` and the message, status 1.
-/

namespace BillOfMaterials

open Http

variable {σ : Type}

/-- Runs the client program. -/
def clientProgram (env : Environment) (args : List String) (link : Link σ) (s : σ) :
    ProgramRun × σ :=
  match Config.load env with
  | .error f => ({ stderr := [.text (f.message ++ "\n")], exit := 1 }, s)
  | .ok cfg =>
    match parseFlags cfg.serverUrl args with
    | .help => ({ stderr := [.text clientUsage] }, s)
    | .failure msg => ({ stderr := [.text (msg ++ "\n" ++ clientUsage)], exit := 2 }, s)
    | .ok flags =>
      let logger := Logger.forEnv cfg.env (if flags.verbose then .debug else .error)
      let c := Client.new flags.server (some logger)
      match runCommand c link s flags.args with
      | (.ok out, logs, s) => ({ stdout := out, stderr := logs.map .log, logger }, s)
      | (.error .usage, logs, s) =>
        ({ stderr := logs.map .log ++ [.text clientUsage], exit := 2, logger }, s)
      | (.error e, logs, s) =>
        let failed := (logger.entry? .debug "Command failed" [("error", .string e.message)]).toList
        ({ stderr := (logs ++ failed).map .log ++ [.text ("error: " ++ e.message ++ "\n")],
           exit := 1, logger }, s)

end BillOfMaterials
