import BillOfMaterials.Log.Entry
import BillOfMaterials.Fault

/-!
# Runs of a program

What a run of a command-line program leaves behind: what it wrote to standard output, what it
wrote to standard error (text, log entries, or the message of a panic), and its exit status.

* `ProgramRun.log`: adds log entries;
* `ProgramRun.fatal`: a fatal entry with the error, and status 1;
* `ProgramRun.panicked`: the message of a panic, and status 2.
-/

namespace BillOfMaterials

/-- Something written to standard error: text, a log entry, or the message of a panic. -/
inductive Emission where
  | text (s : String)
  | log (e : LogEntry)
  | panic (message : String)
  deriving Inhabited

/-- What a run of a program wrote, and its exit status. -/
structure ProgramRun where
  stdout : String := ""
  stderr : List Emission := []
  exit : Nat := 0
  /-- The logger of the run, which says how entries are written. -/
  logger : Logger := {}
  deriving Inhabited

/-- Standard error as text, entries written by the run's logger. -/
def ProgramRun.stderrText (r : ProgramRun) : String :=
  String.join (r.stderr.map fun
    | .text s => s
    | .log e => r.logger.line e ++ "\n"
    | .panic m => "panic: " ++ m ++ "\n")

/-- The log entries of a run. -/
def ProgramRun.logs (r : ProgramRun) : List LogEntry :=
  r.stderr.filterMap fun
    | .log e => some e
    | _ => none

/-- The message of the panic a run ended with, if it did. -/
def ProgramRun.panic? (r : ProgramRun) : Option String :=
  r.stderr.findSome? fun
    | .panic m => some m
    | _ => none

/-- A run with log entries added. -/
def ProgramRun.log (r : ProgramRun) (entries : List LogEntry) : ProgramRun :=
  { r with stderr := r.stderr ++ entries.map .log }

/-- A run ended by a fatal log entry carrying an error: status 1. -/
def ProgramRun.fatal (r : ProgramRun) (msg : String) (f : Fault) : ProgramRun :=
  { r with stderr := r.stderr ++ [.log { level := .fatal, msg, fields := [("error", .string f.message)] }],
           exit := 1 }

/-- A run ended by a panic: status 2. -/
def ProgramRun.panicked (r : ProgramRun) (message : String) : ProgramRun :=
  { r with stderr := r.stderr ++ [.panic message], exit := 2 }

end BillOfMaterials
