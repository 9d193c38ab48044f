import BillOfMaterials.Log.Level
import BillOfMaterials.Json.Value

/-!
# Log entries

What a logger writes, as data: a level, a message and named fields. A `Logger` keeps the
entries at or above its level and drops the others; a production logger writes JSON lines, a
development one tab-separated lines. Timestamps and callers are not part of an entry.
-/

namespace BillOfMaterials

/-- One log entry. -/
structure LogEntry where
  level : Level
  msg : String
  fields : List (String × Json) := []
  deriving Inhabited

/-- A logger: the least level it writes, and whether it writes production lines. -/
structure Logger where
  level : Level := .info
  production : Bool := false
  deriving Inhabited

namespace Logger

/-- The logger of an environment name at a level. -/
def forEnv (env : String) (level : Level) : Logger := { level, production := env = "production" }

/-- The entry a logger writes for a call at `lv`, if it writes that level at all. -/
def entry? (l : Logger) (lv : Level) (msg : String) (fields : List (String × Json)) :
    Option LogEntry :=
  if l.level.rank ≤ lv.rank then some { level := lv, msg, fields } else none

/-- The line a logger writes for an entry. -/
def line (l : Logger) (e : LogEntry) : String :=
  if l.production then
    (Json.object ([("level", .string e.level.name), ("msg", .string e.msg)] ++ e.fields)).render {}
  else
    e.level.upperName ++ "\t" ++ e.msg ++
      (if e.fields.isEmpty then "" else "\t" ++ (Json.object e.fields).render { htmlSafe := false })

end Logger

end BillOfMaterials
