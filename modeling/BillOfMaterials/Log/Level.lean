import BillOfMaterials.Fault
import BillOfMaterials.Text.Case

/-!
# Log levels

Seven levels, from the most to the least verbose: `debug`, `info`, `warn`, `error`, `dpanic`,
`panic` and `fatal`. A logger set to one level writes the entries of that level and of every
level after it (`Level.enabled`).

A level is read from its name in lower or upper case as written, or else from the lower-case
form of the text (`Level.parse`); the empty text is `info`. Production logs from `info` on,
everything else from `debug` on, unless a level is given (`Level.ofSettings`).
-/

namespace BillOfMaterials

/-- A log level, least severe first. -/
inductive Level where
  | debug
  | info
  | warn
  | error
  | dpanic
  | panic
  | fatal
  deriving DecidableEq, Repr, Inhabited

namespace Level

/-- Every level, least severe first. -/
def all : List Level := [.debug, .info, .warn, .error, .dpanic, .panic, .fatal]

/-- The rank of a level in `all`. -/
def rank : Level → Nat
  | .debug => 0
  | .info => 1
  | .warn => 2
  | .error => 3
  | .dpanic => 4
  | .panic => 5
  | .fatal => 6

/-- The lower-case name of a level. -/
def name : Level → String
  | .debug => "debug"
  | .info => "info"
  | .warn => "warn"
  | .error => "error"
  | .dpanic => "dpanic"
  | .panic => "panic"
  | .fatal => "fatal"

/-- The upper-case name of a level, as log lines show it. -/
def upperName (l : Level) : String := l.name.toUpper

/-- The level a text names exactly, in lower or upper case; the empty text is `info`. -/
def ofExactName? (s : String) : Option Level :=
  if s.isEmpty then some .info
  else all.find? fun l => l.name == s || l.upperName == s

/-- Reads a level from a text, trying its lower-case form second. -/
def parse (s : String) : Except Fault Level :=
  match ofExactName? s <|> ofExactName? (Text.toLower s) with
  | some l => .ok l
  | none => .error (.text ("unrecognized level: " ++ Text.quote s))

/-- The level of a logger for an environment name and an optional level text. -/
def ofSettings (env level : String) : Except Fault Level :=
  if level.isEmpty then .ok (if env == "production" then .info else .debug)
  else parse level

/-- The levels a logger at `l` writes. -/
def enabled (l : Level) : List Level := all.filter fun m => l.rank ≤ m.rank

end Level

end BillOfMaterials
