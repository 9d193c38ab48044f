import BillOfMaterials.Fault
import BillOfMaterials.Text.Case
import BillOfMaterials.Text.Space

/-!
# Configuration

The service is configured by environment variables. A variable that is unset or empty takes its
default. Integer variables are read by `leadingInt?`, and a text it cannot read also gives the
default. Durations are nanoseconds in a signed 64-bit word, and the product of a count and its
unit wraps as such a word does, so a huge count can come out negative.

`Config.validate` checks, in this order: a port is given; the save delay is not negative; the
shutdown timeout is positive; the store backend is one of `memory`, `sqlite`, `postgres`,
`neo4j` and `s3`, with the settings that backend needs.
-/

namespace BillOfMaterials

/-- The settings of the service. -/
structure Config where
  port : String := ""
  env : String := ""
  logLevel : String := ""
  storeBackend : String := ""
  /-- How long the saver waits after a change, in nanoseconds. -/
  saveDebounce : Int64 := 0
  /-- How long a shutdown may take, in nanoseconds. -/
  shutdownTimeout : Int64 := 0
  sqlitePath : String := ""
  postgresDsn : String := ""
  neo4jUri : String := ""
  neo4jUser : String := ""
  neo4jPassword : String := ""
  s3Bucket : String := ""
  s3Region : String := ""
  s3Endpoint : String := ""
  s3Key : String := ""
  s3PathStyle : Bool := false
  serverUrl : String := ""
  deriving Inhabited

/-- Environment variables, by name. -/
abbrev Environment := List (String × String)

/-- The value of a variable, if it is set and not empty. -/
def Environment.get? (e : Environment) (name : String) : Option String :=
  match e.lookup name with
  | some v => if v.isEmpty then none else some v
  | none => none

/-- One nanosecond per unit: a millisecond. -/
def millisecond : Int64 := 1000000

/-- One nanosecond per unit: a second. -/
def second : Int64 := 1000000000

/-- The leading decimal integer of a text, as a `%d` scanner reads it: blanks first, but no
newline; then an optional sign and at least one digit; whatever follows is not looked at.
Nothing is read when a newline comes first, when there is no digit, or when the number does not
fit in a signed 64-bit word. -/
def leadingInt? (s : String) : Option Int :=
  let cs := s.toList.dropWhile fun c => Text.isSpace c && c != '\n'
  let (neg, rest) := match cs with
    | '-' :: r => (true, r)
    | '+' :: r => (false, r)
    | r => (false, r)
  let digits := rest.takeWhile fun c => '0' ≤ c && c ≤ '9'
  if digits.isEmpty then none
  else
    let n : Int := (digits.foldl (fun acc c => acc * 10 + (c.toNat - '0'.toNat)) 0 : Nat)
    let v := if neg then -n else n
    if -0x8000000000000000 ≤ v && v < 0x8000000000000000 then some v else none

namespace Config

/-- The backends a store can be opened on. -/
def backends : List String := ["memory", "sqlite", "postgres", "neo4j", "s3"]

/-- Reads the settings from the environment, then validates them. -/
def ofEnvironment (e : Environment) : Config :=
  let text (name default : String) := (e.get? name).getD default
  let int (name : String) (default : Int) := ((e.get? name).bind leadingInt?).getD default
  { port := text "PORT" "8000"
    env := text "ENV" "development"
    logLevel := text "LOG_LEVEL" ""
    storeBackend := Text.toLower (text "STORE_BACKEND" "memory")
    saveDebounce := Int64.ofInt (int "SAVE_DEBOUNCE_MS" 250) * millisecond
    shutdownTimeout := Int64.ofInt (int "SHUTDOWN_TIMEOUT_SEC" 5) * second
    sqlitePath := text "SQLITE_PATH" "data/bom.db"
    postgresDsn := text "POSTGRES_DSN" "postgres://localhost/bom?sslmode=disable"
    neo4jUri := text "NEO4J_URI" "bolt://localhost:7687"
    neo4jUser := text "NEO4J_USER" "neo4j"
    neo4jPassword := text "NEO4J_PASSWORD" "password"
    s3Bucket := text "S3_BUCKET" ""
    s3Region := text "S3_REGION" "us-east-1"
    s3Endpoint := text "S3_ENDPOINT" ""
    s3Key := text "S3_KEY" "bom/snapshot.json"
    s3PathStyle := (text "S3_PATH_STYLE" "false").toLower == "true"
    serverUrl := text "BOM_SERVER_URL" "http://localhost:8000" }

/-- The first setting that is missing or out of range. -/
def validate (c : Config) : Except Fault Unit := do
  let need (value field : String) : Except Fault Unit :=
    if value.isEmpty then throw (.configMissing field) else pure ()
  need c.port "PORT"
  if c.saveDebounce < 0 then throw (.configInvalid "SAVE_DEBOUNCE_MS" "must not be negative")
  if c.shutdownTimeout ≤ 0 then throw (.configInvalid "SHUTDOWN_TIMEOUT_SEC" "must be positive")
  match c.storeBackend with
  | "memory" => pure ()
  | "sqlite" => need c.sqlitePath "SQLITE_PATH"
  | "postgres" => need c.postgresDsn "POSTGRES_DSN"
  | "neo4j" =>
    need c.neo4jUri "NEO4J_URI"
    need c.neo4jUser "NEO4J_USER"
    need c.neo4jPassword "NEO4J_PASSWORD"
  | "s3" =>
    need c.s3Bucket "S3_BUCKET"
    need c.s3Key "S3_KEY"
  | b => throw (.configInvalid "STORE_BACKEND" ("unknown backend " ++ Text.quote b))

/-- Reads and validates the settings; a refusal is labelled as a failed validation. -/
def load (e : Environment) : Except Fault Config :=
  let c := ofEnvironment e
  match c.validate with
  | .ok () => .ok c
  | .error f => .error (.labelled "config validation failed" f)

/-- Whether the service runs in development mode. -/
def isDevelopment (c : Config) : Bool := c.env == "development"

/-- Whether the service runs in production mode. -/
def isProduction (c : Config) : Bool := c.env == "production"

end Config

end BillOfMaterials
