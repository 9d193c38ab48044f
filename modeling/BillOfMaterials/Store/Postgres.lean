import BillOfMaterials.Store.Codec
import BillOfMaterials.Fault
import BillOfMaterials.Http.Url
import BillOfMaterials.Store.Files

/-!
# A relational server

A database server reached over a socket, holding one payload text for the store, that can be
told to fail any step of the conversation a store has with it.

The store connects with a connection string, a `postgres://` URL or `key=value` pairs (`host`,
`port`, `user`, `dbname`; a value may be quoted, blanks may stand around `=`), pings the server
and makes sure its table exists; loading is one query, saving a transaction of one upsert. A
string that does not read is quoted in the failure with its passwords hidden.

The server's own side of the load and the save is `PgServer.select` and `PgServer.upsert`: the
payload it holds, and the payload replaced. A failed step answers
`ERROR: message (SQLSTATE XX000)`; a refused start-up is written with the address the client
dialled, and a failed ping is the bad connection of the client library.
-/

namespace BillOfMaterials

/-- The steps of the conversation between a store and its server. -/
inductive PgStep where
  | startup
  | ping
  | create
  | select
  | begin
  | insert
  | commit
  deriving DecidableEq, Inhabited

/-- A server: the directory of its socket, the payload it holds, and the steps it is told to
fail with a message. -/
structure PgServer where
  socketDir : String
  payload : Option String := none
  failures : List (PgStep × String) := []
  deriving Inhabited

/-- The settings of a connection string. Unset, the host is the usual socket directory, the
port the usual one, and the user the account the client runs under, which is `root`. -/
structure PgSettings where
  host : String := "/tmp"
  port : String := "5432"
  user : String := "root"
  database : String := ""
  deriving Inhabited

namespace PgSettings

/-- The characters a connection string counts as blanks. -/
def isBlank (c : Char) : Bool :=
  c = ' ' || c = '\t' || c = '\n' || c = '\r' || c = '\x0b' || c = '\x0c'

/-- A value with its escapes undone: a doubled backslash is one, then a backslash before a quote
is the quote. -/
def unescape (cs : List Char) : String :=
  ((String.ofList cs).replace "\\\\" "\\").replace "\\\x27" "\x27"

/-- The characters of a bare value: up to a blank, a backslash taking the character after it
along. `none` when a backslash ends the text. -/
def bareValue : List Char → Option (List Char × List Char)
  | [] => some ([], [])
  | c :: rest =>
    if isBlank c then some ([], rest)
    else if c = '\\' then
      match rest with
      | [] => none
      | d :: more => (bareValue more).map fun (v, r) => (c :: d :: v, r)
    else (bareValue rest).map fun (v, r) => (c :: v, r)

/-- The characters of a quoted value, after its opening quote: up to the closing quote, a
backslash taking the character after it along. `none` when no quote closes it. -/
def quotedValue : List Char → Option (List Char × List Char)
  | [] => none
  | c :: rest =>
    if c = '\x27' then some ([], rest)
    else if c = '\\' then
      match rest with
      | [] => none
      | d :: more => (quotedValue more).map fun (v, r) => (c :: d :: v, r)
    else (quotedValue rest).map fun (v, r) => (c :: v, r)

/-- The `key=value` pairs of a connection string, in order; `dbname` is read as `database`.
Blanks may stand around the `=`, and a value may be quoted. Every pair takes an `=`, so `fuel`
one more than the length is enough. -/
def keywordPairs : Nat → List Char → Except String (List (String × String))
  | 0, _ => .error "invalid keyword/value"
  | _, [] => .ok []
  | fuel + 1, cs => do
    let some i := cs.idxOf? '=' | throw "invalid keyword/value"
    let key := String.ofList (((cs.take i).dropWhile isBlank).reverse.dropWhile isBlank).reverse
    let rest := (cs.drop (i + 1)).dropWhile isBlank
    let (value, rest) ← match rest with
      | [] => pure ([], [])
      | '\x27' :: quoted =>
        match quotedValue quoted with
        | some r => pure r
        | none => throw "unterminated quoted string in connection info string"
      | _ =>
        match bareValue rest with
        | some r => pure r
        | none => throw "invalid backslash"
    let key := if key == "dbname" then "database" else key
    if key.isEmpty then throw "invalid keyword/value"
    let more ← keywordPairs fuel rest
    pure ((key, unescape value) :: more)

/-- Replaces every match of a pattern by `mask`: the pattern is `lead`, then a run of
characters of which `body` holds, then `close` when one is given (no match without it). Every
step takes at least one character, so `fuel` one more than the length is enough. -/
def hideAfter (lead : List Char) (body : Char → Bool) (close : Option Char) (mask : String) :
    Nat → List Char → List Char
  | 0, cs => cs
  | _, [] => []
  | fuel + 1, c :: rest =>
    let cs := c :: rest
    let after := cs.drop lead.length
    let run := after.takeWhile body
    let tail := after.drop run.length
    let matched : Option (List Char) :=
      if lead.isEmpty || !lead.isPrefixOf cs then none
      else match close, tail with
        | none, _ => some tail
        | some q, d :: more => if d = q then some more else none
        | some _, [] => none
    match matched with
    | some more => mask.toList ++ hideAfter lead body close mask fuel more
    | none => c :: hideAfter lead body close mask fuel rest

/-- Replaces `:secret@` by `:xxxxxx@`: a colon, the fewest characters that are neither a
colon nor `@` (one at least), then `@`. -/
def hideUserPassword : Nat → List Char → List Char
  | 0, cs => cs
  | _, [] => []
  | fuel + 1, c :: rest =>
    let run := rest.takeWhile fun d => d ≠ ':' && d ≠ '@'
    match c, rest.drop run.length with
    | ':', '@' :: more =>
      if run.isEmpty then c :: hideUserPassword fuel rest
      else ":xxxxxx@".toList ++ hideUserPassword fuel more
    | _, _ => c :: hideUserPassword fuel rest

/-- A connection string with its passwords hidden, as a failure to read it shows it: a URL
that reads is written again with its password as `xxxxx`; any other string has its
`password=` values and `:secret@` runs masked. -/
def redact (dsn : String) : String :=
  let isUrl := dsn.startsWith "postgres://" || dsn.startsWith "postgresql://"
  match isUrl, Http.Url.parse dsn with
  | true, .ok u =>
    let u := match u.user with
      | some ui => if ui.password.isSome then
          { u with user := some { ui with password := some (Http.bytesOf "xxxxx") } } else u
      | none => u
    u.toText
  | _, _ =>
    let cs := dsn.toList
    let cs := hideAfter "password=\x27".toList (· ≠ '\x27') (some '\x27') "password=xxxxx"
      (cs.length + 1) cs
    let cs := hideAfter "password=".toList (· ≠ ' ') none "password=xxxxx" (cs.length + 1) cs
    String.ofList (hideUserPassword (cs.length + 1) cs)

/-- Splits `host:port` at its last colon, a bracketed host taking colons inside its brackets;
the failure is in the words of the network library. -/
def splitHostPort (hp : String) : Except String (String × String) := do
  let cs := hp.toList
  let refuse (why : String) : Except String (String × String) := .error ("address " ++ hp ++ ": " ++ why)
  let some last := (cs.zipIdx.filter (·.1 = ':')).getLast?.map (·.2) | refuse "missing port in address"
  let (host, j, k) ← if cs.head? = some '[' then
      match cs.idxOf? ']' with
      | none => refuse "missing \x27]\x27 in address" >>= fun _ => pure ("", 0, 0)
      | some e =>
        if e + 1 = cs.length then refuse "missing port in address" >>= fun _ => pure ("", 0, 0)
        else if e + 1 = last then pure (String.ofList ((cs.take e).drop 1), 1, e + 1)
        else if cs.getD (e + 1) ' ' = ':' then refuse "too many colons in address" >>= fun _ => pure ("", 0, 0)
        else refuse "missing port in address" >>= fun _ => pure ("", 0, 0)
    else
      let host := cs.take last
      if host.contains ':' then refuse "too many colons in address" >>= fun _ => pure ("", 0, 0)
      else pure (String.ofList host, 0, 0)
  if (cs.drop j).contains '[' then refuse "unexpected \x27[\x27 in address" >>= fun _ => pure ()
  if (cs.drop k).contains ']' then refuse "unexpected \x27]\x27 in address" >>= fun _ => pure ()
  pure (host, String.ofList (cs.drop (last + 1)))

/-- The settings in a URL connection string: the user and password, the hosts and ports, the
database as the path, and the query's pairs over them, each key with its first value. -/
def urlPairs (dsn : String) : Except String (List (String × String)) := do
  let u ← (Http.Url.parse dsn).mapError fun e => e.reason.message
  let user := match u.user with
    | some ui => [("user", Http.textOf ui.username)] ++
        (match ui.password with
          | some pw => [("password", Http.textOf pw)]
          | none => [])
    | none => []
  let pieces := (Http.textOf u.host).splitOn ","
  let hostPorts ← pieces.filterMapM fun (h : String) => do
    if h.isEmpty then pure none
    else if !h.contains ':' || (h.startsWith "[" && h.endsWith "]") then
      pure (some (String.ofList ((h.toList.dropWhile (· = '[')).reverse.dropWhile (· = ']')).reverse, ""))
    else
      let (host, port) ← (splitHostPort h).mapError fun e =>
        "failed to split host:port in \x27" ++ h ++ "\x27, err: " ++ e
      pure (some (host, port))
  let hosts := (hostPorts.map (·.1)).filter (!·.isEmpty)
  let ports := (hostPorts.map (·.2)).filter (!·.isEmpty)
  let database := String.ofList ((Http.textOf u.path).toList.dropWhile (· = '/'))
  -- a key given twice in the query counts with its first value
  let query := ((Http.queryPairs u.rawQuery).map fun (k, v) => (Http.textOf k, Http.textOf v)).foldl
    (fun (acc : List (String × String)) (k, v) => if acc.any (·.1 == k) then acc else acc ++ [(k, v)]) []
  let query := query.map fun (k, v) => (if k == "dbname" then "database" else k, v)
  pure (user ++ (if hosts.isEmpty then [] else [("host", ",".intercalate hosts)]) ++
    (if ports.isEmpty then [] else [("port", ",".intercalate ports)]) ++
    (if database.isEmpty then [] else [("database", database)]) ++ query)

/-- Why a text is not a decimal integer of `bits` bits, as the number library says it, if it
is not: an optional sign, then digits. -/
def intFailure? (s : String) (bits : Nat) : Option String :=
  let (neg, ds) := match s.toList with
    | '-' :: ds => (true, ds)
    | '+' :: ds => (false, ds)
    | ds => (false, ds)
  if ds.isEmpty || !ds.all Char.isDigit then
    some ("strconv.ParseInt: parsing " ++ Text.quote s ++ ": invalid syntax")
  else
    let n := ds.foldl (fun n c => n * 10 + (c.toNat - '0'.toNat)) 0
    let limit := Nat.pow 2 (bits - 1)
    if (neg && n > limit) || (!neg && n ≥ limit) then
      some ("strconv.ParseInt: parsing " ++ Text.quote s ++ ": value out of range")
    else none

/-- Why a port does not read, if it does not: decimal digits naming 1 to 65535. -/
def portFailure? (p : String) : Option String :=
  if p.isEmpty || !p.all Char.isDigit then
    some ("strconv.ParseUint: parsing " ++ Text.quote p ++ ": invalid syntax")
  else
    let n := p.foldl (fun n c => n * 10 + (c.toNat - '0'.toNat)) 0
    if n > 65535 then some ("strconv.ParseUint: parsing " ++ Text.quote p ++ ": value out of range")
    else if n = 0 then some "outside range"
    else none

/-- The last value a setting is given, if any. -/
def lookupLast (pairs : List (String × String)) (k : String) : Option String :=
  (pairs.filter (·.1 == k)).getLast?.map (·.2)

/-- Reads a connection string, a URL or `key=value` pairs, over the defaults, then checks its
settings in the order the client library does: the connect timeout, the port of every host,
the TLS mode of a host that is not a socket directory, the session attributes, then the
statement and description cache sizes and the query mode. -/
def parse (dsn : String) : Except String PgSettings := do
  let refuse (what why : String) : String :=
    "cannot parse " ++ "\x60" ++ redact dsn ++ "\x60" ++ ": " ++ what ++ " (" ++ why ++ ")"
  let isUrl := dsn.startsWith "postgres://" || dsn.startsWith "postgresql://"
  let pairs ← if isUrl then (urlPairs dsn).mapError (refuse "failed to parse as URL")
    else (keywordPairs (dsn.length + 1) dsn.toList).mapError (refuse "failed to parse as keyword/value")
  let get (k : String) : Option String := lookupLast pairs k
  let s : PgSettings := {
    host := (get "host").getD "/tmp", port := (get "port").getD "5432",
    user := (get "user").getD "root", database := (get "database").getD "" }
  if let some t := get "connect_timeout" then
    if let some why := intFailure? t 64 then throw (refuse "invalid connect_timeout" why)
    if t.startsWith "-" && t.any (fun c => c ≠ '-' && c ≠ '0') then
      throw (refuse "invalid connect_timeout" "negative timeout")
  let hosts := s.host.splitOn ","
  let ports := s.port.splitOn ","
  for (h, i) in hosts.zipIdx do
    let p := ports.getD i (ports.headD "")
    if let some why := portFailure? p then throw (refuse "invalid port" why)
    if !h.startsWith "/" then
      let mode := (get "sslmode").getD ""
      if !(["", "disable", "allow", "prefer", "require", "verify-ca", "verify-full"].contains mode) then
        throw (refuse "failed to configure TLS" "sslmode is invalid")
  let tsa := (get "target_session_attrs").getD "any"
  if !(["any", "read-write", "read-only", "primary", "standby", "prefer-standby"].contains tsa) then
    throw ("cannot parse " ++ "\x60" ++ redact dsn ++ "\x60" ++ ": unknown target_session_attrs value: " ++ tsa)
  for k in ["statement_cache_capacity", "description_cache_capacity"] do
    if let some v := get k then
      if let some why := intFailure? v 32 then throw ("cannot parse " ++ k ++ ": " ++ why)
  if let some m := get "default_query_exec_mode" then
    if !(["cache_statement", "cache_describe", "describe_exec", "exec", "simple_protocol"].contains m) then
      throw ("invalid default_query_exec_mode: " ++ m)
  pure s

/-- The hosts a client tries in turn, each with its port: the port at the same place in the
list of ports, or the first one when that list is shorter. A port is read as a number. -/
def targets (s : PgSettings) : List (String × Nat) :=
  let ports := s.port.splitOn ","
  (s.host.splitOn ",").zipIdx.map fun (h, i) => (h, ((ports.getD i (ports.headD "")).toNat?).getD 0)

/-- The socket a client dials for a host and port: the socket file in the host's directory,
the path cleaned. -/
def socketOf (host : String) (port : Nat) : String := Path.clean (host ++ "/.s.PGSQL.") ++ toString port

/-- How a failed connection names itself: one failure after the user and database, several one
to a line. -/
def connectFailure (s : PgSettings) (reasons : List String) : String :=
  let lead := "failed to connect to " ++ "\x60" ++ "user=" ++ s.user ++ " database=" ++ s.database ++ "\x60" ++ ":"
  match reasons with
  | [r] => lead ++ " " ++ r
  | rs => lead ++ "\n\t" ++ "\n\t".intercalate rs

end PgSettings

namespace PgServer

/-- The message a server gives for a step it fails. -/
def failure? (srv : PgServer) (k : PgStep) : Option String := srv.failures.lookup k

/-- A failed step as the client writes it. -/
def stepError (severity message : String) : String :=
  severity ++ ": " ++ message ++ " (SQLSTATE XX000)"

/-- The payload the server answers the select of the store's row with, if it holds one. -/
def select (srv : PgServer) : Option String := srv.payload

/-- The server after the upsert of the store's row: it holds the payload given. -/
def upsert (srv : PgServer) (payload : String) : PgServer := { srv with payload := some payload }

/-- Connects with a connection string: the server must be at the dialled socket and accept the
start-up, then the ping and the table. -/
def connect (srv : PgServer) (dsn : String) : Except Fault Unit := do
  let open_ (m : String) : Fault := .storeFailed "postgres" "open" (some (.text m))
  let s ← (PgSettings.parse dsn).mapError fun m => open_ ("ping postgres: " ++ m)
  let attempt : String × Nat → Except String Unit := fun (h, p) =>
    let sock := PgSettings.socketOf h p
    if sock ≠ PgSettings.socketOf srv.socketDir 5432 then
      .error (sock ++ " (" ++ h ++ "): dial error: dial unix " ++ sock ++ ": connect: no such file or directory")
    else match srv.failure? .startup with
      | some m => .error (sock ++ " (" ++ h ++ "): server error: " ++ stepError "FATAL" m)
      | none => .ok ()
  let outcomes := s.targets.map attempt
  if !outcomes.any (·.toBool) then
    throw (open_ ("ping postgres: " ++ s.connectFailure (outcomes.filterMap fun
      | .error e => some e
      | .ok () => none)))
  if (srv.failure? .ping).isSome then throw (open_ "ping postgres: driver: bad connection")
  if let some m := srv.failure? .create then
    throw (open_ ("ensure state table: " ++ stepError "ERROR" m))

/-- Loads the stored snapshot: none stored is the empty one. -/
def load (srv : PgServer) : Except Fault StoredSnapshot :=
  match srv.failure? .select with
  | some m => .error (.storeFailed "postgres" "load" (some (.text (stepError "ERROR" m))))
  | none =>
    match srv.select with
    | none => .ok {}
    | some t => (StoredSnapshot.decode t).mapError fun e =>
        .storeFailed "postgres" "decode" (some (.text e.message))

/-- Saves a snapshot in one transaction. -/
def save (srv : PgServer) (s : Snapshot) : Except Fault PgServer := do
  let failed (m : String) : Fault := .storeFailed "postgres" "save" (some (.text m))
  if let some m := srv.failure? .begin then throw (failed (stepError "ERROR" m))
  if let some m := srv.failure? .insert then throw (failed ("upsert parts: " ++ stepError "ERROR" m))
  if let some m := srv.failure? .commit then throw (failed (stepError "ERROR" m))
  pure (srv.upsert s.encode)

end PgServer

end BillOfMaterials
