import BillOfMaterials.Client.Envelope
import BillOfMaterials.Client.Transport
import BillOfMaterials.Json.Reader
import BillOfMaterials.Log.Entry

/-!
# The client

A `Client` calls the API of a server at a base URL (its trailing slashes dropped) over a
`Link`. Each call builds the URL from the base, the escaped path segments and the query, and
sends the body as JSON. What comes back is read as an envelope:

1. a URL that does not parse fails the call before anything is sent;
2. a transport failure is `request failed: ...`;
3. a body that cannot be read or decoded is `failed to decode response (status N): ...`;
4. an error envelope is a `ClientError.server` with the status;
5. a status of 400 or more without an error envelope is `unexpected status N`;
6. a part view without id or name is refused;
7. calls that answer one part want exactly one.

The index call reads the body as it is, whatever the status. Every other call that gets as
far as sending logs `Calling bom server` at debug level with its method and URL, when the
client has a logger.
-/

namespace BillOfMaterials

open Http

/-- Why a call failed. -/
inductive ClientError where
  /-- The server answered with an error envelope. -/
  | server (status : Nat) (body : ErrorBody)
  /-- A part view was not trusted. -/
  | invalidView (e : PartView.Invalid)
  /-- Anything else, by its text. -/
  | other (message : String)
  deriving DecidableEq

/-- The message of a failed call. -/
def ClientError.message : ClientError → String
  | .server status body => body.message status
  | .invalidView e => e.message
  | .other m => m

/-- A client of the API: the base URL and, if calls are logged, the logger. -/
structure Client where
  base : String
  logger : Option Logger := none
  deriving Inhabited

/-- The calls of the API. -/
inductive Call where
  | index
  | list (filter : String)
  | create (name : String)
  | get (id : String)
  | delete (id : String)
  | children (id filter : String)
  | update (id action : String) (children : List String)
  | contained (id : String)
  | descendants (id filter : String)
  deriving DecidableEq, Inhabited

/-- What a call answers. -/
inductive Answer where
  | text (s : String)
  | part (v : PartView)
  | parts (vs : List PartView)
  deriving DecidableEq, Inhabited

namespace Client

/-- A client for a base URL with an optional logger; trailing slashes are dropped. -/
def new (baseUrl : String) (logger : Option Logger) : Client :=
  { base := String.ofList (baseUrl.toList.reverse.dropWhile (· = '/')).reverse, logger }

/-- The path of the parts collection with escaped segments after it. -/
def partsPath (segments : List String) : String :=
  "/v1/parts" ++ String.join (segments.map fun s => "/" ++ pathEscape s)

/-- A query of one key, none when the value is empty. -/
def query (key value : String) : String :=
  if value.isEmpty then "" else "?" ++ queryEscape key ++ "=" ++ queryEscape value

variable {σ : Type}

/-- Sends a request to a URL; the answer is the status and the body as read. -/
def exchange (link : Link σ) (s : σ) (method url : String) (body : String) :
    Except ClientError (Nat × Except String String) × σ :=
  match Url.parse url with
  | .error e => (.error (.other ("failed to create request: " ++ e.message)), s)
  | .ok u =>
    match link.fetch { method, url := u.dropEmptyPort, body } s with
    | (.error t, s) => (.error (.other ("request failed: " ++ t)), s)
    | (.ok resp, s) =>
      let read := match link.bodyFault with
        | some t => .error t
        | none => .ok resp.body
      (.ok (resp.status, read), s)

/-- Reads the parts of an answer. -/
def readParts (status : Nat) (read : Except String String) : Except ClientError (List PartView) :=
  let failed (t : String) : ClientError :=
    .other ("failed to decode response (status " ++ toString status ++ "): " ++ t)
  match read with
  | .error t => .error (failed t)
  | .ok body =>
    match Json.readFirst body with
    | .error e => .error (failed (e.message true))
    | .ok j =>
      match decodeEnvelope j with
      | .error m => .error (failed m.message)
      | .ok env =>
        match env.error with
        | some b => .error (.server status b)
        | none =>
          if status ≥ 400 then .error (.other ("unexpected status " ++ toString status))
          else
            let views := env.data.getD []
            match views.findSome? fun v => match v.validate with
                | .error e => some e
                | .ok () => none with
            | some e => .error (.invalidView e)
            | none => .ok views

/-- Calls a route of the parts API; the entries are what the call logged. -/
def callParts (c : Client) (link : Link σ) (s : σ) (method path query : String)
    (body : Option Json) : Except ClientError (List PartView) × List LogEntry × σ :=
  let url := c.base ++ path ++ query
  let logged : List LogEntry := match Url.parse url, c.logger with
    | .ok _, some l =>
      (l.entry? .debug "Calling bom server" [("method", .string method), ("url", .string url)]).toList
    | _, _ => []
  match exchange link s method url ((body.map (·.render {})).getD "") with
  | (.error e, s) => (.error e, logged, s)
  | (.ok (status, read), s) => (readParts status read, logged, s)

/-- Exactly one part. -/
def one : Except ClientError (List PartView) → Except ClientError Answer
  | .ok [v] => .ok (.part v)
  | .ok vs => .error (.other ("expected one part, got " ++ toString vs.length))
  | .error e => .error e

/-- Makes one call; the entries are what it logged. -/
def call (c : Client) (link : Link σ) (s : σ) : Call → Except ClientError Answer × List LogEntry × σ
  | .index =>
    match exchange link s "GET" (c.base ++ "/") "" with
    | (.error e, s) => (.error e, [], s)
    | (.ok (_, .error t), s) => (.error (.other ("failed to read response: " ++ t)), [], s)
    | (.ok (_, .ok text), s) => (.ok (.text text), [], s)
  | .list f =>
    let (r, l, s) := c.callParts link s "GET" (partsPath []) (query "filter" f) none
    (r.map .parts, l, s)
  | .create name =>
    let (r, l, s) := c.callParts link s "POST" (partsPath []) ""
      (some (.object [("name", .string name)]))
    (one r, l, s)
  | .get id =>
    let (r, l, s) := c.callParts link s "GET" (partsPath [id]) "" none
    (one r, l, s)
  | .delete id =>
    let (r, l, s) := c.callParts link s "DELETE" (partsPath [id]) "" none
    (one r, l, s)
  | .children id f =>
    let (r, l, s) := c.callParts link s "GET" (partsPath [id, "children"]) (query "filter" f) none
    (r.map .parts, l, s)
  | .update id action children =>
    let (r, l, s) := c.callParts link s "POST" (partsPath [id, "children"]) (query "action" action)
      (some (.object [("children", Json.strings children)]))
    (one r, l, s)
  | .contained id =>
    let (r, l, s) := c.callParts link s "GET" (partsPath [id, "contained"]) "" none
    (r.map .parts, l, s)
  | .descendants id f =>
    let (r, l, s) := c.callParts link s "GET" (partsPath [id, "descendants"]) (query "filter" f) none
    (r.map .parts, l, s)

/-- Makes calls in order. -/
def callAll (c : Client) (link : Link σ) (s : σ) : List Call → List (Except ClientError Answer) × σ
  | [] => ([], s)
  | k :: ks =>
    let (r, _, s) := c.call link s k
    let (rs, s) := c.callAll link s ks
    (r :: rs, s)

end Client

end BillOfMaterials
