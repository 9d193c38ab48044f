import BillOfMaterials.Api.Binding
import BillOfMaterials.Api.Metrics
import BillOfMaterials.Api.Model
import BillOfMaterials.Api.Routes
import BillOfMaterials.Http.Message

/-!
# The HTTP service

A `Service` is an engine behind the routes of the API, with the request counters. It answers
a request in this order:

1. the route tree of the method is walked along the request path (`RouteTree.lookup`);
2. a route found runs its handler behind the CORS headers, and the request is counted under
   the route's pattern;
3. otherwise, when the walk advises it, the path with one trailing slash more or less is
   answered with a redirect (`301` for `GET`, `307` else), which is not counted;
4. otherwise `OPTIONS` gets `204` with the CORS headers only, and anything else gets `404`;
   both are counted under the route `unmatched`.

A handler checks, in order: the part id of the path, the query's filter or action, the
request body, each child id of the body, and then calls the engine. A refused call answers
with the status and code of its class: not found 404/2, duplicate name 409/3, validation
400/4, cycle 422/5, and anything else 500/1.
-/

namespace BillOfMaterials

open Http

/-- The text the index route answers with. -/
def indexText : String :=
  "BOM-Server

API v1
------
Use the following APIs to interact with the BOM Server:

GET     /v1/parts?filter=<f>                -> list parts (all, top_level, assembly, subassembly, component, orphan)
POST    /v1/parts                           -> create a new part
GET     /v1/parts/<id>                      -> get part <id> information
DELETE  /v1/parts/<id>                      -> delete part <id> from server
GET     /v1/parts/<id>/children?filter=<f>  -> get children of part <id> (all, top_level, component)
POST    /v1/parts/<id>/children?action=<a>  -> update children of part <id> (add, remove, replace; default add)
GET     /v1/parts/<id>/contained            -> get assemblies that include part <id> directly or indirectly
GET     /v1/parts/<id>/descendants?filter=<f> -> get every part below <id>

New Part Request Body:
\x7b
    \"name\": \"Name of the part\"
\x7d

Update Children Request Body:
\x7b
    \"children\": [\"child part id1\", \"child part id2\", ...]
\x7d

Response Body:
\x7b
    \"result\": \x7b\"code\": int, \"description\": \"Result information\"\x7d,
    \"data\": [\x7b\"id\": \"...\", \"name\": \"...\", \"parents\": [...], \"children\": [...]\x7d, ...],
    \"error\": \x7b\"code\": int, \"description\": \"Error description\"\x7d
\x7d
Fields above are optional and should be checked before referencing values.
"

/-- The headers every answer behind the CORS layer carries. -/
def corsHeaders : List (String × String) :=
  [("Access-Control-Allow-Origin", "*"), ("Access-Control-Allow-Credentials", "true"),
   ("Access-Control-Allow-Headers",
    "Content-Type, Content-Length, Accept-Encoding, Authorization, accept, origin, Cache-Control, X-Requested-With"),
   ("Access-Control-Allow-Methods", "POST, OPTIONS, GET, DELETE")]

/-- An answer behind the CORS layer. -/
def corsResponse (status : Nat) (contentType body : String) : Response :=
  { status, headers := corsHeaders ++ [("Content-Type", contentType)], body }

/-- A JSON answer. -/
def jsonResponse (status : Nat) (j : Json) : Response :=
  corsResponse status "application/json; charset=utf-8" (j.render {})

/-- The status and code of a refused call. -/
def classify (f : Fault) : Nat × ErrorCode :=
  match f.kind? with
  | some .notFound => (404, .notFound)
  | some .duplicateName => (409, .duplicateName)
  | some .validation => (400, .validation)
  | some .cycle => (422, .cycle)
  | _ => (500, .internal)

/-- The answer to a refused call. -/
def failureResponse (f : Fault) : Response :=
  let (status, code) := classify f
  jsonResponse status (Envelope.failure code.toInt f.message).toJson

/-- The answer to a successful call. -/
def successResponse (status : Nat) (description : String) (parts : List Part) : Response :=
  jsonResponse status (Envelope.success status description parts).toJson

/-- Reads a filter from query bytes; bytes that are no text name no filter. -/
def readFilter (bs : List UInt8) : Except Fault Filter :=
  match Text.Utf8.decode? bs with
  | some s => Filter.parse s
  | none => .error (.invalid "filter" ("unknown filter " ++ Text.quoteBytes bs))

/-- Reads an action from query bytes; bytes that are no text name no action. -/
def readAction (bs : List UInt8) : Except Fault Action :=
  match Text.Utf8.decode? bs with
  | some s => Action.parse s
  | none => .error (.invalid "action" ("unknown action " ++ Text.quoteBytes bs))

/-- Reads a part id given as bytes. -/
def readPartId (bs : List UInt8) : Except Fault PartId :=
  match PartId.parseBytes? bs with
  | .ok id => .ok id
  | .error e => .error (.invalid "part id" e.message)

/-- The engine behind the routes, and the request counters. -/
structure Service where
  engine : Engine := {}
  counts : RequestCounts := {}
  deriving Inhabited

namespace Service

/-- Runs the handler of a route on the engine; the metrics route also reads the counters. -/
def runHandler (e : Engine) (counts : RequestCounts) (ep : Endpoint) (req : Request)
    (params : List (String × List UInt8)) : Except Fault (Response × Engine) :=
  let query (key : String) := (queryValue? req.url.rawQuery key).getD []
  let partId := readPartId ((params.lookup "id").getD [])
  let bind {α : Type} (r : Except BindError α) : Except Fault α :=
    r.mapError fun b => .invalid "request body" b.message
  match ep with
  | .listParts => do
    let f ← readFilter (query "filter")
    pure (successResponse 200 "Fetched all parts successfully" (e.listParts f), e)
  | .createPart => do
    let body ← bind (NewPartRequest.bind req.body)
    let (p, e) ← e.createPart body.name
    pure (successResponse 201 "New part created successfully" [p], e)
  | .getPart => do
    let p ← e.getPart (← partId)
    pure (successResponse 200 "Found part in parts list" [p], e)
  | .deletePart => do
    let (p, e) ← e.deletePart (← partId)
    pure (successResponse 200 "Deleted part from list" [p], e)
  | .getChildren => do
    let id ← partId
    let f ← readFilter (query "filter")
    pure (successResponse 200 "Fetched all parts successfully" (← e.listChildren id f), e)
  | .updateChildren => do
    let id ← partId
    let a ← readAction (query "action")
    let raw ← bind (UpdateChildrenRequest.bind req.body)
    let children ← raw.mapM PartId.read
    let (p, e) ← e.updateChildren id a children
    pure (successResponse 200 "Part children updated successfully" [p], e)
  | .getContained => do
    let ps ← e.contained (← partId)
    pure (successResponse 200 "Fetched containing assemblies successfully" ps, e)
  | .getDescendants => do
    let id ← partId
    let f ← readFilter (query "filter")
    pure (successResponse 200 "Fetched all parts successfully" (← e.listDescendants id f), e)
  | .index => pure (corsResponse 200 "text/plain; charset=utf-8" indexText, e)
  | .health =>
    pure (jsonResponse 200 (.object [("stats", e.stats.toJson), ("status", .string "ok")]), e)
  | .metrics =>
    pure (corsResponse 200 "text/plain; version=0.0.4; charset=utf-8; escaping=underscores"
      (exposition e.stats counts), e)

/-- Answers a request that a route matched. -/
def serveRoute (s : Service) (ep : Endpoint) (req : Request)
    (params : List (String × List UInt8)) : Response × Engine :=
  match runHandler s.engine s.counts ep req params with
  | .ok r => r
  | .error f => (failureResponse f, s.engine)

/-- Counts an answered request. -/
def count (s : Service) (method route : String) (status : Nat) : Service :=
  { s with counts := s.counts.bump ⟨method, route, toString status⟩ }

/-- The redirect to the request path with one trailing slash less, or more. -/
def trailingSlashRedirect (req : Request) : Response :=
  let p := req.url.path
  let p := if p.length > 1 && p.getLast? = some (byte '/') then p.dropLast else p ++ [byte '/']
  let url := { req.url with path := p }
  Response.redirect req.method p url.render (if req.method = "GET" then 301 else 307)

/-- Answers a request no route matched. -/
def unmatched (s : Service) (req : Request) : Response × Service :=
  let r : Response :=
    if req.method = "OPTIONS" then { status := 204, headers := corsHeaders }
    else corsResponse 404 "text/plain" "404 page not found"
  (r, s.count req.method "unmatched" r.status)

/-- Answers one request. -/
def handle (s : Service) (req : Request) : Response × Service :=
  match routesFor req.method with
  | none => s.unmatched req
  | some tree =>
    let m := tree.lookup req.url.path
    match m.endpoint with
    | some ep =>
      let (r, engine) := s.serveRoute ep req m.params
      (r, { s with engine }.count req.method ep.pattern r.status)
    | none =>
      if req.method ≠ "CONNECT" && req.url.path ≠ [byte '/'] && m.redirect then
        (trailingSlashRedirect req, s)
      else s.unmatched req

/-- Answers requests in order. -/
def handleAll (s : Service) : List Request → List Response × Service
  | [] => ([], s)
  | r :: rs =>
    let (a, s) := s.handle r
    let (as, s) := s.handleAll rs
    (a :: as, s)

end Service

end BillOfMaterials
