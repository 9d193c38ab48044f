import BillOfMaterials.Http.Url

/-!
# Requests and responses

A `Request` is a method, a URL and a body; a `Response` is a status, the headers in the order
they were set, and a body. `Response.redirect` writes a redirect the way a server does: a
`Location` that is an absolute path cleaned of dot segments and doubled slashes (keeping a
trailing slash and the query), and for `GET` a short HTML body linking to it.
-/

namespace BillOfMaterials.Http

/-- A request as a server receives it. -/
structure Request where
  method : String
  url : Url
  body : String := ""
  deriving Inhabited

/-- A response. -/
structure Response where
  status : Nat
  headers : List (String × String) := []
  body : String := ""
  deriving Inhabited, DecidableEq

/-- The first value of a header. -/
def Response.header? (r : Response) (name : String) : Option String := r.headers.lookup name

/-- The reason phrase of the statuses this service sends. -/
def statusText : Nat → String
  | 200 => "OK"
  | 201 => "Created"
  | 204 => "No Content"
  | 301 => "Moved Permanently"
  | 302 => "Found"
  | 303 => "See Other"
  | 307 => "Temporary Redirect"
  | 308 => "Permanent Redirect"
  | 400 => "Bad Request"
  | 404 => "Not Found"
  | 409 => "Conflict"
  | 422 => "Unprocessable Entity"
  | 500 => "Internal Server Error"
  | _ => ""

/-- A text with `& < > " '` written as HTML entities. -/
def htmlEscape (s : String) : String :=
  String.join (s.toList.map fun c =>
    if c = '&' then "&amp;"
    else if c = '<' then "&lt;"
    else if c = '>' then "&gt;"
    else if c = '"' then "&#34;"
    else if c = '\x27' then "&#39;"
    else String.singleton c)

/-- Bytes past ASCII written as `%` and two hex digits. -/
def hexEscapeHigh (bs : List UInt8) : List UInt8 :=
  bs.flatMap fun c =>
    if c < 0x80 then [c] else [byte '%', hexDigit (c.toNat / 16), hexDigit (c.toNat % 16)]

/-- The directory part of a path: everything up to and including its last slash. -/
def pathDir (p : List UInt8) : List UInt8 :=
  match cutLast? (byte '/') p with
  | some (dir, _) => dir ++ [byte '/']
  | none => []

/-- Where a redirect sends the client. A target without scheme and host is made absolute
against the request path, then cleaned, keeping a trailing slash and the query. -/
def redirectTarget (requestPath : List UInt8) (target : List UInt8) : List UInt8 :=
  let isLocal := match Url.parse (textOf target) with
    | .ok u => u.scheme.isEmpty && u.host.isEmpty
    | .error _ => false
  if !isLocal then target
  else
    let old := if requestPath.isEmpty then [byte '/'] else requestPath
    let target := if target.head? = some (byte '/') then target else pathDir old ++ target
    let (front, query) := match cut? (byte '?') target with
      | some (a, q) => (a, byte '?' :: q)
      | none => (target, [])
    let trailing := front.getLast? = some (byte '/')
    let clean := cleanPath front
    let clean := if trailing && clean.getLast? ≠ some (byte '/') then clean ++ [byte '/'] else clean
    clean ++ query

/-- A redirect to `target` with status `code`, answering a request of `method` whose path
is `requestPath`. -/
def Response.redirect (method : String) (requestPath target : List UInt8) (code : Nat) :
    Response :=
  let url := redirectTarget requestPath target
  let shown := method = "GET" || method = "HEAD"
  { status := code
    headers := [("Location", textOf (hexEscapeHigh url))] ++
      (if shown then [("Content-Type", "text/html; charset=utf-8")] else [])
    body := if method = "GET" then
        "<a href=\"" ++ htmlEscape (textOf url) ++ "\">" ++ statusText code ++ "</a>.\n\n"
      else "" }

end BillOfMaterials.Http
