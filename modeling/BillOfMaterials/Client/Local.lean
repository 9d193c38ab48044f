import BillOfMaterials.Api.Service
import BillOfMaterials.Client.Transport

/-!
# A service in the same process

`Service.link` carries every request straight to a `Service`, with whatever URL the client
built: the service sees the path and query of that URL, and no host or scheme is checked. It
can be told to fail every request, or every read of a body, with a given text.

`Service.hostLink` is a network that holds one host, the service, at the address
`bom.test:80`, reached through a client's own transport: a scheme other than `http` and `https`
is refused, a URL without host is refused, and a request dialled at any other address finds no
host. The service then sees the request as it comes over the wire, its target being the
escaped path and the query.
-/

namespace BillOfMaterials

open Http

/-- A link to a service in the same process. -/
def Service.link (failSend bodyFault : Option String) : Link Service where
  send s req :=
    match failSend with
    | some t => (.error t, s)
    | none =>
      let (r, s) := s.handle req
      (.ok r, s)
  bodyFault := bodyFault

/-- A host and port joined, the host in brackets when it holds a colon. -/
def joinHostPort (host port : String) : String :=
  (if host.contains ':' then "[" ++ host ++ "]" else host) ++ ":" ++ port

/-- The address a URL is dialled at: its host name and its port, by default that of its
scheme. -/
def dialAddress (u : Url) : String :=
  let port := textOf u.port
  let port := if !port.isEmpty then port else if u.scheme = bytesOf "https" then "443" else "80"
  joinHostPort (textOf u.hostname) port

/-- The target of the request line for a URL: its written path, `/` when empty, and its
query. -/
def requestTarget (u : Url) : String :=
  let path := u.escapedPath
  textOf ((if path.isEmpty then [byte '/'] else path) ++
    (if u.forceQuery || !u.rawQuery.isEmpty then byte '?' :: u.rawQuery else []))

/-- A network whose one host is the service, at `bom.test` port 80. -/
def Service.hostLink : Link Service where
  send s req :=
    let scheme := textOf req.url.scheme
    if scheme ≠ "http" && scheme ≠ "https" then
      (.error ("unsupported protocol scheme " ++ Text.quote scheme), s)
    else if req.url.host.isEmpty then (.error "http: no Host in request URL", s)
    else
      let addr := dialAddress req.url
      if addr ≠ "bom.test:80" then (.error ("network disabled for " ++ addr), s)
      else
        match Url.parseTarget (requestTarget req.url) with
        | .ok url =>
          let (r, s) := s.handle { req with url }
          (.ok r, s)
        | .error _ => (.ok { status := 400, body := "400 Bad Request" }, s)

end BillOfMaterials
