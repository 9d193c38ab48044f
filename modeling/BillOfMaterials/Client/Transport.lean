import BillOfMaterials.Http.Message

/-!
# Sending requests

A `Link` carries requests to a server whose state is `σ` and brings back responses, or the
text of a transport failure. `Link.fetch` sends a request and follows redirects the way an
HTTP client does:

* `301`, `302` and `303` are followed with the same method for `GET` and `HEAD` and with
  `GET` otherwise, without the body;
* `307` and `308` are followed with the same method and body;
* a redirect without `Location` is the answer itself;
* the tenth redirect is refused.

A failure reads `Method "url": reason`, the method being that of the first request with only
its first letter in upper case, the URL with any password hidden.
-/

namespace BillOfMaterials.Http

/-- A way to reach a server with state `σ`. -/
structure Link (σ : Type) where
  /-- Sends one request: a response, or the text of a transport failure. -/
  send : σ → Request → Except String Response × σ
  /-- The failure every response body gives when read, if reading fails. -/
  bodyFault : Option String := none

/-- The name a failure gives a method: its first letter as it is, the rest in lower case. -/
def methodOp (method : String) : String :=
  match method.toList with
  | c :: rest => String.ofList (c :: rest.map Char.toLower)
  | [] => ""

/-- The method and whether the body goes along, when a status redirects. -/
def redirectBehavior (method : String) (status : Nat) : Option (String × Bool) :=
  if status = 301 || status = 302 || status = 303 then
    some (if method = "GET" || method = "HEAD" then method else "GET", false)
  else if status = 307 || status = 308 then some (method, true)
  else none

namespace Link

variable {σ : Type}

/-- The text of a failure of a request first sent with `method`, at `url`. -/
def failure (method : String) (url : String) (reason : String) : String :=
  methodOp method ++ " " ++ Text.quote url ++ ": " ++ reason

/-- Sends a request and follows redirects, at most `budget` more of them. -/
def follow (link : Link σ) (method : String) : Nat → Request → σ → Except String Response × σ
  | budget, req, s =>
    match link.send s req with
    | (.error t, s) => (.error (failure method req.url.hidePassword.toText t), s)
    | (.ok resp, s) =>
      match redirectBehavior req.method resp.status, resp.header? "Location" with
      | some (next, keepBody), some loc =>
        match Url.parse loc with
        | .error e =>
          (.error (failure method req.url.hidePassword.toText
            ("failed to parse Location header " ++ Text.quote loc ++ ": " ++ e.message)), s)
        | .ok ref =>
          match budget with
          | 0 => (.error (failure method loc "stopped after 10 redirects"), s)
          | b + 1 =>
            follow link method b
              { method := next, url := req.url.resolve ref, body := if keepBody then req.body else "" } s
      | _, _ => (.ok resp, s)

/-- Sends a request and follows its redirects. -/
def fetch (link : Link σ) (req : Request) (s : σ) : Except String Response × σ :=
  link.follow req.method 9 req s

end Link

end BillOfMaterials.Http
