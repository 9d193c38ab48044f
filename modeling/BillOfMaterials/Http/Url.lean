import BillOfMaterials.Text.Quoted

/-!
# URLs

A URL as clients and the router see it: a reference split into scheme, user, host, path,
query and fragment. Path, host, user and fragment are kept percent-decoded, as bytes, because
a decoded path need not be well-formed text. Each part of a URL lets its own set of bytes
stand unescaped (`Component`); `escape` writes a part and `unescape` reads it back.

* `Url.parse` reads a reference as a client writes it, `Url.parseTarget` a request target,
  which has to be an absolute path or `*`;
* `Url.render` writes a URL, its path in the raw spelling it came in as long as that spelling
  still decodes to the path;
* `Url.resolve` takes a reference relative to a base and removes dot segments;
* `queryValue` reads one key of a query the way the router does: pairs split at `&`, a pair
  holding `;` skipped, the first value kept.
-/

namespace BillOfMaterials.Http

/-- The byte of an ASCII character. -/
def byte (c : Char) : UInt8 := c.toNat.toUInt8

/-- The bytes of a text. -/
def bytesOf (s : String) : List UInt8 := s.toUTF8.toList

/-- The text of bytes that are well-formed, as everything this module writes is. -/
def textOf (bs : List UInt8) : String := Text.Utf8.lossy bs

/-- Whether a byte is an ASCII letter. -/
def isLetter (c : UInt8) : Bool := (0x61 ≤ c && c ≤ 0x7A) || (0x41 ≤ c && c ≤ 0x5A)

/-- Whether a byte is an ASCII digit. -/
def isDigit (c : UInt8) : Bool := 0x30 ≤ c && c ≤ 0x39

/-- The lower-case form of an ASCII letter; other bytes are kept. -/
def lowerByte (c : UInt8) : UInt8 := if 0x41 ≤ c && c ≤ 0x5A then c + 0x20 else c

/-- The value of a hex digit, either case. -/
def hexValue? (c : UInt8) : Option Nat :=
  if isDigit c then some (c.toNat - 0x30)
  else if 0x61 ≤ c && c ≤ 0x66 then some (c.toNat - 0x61 + 10)
  else if 0x41 ≤ c && c ≤ 0x46 then some (c.toNat - 0x41 + 10)
  else none

/-- An upper-case hex digit. -/
def hexDigit (n : Nat) : UInt8 := if n < 10 then (0x30 + n).toUInt8 else (0x41 + n - 10).toUInt8

/-- The bytes before the first `sep` and those after it, if `sep` occurs. -/
def cut? (sep : UInt8) : List UInt8 → Option (List UInt8 × List UInt8)
  | [] => none
  | c :: rest =>
    if c = sep then some ([], rest) else (cut? sep rest).map fun (a, b) => (c :: a, b)

/-- The bytes before the last `sep`, and those from that `sep` on. -/
def cutLast? (sep : UInt8) (bs : List UInt8) : Option (List UInt8 × List UInt8) :=
  (cut? sep bs.reverse).map fun (after, before) => (before.reverse, sep :: after.reverse)

/-- The bytes before the first occurrence of `pat`, and those from it on. -/
def cutAt? (pat : List UInt8) : List UInt8 → Option (List UInt8 × List UInt8)
  | [] => if pat.isEmpty then some ([], []) else none
  | c :: rest =>
    if pat.isPrefixOf (c :: rest) then some ([], c :: rest)
    else (cutAt? pat rest).map fun (a, b) => (c :: a, b)

/-- The pieces between the separators; there is one more piece than separators. -/
def splitBytes (sep : UInt8) : List UInt8 → List (List UInt8)
  | [] => [[]]
  | c :: rest =>
    if c = sep then [] :: splitBytes sep rest
    else match splitBytes sep rest with
      | [] => [[c]]
      | p :: ps => (c :: p) :: ps

/-- Pieces joined with a separator between each two. -/
def joinBytes (sep : UInt8) : List (List UInt8) → List UInt8
  | [] => []
  | [p] => p
  | p :: ps => p ++ sep :: joinBytes sep ps

/-- The part of a URL a byte stands in; each part lets different bytes through unescaped. -/
inductive Component where
  | path
  | pathSegment
  | host
  | zone
  | userPassword
  | queryComponent
  | fragment
  deriving DecidableEq

/-- Whether a byte is written percent-escaped in a part. Letters and digits never are, nor
`- _ . ~`; hosts also keep the sub-delimiters, the colon and brackets; the reserved marks
depend on the part; everything else is escaped. -/
def shouldEscape (m : Component) (c : UInt8) : Bool :=
  if isLetter c || isDigit c then false
  else if (m = .host || m = .zone) && (bytesOf "!$&\x27()*+,;=:[]<>\"").contains c then false
  else if (bytesOf "-_.~").contains c then false
  else if (bytesOf "$&+,/:;=?@").contains c then
    match m with
    | .path => c = byte '?'
    | .pathSegment => c = byte '/' || c = byte ';' || c = byte ',' || c = byte '?'
    | .userPassword => c = byte '@' || c = byte '/' || c = byte '?' || c = byte ':'
    | .queryComponent => true
    | .fragment => false
    | _ => true
  else if m = .fragment && (bytesOf "!()*").contains c then false
  else true

/-- How one byte is written in a part. -/
def escapeByte (m : Component) (c : UInt8) : List UInt8 :=
  if shouldEscape m c then
    if c = byte ' ' && m = .queryComponent then [byte '+']
    else [byte '%', hexDigit (c.toNat / 16), hexDigit (c.toNat % 16)]
  else [c]

/-- How bytes are written in a part. -/
def escape (m : Component) (bs : List UInt8) : List UInt8 := bs.flatMap (escapeByte m)

/-- A path segment with every byte escaped that a segment may not hold. -/
def pathEscape (s : String) : String := textOf (escape .pathSegment (bytesOf s))

/-- A query key or value with its blanks as `+` and everything else escaped but
`- _ . ~`, letters and digits. -/
def queryEscape (s : String) : String := textOf (escape .queryComponent (bytesOf s))

/-- Why a text is not a URL. -/
inductive UrlError where
  | badEscape (text : List UInt8)
  | badHostChar (c : UInt8)
  | missingScheme
  | colonInFirstSegment
  | badPort (colonPort : List UInt8)
  | missingBracket
  | controlChar
  | badUserinfo
  | notForRequest
  | empty
  deriving DecidableEq

/-- The message of a URL error. -/
def UrlError.message : UrlError → String
  | .badEscape t => "invalid URL escape " ++ Text.quoteBytes t
  | .badHostChar c => "invalid character " ++ Text.quoteBytes [c] ++ " in host name"
  | .missingScheme => "missing protocol scheme"
  | .colonInFirstSegment => "first path segment in URL cannot contain colon"
  | .badPort p => "invalid port " ++ Text.quoteBytes p ++ " after host"
  | .missingBracket => "missing \x27]\x27 in host"
  | .controlChar => "net/url: invalid control character in URL"
  | .badUserinfo => "net/url: invalid userinfo"
  | .notForRequest => "invalid URI for request"
  | .empty => "empty url"

/-- Reads a part back: `%` and two hex digits is a byte, `+` is a blank in a query. A host
may escape only bytes past ASCII (and `%25`), and may hold no byte it would have to escape;
a zone may escape only bytes a host may hold, blanks and `%25`. -/
def unescape (m : Component) : List UInt8 → Except UrlError (List UInt8)
  | [] => .ok []
  | c :: rest =>
    if c = byte '%' then
      match rest with
      | a :: b :: more =>
        match hexValue? a, hexValue? b with
        | some x, some y =>
          let v := (x * 16 + y).toUInt8
          let percent := a = byte '2' && b = byte '5'
          if m = .host && x < 8 && !percent then .error (.badEscape [c, a, b])
          else if m = .zone && !percent && v ≠ byte ' ' && shouldEscape .host v then
            .error (.badEscape [c, a, b])
          else (unescape m more).map (v :: ·)
        | _, _ => .error (.badEscape ((c :: rest).take 3))
      | _ => .error (.badEscape ((c :: rest).take 3))
    else if c = byte '+' then
      (unescape m rest).map ((if m = .queryComponent then byte ' ' else c) :: ·)
    else if (m = .host || m = .zone) && c < 0x80 && shouldEscape m c then .error (.badHostChar c)
    else (unescape m rest).map (c :: ·)

/-- Whether a raw spelling is a valid escaped form of some path. -/
def validEncoded (m : Component) (bs : List UInt8) : Bool :=
  bs.all fun c => (bytesOf "!$&\x27()*+,;=:@[]%").contains c || !shouldEscape m c

/-- A user name and, if one was given, a password. -/
structure Userinfo where
  username : List UInt8
  password : Option (List UInt8) := none
  deriving DecidableEq, Inhabited

/-- How user information is written before the `@`. -/
def Userinfo.render (u : Userinfo) : List UInt8 :=
  escape .userPassword u.username ++
    match u.password with
    | some p => byte ':' :: escape .userPassword p
    | none => []

/-- A parsed URL. -/
structure Url where
  scheme : List UInt8 := []
  rootless : List UInt8 := []
  user : Option Userinfo := none
  host : List UInt8 := []
  path : List UInt8 := []
  rawPath : List UInt8 := []
  omitHost : Bool := false
  forceQuery : Bool := false
  rawQuery : List UInt8 := []
  fragment : List UInt8 := []
  rawFragment : List UInt8 := []
  deriving DecidableEq, Inhabited

/-- Why a reference could not be read: the text and the reason. -/
structure ParseError where
  text : List UInt8
  reason : UrlError
  deriving DecidableEq

/-- The message of a reading error. -/
def ParseError.message (e : ParseError) : String :=
  "parse " ++ Text.quoteBytes e.text ++ ": " ++ e.reason.message

/-- Whether a port part is empty or a colon followed by digits. -/
def validOptionalPort : List UInt8 → Bool
  | [] => true
  | c :: rest => c = byte ':' && rest.all isDigit

/-- Splits a leading scheme off: a letter, then letters, digits, `+`, `-` or `.`, then a
colon. A colon first is a missing scheme; any other byte means there is no scheme. -/
def splitScheme (raw : List UInt8) : Except UrlError (List UInt8 × List UInt8) :=
  go [] raw
where
  go (acc : List UInt8) : List UInt8 → Except UrlError (List UInt8 × List UInt8)
    | [] => .ok ([], raw)
    | c :: rest =>
      if isLetter c then go (acc ++ [c]) rest
      else if isDigit c || c = byte '+' || c = byte '-' || c = byte '.' then
        if acc.isEmpty then .ok ([], raw) else go (acc ++ [c]) rest
      else if c = byte ':' then
        if acc.isEmpty then .error .missingScheme else .ok (acc, rest)
      else .ok ([], raw)

/-- Reads a host with its optional port. A bracketed literal may carry a zone after `%25`. -/
def parseHost (host : List UInt8) : Except UrlError (List UInt8) :=
  if host.head? = some (byte '[') then
    match cutLast? (byte ']') host with
    | none => .error .missingBracket
    | some (inside, fromBracket) =>
      let colonPort := fromBracket.drop 1
      if !validOptionalPort colonPort then .error (.badPort colonPort)
      else match cutAt? (bytesOf "%25") inside with
        | some (before, zone) => do
          let h1 ← unescape .host before
          let h2 ← unescape .zone zone
          let h3 ← unescape .host fromBracket
          pure (h1 ++ h2 ++ h3)
        | none => unescape .host host
  else
    match cutLast? (byte ':') host with
    | some (_, colonPort) =>
      if validOptionalPort colonPort then unescape .host host else .error (.badPort colonPort)
    | none => unescape .host host

/-- Whether user information uses only the bytes it may hold. -/
def validUserinfo (bs : List UInt8) : Bool :=
  bs.all fun c => isLetter c || isDigit c || (bytesOf "-._:~!$&\x27()*+,;=%@").contains c

/-- Reads an authority: optional user information up to the last `@`, then the host. -/
def parseAuthority (authority : List UInt8) :
    Except UrlError (Option Userinfo × List UInt8) :=
  match cutLast? (byte '@') authority with
  | none => do
    let h ← parseHost authority
    pure (none, h)
  | some (info, fromAt) => do
    let h ← parseHost (fromAt.drop 1)
    if !validUserinfo info then throw .badUserinfo
    match cut? (byte ':') info with
    | none =>
      let u ← unescape .userPassword info
      pure (some { username := u }, h)
    | some (name, pass) =>
      let u ← unescape .userPassword name
      let p ← unescape .userPassword pass
      pure (some { username := u, password := some p }, h)

namespace Url

/-- Sets the path from its raw spelling, keeping the spelling only when it is not the one
`escape` would give. -/
def withPath (u : Url) (p : List UInt8) : Except UrlError Url := do
  let path ← unescape .path p
  pure { u with path, rawPath := if escape .path path = p then [] else p }

/-- Sets the fragment from its raw spelling, as `withPath` does the path. -/
def withFragment (u : Url) (f : List UInt8) : Except UrlError Url := do
  let fragment ← unescape .fragment f
  pure { u with fragment, rawFragment := if escape .fragment fragment = f then [] else f }

/-- The first path segment, up to the first slash. -/
def firstSegment (p : List UInt8) : List UInt8 := ((cut? (byte '/') p).map Prod.fst).getD p

/-- Reads a reference without its fragment; a request target has no scheme-less authority and
must be absolute. -/
def parseCore (viaRequest : Bool) (raw : List UInt8) : Except UrlError Url := do
  if raw.any fun c => c < 0x20 || c = 0x7F then throw .controlChar
  if raw.isEmpty && viaRequest then throw .empty
  if raw = [byte '*'] then return { path := raw }
  let (scheme, rest) ← splitScheme raw
  let scheme := scheme.map lowerByte
  let (rest, forceQuery, rawQuery) :=
    if rest.getLast? = some (byte '?') && rest.count (byte '?') = 1 then (rest.dropLast, true, [])
    else match cut? (byte '?') rest with
      | some (a, q) => (a, false, q)
      | none => (rest, false, [])
  let u : Url := { scheme, forceQuery, rawQuery }
  if rest.head? ≠ some (byte '/') then
    if !scheme.isEmpty then return { u with rootless := rest }
    if viaRequest then throw .notForRequest
    if (firstSegment rest).contains (byte ':') then throw .colonInFirstSegment
  let slashes := bytesOf "//"
  if (!scheme.isEmpty || !viaRequest && !(bytesOf "///").isPrefixOf rest) &&
      slashes.isPrefixOf rest then
    let authority := rest.drop 2
    let (authority, path) := match cut? (byte '/') authority with
      | some (a, p) => (a, byte '/' :: p)
      | none => (authority, [])
    let (user, host) ← parseAuthority authority
    withPath { u with user, host } path
  else if !scheme.isEmpty && rest.head? = some (byte '/') then
    withPath { u with omitHost := true } rest
  else withPath u rest

/-- Reads a reference as a client writes it: everything after the first `#` is the fragment. -/
def parse (raw : String) : Except ParseError Url :=
  let bs := bytesOf raw
  let (front, frag) := match cut? (byte '#') bs with
    | some (a, f) => (a, f)
    | none => (bs, [])
  match parseCore false front with
  | .error e => .error ⟨front, e⟩
  | .ok u =>
    if frag.isEmpty then .ok u
    else match u.withFragment frag with
      | .ok u => .ok u
      | .error e => .error ⟨bs, e⟩

/-- Reads the target of a request line. -/
def parseTarget (raw : String) : Except ParseError Url :=
  let bs := bytesOf raw
  match parseCore true bs with
  | .error e => .error ⟨bs, e⟩
  | .ok u => .ok u

/-- The path as it is written: its raw spelling when that is valid and decodes to the path. -/
def escapedPath (u : Url) : List UInt8 :=
  let spelled := match unescape .path u.rawPath with
    | .ok p => p = u.path
    | .error _ => false
  if !u.rawPath.isEmpty && validEncoded .path u.rawPath && spelled then u.rawPath
  else if u.path = [byte '*'] then u.path
  else escape .path u.path

/-- The fragment as it is written. -/
def escapedFragment (u : Url) : List UInt8 :=
  let spelled := match unescape .fragment u.rawFragment with
    | .ok f => f = u.fragment
    | .error _ => false
  if !u.rawFragment.isEmpty && validEncoded .fragment u.rawFragment && spelled then u.rawFragment
  else escape .fragment u.fragment

/-- The text of a URL. A path whose first segment holds a colon gets `./` in front when
nothing precedes it, so that it is not read as a scheme. -/
def render (u : Url) : List UInt8 :=
  let head := if u.scheme.isEmpty then [] else u.scheme ++ [byte ':']
  let body :=
    if !u.rootless.isEmpty then u.rootless
    else
      let auth :=
        if (!u.scheme.isEmpty || !u.host.isEmpty || u.user.isSome) &&
            !(u.omitHost && u.host.isEmpty && u.user.isNone) then
          (if !u.host.isEmpty || !u.path.isEmpty || u.user.isSome then bytesOf "//" else []) ++
          (match u.user with
            | some info => info.render ++ [byte '@']
            | none => []) ++
          escape .host u.host
        else []
      let path := u.escapedPath
      let sep := if !path.isEmpty && path.head? ≠ some (byte '/') && !u.host.isEmpty then
        [byte '/'] else []
      let dot := if (head ++ auth ++ sep).isEmpty && (firstSegment path).contains (byte ':') then
        bytesOf "./" else []
      auth ++ sep ++ dot ++ path
  head ++ body ++
    (if u.forceQuery || !u.rawQuery.isEmpty then byte '?' :: u.rawQuery else []) ++
    (if u.fragment.isEmpty then [] else byte '#' :: u.escapedFragment)

/-- The text of a URL. -/
def toText (u : Url) : String := textOf u.render

/-- The URL with a password hidden, as errors show it. -/
def hidePassword (u : Url) : Url :=
  match u.user with
  | some info =>
    if info.password.isSome then { u with user := some { info with password := some (bytesOf "***") } }
    else u
  | none => u

/-- Drops a colon that ends a host without a port. -/
def dropEmptyPort (u : Url) : Url :=
  if u.host.getLast? = some (byte ':') then
    match cutLast? (byte ':') u.host with
    | some (h, [_]) => { u with host := h }
    | _ => u
  else u

/-- Removes dot segments from `ref` taken relative to `base`, both written forms. -/
def resolvePath (base ref : List UInt8) : List UInt8 :=
  let full :=
    if ref.isEmpty then base
    else if ref.head? ≠ some (byte '/') then
      (match cutLast? (byte '/') base with
        | some (dir, _) => dir ++ [byte '/']
        | none => []) ++ ref
    else ref
  if full.isEmpty then []
  else
    let elems := splitBytes (byte '/') full
    let step : List UInt8 × Bool → List UInt8 → List UInt8 × Bool := fun (dst, first) elem =>
      if elem = [byte '.'] then (dst, false)
      else if elem = bytesOf ".." then
        let str := dst.drop 1
        match cutLast? (byte '/') str with
        | some (kept, _) => (byte '/' :: kept, first)
        | none => ([byte '/'], true)
      else ((if first then dst else dst ++ [byte '/']) ++ elem, false)
    let (dst, _) := elems.foldl step ([byte '/'], true)
    let last := elems.getLast?.getD []
    let dst := if last = [byte '.'] || last = bytesOf ".." then dst ++ [byte '/'] else dst
    match dst with
    | s :: t :: rest => if t = byte '/' then t :: rest else s :: t :: rest
    | short => short

/-- Sets the path from a written form; a form that does not read keeps the old path. -/
def withPathOr (u : Url) (p : List UInt8) : Url :=
  match u.withPath p with
  | .ok v => v
  | .error _ => u

/-- A reference taken relative to a base URL. -/
def resolve (base ref : Url) : Url :=
  let url := { ref with scheme := if ref.scheme.isEmpty then base.scheme else ref.scheme }
  if !ref.scheme.isEmpty || !ref.host.isEmpty || ref.user.isSome then
    url.withPathOr (resolvePath ref.escapedPath [])
  else if !ref.rootless.isEmpty then { url with user := none, host := [], path := [] }
  else
    let url :=
      if ref.path.isEmpty && !ref.forceQuery && ref.rawQuery.isEmpty then
        let url := { url with rawQuery := base.rawQuery }
        if ref.fragment.isEmpty then
          { url with fragment := base.fragment, rawFragment := base.rawFragment }
        else url
      else url
    if ref.path.isEmpty && !base.rootless.isEmpty then
      { url with rootless := base.rootless, user := none, host := [], path := [] }
    else
      { url with host := base.host, user := base.user }.withPathOr
        (resolvePath base.escapedPath ref.escapedPath)

/-- The host without its port and brackets. -/
def hostname (u : Url) : List UInt8 :=
  let h := match cutLast? (byte ':') u.host with
    | some (h, colonPort) => if validOptionalPort colonPort then h else u.host
    | none => u.host
  if h.head? = some (byte '[') && h.getLast? = some (byte ']') then (h.drop 1).dropLast else h

/-- The port written after the host, if any. -/
def port (u : Url) : List UInt8 :=
  match cutLast? (byte ':') u.host with
  | some (_, colonPort) => if validOptionalPort colonPort then colonPort.drop 1 else []
  | none => []

end Url

/-- The key and value pairs of a query: pieces between `&`, a piece with `;` or that does not
decode skipped, the key up to the first `=`. -/
def queryPairs (q : List UInt8) : List (List UInt8 × List UInt8) :=
  (splitBytes (byte '&') q).filterMap fun piece =>
    if piece.isEmpty || piece.contains (byte ';') then none
    else
      let (k, v) := (cut? (byte '=') piece).getD (piece, [])
      match unescape .queryComponent k, unescape .queryComponent v with
      | .ok k, .ok v => some (k, v)
      | _, _ => none

/-- The first value of a key in a query, if the key occurs. -/
def queryValue? (q : List UInt8) (key : String) : Option (List UInt8) :=
  (queryPairs q).lookup (bytesOf key)

/-- The shortest path naming the same place: empty and `.` segments dropped, `..` taking away
the segment before it, or kept at the front of a relative path. The empty path is `.`. -/
def cleanPath (p : List UInt8) : List UInt8 :=
  if p.isEmpty then [byte '.']
  else
    let rooted := p.head? = some (byte '/')
    let dots := bytesOf ".."
    let segs := (splitBytes (byte '/') p).filter fun s => !s.isEmpty && s ≠ [byte '.']
    let stack := segs.foldl (fun st s =>
      if s = dots then
        match st with
        | top :: rest => if top = dots then s :: st else rest
        | [] => if rooted then [] else [s]
      else s :: st) []
    let body := joinBytes (byte '/') stack.reverse
    if rooted then byte '/' :: body else if body.isEmpty then [byte '.'] else body

example : textOf (cleanPath (bytesOf "/v1//parts/./x/..")) = "/v1/parts" := by cbv

example : (match Url.parse "http://bad host/" with
    | .ok _ => none
    | .error e => some e.reason) = some (.badHostChar (byte ' ')) := by cbv

end BillOfMaterials.Http
