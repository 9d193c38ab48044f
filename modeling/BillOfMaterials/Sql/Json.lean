import BillOfMaterials.Sql.Value

/-!
# JSON texts in the database

The JSON functions read their argument as JSON, taking the JSON5 extensions as well, and answer
in canonical, minified JSON:

* `JsonNode`: a value as read, numbers and strings kept as written with what kind each is;
* `readJson`: reads a text, with whether it used a JSON5 extension, which `json_valid` refuses
  unless told otherwise; a text that does not read is "malformed JSON";
* `JsonNode.render`: the canonical text, JSON5 forms rewritten (`0x1F` as `31`, `.5` as `0.5`,
  single quotes and JSON5 escapes as JSON strings);
* `JsonNode.lookup`: the node a path such as `$.parts[0].name` names, "not found" kept apart
  from a path that does not read;
* `JsonNode.sqlValue`: the SQL value of a node: strings unescaped, numbers read, containers as
  their text;
* `sqlJson`: the JSON text of an SQL value;
* `jsonFunction`: the functions themselves.
-/

namespace BillOfMaterials.Sql

/-- How a number was written: a decimal integer, a hexadecimal one, a real, or a real with no
digit on one side of its point. -/
inductive NumberKind where
  | int
  | hex
  | real
  | looseReal
  deriving DecidableEq, Inhabited

/-- How a string was written: with no escape, with JSON escapes only, or with JSON5 forms
(JSON5 escapes, raw control characters, a double quote inside single quotes). -/
inductive StringKind where
  | plain
  | escaped
  | json5
  deriving DecidableEq, Inhabited

/-- A JSON value as read. -/
inductive JsonNode where
  | null
  | bool (b : Bool)
  /-- A number as written, a leading `+` dropped. -/
  | number (text : String) (kind : NumberKind)
  /-- A string: what stands between its quotes, and how it was written. -/
  | string (text : String) (kind : StringKind)
  | array (items : List JsonNode)
  /-- An object: its members in order, each key a string as written. -/
  | object (members : List ((String × StringKind) × JsonNode))
  deriving Inhabited

/-- The failure of a text that does not read as JSON. -/
def malformedJson : SqlError := logicError "malformed JSON"

/-! ## Reading -/

/-- The blanks of JSON itself. -/
def isJsonSpace (c : Char) : Bool := c = ' ' || c = '\t' || c = '\n' || c = '\r'

/-- The blanks JSON5 adds: vertical tab, form feed and the Unicode spaces. -/
def isJson5Space (c : Char) : Bool :=
  c = '\x0b' || c = '\x0c' || c = '\u00a0' || c = '\u1680' || ('\u2000' ≤ c && c ≤ '\u200a') ||
    c = '\u2028' || c = '\u2029' || c = '\u202f' || c = '\u205f' || c = '\u3000' || c = '\ufeff'

/-- An ASCII letter or digit. -/
def isAsciiAlnum (c : Char) : Bool := c.isAlpha || c.isDigit

/-- A hexadecimal digit's value. -/
def hexDigitValue? (c : Char) : Option Nat :=
  if '0' ≤ c && c ≤ '9' then some (c.toNat - '0'.toNat)
  else if 'a' ≤ c && c ≤ 'f' then some (c.toNat - 'a'.toNat + 10)
  else if 'A' ≤ c && c ≤ 'F' then some (c.toNat - 'A'.toNat + 10)
  else none

/-- Whether a character is a hexadecimal digit. -/
def isHex (c : Char) : Bool := (hexDigitValue? c).isSome

/-- Whether the first four characters are hexadecimal digits. -/
def fourHex (cs : List Char) : Bool := cs.length ≥ 4 && (cs.take 4).all isHex

/-- The value of hexadecimal digits. -/
def hexValueOf (cs : List Char) : Nat := cs.foldl (fun n c => n * 16 + (hexDigitValue? c).getD 0) 0

/-- The rest of a comment that runs to the end of its line, the line break taken. -/
def lineCommentRest : List Char → List Char
  | [] => []
  | c :: rest =>
    if c = '\n' || c = '\r' || c = '\u2028' || c = '\u2029' then rest else lineCommentRest rest

/-- The rest of a block comment after its `/*`, past its `*/`; `none` when it is not closed. -/
def blockCommentRest : List Char → Option (List Char)
  | [] => none
  | '*' :: '/' :: rest => some rest
  | _ :: rest => blockCommentRest rest

/-- Skips the blanks and comments JSON5 allows, JSON's own blanks among them; `fuel` bounds
the steps, each of which takes a character at least. -/
def skipJson5Space : Nat → List Char → List Char
  | 0, cs => cs
  | fuel + 1, cs =>
    match cs with
    | c :: rest =>
      if isJsonSpace c || isJson5Space c then skipJson5Space fuel rest
      else if c = '/' then
        match rest with
        | '*' :: more =>
          match more with
          | [] => cs
          | _ => match blockCommentRest more with
            | some after => skipJson5Space fuel after
            | none => cs
        | '/' :: more => skipJson5Space fuel (lineCommentRest more)
        | _ => cs
      else cs
    | [] => []

/-- What stands where a value is expected: a value, a mark that ends or separates what holds
it, or the end of the text. -/
inductive JsonItem where
  | value (n : JsonNode)
  | closeObject
  | closeArray
  | comma
  | colon
  | finish
  deriving Inhabited

/-- A read: the item, the rest of the text, and whether a JSON5 form was met. -/
abbrev JsonRead := Option (JsonItem × List Char × Bool)

/-- The digits of a run of hexadecimal digits, and what follows. -/
def hexRun (cs : List Char) : List Char × List Char := (cs.takeWhile isHex, cs.dropWhile isHex)

/-- The body of a number after its first character, from `parse_number_2` on: digits, one
point, one exponent. `t` holds bit 1 for a JSON5 form and bit 2 for a real; `prev` and `before`
are the two characters before the next. Answers the characters taken and the final `t`. -/
def numberTail : Nat → List Char → Nat → Bool → Char → Char → Option (List Char × List Char × Nat)
  | 0, _, _, _, _, _ => none
  | fuel + 1, cs, t, seenE, prev, before =>
    let finish (t : Nat) : Option (List Char × List Char × Nat) :=
      if prev < '0' then
        if prev = '.' && before.isDigit then some ([], cs, t ||| 1) else none
      else some ([], cs, t)
    match cs with
    | c :: rest =>
      if c.isDigit then (numberTail fuel rest t seenE c prev).map fun (a, r, t) => (c :: a, r, t)
      else if c = '.' then
        if t &&& 2 ≠ 0 then none
        else (numberTail fuel rest (t ||| 2) seenE c prev).map fun (a, r, t) => (c :: a, r, t)
      else if c = 'e' || c = 'E' then
        let t := if prev < '0' then (if prev = '.' && before.isDigit then some (t ||| 1) else none)
          else some t
        match t with
        | none => none
        | some t =>
          if seenE then none
          else
            let (sign, more) := match rest with
              | s :: m => if s = '+' || s = '-' then ([s], m) else ([], rest)
              | [] => ([], [])
            match more with
            | d :: _ =>
              if d.isDigit then
                (numberTail fuel more (t ||| 2) true (sign.headD c) c).map fun (a, r, t) =>
                  (c :: sign ++ a, r, t)
              else none
            | [] => none
      else finish t
    | [] => finish t

/-- The kind of a number from its `t` bits. -/
def numberKindOf (t : Nat) : NumberKind :=
  match t with
  | 0 => .int
  | 1 => .hex
  | 2 => .real
  | _ => .looseReal

/-- Whether `word` starts `cs`, ASCII case ignored. -/
def startsNoCase (word : String) (cs : List Char) : Bool :=
  let w := word.toList
  cs.length ≥ w.length && ((cs.take w.length).zip w).all fun (a, b) => a.toLower = b.toLower

/-- Reads a number whose first character is a sign, a point or a digit. -/
def readNumber (cs : List Char) : JsonRead :=
  let done (text : List Char) (rest : List Char) (t : Nat) (json5 : Bool) : JsonRead :=
    let text := match text with
      | '+' :: more => more
      | _ => text
    some (.value (.number (String.ofList text) (numberKindOf t)), rest, json5)
  let tail (first : Char) (rest : List Char) (t : Nat) (json5 : Bool) : JsonRead :=
    match numberTail (rest.length + 1) rest t false first ' ' with
    | some (taken, after, t) => done (first :: taken) after t (json5 || t &&& 1 ≠ 0)
    | none => none
  match cs with
  | '.' :: rest =>
    match rest with
    | d :: _ => if d.isDigit then tail '.' rest 3 true else none
    | [] => none
  | '0' :: rest =>
    match rest with
    | x :: h :: _ =>
      if (x = 'x' || x = 'X') && isHex h then
        let (ds, after) := hexRun (rest.drop 1)
        done ('0' :: x :: ds) after 1 true
      else if x.isDigit then none
      else tail '0' rest 0 false
    | [x] => if x.isDigit then none else tail '0' rest 0 false
    | [] => tail '0' rest 0 false
  | s :: rest =>
    if s = '+' || s = '-' then
      let json5 := s = '+'
      match rest with
      | d :: more =>
        if !d.isDigit then
          if startsNoCase "inf" rest then
            let n := if startsNoCase "inity" (rest.drop 3) then 8 else 3
            some (.value (.number (if s = '-' then "-9e999" else "9e999") .real), rest.drop n, true)
          else if d = '.' then tail s rest 1 true
          else none
        else if d = '0' then
          match more with
          | e :: h :: _ =>
            if e.isDigit then none
            else if (e = 'x' || e = 'X') && isHex h then
              let (ds, after) := hexRun (more.drop 1)
              done (s :: '0' :: e :: ds) after 1 true
            else tail s rest 0 json5
          | [e] => if e.isDigit then none else tail s rest 0 json5
          | [] => tail s rest 0 json5
        else tail s rest 0 json5
      | [] => none
    else tail s rest 0 false
  | [] => none

/-- The characters of a string after its opening quote `delim`, up to the closing one, with
the kind of string it is and whether it used a JSON5 form; `none` when it is not closed or has
an escape that is not one. -/
def readStringBody (delim : Char) : Nat → List Char → StringKind →
    Option (List Char × List Char × StringKind)
  | 0, _, _ => none
  | _, [], _ => none
  | fuel + 1, c :: rest, kind =>
    let fiveKind : StringKind := .json5
    let escKind : StringKind := if kind = .plain then .escaped else kind
    if c = delim then some ([], rest, kind)
    else if c = '\\' then
      match rest with
      | [] => none
      | d :: more =>
        let keep (k : StringKind) (more : List Char) :=
          (readStringBody delim fuel more k).map fun (a, r, k) => (c :: d :: a, r, k)
        if d = '"' || d = '\\' || d = '/' || d = 'b' || d = 'f' || d = 'n' || d = 'r' || d = 't' then
          keep escKind more
        else if d = 'u' && fourHex more then keep escKind more
        else if d = '\x27' || d = '0' || d = 'v' || d = '\n' || d = '\u2028' || d = '\u2029' then
          keep fiveKind more
        else if d = 'x' && more.length ≥ 2 && (more.take 2).all isHex then keep fiveKind more
        else if d = '\r' then
          match more with
          | '\n' :: after =>
            (readStringBody delim fuel after fiveKind).map fun (a, r, k) => (c :: d :: '\n' :: a, r, k)
          | _ => keep fiveKind more
        else none
    else if c.toNat ≤ 0x1f then
      if c = '\x00' then none
      else (readStringBody delim fuel rest fiveKind).map fun (a, r, k) => (c :: a, r, k)
    else if c = '"' then (readStringBody delim fuel rest fiveKind).map fun (a, r, k) => (c :: a, r, k)
    else (readStringBody delim fuel rest kind).map fun (a, r, k) => (c :: a, r, k)

/-- Reads a string whose opening quote is the head of `cs`. -/
def readString (cs : List Char) : JsonRead :=
  match cs with
  | q :: rest =>
    match readStringBody q (rest.length + 1) rest .plain with
    | some (body, after, kind) =>
      some (.value (.string (String.ofList body) kind), after, q ≠ '"' || kind = .json5)
    | none => none
  | [] => none

/-- The names JSON5 and the database take for infinity and not-a-number, each with whether it
is infinity. -/
def specialNumbers : List (String × Bool) :=
  [("inf", true), ("infinity", true), ("nan", false), ("qnan", false), ("snan", false)]

/-- Reads `Infinity`, `NaN` and their kin, in any case, not followed by a letter or digit. -/
def readSpecial (cs : List Char) : JsonRead :=
  match specialNumbers.find? fun (w, _) =>
      startsNoCase w cs && !((cs.drop w.length).head?.any isAsciiAlnum) with
  | some (w, inf) =>
    some (.value (if inf then .number "9e999" .real else .null), cs.drop w.length, true)
  | none => none

/-- Reads a literal word not followed by a letter or digit. -/
def readWord (word : String) (node : JsonNode) (cs : List Char) : JsonRead :=
  let w := word.toList
  if w.isPrefixOf cs && !((cs.drop w.length).head?.any isAsciiAlnum) then
    some (.value node, cs.drop w.length, false)
  else none

/-- Whether a character may start a JSON5 key that is not quoted. -/
def isKeyStart (c : Char) : Bool := c.isAlpha || c = '_' || c = '$' || c.toNat ≥ 0x80

/-- Whether a character may go on a JSON5 key that is not quoted. -/
def isKeyChar (c : Char) : Bool := (isKeyStart c || c.isDigit) && !isJson5Space c

/-- The characters of a key that is not quoted, `\uXXXX` escapes allowed; whether it had one. -/
def keyRun : Nat → List Char → List Char × List Char × Bool
  | 0, cs => ([], cs, false)
  | fuel + 1, cs =>
    match cs with
    | c :: rest =>
      if isKeyChar c then
        let (a, r, e) := keyRun fuel rest
        (c :: a, r, e)
      else if c = '\\' && rest.head? = some 'u' && fourHex (rest.drop 1) then
        let (a, r, _) := keyRun fuel rest
        (c :: a, r, true)
      else ([], cs, false)
    | [] => ([], [], false)

/-- Reads a key that is not quoted. -/
def readBareKey (cs : List Char) : Option ((String × StringKind) × List Char) :=
  match cs with
  | c :: rest =>
    let escape := c = '\\' && rest.head? = some 'u' && fourHex (rest.drop 1)
    if isKeyStart c || escape then
      let (a, r, e) := keyRun rest.length rest
      some ((String.ofList (c :: a), if e || escape then .json5 else .plain), r)
    else none
  | [] => none

/-- The deepest nesting a text may have. -/
def jsonMaxDepth : Nat := 1000

mutual

/-- Reads what stands where a value is expected, blanks before it skipped. `fuel` bounds the
steps; `depth` is the nesting so far. -/
def readItem : Nat → Nat → List Char → JsonRead
  | 0, _, _ => none
  | fuel + 1, depth, cs =>
    match cs with
    | [] => some (.finish, [], false)
    | c :: rest =>
      if c = '{' then
        if depth + 1 > jsonMaxDepth then none else readMembers fuel (depth + 1) [] rest
      else if c = '[' then
        if depth + 1 > jsonMaxDepth then none else readItems fuel (depth + 1) [] rest
      else if c = '"' || c = '\x27' then readString cs
      else if c = 't' then readWord "true" (.bool true) cs
      else if c = 'f' then readWord "false" (.bool false) cs
      else if c = '+' || c = '-' || c = '.' || c.isDigit then readNumber cs
      else if c = '}' then some (.closeObject, rest, false)
      else if c = ']' then some (.closeArray, rest, false)
      else if c = ',' then some (.comma, rest, false)
      else if c = ':' then some (.colon, rest, false)
      else if isJsonSpace c then readItem fuel depth (rest.dropWhile isJsonSpace)
      else if c = '/' || isJson5Space c then
        let after := skipJson5Space (cs.length + 1) cs
        if after.length < cs.length then
          (readItem fuel depth after).map fun (i, r, _) => (i, r, true)
        else none
      else if c = 'n' then
        match readWord "null" .null cs with
        | some r => some r
        | none => readSpecial cs
      else readSpecial cs

/-- Reads the items of an array after its `[`, up to and with its `]`. -/
def readItems : Nat → Nat → List JsonNode → List Char → JsonRead
  | 0, _, _, _ => none
  | fuel + 1, depth, acc, cs =>
    match readItem fuel depth cs with
    | some (.closeArray, rest, j) => some (.value (.array acc.reverse), rest, j || !acc.isEmpty)
    | some (.value v, rest, j) =>
      let rest := rest.dropWhile isJsonSpace
      match rest with
      | ',' :: more => (readItems fuel depth (v :: acc) more).map fun (i, r, k) => (i, r, j || k)
      | ']' :: more => some (.value (.array (v :: acc).reverse), more, j)
      | _ =>
        match readItem fuel depth rest with
        | some (.comma, more, k) =>
          (readItems fuel depth (v :: acc) more).map fun (i, r, l) => (i, r, j || k || l)
        | some (.closeArray, more, k) => some (.value (.array (v :: acc).reverse), more, j || k)
        | _ => none
    | _ => none

/-- Reads the members of an object after its `{`, up to and with its `}`. -/
def readMembers : Nat → Nat → List ((String × StringKind) × JsonNode) → List Char → JsonRead
  | 0, _, _, _ => none
  | fuel + 1, depth, acc, cs =>
    let start := cs.dropWhile isJsonSpace
    match readItem fuel depth start with
    | some (.closeObject, rest, j) => some (.value (.object acc.reverse), rest, j || !acc.isEmpty)
    | first =>
      let key : Option ((String × StringKind) × List Char × Bool) :=
        match first with
        | some (.value (.string s k), rest, j) => some ((s, k), rest, j)
        | some (.value _, _, _) => none
        | _ => (readBareKey (skipJson5Space (start.length + 1) start)).map fun (k, rest) => (k, rest, true)
      match key with
      | some (k, rest, j) =>
        let afterColon : Option (List Char × Bool) :=
          match rest with
          | ':' :: more => some (more, false)
          | _ =>
            let r := rest.dropWhile isJsonSpace
            match r with
            | ':' :: more => some (more, false)
            | _ =>
              match readItem fuel depth r with
              | some (.colon, more, l) => some (more, l)
              | _ => none
        match afterColon with
        | none => none
        | some (rest, l) =>
          match readItem fuel depth rest with
          | some (.value v, rest, m) =>
            let j := j || l || m
            let acc := (k, v) :: acc
            let rest := rest.dropWhile isJsonSpace
            match rest with
            | ',' :: more => (readMembers fuel depth acc more).map fun (i, r, n) => (i, r, j || n)
            | '}' :: more => some (.value (.object acc.reverse), more, j)
            | _ =>
              match readItem fuel depth rest with
              | some (.comma, more, n) =>
                (readMembers fuel depth acc more).map fun (i, r, o) => (i, r, j || n || o)
              | some (.closeObject, more, n) => some (.value (.object acc.reverse), more, j || n)
              | _ => none
          | _ => none
      | none => none

end

/-- Reads a whole text as JSON: the value, and whether a JSON5 form was used. A `NUL` ends the
text. -/
def readJson (s : String) : Option (JsonNode × Bool) :=
  let cs := s.toList.takeWhile (· ≠ '\x00')
  if cs.isEmpty then none
  else
    match readItem (4 * cs.length + 16) 0 cs with
    | some (.value v, rest, j) =>
      let rest := rest.dropWhile isJsonSpace
      if rest.isEmpty then some (v, j)
      else if (skipJson5Space (rest.length + 1) rest).isEmpty then some (v, true)
      else none
    | _ => none

/-! ## Writing -/

/-- A lower-case hexadecimal digit. -/
def lowerHexDigit (n : Nat) : Char := if n < 10 then Char.ofNat (48 + n) else Char.ofNat (87 + n)

/-- The escape of a control character inside a JSON string. -/
def controlEscape (c : Char) : String :=
  if c = '\x08' then "\\b" else if c = '\t' then "\\t" else if c = '\n' then "\\n"
  else if c = '\x0c' then "\\f" else if c = '\r' then "\\r"
  else "\\u00" ++ String.ofList [lowerHexDigit (c.toNat / 16), lowerHexDigit (c.toNat % 16)]

/-- A text as a JSON string: quotes, backslashes and control characters escaped. -/
def quoteJsonString (s : String) : String :=
  "\"" ++ String.join (s.toList.map fun c =>
    if c = '"' then "\\\"" else if c = '\\' then "\\\\"
    else if c.toNat ≤ 0x1f then controlEscape c else String.singleton c) ++ "\""

/-- The canonical form of the body of a JSON5 string. -/
def canonicalBody : Nat → List Char → String
  | 0, _ => ""
  | _, [] => ""
  | fuel + 1, c :: rest =>
    if c = '"' then "\\\"" ++ canonicalBody fuel rest
    else if c.toNat ≤ 0x1f then controlEscape c ++ canonicalBody fuel rest
    else if c = '\\' then
      match rest with
      | '\x27' :: more => "\x27" ++ canonicalBody fuel more
      | 'v' :: more => "\\u0009" ++ canonicalBody fuel more
      | 'x' :: a :: b :: more => "\\u00" ++ String.ofList [a, b] ++ canonicalBody fuel more
      | '0' :: more => "\\u0000" ++ canonicalBody fuel more
      | '\r' :: '\n' :: more => canonicalBody fuel more
      | '\r' :: more => canonicalBody fuel more
      | '\n' :: more => canonicalBody fuel more
      | '\u2028' :: more => canonicalBody fuel more
      | '\u2029' :: more => canonicalBody fuel more
      | d :: more => String.ofList ['\\', d] ++ canonicalBody fuel more
      | [] => ""
    else String.singleton c ++ canonicalBody fuel rest

/-- The canonical text of a number: a hexadecimal integer in decimal (`9.0e999` when it
overflows 64 bits), a real given the digit its point lacks. -/
def numberText (text : String) : NumberKind → String
  | .int | .real => text
  | .hex =>
    let cs := text.toList
    let (sign, cs) := match cs with
      | '-' :: more => ("-", more)
      | '+' :: more => ("", more)
      | _ => ("", cs)
    let digits := cs.drop 2
    let (u, overflowed) := digits.foldl (fun (acc : Nat × Bool) c =>
      if acc.1 / 0x1000000000000000 ≠ 0 then (acc.1, true)
      else (acc.1 * 16 + (hexDigitValue? c).getD 0, acc.2)) (0, false)
    sign ++ (if overflowed then "9.0e999" else toString u)
  | .looseReal =>
    let cs := text.toList
    let (sign, cs) := match cs with
      | '-' :: more => ("-", more)
      | _ => ("", cs)
    let lead := if cs.head? = some '.' then "0" else ""
    let body := cs.zipIdx.map fun (c, i) =>
      if c = '.' && !((cs.drop (i + 1)).head?.any Char.isDigit) then ".0" else String.singleton c
    sign ++ lead ++ String.join body

/-- The canonical text of a string as written. -/
def stringText (text : String) : StringKind → String
  | .json5 => "\"" ++ canonicalBody (text.length + 1) text.toList ++ "\""
  | _ => "\"" ++ text ++ "\""

mutual

/-- The canonical, minified text of a node. -/
def JsonNode.render : JsonNode → String
  | .null => "null"
  | .bool true => "true"
  | .bool false => "false"
  | .number t k => numberText t k
  | .string t k => stringText t k
  | .array items => "[" ++ renderItems items ++ "]"
  | .object ms => "\x7b" ++ renderMembers ms ++ "\x7d"

/-- The texts of array items, comma separated. -/
def renderItems : List JsonNode → String
  | [] => ""
  | [n] => n.render
  | n :: ns => n.render ++ "," ++ renderItems ns

/-- The texts of object members, comma separated. -/
def renderMembers : List ((String × StringKind) × JsonNode) → String
  | [] => ""
  | [((k, kk), n)] => stringText k kk ++ ":" ++ n.render
  | ((k, kk), n) :: ms => stringText k kk ++ ":" ++ n.render ++ "," ++ renderMembers ms

end

/-! ## Values -/

/-- The character a surrogate or out-of-range code stands for when it is not one. -/
def charOfCode (n : Nat) : Char :=
  if n < 0xD800 || (0xE000 ≤ n && n < 0x110000) then Char.ofNat n else '\ufffd'

/-- The text of a string body with its escapes undone; an escaped line break is dropped. -/
def unescapeBody : Nat → List Char → List Char
  | 0, _ => []
  | _, [] => []
  | fuel + 1, c :: rest =>
    if c ≠ '\\' then c :: unescapeBody fuel rest
    else
      match rest with
      | 'u' :: more =>
        if fourHex more then
          let v := hexValueOf (more.take 4)
          let after := more.drop 4
          match after with
          | '\\' :: 'u' :: low =>
            let lo := hexValueOf (low.take 4)
            if v / 0x400 = 0x36 && fourHex low && lo / 0x400 = 0x37 then
              Char.ofNat ((v % 0x400) * 0x400 + lo % 0x400 + 0x10000) :: unescapeBody fuel (low.drop 4)
            else charOfCode v :: unescapeBody fuel after
          | _ => charOfCode v :: unescapeBody fuel after
        else '\ufffd' :: unescapeBody fuel more
      | 'b' :: more => '\x08' :: unescapeBody fuel more
      | 'f' :: more => '\x0c' :: unescapeBody fuel more
      | 'n' :: more => '\n' :: unescapeBody fuel more
      | 'r' :: more => '\r' :: unescapeBody fuel more
      | 't' :: more => '\t' :: unescapeBody fuel more
      | 'v' :: more => '\x0b' :: unescapeBody fuel more
      | '0' :: more => '\x00' :: unescapeBody fuel more
      | 'x' :: a :: b :: more => Char.ofNat (hexValueOf [a, b]) :: unescapeBody fuel more
      | '\r' :: '\n' :: more => unescapeBody fuel more
      | '\r' :: more => unescapeBody fuel more
      | '\n' :: more => unescapeBody fuel more
      | '\u2028' :: more => unescapeBody fuel more
      | '\u2029' :: more => unescapeBody fuel more
      | d :: more =>
        if d = '\x27' || d = '"' || d = '/' || d = '\\' then d :: unescapeBody fuel more
        else '\ufffd' :: unescapeBody fuel more
      | [] => ['\ufffd']

/-- The text a string node stands for. -/
def stringValue (text : String) : StringKind → String
  | .plain => text
  | _ => String.ofList (unescapeBody (text.length + 1) text.toList)

/-- The integer a hexadecimal number stands for, as 64 bits hold it; `none` past sixteen
digits. -/
def hexNumber (text : String) : Option Int :=
  let cs := text.toList
  let (neg, cs) := match cs with
    | '-' :: more => (true, more)
    | _ => (false, cs)
  let digits := (cs.drop 2).dropWhile (· = '0')
  if digits.length > 16 then none
  else
    let u := hexValueOf digits
    let signed : Int := if u ≥ 0x8000000000000000 then (u : Int) - 0x10000000000000000 else u
    let v := if neg then -signed else signed
    some (if v > maxInt then minInt else v)

/-- The SQL value of a node: `true` and `false` as 1 and 0, numbers read (an integer past 64
bits as a real), strings unescaped, arrays and objects as their text. -/
def JsonNode.sqlValue : JsonNode → Except SqlError Value
  | .null => .ok .null
  | .bool b => .ok (ofBool b)
  | .number t .int =>
    let (i, code) := readInt t
    if code = 0 then .ok (.int i) else .ok (.real (readReal t).1)
  | .number t .hex =>
    match hexNumber t with
    | some i => .ok (.int i)
    | none => .error malformedJson
  | .number t _ => .ok (.real (readReal t).1)
  | .string t k => .ok (.text (stringValue t k))
  | n => .ok (.text n.render)

/-- The name `json_type` gives a node's kind. -/
def JsonNode.typeName : JsonNode → String
  | .null => "null"
  | .bool true => "true"
  | .bool false => "false"
  | .number _ .int | .number _ .hex => "integer"
  | .number _ _ => "real"
  | .string _ _ => "text"
  | .array _ => "array"
  | .object _ => "object"

/-- The JSON text of an SQL value; a text marked as JSON already goes in as it is. -/
def sqlJson (v : Value) (isJson : Bool) : Except SqlError String :=
  match v with
  | .null => .ok "null"
  | .int n => .ok (toString n)
  | .real x => .ok (realText x)
  | .text s => .ok (if isJson then s else quoteJsonString s)
  | .blob _ => .error (logicError "JSON cannot hold BLOB values")

/-! ## Paths -/

/-- Where a path leads: to a node, to nothing, or nowhere because it does not read. -/
inductive JsonLookup where
  | found (n : JsonNode)
  | missing
  | badPath
  deriving Inhabited

/-- The value of decimal digits. -/
def decimalValue (cs : List Char) : Nat := cs.foldl (fun n c => n * 10 + (c.toNat - '0'.toNat)) 0

/-- Follows a path, after its `$`, from a node: `.key` or `."key"` into an object, `[n]` or
`[#-n]` into an array. A key is read before the node's kind is looked at, an index after. -/
def JsonNode.lookup : Nat → JsonNode → List Char → JsonLookup
  | 0, _, _ => .badPath
  | _, n, [] => .found n
  | fuel + 1, n, '.' :: rest =>
    let step (key : List Char) (after : List Char) : JsonLookup :=
      match n with
      | .object ms =>
        match ms.find? fun ((k, kk), _) => stringValue k kk == String.ofList key with
        | some (_, v) => v.lookup fuel after
        | none => .missing
      | _ => .missing
    match rest with
    | '"' :: q =>
      let key := q.takeWhile (· ≠ '"')
      match q.drop key.length with
      | '"' :: after => step key after
      | _ => .badPath
    | _ =>
      let key := rest.takeWhile fun c => c ≠ '.' && c ≠ '['
      if key.isEmpty then .badPath else step key (rest.drop key.length)
  | fuel + 1, n, '[' :: rest =>
    match n with
    | .array items =>
      let atIndex (k : Nat) (after : List Char) : JsonLookup :=
        match items[k]? with
        | some v => v.lookup fuel after
        | none => .missing
      let ds := rest.takeWhile Char.isDigit
      match rest.drop ds.length with
      | ']' :: after => if ds.isEmpty then .badPath else atIndex (decimalValue ds) after
      | _ =>
        match rest with
        | '#' :: more =>
          let count := items.length
          match more with
          | '-' :: d :: _ =>
            if d.isDigit then
              let back := (more.drop 1).takeWhile Char.isDigit
              let nn := decimalValue back
              if nn > count then .missing
              else
                match (more.drop 1).drop back.length with
                | ']' :: after => atIndex (count - nn) after
                | _ => .badPath
            else .badPath
          | ']' :: after => atIndex count after
          | _ => .badPath
        | _ => .badPath
    | _ => .missing
  | _, _, _ => .badPath

/-- The failure of a path that does not read. -/
def badPathError (path : String) : SqlError :=
  logicError ("bad JSON path: \x27" ++ path.replace "\x27" "\x27\x27" ++ "\x27")

/-- Looks up a path that must start with `$`. -/
def JsonNode.atPath (n : JsonNode) (path : String) : Except SqlError (Option JsonNode) :=
  match path.toList with
  | '$' :: rest =>
    match n.lookup (rest.length + 1) rest with
    | .found v => .ok (some v)
    | .missing => .ok none
    | .badPath => .error (badPathError path)
  | _ => .error (badPathError path)

/-- Whether a text is all ASCII letters, digits and underscores. -/
def isLabel (s : String) : Bool := s.all fun c => isAsciiAlnum c || c = '_'

/-- The path the `->` operators read from their right operand: an integer is an index (from
the end when negative), a label a key, `[...]` as it is, anything else a quoted key. -/
def arrowPath (v : Value) (text : String) : String :=
  match v with
  | .int n => if n < 0 then "$[#" ++ toString n ++ "]" else "$[" ++ toString n ++ "]"
  | _ =>
    if text.startsWith "$" then text
    else if isLabel text then "$." ++ text
    else if text.startsWith "[" && text.length ≥ 3 && text.endsWith "]" then "$" ++ text
    else "$.\"" ++ text ++ "\""

/-! ## The functions -/

/-- Reads a value as JSON: `NULL` reads as nothing; an empty or malformed text fails. -/
def readArgument (v : Value) : Except SqlError (Option (JsonNode × Bool)) :=
  match v.textForm with
  | none => .ok none
  | some s =>
    match readJson s with
    | some r => .ok (some r)
    | none => .error malformedJson

/-- The number of arguments a JSON function takes, if it is one. -/
def jsonArity (fn : String) (n : Nat) : Option Bool :=
  match fn with
  | "json" | "json_quote" => some (n == 1)
  | "json_valid" | "json_type" | "json_array_length" => some (n == 1 || n == 2)
  | "json_extract" | "json_array" | "json_object" => some true
  | "->" | "->>" => some (n == 2)
  | _ => none

/-- Whether a JSON function marks its text as JSON, so that another JSON function takes it in
as it is. -/
def marksJson (fn : String) : Bool :=
  ["json", "json_quote", "json_array", "json_object", "->"].contains fn

/-- Calls a JSON function, its name in lower case, on values; `isJson` tells which arguments are
texts marked as JSON. `none` when the name is not a JSON function's. -/
def jsonFunction (fn : String) (args : List Value) (isJson : List Bool) :
    Option (Except SqlError Value) :=
  let arg (i : Nat) : Value := args.getD i .null
  let withNode (f : JsonNode → Bool → Except SqlError Value) : Except SqlError Value := do
    match ← readArgument (arg 0) with
    | some (n, json5) => f n json5
    | none => pure .null
  match fn with
  | "json" => some (withNode fun n _ => pure (.text n.render))
  | "json_valid" => some do
    let flags ← if args.length > 1 then
        let f := (arg 1).toInt
        if f < 1 || f > 15 then
          throw (logicError "FLAGS parameter to json_valid() must be between 1 and 15")
        else pure f.toNat
      else pure 1
    match (arg 0).textForm with
    | none => pure .null
    | some s =>
      if flags % 4 = 0 then pure (ofBool false)
      else
        match readJson s with
        | some (_, json5) => pure (ofBool (flags / 2 % 2 = 1 || !json5))
        | none => pure (ofBool false)
  | "json_type" => some (withNode fun n _ => do
      if args.length > 1 then
        match (arg 1).textForm with
        | none => pure .null
        | some p =>
          match ← n.atPath p with
          | some v => pure (.text v.typeName)
          | none => pure .null
      else pure (.text n.typeName))
  | "json_array_length" => some (withNode fun n _ => do
      let count (v : JsonNode) : Value := match v with
        | .array items => .int items.length
        | _ => .int 0
      if args.length > 1 then
        match (arg 1).textForm with
        | none => pure .null
        | some p =>
          match ← n.atPath (if p.startsWith "$" then p else "@" ++ p) |>.mapError fun _ => badPathError p with
          | some v => pure (count v)
          | none => pure .null
      else pure (count n))
  | "json_extract" => some (if args.length < 2 then pure .null else withNode fun n _ => do
      let paths := args.drop 1
      if paths.length = 1 then
        match (arg 1).textForm with
        | none => pure .null
        | some p =>
          match ← n.atPath p with
          | some v => v.sqlValue
          | none => pure .null
      else
        let parts ← paths.mapM fun pv => do
          match pv.textForm with
          | none => pure none
          | some p => pure (some ((← n.atPath p).map (·.render) |>.getD "null"))
        if parts.any (·.isNone) then pure .null
        else pure (.text ("[" ++ ",".intercalate (parts.map (·.getD "null")) ++ "]")))
  | "->" | "->>" => some (withNode fun n _ => do
      match (arg 1).textForm with
      | none => pure .null
      | some p =>
        match ← n.atPath (arrowPath (arg 1) p) |>.mapError fun _ => badPathError p with
        | some v => if fn = "->" then pure (.text v.render) else v.sqlValue
        | none => pure .null)
  | "json_quote" => some do pure (.text (← sqlJson (arg 0) (isJson.getD 0 false)))
  | "json_array" => some do
    let parts ← (args.zip (isJson ++ List.replicate args.length false)).mapM fun (v, j) => sqlJson v j
    pure (.text ("[" ++ ",".intercalate parts ++ "]"))
  | "json_object" => some do
    if args.length % 2 = 1 then throw (logicError "json_object() requires an even number of arguments")
    let flags := isJson ++ List.replicate args.length false
    let pairs := ((args.zip flags).zipIdx.filter (·.2 % 2 = 0)).map fun ((k, _), i) =>
      (k, args.getD (i + 1) .null, flags.getD (i + 1) false)
    let parts ← pairs.mapM fun (k, v, j) => do
      match k with
      | .text s => pure (quoteJsonString s ++ ":" ++ (← sqlJson v j))
      | _ => throw (logicError "json_object() labels must be TEXT")
    pure (.text ("\x7b" ++ ",".intercalate parts ++ "\x7d"))
  | _ => none

end BillOfMaterials.Sql
