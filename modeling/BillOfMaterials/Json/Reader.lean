import BillOfMaterials.Json.Value
import BillOfMaterials.Text.Space

/-!
# Reading JSON

`Json.readText` reads a whole text as one value; `Json.readFirst` reads the first value of a
stream and leaves the rest unread, as a request body is read. Both stop at the first character
that no JSON text can have there and name it with what was expected, in these words:

* `looking for beginning of value`, `looking for beginning of object key string`;
* `after object key`, `after object key:value pair`, `after array element`,
  `after top-level value`;
* `in string` (a control character), `in literal true (expecting 'r')` and the like,
  `in numeric literal` (anywhere in a number).

An unknown escape is named with its bytes: the backslash and the byte after it, or for `\u` the
backslash, the `u` and the four bytes after it. Input that ends inside a value is
`unexpected end of JSON input` for a text and `unexpected EOF` for a stream; a stream with no
value at all is `EOF`. In strings a `\u` escape of half a surrogate pair that is not followed by
the other half reads as U+FFFD.
-/

namespace BillOfMaterials

/-- Why a text is not JSON. -/
inductive ReadError where
  /-- The input ends inside a value. -/
  | truncated
  /-- A stream holds no value. -/
  | empty
  /-- A character that cannot stand where it stands. -/
  | badChar (c : Char) (context : String)
  /-- An escape sequence that is not one of JSON's, as bytes. -/
  | badEscape (sequence : List UInt8)
  deriving DecidableEq, Repr

namespace ReadError

/-- How an escape sequence is named: between backticks, or quoted when it holds a backtick, a
blank, a character that is not printable or a byte that is no character. -/
def showSequence (bs : List UInt8) : String :=
  let s := Text.Utf8.lossy bs
  if s.toList.any (fun c => c = '\x60' || c = '�' || Text.isSpace c || !Text.isPrintable c) then
    Text.quoteBytes bs
  else "\x60" ++ s ++ "\x60"

/-- The message of an error; `stream` tells a stream from a whole text. -/
def message (stream : Bool) : ReadError → String
  | .truncated => if stream then "unexpected EOF" else "unexpected end of JSON input"
  | .empty => if stream then "EOF" else "unexpected end of JSON input"
  | .badChar c context => "invalid character " ++ Text.quoteChar c ++ " " ++ context
  | .badEscape s => "invalid escape sequence " ++ showSequence s ++ " in string"

end ReadError

namespace Json

/-- JSON's blanks: space, tab, newline and carriage return. -/
def isBlank (c : Char) : Bool := c = ' ' || c = '\t' || c = '\n' || c = '\r'

/-- The input after its leading blanks. -/
def skipBlanks (cs : List Char) : List Char := cs.dropWhile isBlank

/-- The value of a hex digit. -/
def hexDigit? (c : Char) : Option Nat :=
  if '0' ≤ c && c ≤ '9' then some (c.toNat - '0'.toNat)
  else if 'a' ≤ c && c ≤ 'f' then some (c.toNat - 'a'.toNat + 10)
  else if 'A' ≤ c && c ≤ 'F' then some (c.toNat - 'A'.toNat + 10)
  else none

/-- The number of four hex digits. -/
def hex4? : List Char → Option Nat
  | [a, b, c, d] => do
    pure ((((← hexDigit? a) * 16 + (← hexDigit? b)) * 16 + (← hexDigit? c)) * 16 + (← hexDigit? d))
  | _ => none

/-- Whether a code unit is half of a surrogate pair. -/
def isSurrogate (u : Nat) : Bool := 0xD800 ≤ u && u < 0xE000

/-- The bytes of a `\u` escape up to the four after the `u`, read from the characters after
the `u`. -/
def escapeWindow (more : List Char) : List UInt8 :=
  [0x5C, 0x75] ++ (Text.Utf8.bytes (String.ofList (more.take 4))).take 4

/-- Names an escape `\u` whose four hex digits are not all there: the input ends within them
when what is left could begin them, else the escape is wrong. -/
def shortEscape (more : List Char) : ReadError :=
  if more.length < 4 && more.all (hexDigit? · |>.isSome) then .truncated
  else .badEscape (escapeWindow more)

/-- The character of a two-letter escape. -/
def simpleEscape? (e : Char) : Option Char :=
  if e = '"' then some '"'
  else if e = '\\' then some '\\'
  else if e = '/' then some '/'
  else if e = 'b' then some '\x08'
  else if e = 'f' then some '\x0c'
  else if e = 'n' then some '\n'
  else if e = 'r' then some '\r'
  else if e = 't' then some '\t'
  else none

/-- The character of a surrogate pair. -/
def pairChar (hi lo : Nat) : Char := Char.ofNat (0x10000 + (hi - 0xD800) * 0x400 + (lo - 0xDC00))

/-- Whether two code units form a surrogate pair. -/
def isPair (hi lo : Nat) : Bool := 0xD800 ≤ hi && hi < 0xDC00 && 0xDC00 ≤ lo && lo < 0xE000

/-- What a `\u` escape of half a surrogate pair stands for, and the input after it: with an
escape of the other half right after, the pair's character; alone, U+FFFD. -/
def afterSurrogate (u : Nat) : List Char → Char × List Char
  | '\\' :: 'u' :: e :: f :: g :: h :: rest =>
    match hex4? [e, f, g, h] with
    | some l =>
      if isPair u l then (pairChar u l, rest) else ('�', '\\' :: 'u' :: e :: f :: g :: h :: rest)
    | none => ('�', '\\' :: 'u' :: e :: f :: g :: h :: rest)
  | rest => ('�', rest)

theorem afterSurrogate_length (u : Nat) (cs : List Char) :
    (afterSurrogate u cs).2.length ≤ cs.length := by
  unfold afterSurrogate
  split
  · split
    · split
      · simp only [List.length_cons]; omega
      · simp
    · simp
  · simp

/-- Reads the rest of a string literal, its opening quote already read; `acc` holds the
characters read so far, last first. -/
def readString (acc : List Char) : List Char → Except ReadError (String × List Char)
  | [] => .error .truncated
  | '"' :: rest => .ok (String.ofList acc.reverse, rest)
  | '\\' :: 'u' :: a :: b :: c :: d :: rest =>
    match hex4? [a, b, c, d] with
    | none => .error (.badEscape (escapeWindow [a, b, c, d]))
    | some u =>
      if isSurrogate u then
        have := afterSurrogate_length u rest
        readString ((afterSurrogate u rest).1 :: acc) (afterSurrogate u rest).2
      else readString (Char.ofNat u :: acc) rest
  | '\\' :: 'u' :: more => .error (shortEscape more)
  | '\\' :: e :: rest =>
    match simpleEscape? e with
    | some c => readString (c :: acc) rest
    | none => .error (.badEscape (0x5C :: (Text.Utf8.bytes (String.singleton e)).take 1))
  | ['\\'] => .error .truncated
  | c :: rest =>
    if c.toNat < 0x20 then .error (.badChar c "in string")
    else readString (c :: acc) rest
termination_by cs => cs.length
decreasing_by all_goals simp_wf <;> omega

/-- Reads the letters of a literal after its first one. -/
def readLiteral (word : String) : List Char → List Char → Except ReadError (List Char)
  | [], cs => .ok cs
  | _ :: _, [] => .error .truncated
  | x :: xs, c :: cs =>
    if c = x then readLiteral word xs cs
    else .error (.badChar c ("in literal " ++ word ++ " (expecting " ++ Text.quoteChar x ++ ")"))

/-- Whether a character is a decimal digit. -/
def isDigit (c : Char) : Bool := '0' ≤ c && c ≤ '9'

/-- Reads the exponent of a number, after its `e` or `E`. -/
def readExponent (cs : List Char) : Except ReadError (List Char × List Char) :=
  let (sign, rest) := match cs with
    | '+' :: r => (['+'], r)
    | '-' :: r => (['-'], r)
    | r => ([], r)
  match rest with
  | [] => .error .truncated
  | c :: _ =>
    if isDigit c then .ok (sign ++ rest.takeWhile isDigit, rest.dropWhile isDigit)
    else .error (.badChar c "in numeric literal")

/-- Reads what follows the integer part of a number: a fraction, an exponent, both or none. -/
def readFraction (cs : List Char) : Except ReadError (List Char × List Char) := do
  let (frac, rest) ← match cs with
    | '.' :: r =>
      match r with
      | [] => .error .truncated
      | c :: _ =>
        if isDigit c then .ok ('.' :: r.takeWhile isDigit, r.dropWhile isDigit)
        else .error (.badChar c "in numeric literal")
    | r => .ok ([], r)
  match rest with
  | e :: r =>
    if e = 'e' || e = 'E' then
      let (exp, rest') ← readExponent r
      pure (frac ++ e :: exp, rest')
    else pure (frac, rest)
  | [] => pure (frac, rest)

/-- Reads a number starting at a minus sign or a digit. -/
def readNumber (cs : List Char) : Except ReadError (String × List Char) := do
  let (sign, rest) := match cs with
    | '-' :: r => (['-'], r)
    | r => ([], r)
  let (int, rest) ← match rest with
    | [] => .error .truncated
    | '0' :: r => .ok (['0'], r)
    | c :: r =>
      if isDigit c then .ok (c :: r.takeWhile isDigit, r.dropWhile isDigit)
      else .error (.badChar c "in numeric literal")
  let (tail, rest) ← readFraction rest
  pure (String.ofList (sign ++ int ++ tail), rest)

mutual
/-- Reads one value after optional blanks. Each nested call reads at least one character
first, so `fuel` one more than the length of the input is enough. -/
def readValue : Nat → List Char → Except ReadError (Json × List Char)
  | 0, _ => .error .truncated
  | fuel + 1, cs =>
    match skipBlanks cs with
    | [] => .error .truncated
    | '{' :: rest =>
      match skipBlanks rest with
      | '}' :: rest' => .ok (.object [], rest')
      | rest' => readMembers fuel [] rest'
    | '[' :: rest =>
      match skipBlanks rest with
      | ']' :: rest' => .ok (.array [], rest')
      | rest' => readItems fuel [] rest'
    | '"' :: rest => do
      let (s, rest') ← readString [] rest
      pure (.string s, rest')
    | 't' :: rest => do pure (.bool true, ← readLiteral "true" ['r', 'u', 'e'] rest)
    | 'f' :: rest => do pure (.bool false, ← readLiteral "false" ['a', 'l', 's', 'e'] rest)
    | 'n' :: rest => do pure (.null, ← readLiteral "null" ['u', 'l', 'l'] rest)
    | c :: rest =>
      if c = '-' || isDigit c then do
        let (n, rest') ← readNumber (c :: rest)
        pure (.number n, rest')
      else .error (.badChar c "looking for beginning of value")

/-- Reads array items from the start of one, `acc` holding those read, last first. -/
def readItems : Nat → List Json → List Char → Except ReadError (Json × List Char)
  | 0, _, _ => .error .truncated
  | fuel + 1, acc, cs => do
    let (v, rest) ← readValue fuel cs
    match skipBlanks rest with
    | ',' :: rest' => readItems fuel (v :: acc) rest'
    | ']' :: rest' => pure (.array (v :: acc).reverse, rest')
    | [] => throw .truncated
    | c :: _ => throw (.badChar c "after array element")

/-- Reads object members from the start of a key, `acc` holding those read, last first. -/
def readMembers : Nat → List (String × Json) → List Char → Except ReadError (Json × List Char)
  | 0, _, _ => .error .truncated
  | fuel + 1, acc, cs =>
    match skipBlanks cs with
    | '"' :: rest => do
      let (key, rest) ← readString [] rest
      match skipBlanks rest with
      | ':' :: rest => do
        let (v, rest) ← readValue fuel rest
        match skipBlanks rest with
        | ',' :: rest' => readMembers fuel ((key, v) :: acc) rest'
        | '}' :: rest' => pure (.object ((key, v) :: acc).reverse, rest')
        | [] => throw .truncated
        | c :: _ => throw (.badChar c "after object key:value pair")
      | [] => throw .truncated
      | c :: _ => throw (.badChar c "after object key")
    | [] => .error .truncated
    | c :: _ => .error (.badChar c "looking for beginning of object key string")
end

/-- Reads a whole text as one value, blanks around it allowed. -/
def readText (s : String) : Except ReadError Json := do
  let cs := s.toList
  match skipBlanks cs with
  | [] => throw .empty
  | _ =>
    let (v, rest) ← readValue (cs.length + 1) cs
    match skipBlanks rest with
    | [] => pure v
    | c :: _ => throw (.badChar c "after top-level value")

/-- Reads the first value of a stream; what follows it is left unread. -/
def readFirst (s : String) : Except ReadError Json := do
  let cs := s.toList
  match skipBlanks cs with
  | [] => throw .empty
  | _ =>
    let (v, _) ← readValue (cs.length + 1) cs
    pure v

end Json

end BillOfMaterials
