import BillOfMaterials.Sql.Value

/-!
# SQL text as tokens

`Sql.lex` splits SQL text into lexemes, each a `Token` with the span of characters it covers.
Blanks and comments (`-- …` to the end of the line, `/* … */`) separate tokens. A run of
characters that is no token is a failure `unrecognized token: "…"`, as is a number that runs
into a letter, an unclosed quote, or a malformed blob literal.
-/

namespace BillOfMaterials.Sql

/-- A token of SQL text. -/
inductive Token where
  /-- A keyword or a name, not quoted. -/
  | word (s : String)
  /-- A name in double quotes, backticks or brackets. -/
  | quotedName (s : String)
  /-- A string literal in single quotes. -/
  | text (s : String)
  /-- A number without point or exponent, as written. -/
  | integer (digits : String)
  /-- A number with a point or an exponent, as written. -/
  | float (literal : String)
  /-- A number in hexadecimal, as written after `0x`. -/
  | hex (digits : String)
  | blob (bytes : List UInt8)
  /-- A parameter `?` or `?NNN`. -/
  | param (index : Option Nat)
  /-- Punctuation or an operator. -/
  | sym (s : String)
  /-- Characters that make no token, with the failure they are. -/
  | illegal (e : SqlError)
  deriving DecidableEq, Inhabited

/-- A token with the span of characters it covers and the text written there. -/
structure Lexeme where
  token : Token
  start : Nat
  stop : Nat
  text : String
  deriving Inhabited

/-- Whether a character starts a bare name. -/
def isNameStart (c : Char) : Bool := c.isAlpha || c = '_' || c.toNat ≥ 0x80

/-- Whether a character continues a bare name. -/
def isNameChar (c : Char) : Bool := isNameStart c || c.isDigit || c = '$'

/-- Whether a character separates tokens. -/
def isSpace (c : Char) : Bool := c = ' ' || c = '\t' || c = '\n' || c = '\x0c' || c = '\r'

/-- Whether a character is a hex digit. -/
def isHexDigit (c : Char) : Bool :=
  c.isDigit || ('a' ≤ c && c ≤ 'f') || ('A' ≤ c && c ≤ 'F')

/-- The text up to a closing quote, a doubled quote standing for one; `none` when it is not
closed. Answers the text and the characters after the closing quote. -/
def quoted (q : Char) : List Char → Option (List Char × List Char)
  | [] => none
  | c :: rest =>
    if c = q then
      match rest with
      | d :: more => if d = q then (quoted q more).map fun (t, r) => (q :: t, r) else some ([], rest)
      | [] => some ([], [])
    else (quoted q rest).map fun (t, r) => (c :: t, r)

/-- The value of a hex digit. -/
def hexValue? (c : Char) : Option Nat :=
  if '0' ≤ c && c ≤ '9' then some (c.toNat - '0'.toNat)
  else if 'a' ≤ c && c ≤ 'f' then some (c.toNat - 'a'.toNat + 10)
  else if 'A' ≤ c && c ≤ 'F' then some (c.toNat - 'A'.toNat + 10)
  else none

/-- The bytes a blob literal spells, two hex digits each; `none` for an odd count of digits or
a character that is no hex digit. -/
def blobBytes? : List Char → Option (List UInt8)
  | [] => some []
  | a :: b :: rest => do
    let hi ← hexValue? a
    let lo ← hexValue? b
    let tail ← blobBytes? rest
    pure ((hi * 16 + lo).toUInt8 :: tail)
  | [_] => none

/-- The length of the comment body after `/*`, its closing `*/` included when there is one. -/
def commentLength : List Char → Nat
  | '*' :: '/' :: _ => 2
  | _ :: rest => commentLength rest + 1
  | [] => 0

/-- The characters of a number at the front: digits, an optional point and digits, an optional
exponent whose sign is followed by a digit; and whether it has a point or an exponent. -/
def numberSpan (cs : List Char) : List Char × Bool :=
  let whole := cs.takeWhile Char.isDigit
  let rest := cs.drop whole.length
  let (frac, rest, isFloat) := match rest with
    | '.' :: more =>
      let f := more.takeWhile Char.isDigit
      ('.' :: f, more.drop f.length, true)
    | _ => ([], rest, false)
  let (expo, isFloat) := match rest with
    | e :: s :: d :: _ =>
      if (e = 'e' || e = 'E') && (s = '+' || s = '-') && d.isDigit then
        (e :: s :: (rest.drop 2).takeWhile Char.isDigit, true)
      else if (e = 'e' || e = 'E') && s.isDigit then (e :: (rest.drop 1).takeWhile Char.isDigit, true)
      else ([], isFloat)
    | [e, s] => if (e = 'e' || e = 'E') && s.isDigit then ([e, s], true) else ([], isFloat)
    | _ => ([], isFloat)
  (whole ++ frac ++ expo, isFloat)

/-- The operators of three and two characters. -/
def longOps : List String := ["->>", "<=", ">=", "!=", "<>", "==", "||", "<<", ">>", "->"]

/-- The operators and punctuation of one character. -/
def shortOps : List Char := "(),;<>=*+-/.%&|~".toList

/-- The failure for characters that make no token. -/
def unrecognized (cs : List Char) : SqlError :=
  logicError ("unrecognized token: " ++ "\"" ++ String.ofList cs ++ "\"")

/-- Splits SQL text into lexemes; `pos` is the offset of `cs` in the whole text. Characters that
make no token end the list with an `illegal` lexeme, so that the statements before them still
read. Every step takes at least one character, so `fuel` one more than the length of the text
is enough. -/
def lexFrom : Nat → Nat → List Char → List Lexeme
  | 0, _, _ => []
  | _, _, [] => []
  | fuel + 1, pos, c :: rest =>
    let cs := c :: rest
    let emit (tok : Token) (n : Nat) : List Lexeme :=
      ⟨tok, pos, pos + n, String.ofList (cs.take n)⟩ :: lexFrom fuel (pos + n) (cs.drop n)
    let bad (bs : List Char) : List Lexeme := [⟨.illegal (unrecognized bs), pos, pos, String.ofList bs⟩]
    if isSpace c then lexFrom fuel (pos + 1) rest
    else if c = '-' && rest.head? = some '-' then
      let line := rest.dropWhile (· ≠ '\n')
      lexFrom fuel (pos + 1 + (rest.length - line.length)) line
    else if c = '/' && rest.head? = some '*' then
      let n := 2 + commentLength (rest.drop 1)
      lexFrom fuel (pos + n) (cs.drop n)
    else if c = '\x27' || c = '"' || c = '\x60' then
      match quoted c rest with
      | some (t, after) =>
        let n := cs.length - after.length
        emit (if c = '\x27' then .text (String.ofList t) else .quotedName (String.ofList t)) n
      | none => bad cs
    else if c = '[' then
      match rest.idxOf? ']' with
      | some i => emit (.quotedName (String.ofList (rest.take i))) (i + 2)
      | none => bad cs
    else if (c = 'x' || c = 'X') && rest.head? = some '\x27' then
      let body := (rest.drop 1).takeWhile isHexDigit
      let after := rest.drop (body.length + 1)
      if after.head? = some '\x27' && body.length % 2 = 0 then
        emit (.blob ((blobBytes? body).getD [])) (body.length + 3)
      else
        let run := (rest.drop 1).takeWhile (· ≠ '\x27')
        let n := run.length + 2 + (if (rest.drop (run.length + 1)).isEmpty then 0 else 1)
        bad (cs.take n)
    else if c = '0' && (rest.head? = some 'x' || rest.head? = some 'X') &&
        ((rest.drop 1).head?.map isHexDigit).getD false then
      let ds := (rest.drop 1).takeWhile isHexDigit
      let n := 2 + ds.length
      let tail := (cs.drop n).takeWhile isNameChar
      if tail.isEmpty then emit (.hex (String.ofList ds)) n
      else bad (cs.take (n + tail.length))
    else if c.isDigit || (c = '.' && ((rest.head?.map Char.isDigit).getD false)) then
      let (span, isFloat) := numberSpan (if c = '.' then '0' :: cs else cs)
      let span := if c = '.' then span.drop 1 else span
      let n := span.length
      let tail := (cs.drop n).takeWhile isNameChar
      if !tail.isEmpty then bad (cs.take (n + tail.length))
      else emit (if isFloat then .float (String.ofList span) else .integer (String.ofList span)) n
    else if c = '?' then
      let ds := rest.takeWhile Char.isDigit
      emit (.param (if ds.isEmpty then none
        else some (ds.foldl (fun n d => n * 10 + (d.toNat - '0'.toNat)) 0))) (1 + ds.length)
    else if isNameStart c then
      let name := cs.takeWhile isNameChar
      emit (.word (String.ofList name)) name.length
    else
      let three := String.ofList (cs.take 3)
      let two := String.ofList (cs.take 2)
      if longOps.contains three && three.length = 3 then emit (.sym three) 3
      else if longOps.contains two && two.length = 2 then emit (.sym two) 2
      else if shortOps.contains c then emit (.sym (String.singleton c)) 1
      else bad [c]

/-- Numbers the parameters of each statement: `?NNN` is number `NNN`, a plain `?` one more than
the highest before it in its statement. -/
def numberParams : Nat → List Lexeme → List Lexeme
  | _, [] => []
  | top, l :: rest =>
    match l.token with
    | .param none => { l with token := .param (some (top + 1)) } :: numberParams (top + 1) rest
    | .param (some n) => l :: numberParams (max top n) rest
    | .sym ";" => l :: numberParams 0 rest
    | _ => l :: numberParams top rest

/-- The lexemes of SQL text. -/
def lex (src : List Char) : List Lexeme := numberParams 0 (lexFrom (src.length + 1) 0 src)

end BillOfMaterials.Sql
