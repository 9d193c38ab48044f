import BillOfMaterials.Text.Utf8
import BillOfMaterials.Text.Printable

/-!
# Quoted texts

Error messages show names, filters and prefixes between double quotes, with every character
that is not printable written as an escape, so that the message stays on one line and shows
blanks and controls:

* the quote itself and the backslash get a backslash;
* bell, backspace, form feed, newline, carriage return, tab and vertical tab are `\a \b \f \n
  \r \t \v`; other controls below the space, and DEL, are `\x` and two hex digits;
* any other character that is not printable is `\u` and four hex digits, or `\U` and eight
  past U+FFFF;
* a byte that starts no well-formed character is `\x` and two hex digits.

Hex digits are lower case. `quoteChar` writes one character between single quotes by the same
rules, with the single quote escaped instead of the double one.
-/

namespace BillOfMaterials.Text

/-- The lower-case hex digits of `n`, padded with zeros to at least `width` digits. -/
def hexPadded (width n : Nat) : String :=
  let digits := Nat.toDigits 16 n
  String.ofList (List.replicate (width - digits.length) '0' ++ digits)

/-- The escape of a character that is not shown as it is. -/
def escape (c : Char) : String :=
  if c = '\x07' then "\\a"
  else if c = '\x08' then "\\b"
  else if c = '\x0c' then "\\f"
  else if c = '\n' then "\\n"
  else if c = '\r' then "\\r"
  else if c = '\t' then "\\t"
  else if c = '\x0b' then "\\v"
  else if c.toNat < 0x20 || c.toNat = 0x7F then "\\x" ++ hexPadded 2 c.toNat
  else if c.toNat < 0x10000 then "\\u" ++ hexPadded 4 c.toNat
  else "\\U" ++ hexPadded 8 c.toNat

/-- One character inside quotes `q`: the quote and the backslash get a backslash, a printable
character stands as it is, any other is escaped. -/
def quotedChar (q c : Char) : String :=
  if c = q || c = '\\' then String.ofList ['\\', c]
  else if isPrintable c then String.singleton c
  else escape c

/-- A text between double quotes. -/
def quote (s : String) : String :=
  "\"" ++ String.join (s.toList.map (quotedChar '"')) ++ "\""

/-- A byte string between double quotes; a stray byte is written `\x` and two hex digits. -/
def quoteBytes (bs : List UInt8) : String :=
  "\"" ++ String.join ((Utf8.pieces bs).map fun
    | .char c => quotedChar '"' c
    | .stray b => "\\x" ++ hexPadded 2 b.toNat) ++ "\""

/-- One character between single quotes. -/
def quoteChar (c : Char) : String :=
  "'" ++ quotedChar '\'' c ++ "'"

example : quote "a\"b\n" = "\"a\\\"b\\n\"" := by cbv
example : quoteChar '\'' = "'\\''" := by cbv
example : quote "\x00\x7f" = "\"\\x00\\x7f\"" := by cbv

end BillOfMaterials.Text
