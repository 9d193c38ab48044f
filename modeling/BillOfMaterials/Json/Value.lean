import BillOfMaterials.Text.Quoted

/-!
# JSON values

A `Json` value keeps what a JSON text says and in what order: object members in the order
written, repeated keys included, and numbers as their literal text.

Writing (`Json.render`) is compact, with no blank between tokens. Inside strings the quote and
the backslash get a backslash; backspace, form feed, newline, carriage return and tab take
their short escapes; other controls are `\u00` and two lower-case hex digits; U+2028 and U+2029
are always escaped. `JsonStyle.htmlSafe` also escapes `<`, `>` and `&`, so that a text can sit
inside HTML.
-/

namespace BillOfMaterials

/-- A JSON value, members and numbers as written. -/
inductive Json where
  | null
  | bool (b : Bool)
  | number (literal : String)
  | string (s : String)
  | array (items : List Json)
  | object (members : List (String × Json))
  deriving Inhabited, Repr

/-- How strings are escaped when written. -/
structure JsonStyle where
  /-- Escape `<`, `>` and `&` as well. -/
  htmlSafe : Bool := true

namespace Json

/-- The JSON number of an integer. -/
def ofInt (n : Int) : Json := .number (toString n)

/-- The JSON number of a natural number. -/
def ofNat (n : Nat) : Json := .number (toString n)

/-- A JSON array of strings. -/
def strings (xs : List String) : Json := .array (xs.map .string)

/-- The written form of one character inside a string. -/
def escapeChar (style : JsonStyle) (c : Char) : String :=
  if c = '"' then "\\\""
  else if c = '\\' then "\\\\"
  else if c = '\x08' then "\\b"
  else if c = '\x0c' then "\\f"
  else if c = '\n' then "\\n"
  else if c = '\r' then "\\r"
  else if c = '\t' then "\\t"
  else if c.toNat < 0x20 then "\\u00" ++ Text.hexPadded 2 c.toNat
  else if c = ' ' || c = ' ' then "\\u" ++ Text.hexPadded 4 c.toNat
  else if style.htmlSafe && (c = '<' || c = '>' || c = '&') then "\\u00" ++ Text.hexPadded 2 c.toNat
  else String.singleton c

/-- A string literal. -/
def quote (style : JsonStyle) (s : String) : String :=
  "\"" ++ String.join (s.toList.map (escapeChar style)) ++ "\""

mutual
/-- The compact text of a value. -/
def render (style : JsonStyle) : Json → String
  | .null => "null"
  | .bool true => "true"
  | .bool false => "false"
  | .number n => n
  | .string s => quote style s
  | .array items => "[" ++ renderItems style items ++ "]"
  | .object ms => "\x7b" ++ renderMembers style ms ++ "\x7d"

/-- The texts of array items, comma separated. -/
def renderItems (style : JsonStyle) : List Json → String
  | [] => ""
  | [j] => render style j
  | j :: js => render style j ++ "," ++ renderItems style js

/-- The texts of object members, comma separated. -/
def renderMembers (style : JsonStyle) : List (String × Json) → String
  | [] => ""
  | [(k, v)] => quote style k ++ ":" ++ render style v
  | (k, v) :: ms => quote style k ++ ":" ++ render style v ++ "," ++ renderMembers style ms
end

/-- The last member of a key, as a repeated key overrides the ones before it. -/
def get? (j : Json) (key : String) : Option Json :=
  match j with
  | .object ms => (ms.reverse.find? (·.1 == key)).map (·.2)
  | _ => none

/-- The string of a member, if it is one. -/
def getStr? (j : Json) (key : String) : Option String :=
  match j.get? key with
  | some (.string s) => some s
  | _ => none

/-- The items of an array member, if it is one. -/
def getArr? (j : Json) (key : String) : Option (List Json) :=
  match j.get? key with
  | some (.array xs) => some xs
  | _ => none

/-- The truth value of a member, if it is one. -/
def getBool? (j : Json) (key : String) : Option Bool :=
  match j.get? key with
  | some (.bool b) => some b
  | _ => none

/-- The integer of a number member written as an integer. -/
def getInt? (j : Json) (key : String) : Option Int :=
  match j.get? key with
  | some (.number n) => n.toInt?
  | _ => none

/-- The strings of an array member, skipping items that are not strings. -/
def getStrs? (j : Json) (key : String) : Option (List String) :=
  (j.getArr? key).map fun xs => xs.filterMap fun | .string s => some s | _ => none

end Json

end BillOfMaterials
