import BillOfMaterials.Json.Value

/-!
# Typed decoding

Reading a JSON value into a record type. An object sets the fields its members name, in
document order, so a later member of the same name wins; a member key names a field when it
is the field's name or equal to it up to case, and members that name no field are skipped. A
`null` leaves a text field as it was and clears a list. A value of the wrong kind is a
`Mismatch`, and decoding stops at the first one.

A mismatch names where it happened: at the top, in a field (the path ends with a member), or
in a list item (the path ends with an index). The path starts at the type decoded at the top
and spells each member as the input does.
-/

namespace BillOfMaterials

/-- A step into a JSON value: a member of an object or an item of an array. -/
inductive Step where
  | member (name : String)
  | item (index : Nat)
  deriving DecidableEq, Inhabited

/-- How a step is written in a path. -/
def Step.name : Step → String
  | .member n => n
  | .item i => toString i

/-- The kind of a JSON value, as errors name it. -/
def Json.kind : Json → String
  | .null => "null"
  | .bool _ => "bool"
  | .number _ => "number"
  | .string _ => "string"
  | .array _ => "array"
  | .object _ => "object"

/-- Where a value is decoded: the record type whose fields the path starts in, and the path. -/
structure Place where
  owner : String
  path : List Step := []
  deriving DecidableEq, Inhabited

/-- The place one step further in. -/
def Place.push (p : Place) (s : Step) : Place := { p with path := p.path ++ [s] }

/-- A value of the wrong kind: what was found, where, the type it was meant for, and why the
type refuses it when it says so. -/
structure Mismatch where
  found : String
  place : Place
  target : String
  reason : String := ""
  deriving DecidableEq, Inhabited

/-- The message of a mismatch. -/
def Mismatch.message (m : Mismatch) : String :=
  let whereTo := m.place.owner ++ "." ++ ".".intercalate (m.place.path.map Step.name)
  "json: cannot unmarshal " ++ m.found ++ " into " ++
    (match m.place.path.getLast? with
      | none => "Go value"
      | some (.member _) => "Go struct field " ++ whereTo
      | some (.item _) => whereTo) ++ " of type " ++ m.target ++
    (if m.reason.isEmpty then "" else ": " ++ m.reason)

/-- A character folded for comparing member keys: ASCII letters to lower case, and the two
characters that fold onto ASCII letters (long s and the Kelvin sign) onto them. -/
def foldKeyChar (c : Char) : Char :=
  if 'A' ≤ c && c ≤ 'Z' then Char.ofNat (c.toNat + 32)
  else if c.toNat = 0x17F then 's'
  else if c.toNat = 0x212A then 'k'
  else c

/-- Whether a member key names a field up to case. -/
def keyMatches (field key : String) : Bool :=
  field.toList.map foldKeyChar = key.toList.map foldKeyChar

/-- The field a member key names: the one of that exact name, else one equal up to case. -/
def fieldOf? (fields : List String) (key : String) : Option String :=
  match fields.find? (· = key) with
  | some f => some f
  | none => fields.find? (keyMatches · key)

/-- Decodes the members of an object in order; `set` decodes a member into the field it
names, given the field and the key as written; members naming no field are skipped. -/
def decodeMembers {σ : Type} (fields : List String)
    (set : String → String → Json → σ → Except Mismatch σ)
    (init : σ) (ms : List (String × Json)) : Except Mismatch σ :=
  ms.foldlM (fun st (k, v) =>
    match fieldOf? fields k with
    | some f => set f k v st
    | none => pure st) init

/-- Decodes a value meant for the record type `top`: an object is read by `read`, `null` gives
`init`, anything else is a mismatch at the top. -/
def decodeRecord {σ : Type} (top : String) (init : σ)
    (read : List (String × Json) → Except Mismatch σ) : Json → Except Mismatch σ
  | .object ms => read ms
  | .null => .ok init
  | v => .error ⟨v.kind, ⟨"", []⟩, top, ""⟩

/-- Decodes a text: a string is its value, `null` leaves the field as it was. -/
def decodeText (place : Place) : Json → Except Mismatch (Option String)
  | .string s => .ok (some s)
  | .null => .ok none
  | v => .error ⟨v.kind, place, "string", ""⟩

/-- Decodes a list of texts: an array sets the list (a `null` item is the empty text), `null`
clears it. -/
def decodeTexts (place : Place) : Json → Except Mismatch (Option (List String))
  | .array items =>
    (items.zipIdx.mapM fun (v, i) => do
      let s ← decodeText (place.push (.item i)) v
      pure (s.getD "")).map some
  | .null => .ok none
  | v => .error ⟨v.kind, place, "[]string", ""⟩

end BillOfMaterials
