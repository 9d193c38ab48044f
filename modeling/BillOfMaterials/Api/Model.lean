import BillOfMaterials.Engine
import BillOfMaterials.Json.Value

/-!
# The wire model

What the API sends: parts as `PartView`s with ids in canonical form, and every answer of a
`/v1` route in an `Envelope` of three members, `result`, `data` and `error`, in that order. A
success has a result and a list of parts, never null, and no error; a failure has only the
error, with one of five codes.

* `PartView.validate`: a view the client trusts has an id and a name;
* `ErrorBody.message`: how a client reports an error envelope it received.
-/

namespace BillOfMaterials

/-- A part as it travels: ids as canonical texts. -/
structure PartView where
  id : String
  name : String
  parents : List String
  children : List String
  deriving DecidableEq, Inhabited

namespace PartView

/-- The view of a part. -/
def ofPart (p : Part) : PartView :=
  ⟨p.id.toString, p.name, p.parents.map PartId.toString, p.children.map PartId.toString⟩

/-- The JSON object of a view. -/
def toJson (v : PartView) : Json :=
  .object [("id", .string v.id), ("name", .string v.name), ("parents", Json.strings v.parents),
    ("children", Json.strings v.children)]

/-- Why a view is not trusted: the field and the reason. -/
structure Invalid where
  field : String
  reason : String
  deriving DecidableEq

/-- The message of an untrusted view. -/
def Invalid.message (e : Invalid) : String := "invalid part: " ++ e.field ++ " - " ++ e.reason

/-- A view is trusted when its id and its name are not empty. -/
def validate (v : PartView) : Except Invalid Unit :=
  if v.id.isEmpty then .error ⟨"id", "cannot be empty"⟩
  else if v.name.isEmpty then .error ⟨"name", "cannot be empty"⟩
  else .ok ()

end PartView

/-- The JSON object of a part. -/
def Part.toJson (p : Part) : Json := (PartView.ofPart p).toJson

/-- The JSON object of a snapshot. -/
def Snapshot.toJson (s : Snapshot) : Json :=
  .object [("parts", .array (s.parts.map fun p =>
    .object [("id", .string p.id.toString), ("name", .string p.name),
      ("children", Json.strings (p.children.map PartId.toString))]))]

/-- The JSON object of the counts of a graph. -/
def Stats.toJson (s : Stats) : Json :=
  .object [("parts", .ofNat s.parts), ("edges", .ofNat s.edges), ("top_level", .ofNat s.topLevel),
    ("subassembly", .ofNat s.subassembly), ("component", .ofNat s.component),
    ("orphan", .ofNat s.orphan)]

/-- The error codes of failed calls. -/
inductive ErrorCode where
  | internal
  | notFound
  | duplicateName
  | validation
  | cycle
  deriving DecidableEq

/-- The number of an error code. -/
def ErrorCode.toInt : ErrorCode → Int
  | .internal => 1
  | .notFound => 2
  | .duplicateName => 3
  | .validation => 4
  | .cycle => 5

/-- The error member of a failed call. -/
structure ErrorBody where
  code : Int
  description : String
  deriving DecidableEq, Inhabited

/-- How a client reports an error envelope received with HTTP status `status`. -/
def ErrorBody.message (status : Int) (b : ErrorBody) : String :=
  "server error " ++ toString status ++ " (code " ++ toString b.code ++ "): " ++ b.description

/-- The answer of a `/v1` route. -/
structure Envelope where
  result : Option (Int × String) := none
  data : Option (List PartView) := none
  error : Option ErrorBody := none
  deriving Inhabited

namespace Envelope

/-- A success: status code, description and the parts. -/
def success (code : Int) (description : String) (parts : List Part) : Envelope :=
  { result := some (code, description), data := some (parts.map PartView.ofPart) }

/-- A failure. -/
def failure (code : Int) (description : String) : Envelope :=
  { error := some ⟨code, description⟩ }

/-- The JSON object of an envelope. -/
def toJson (e : Envelope) : Json :=
  .object [
    ("result", match e.result with
      | some (c, d) => .object [("code", .ofInt c), ("description", .string d)]
      | none => .null),
    ("data", match e.data with
      | some vs => .array (vs.map PartView.toJson)
      | none => .null),
    ("error", match e.error with
      | some b => .object [("code", .ofInt b.code), ("description", .string b.description)]
      | none => .null)]

end Envelope

end BillOfMaterials
