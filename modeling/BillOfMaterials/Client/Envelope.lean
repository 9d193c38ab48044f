import BillOfMaterials.Api.Model
import BillOfMaterials.Json.Decode

/-!
# Reading envelopes

How the client reads an answer of the API: the first JSON value of the body, decoded as an
`Envelope`. Members are matched to fields as `decodeMembers` does; `result` and `error` are
objects or `null`, `data` an array of part views or `null`. A code must be a whole number that
fits in 64 bits.
-/

namespace BillOfMaterials

/-- Decodes a whole number field: a number literal without fraction or exponent that fits in
64 bits; `null` leaves the field. -/
def decodeInt (place : Place) (target : String) : Json → Except Mismatch (Option Int)
  | .number lit =>
    match lit.toInt? with
    | some n =>
      if -0x8000000000000000 ≤ n && n < 0x8000000000000000 then .ok (some n)
      else .error ⟨"number " ++ lit, place, target, ""⟩
    | none => .error ⟨"number " ++ lit, place, target, ""⟩
  | .null => .ok none
  | v => .error ⟨v.kind, place, target, ""⟩

/-- Decodes the members of a code and description pair of type `models.owner` into `init`. -/
def decodeCoded (owner : String) (codeType : String) (place : List Step) (init : Int × String) :
    Json → Except Mismatch (Option (Int × String))
  | .object ms =>
    (decodeMembers ["code", "description"] (fun f k v (code, desc) =>
      if f = "code" then do
        let n ← decodeInt ⟨"Response", place ++ [.member k]⟩ codeType v
        pure (n.getD code, desc)
      else do
        let d ← decodeText ⟨"Response", place ++ [.member k]⟩ v
        pure (code, d.getD desc)) init ms).map some
  | .null => .ok none
  | v => .error ⟨v.kind, ⟨"Response", place⟩, "models." ++ owner, ""⟩

/-- Decodes a part view, item `i` of the member `data` spelt `key`. -/
def decodePartView (key : String) (i : Nat) : Json → Except Mismatch PartView
  | .object ms =>
    let field (k : String) : Place := ⟨"Response", [.member key, .item i, .member k]⟩
    decodeMembers ["id", "name", "parents", "children"] (fun f k v (pv : PartView) =>
      if f = "id" then do
        let s ← decodeText (field k) v
        pure { pv with id := s.getD pv.id }
      else if f = "name" then do
        let s ← decodeText (field k) v
        pure { pv with name := s.getD pv.name }
      else if f = "parents" then do
        let s ← decodeTexts (field k) v
        pure { pv with parents := s.getD [] }
      else do
        let s ← decodeTexts (field k) v
        pure { pv with children := s.getD [] }) ⟨"", "", [], []⟩ ms
  | .null => .ok ⟨"", "", [], []⟩
  | v => .error ⟨v.kind, ⟨"Response", [.member key, .item i]⟩, "models.PartView", ""⟩

/-- Decodes an answer of the API. -/
def decodeEnvelope : Json → Except Mismatch Envelope :=
  decodeRecord "models.Response" {} fun ms =>
    decodeMembers ["result", "data", "error"] (fun f k v (env : Envelope) =>
      if f = "result" then do
        let r ← decodeCoded "QueryResult" "int" [.member k] (env.result.getD (0, "")) v
        pure { env with result := r }
      else if f = "data" then
        match v with
        | .array items => do
          let views ← items.zipIdx.mapM fun (item, i) => decodePartView k i item
          pure { env with data := some views }
        | .null => pure { env with data := none }
        | other => .error ⟨other.kind, ⟨"Response", [.member k]⟩, "[]models.PartView", ""⟩
      else do
        let e ← decodeCoded "ErrorBody" "models.ErrorCode" [.member k]
          ((env.error.map fun b => (b.code, b.description)).getD (0, "")) v
        pure { env with error := e.map fun (c, d) => ⟨c, d⟩ }) {} ms

end BillOfMaterials
