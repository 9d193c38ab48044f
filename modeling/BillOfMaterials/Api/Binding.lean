import BillOfMaterials.Json.Decode
import BillOfMaterials.Json.Reader

/-!
# Request bodies

The two bodies the API reads: `{"name": ...}` to create a part and `{"children": [...]}` to
change the children of one. A body is the first JSON value of the request stream, so text
after that value is never looked at. Binding fails at the first of:

1. a stream that holds no value or a malformed one;
2. a member of the wrong kind (`Mismatch`);
3. a required field left unset: an empty name, or no children list at all (an empty list is
   a list).
-/

namespace BillOfMaterials

/-- The body that creates a part. -/
structure NewPartRequest where
  name : String := ""
  deriving DecidableEq, Inhabited

/-- The body that changes the children of a part; `none` is a list never given. -/
structure UpdateChildrenRequest where
  children : Option (List String) := none
  deriving DecidableEq, Inhabited

/-- Why a body was not bound. -/
inductive BindError where
  | read (e : ReadError)
  | mismatch (m : Mismatch)
  | required (record field : String)
  deriving DecidableEq

/-- The message of a binding failure. -/
def BindError.message : BindError → String
  | .read e => e.message true
  | .mismatch m => m.message
  | .required record field =>
    "Key: \x27" ++ record ++ "." ++ field ++ "\x27 Error:Field validation for \x27" ++ field ++
      "\x27 failed on the \x27required\x27 tag"

namespace NewPartRequest

/-- Decodes the body of a create. -/
def decode : Json → Except Mismatch NewPartRequest :=
  decodeRecord "models.NewPartRequest" {} fun ms =>
    decodeMembers ["name"] (fun _ k v r => do
      match ← decodeText ⟨"NewPartRequest", [.member k]⟩ v with
      | some s => pure { r with name := s }
      | none => pure r) {} ms

/-- Reads the body of a create from the request stream. -/
def bind (body : String) : Except BindError NewPartRequest := do
  let j ← (Json.readFirst body).mapError .read
  let r ← (decode j).mapError .mismatch
  if r.name.isEmpty then throw (.required "NewPartRequest" "Name")
  pure r

end NewPartRequest

namespace UpdateChildrenRequest

/-- Decodes the body of a children update. -/
def decode : Json → Except Mismatch UpdateChildrenRequest :=
  decodeRecord "models.UpdateChildrenRequest" {} fun ms =>
    decodeMembers ["children"] (fun _ k v _ => do
      let cs ← decodeTexts ⟨"UpdateChildrenRequest", [.member k]⟩ v
      pure { children := cs }) {} ms

/-- Reads the body of a children update from the request stream; the answer is the list. -/
def bind (body : String) : Except BindError (List String) := do
  let j ← (Json.readFirst body).mapError .read
  let r ← (decode j).mapError .mismatch
  match r.children with
  | some cs => pure cs
  | none => throw (.required "UpdateChildrenRequest" "Children")

end UpdateChildrenRequest

end BillOfMaterials
