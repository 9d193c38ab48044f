import BillOfMaterials.Api.Model
import BillOfMaterials.Json.Decode
import BillOfMaterials.Json.Reader

/-!
# Stored snapshots

A store that keeps the graph as one JSON text writes `Snapshot.encode` and reads it back with
`StoredSnapshot.decode`.

* `Snapshot.encode`: the compact JSON text, members `parts`, then `id`, `name` and `children`
  per part, with `<`, `>` and `&` escaped;
* `StoredSnapshot`: a snapshot as a store hands it back. A list may be missing, which shows as
  `null` but restores as the empty list;
* `StoredSnapshot.decode`: the empty text is the empty snapshot; anything else must be exactly
  one JSON value. Members are matched to fields as `decodeMembers` does. An array is decoded
  into the list already there, item by item: an item keeps what its members do not set, and the
  list takes the length of the array. `null` clears a list and leaves an id or a name as it
  was. A string id is read as `PartId.parse?` reads it, and one that does not read stops
  decoding with the reason.
-/

namespace BillOfMaterials

/-- One part of a stored snapshot; the children may be missing. -/
structure StoredPart where
  id : PartId := PartId.nil
  name : String := ""
  children : Option (List PartId) := none
  deriving DecidableEq, Inhabited

/-- A snapshot as a store hands it back; the parts may be missing. -/
structure StoredSnapshot where
  parts : Option (List StoredPart) := none
  deriving DecidableEq, Inhabited

/-- The compact JSON text a store keeps for a snapshot. -/
def Snapshot.encode (s : Snapshot) : String := s.toJson.render {}

/-- Why a stored text is not a snapshot. -/
inductive SnapshotError where
  | read (e : ReadError)
  | mismatch (m : Mismatch)
  | id (e : IdError)
  deriving DecidableEq

/-- The message of a decoding failure. -/
def SnapshotError.message : SnapshotError → String
  | .read e => e.message false
  | .mismatch m => m.message
  | .id e => e.message

namespace StoredSnapshot

/-- The snapshot restored from a stored one: a missing list is the empty list. -/
def toSnapshot (s : StoredSnapshot) : Snapshot :=
  ⟨(s.parts.getD []).map fun p => ⟨p.id, p.name, p.children.getD []⟩⟩

/-- The number of parts. -/
def partCount (s : StoredSnapshot) : Nat := (s.parts.getD []).length

/-- The number of edges. -/
def edgeCount (s : StoredSnapshot) : Nat := s.toSnapshot.edgeCount

/-- The JSON object of a stored snapshot, a missing list as `null`. -/
def toJson (s : StoredSnapshot) : Json :=
  let ids (cs : Option (List PartId)) : Json := match cs with
    | some cs => Json.strings (cs.map PartId.toString)
    | none => .null
  .object [("parts", match s.parts with
    | some ps => .array (ps.map fun p =>
        .object [("id", .string p.id.toString), ("name", .string p.name),
          ("children", ids p.children)])
    | none => .null)]

/-- A stored snapshot of a snapshot, every list present. -/
def ofSnapshot (s : Snapshot) : StoredSnapshot :=
  ⟨some (s.parts.map fun p => ⟨p.id, p.name, some p.children⟩)⟩

/-- Decodes the items of an array into the list already there. -/
def decodeItems {α : Type} (blank : α) (old : List α)
    (dec : Nat → α → Json → Except SnapshotError α) (items : List Json) :
    Except SnapshotError (List α) :=
  items.zipIdx.mapM fun (v, i) => dec i (old.getD i blank) v

/-- Decodes an id into `old`: a string is read, `null` keeps `old`. -/
def decodeId (place : Place) (old : PartId) : Json → Except SnapshotError PartId
  | .string s => (PartId.parse? s).mapError .id
  | .null => .ok old
  | v => .error (.mismatch ⟨v.kind, place, "uuid.UUID", "JSON value must be string type"⟩)

/-- Decodes part `i` of the snapshot into `old`. -/
def decodePart (key : String) (i : Nat) (old : StoredPart) : Json → Except SnapshotError StoredPart
  | .object ms =>
    let field (k : String) : Place := ⟨"Snapshot", [.member key, .item i, .member k]⟩
    ms.foldlM (fun (p : StoredPart) (k, v) =>
      match fieldOf? ["id", "name", "children"] k with
      | some "id" => do pure { p with id := ← decodeId (field k) p.id v }
      | some "name" => do
        let s ← (decodeText (field k) v).mapError .mismatch
        pure { p with name := s.getD p.name }
      | some _ =>
        match v with
        | .array items => do
          let cs ← decodeItems PartId.nil (p.children.getD [])
            (fun j => decodeId ((field k).push (.item j))) items
          pure { p with children := some cs }
        | .null => pure { p with children := none }
        | other => .error (.mismatch ⟨other.kind, field k, "[]uuid.UUID", ""⟩)
      | none => pure p) old
  | .null => .ok old
  | v => .error (.mismatch ⟨v.kind, ⟨"Snapshot", [.member key, .item i]⟩, "bom.SnapshotPart", ""⟩)

/-- Decodes a JSON value meant for a snapshot. -/
def decodeValue : Json → Except SnapshotError StoredSnapshot
  | .object ms =>
    ms.foldlM (fun (s : StoredSnapshot) (k, v) =>
      match fieldOf? ["parts"] k with
      | some _ =>
        match v with
        | .array items => do
          let ps ← decodeItems {} (s.parts.getD []) (decodePart k) items
          pure { parts := some ps }
        | .null => pure { parts := none }
        | other =>
          .error (.mismatch ⟨other.kind, ⟨"Snapshot", [.member k]⟩, "[]bom.SnapshotPart", ""⟩)
      | none => pure s) {}
  | .null => .ok {}
  | v => .error (.mismatch ⟨v.kind, ⟨"", []⟩, "bom.Snapshot", ""⟩)

/-- Reads a stored text; the empty text is the empty snapshot. -/
def decode (text : String) : Except SnapshotError StoredSnapshot :=
  if text.isEmpty then .ok {}
  else
    match Json.readText text with
    | .error e => .error (.read e)
    | .ok j => decodeValue j

example : (decode "\x7b\"parts\":null\x7d") = .ok {} := by cbv

end StoredSnapshot

end BillOfMaterials
