import Mathlib
import BillOfMaterials.Store.Codec
import BillOfMaterials.Proofs.Json.RoundTrip
import BillOfMaterials.Proofs.Part.Id

/-!
# Decoding the text a store keeps

`Snapshot.encode` writes a snapshot as the compact JSON object `{"parts":[...]}`, each part
with its id in canonical form, its name and its children. Every number in that object is an
integer (`Snapshot.intNumbers_toJson`), so the text reads back as the same object
(`Json.readText_render`), and decoding the object field by field gives each part back, its
children list present even when empty (`decode_encode`). Forgetting which lists are present
gives the snapshot itself (`toSnapshot_ofSnapshot`).
-/

namespace BillOfMaterials

namespace Json

theorem intNumbersItems_of_forall {js : List Json} (h : ∀ j ∈ js, j.IntNumbers) :
    IntNumbersItems js := by
  induction js with
  | nil => trivial
  | cons j js ih =>
    exact ⟨h j List.mem_cons_self, ih fun j' hj' => h j' (List.mem_cons_of_mem _ hj')⟩

theorem intNumbers_strings (xs : List String) : (Json.strings xs).IntNumbers :=
  intNumbersItems_of_forall (by simp [IntNumbers])

end Json

theorem Snapshot.intNumbers_toJson (s : Snapshot) : s.toJson.IntNumbers := by
  refine ⟨Json.intNumbersItems_of_forall ?_, trivial⟩
  simp only [List.mem_map]
  rintro _ ⟨p, -, rfl⟩
  exact ⟨trivial, trivial, Json.intNumbers_strings _, trivial⟩

theorem mapM_zipIdx_map {α β γ ε : Type} (F : β × Nat → Except ε γ) (g : α → β) (h : α → γ)
    (xs : List α) (hF : ∀ x ∈ xs, ∀ i, F (g x, i) = .ok (h x)) (n : Nat) :
    ((xs.map g).zipIdx n).mapM F = .ok (xs.map h) := by
  induction xs generalizing n with
  | nil => rfl
  | cons x xs ih =>
    rw [List.map_cons, List.zipIdx_cons, List.mapM_cons, hF x List.mem_cons_self n,
      ih (fun y hy => hF y (List.mem_cons_of_mem _ hy)) (n + 1)]
    rfl

namespace StoredSnapshot

theorem decodeId_toString (place : Place) (old id : PartId) :
    decodeId place old (.string id.toString) = .ok id := by
  simp only [decodeId, PartId.parse?_toString]
  rfl

theorem decodePart_toJson (key : String) (i : Nat) (p : SnapshotPart) :
    decodePart key i {} (.object [("id", .string p.id.toString), ("name", .string p.name),
      ("children", Json.strings (p.children.map PartId.toString))]) =
      .ok ⟨p.id, p.name, some p.children⟩ := by
  have hid : fieldOf? ["id", "name", "children"] "id" = some "id" := by decide
  have hname : fieldOf? ["id", "name", "children"] "name" = some "name" := by decide
  have hch : fieldOf? ["id", "name", "children"] "children" = some "children" := by decide
  simp only [decodePart, List.foldlM_cons, List.foldlM_nil, hid, hname, hch, decodeId_toString,
    ok_bind, decodeText, Json.strings, decodeItems]
  simp +decide only [pure_bind, Except.mapError, List.map_map, ok_bind, Option.getD_some,
    Option.getD_none, List.getD_nil]
  rw [mapM_zipIdx_map _ (Json.string ∘ PartId.toString) id p.children
    (fun c _ j => decodeId_toString _ _ c) 0]
  simp

theorem decodeValue_toJson (s : Snapshot) : decodeValue s.toJson = .ok (ofSnapshot s) := by
  have hparts : fieldOf? ["parts"] "parts" = some "parts" := by decide
  simp only [Snapshot.toJson, decodeValue, List.foldlM_cons, List.foldlM_nil, hparts, decodeItems]
  rw [mapM_zipIdx_map _ _ (fun p => (⟨p.id, p.name, some p.children⟩ : StoredPart)) s.parts
    (fun p _ j => by simpa using decodePart_toJson "parts" j p) 0]
  rfl

/-- The text a store keeps for a snapshot decodes back to it, every list present. -/
theorem decode_encode (s : Snapshot) : decode s.encode = .ok (ofSnapshot s) := by
  have hne : s.encode.isEmpty = false := by
    refine String.isEmpty_eq_false_iff.2 fun h => ?_
    have := congrArg String.toList h
    rw [Snapshot.encode, Snapshot.toJson, Json.render_object_toList] at this
    simp at this
  rw [decode, if_neg (by simp [hne]), Snapshot.encode,
    Json.readText_render (Snapshot.intNumbers_toJson s)]
  exact decodeValue_toJson s

@[simp] theorem toSnapshot_ofSnapshot (s : Snapshot) : (ofSnapshot s).toSnapshot = s := by
  cases s with
  | mk parts => simp [toSnapshot, ofSnapshot, Function.comp_def]

end StoredSnapshot

end BillOfMaterials
