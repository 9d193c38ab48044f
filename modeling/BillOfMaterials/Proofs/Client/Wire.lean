import Mathlib
import BillOfMaterials.Client.Api
import BillOfMaterials.Api.Service
import BillOfMaterials.Proofs.Json.RoundTrip
import BillOfMaterials.Proofs.Store.Codec

/-!
# What the two ends read of each other's JSON

The client writes the body of a request as JSON and the service reads it with its binders; the
service writes every answer as an envelope and the client reads it with `readParts`. Both readers
get back what was written:

* the body of a create binds to its name, refused when the name is empty (`bind_name`), and the
  body of a children update binds to its list of ids (`bind_children`);
* an envelope whose codes fit in 64 bits decodes to itself (`decodeEnvelope_toJson`): its
  result, the views of its parts and its error;
* so the client reads a failure envelope as the server error with the status, code and
  description (`readParts_failure`), and a success envelope as the views of its parts, refused
  when one has no name; a part view always has an id (`validate_ofPart`), and the first view
  without a name is the one reported (`readParts_success`).
-/

namespace BillOfMaterials

open Json

/-! ## Decoding the pieces -/

theorem decodeTexts_strings (place : Place) (cs : List String) :
    decodeTexts place (Json.strings cs) = .ok (some cs) := by
  simp only [decodeTexts, Json.strings]
  rw [mapM_zipIdx_map (F := fun p => do
      let s ← decodeText (place.push (.item p.2)) p.1
      pure (s.getD "")) Json.string id cs (fun _ _ _ => rfl) 0, List.map_id]
  rfl

theorem decodePartView_toJson (key : String) (i : Nat) (v : PartView) :
    decodePartView key i v.toJson = .ok v := by
  simp only [decodePartView, PartView.toJson, decodeMembers, List.foldlM_cons, List.foldlM_nil,
    show fieldOf? ["id", "name", "parents", "children"] "id" = some "id" from rfl,
    show fieldOf? ["id", "name", "parents", "children"] "name" = some "name" from rfl,
    show fieldOf? ["id", "name", "parents", "children"] "parents" = some "parents" from rfl,
    show fieldOf? ["id", "name", "parents", "children"] "children" = some "children" from rfl,
    decodeTexts_strings]
  rfl

/-- A whole number that fits in 64 bits, as the decoder of codes wants. -/
def Fits64 (c : Int) : Prop := -0x8000000000000000 ≤ c ∧ c < 0x8000000000000000

theorem decodeInt_ofInt {c : Int} (h : Fits64 c) (place : Place) (target : String) :
    decodeInt place target (.ofInt c) = .ok (some c) := by
  simp only [decodeInt, Json.ofInt, Int.toString_eq_repr, Int.toInt?_repr, h.1, h.2,
    decide_true, Bool.and_self, if_true]

theorem decodeCoded_pair {c : Int} (h : Fits64 c) (owner codeType : String) (place : List Step)
    (init : Int × String) (d : String) :
    decodeCoded owner codeType place init
        (.object [("code", .ofInt c), ("description", .string d)]) =
      .ok (some (c, d)) := by
  simp only [decodeCoded, decodeMembers, List.foldlM_cons, List.foldlM_nil,
    show fieldOf? ["code", "description"] "code" = some "code" from rfl,
    show fieldOf? ["code", "description"] "description" = some "description" from rfl,
    decodeInt_ofInt h]
  rfl

theorem decodeCoded_null (owner codeType : String) (place : List Step) (init : Int × String) :
    decodeCoded owner codeType place init .null = .ok none := rfl

/-! ## Envelopes -/

/-- An envelope whose codes fit in 64 bits decodes to itself. -/
theorem decodeEnvelope_toJson (e : Envelope) (hr : ∀ c d, e.result = some (c, d) → Fits64 c)
    (he : ∀ b, e.error = some b → Fits64 b.code) : decodeEnvelope e.toJson = .ok e := by
  obtain ⟨result, data, error⟩ := e
  have hdata (vs : List PartView) :
      ((vs.map PartView.toJson).zipIdx).mapM (fun x => decodePartView "data" x.2 x.1) = .ok vs := by
    rw [mapM_zipIdx_map (fun x => decodePartView "data" x.2 x.1) PartView.toJson id vs
      (fun v _ i => decodePartView_toJson "data" i v) 0, List.map_id]
  rcases result with _ | ⟨c, d⟩ <;> rcases data with _ | vs <;> rcases error with _ | ⟨code, desc⟩ <;>
    simp (disch := first | exact hr _ _ rfl | exact he _ rfl) only [decodeEnvelope,
      Envelope.toJson, decodeRecord, decodeMembers, List.foldlM_cons, List.foldlM_nil,
      show fieldOf? ["result", "data", "error"] "result" = some "result" from rfl,
      show fieldOf? ["result", "data", "error"] "data" = some "data" from rfl,
      show fieldOf? ["result", "data", "error"] "error" = some "error" from rfl,
      decodeCoded_pair, decodeCoded_null, hdata] <;> rfl

theorem intNumbers_partView (v : PartView) : v.toJson.IntNumbers :=
  ⟨trivial, trivial, Json.intNumbers_strings _, Json.intNumbers_strings _, trivial⟩

theorem intNumbers_envelope (e : Envelope) : e.toJson.IntNumbers := by
  have hviews (vs : List PartView) : IntNumbersItems (vs.map PartView.toJson) :=
    Json.intNumbersItems_of_forall (by
      simp only [List.mem_map]
      rintro _ ⟨v, -, rfl⟩
      exact intNumbers_partView v)
  obtain ⟨result, data, error⟩ := e
  rcases result with _ | ⟨c, d⟩ <;> rcases data with _ | vs <;> rcases error with _ | ⟨code, desc⟩ <;>
    simp only [Envelope.toJson, IntNumbers, IntNumbersMembers, Json.ofInt, and_true,
      exists_apply_eq_apply', hviews]

/-! ## What the client reads -/

theorem toString_isEmpty (id : PartId) : id.toString.isEmpty = false := by
  simp [PartId.toString]

/-- The view of a part always has an id; it is refused only for an empty name. -/
theorem validate_ofPart (p : Part) :
    (PartView.ofPart p).validate =
      if p.name.isEmpty then .error ⟨"name", "cannot be empty"⟩ else .ok () := by
  unfold PartView.validate PartView.ofPart
  rw [if_neg (by simp [toString_isEmpty])]

theorem findSome?_map_of_const {α β γ : Type} {g : α → β} {f : β → Option γ} {c : γ}
    {P : α → Bool} (h : ∀ a, f (g a) = if P a then some c else none) (l : List α) :
    (l.map g).findSome? f = if l.any P then some c else none := by
  induction l with
  | nil => rfl
  | cons a l ih =>
    rw [List.map_cons, List.findSome?_cons, h, ih, List.any_cons]
    by_cases hp : P a <;> simp [hp]

/-- A failure envelope reaches the client as the server error with its status. -/
theorem readParts_failure {code : Int} (hc : Fits64 code) (status : Nat) (d : String) :
    Client.readParts status (.ok ((Envelope.failure code d).toJson.render {})) =
      .error (.server status ⟨code, d⟩) := by
  rw [Client.readParts, readFirst_render (intNumbers_envelope _)]
  simp only
  rw [decodeEnvelope_toJson _ (fun _ _ h => by simp [Envelope.failure] at h) (fun b h => by
    simp only [Envelope.failure, Option.some.injEq] at h
    rw [← h]
    exact hc)]
  rfl

/-- A success envelope with a status below 400 reaches the client as the views of its parts,
refused when one of them has no name. -/
theorem readParts_success {c : Int} (hc : Fits64 c) {status : Nat} (hs : status < 400) (d : String)
    (ps : List Part) :
    Client.readParts status (.ok ((Envelope.success c d ps).toJson.render {})) =
      if ps.any (·.name.isEmpty) then .error (.invalidView ⟨"name", "cannot be empty"⟩)
      else .ok (ps.map PartView.ofPart) := by
  rw [Client.readParts, readFirst_render (intNumbers_envelope _)]
  simp only
  rw [decodeEnvelope_toJson _ (fun c' _ h => by
    simp only [Envelope.success, Option.some.injEq, Prod.mk.injEq] at h
    rw [← h.1]
    exact hc) (fun b h => by simp [Envelope.success] at h)]
  simp only [Envelope.success, Option.getD_some]
  rw [if_neg (Nat.not_le.2 hs), findSome?_map_of_const (P := fun p => p.name.isEmpty)
    (c := ⟨"name", "cannot be empty"⟩) (fun p => ?_)]
  · by_cases h : ps.any (·.name.isEmpty) <;> simp [h]
  · rw [validate_ofPart]
    by_cases hn : p.name.isEmpty <;> simp [hn]

/-! ## Request bodies -/

theorem decode_name (name : String) :
    NewPartRequest.decode (.object [("name", .string name)]) = .ok { name } := rfl

theorem decode_children (cs : List String) :
    UpdateChildrenRequest.decode (.object [("children", Json.strings cs)]) =
      .ok { children := some cs } := by
  simp only [UpdateChildrenRequest.decode, decodeRecord, decodeMembers, List.foldlM_cons,
    List.foldlM_nil, show fieldOf? ["children"] "children" = some "children" from rfl,
    decodeTexts_strings]
  rfl

/-- The body of a create binds to its name, and is refused when the name is empty. -/
theorem bind_name (name : String) :
    NewPartRequest.bind ((Json.object [("name", .string name)]).render {}) =
      if name.isEmpty then .error (.required "NewPartRequest" "Name") else .ok { name } := by
  rw [NewPartRequest.bind, readFirst_render (by simp [IntNumbers, IntNumbersMembers])]
  simp only [Except.mapError, ok_bind, decode_name]
  by_cases h : name.isEmpty <;> simp [h]

/-- The body of a children update binds to its list of ids. -/
theorem bind_children (cs : List String) :
    UpdateChildrenRequest.bind ((Json.object [("children", Json.strings cs)]).render {}) =
      .ok cs := by
  have hj : (Json.object [("children", Json.strings cs)]).IntNumbers :=
    ⟨Json.intNumbers_strings cs, trivial⟩
  rw [UpdateChildrenRequest.bind, readFirst_render hj]
  simp only [Except.mapError, ok_bind, decode_children]
  rfl

end BillOfMaterials
