import Mathlib
import BillOfMaterials.Store.Graph
import BillOfMaterials.Proofs.Json.RoundTrip
import BillOfMaterials.Proofs.Part.Id

/-!
# Reading back a graph written to a server

A write replaces the graph with one node per part, its `seq` the part's position (`nodeOf`),
and one edge per child, its `position` the child's position in the list (`edgeOf`); the
server is `written srv s` (`write_eq`). A read sorts the nodes by `seq` and the edges by the
`seq` of their parent, then by `position`. When the ids of the snapshot are distinct and every
child is one of its parts:

* the nodes come back in the order written (`partRows_written`), and so do the edges, none
  dropped (`edgeRows_written`): the id of an edge's parent finds that parent's node
  (`node?_written`), whose `seq` orders the edges part by part;
* adding each edge's child to its parent, one edge after the other (`foldlM_edges`), gives each
  part the children of its own edges in order (`foldl_grow`, `children_of_triples`);
* so the read gives every part back in order with its children in order (`read_written`),
  which is the snapshot once a missing list counts as empty (`toSnapshot_readBack`).

What the read asks of the server's queries, the order of their rows and the edges they keep, is
`QueriesReadBack`; `read_written` uses the server through it alone, and `queriesReadBack` shows
that the server's queries give it.

A server with no graph reads back the empty snapshot (`read_blank`).
-/

namespace BillOfMaterials

theorem toDigits_ten_no_exponent {n : Nat} {c : Char} (h : c ∈ Nat.toDigits 10 n) :
    c ≠ 'e' ∧ c ≠ 'E' ∧ c ≠ '.' ∧ c ≠ '-' := by
  have hd := Json.isDigit_of_mem_toDigits h
  refine ⟨?_, ?_, ?_, ?_⟩ <;> (rintro rfl; simp [Json.isDigit] at hd)

theorem Json.decimal?_ofNat (n : Nat) : Json.decimal? (.ofNat n) = some ((n : Int), 0) := by
  have hne := fun c (h : c ∈ Nat.toDigits 10 n) => toDigits_ten_no_exponent h
  have hhead : (Nat.toDigits 10 n).head? ≠ some '-' := by
    intro h
    exact (hne '-' (List.mem_of_head? h)).2.2.2 rfl
  have hdigits : (Nat.toDigits 10 n).foldl (fun acc c => acc * 10 + (c.toNat - '0'.toNat)) 0 = n := by
    have := Nat.ofDigitChars_toDigits (b := 10) (n := n) (by decide) (by decide)
    rw [Nat.ofDigitChars] at this
    simpa [Nat.mul_comm] using this
  have hs1 : (Nat.toDigits 10 n).span (fun c => decide (c ≠ 'e') && decide (c ≠ 'E')) =
      (Nat.toDigits 10 n, []) := by
    rw [List.span_eq_takeWhile_dropWhile, List.takeWhile_eq_self_iff.2, List.dropWhile_eq_nil_iff.2]
    all_goals intro c hc; simp [(hne c hc).1, (hne c hc).2.1]
  have hs2 : (Nat.toDigits 10 n).span (fun c => decide (c ≠ '.')) = (Nat.toDigits 10 n, []) := by
    rw [List.span_eq_takeWhile_dropWhile, List.takeWhile_eq_self_iff.2, List.dropWhile_eq_nil_iff.2]
    all_goals intro c hc; simp [(hne c hc).2.2.1]
  simp only [Json.decimal?, Json.ofNat, Nat.toString_eq_repr, Nat.toList_repr, hhead, if_false, hs1, hs2]
  simpa using hdigits

theorem sortKeyLe_ofNat (i j : Nat) : sortKeyLe (.ofNat i) (.ofNat j) = decide (i ≤ j) := by
  simp [sortKeyLe, Json.decimal?_ofNat, Int.pow]

/-- A stored part with children added at the end of its list; adding none leaves it as it is,
with no list if it had none. -/
def StoredPart.withChildren (q : StoredPart) : List PartId → StoredPart
  | [] => q
  | cs => { q with children := some (q.children.getD [] ++ cs) }

@[simp] theorem StoredPart.withChildren_id (q : StoredPart) (cs : List PartId) :
    (q.withChildren cs).id = q.id := by
  cases cs <;> rfl

@[simp] theorem StoredPart.withChildren_name (q : StoredPart) (cs : List PartId) :
    (q.withChildren cs).name = q.name := by
  cases cs <;> rfl

@[simp] theorem StoredPart.withChildren_nil (q : StoredPart) : q.withChildren [] = q := rfl

theorem StoredPart.withChildren_append (q : StoredPart) (cs ds : List PartId) :
    (q.withChildren cs).withChildren ds = q.withChildren (cs ++ ds) := by
  cases cs with
  | nil => rfl
  | cons c cs =>
    cases ds with
    | nil => simp [withChildren]
    | cons d ds => simp [withChildren]

namespace GraphServer

/-- The node written for the `k`-th part of a snapshot. -/
def nodeOf (p : SnapshotPart) (k : Nat) : GraphNode :=
  { id := .string p.id.toString, name := .string p.name, seq := .ofNat k }

/-- The edge written from a part to its `i`-th child. -/
def edgeOf (p : SnapshotPart) (c : PartId) (i : Nat) : GraphEdge :=
  { parent := .string p.id.toString, child := .string c.toString, position := .ofNat i }

/-- The nodes written for a snapshot. -/
def nodesOf (s : Snapshot) : List GraphNode := s.parts.zipIdx.map fun (p, k) => nodeOf p k

/-- The edges written for a snapshot. -/
def edgesOf (s : Snapshot) : List GraphEdge :=
  s.parts.flatMap fun p => p.children.zipIdx.map fun (c, i) => edgeOf p c i

/-- What a write of a snapshot leaves in a server. -/
def written (srv : GraphServer) (s : Snapshot) : GraphServer :=
  { srv with nodes := nodesOf s, edges := edgesOf s }

theorem write_eq {srv srv' : GraphServer} {s : Snapshot} (h : srv.write s = .ok srv') :
    srv.failure? .begin = none ∧ srv.failure? .commit = none ∧ srv' = written srv s := by
  unfold write at h
  cases h1 : srv.failure? .begin <;> cases h2 : srv.failure? .clear <;>
    cases h3 : srv.failure? .createParts <;> cases h4 : srv.failure? .createEdges <;>
    cases h5 : srv.failure? .commit <;> simp [h1, h2, h3, h4, h5] at h
  exact ⟨rfl, rfl, h.symm⟩

theorem pairwise_zipIdx {α : Type} (l : List α) (n : Nat) :
    (l.zipIdx n).Pairwise fun a b => a.2 < b.2 := by
  have h := List.pairwise_lt_range' (s := n) (n := l.length)
  rw [← List.zipIdx_map_snd, List.pairwise_map] at h
  exact h

/-- The parts come back in the order written: by `seq`, which is their position. -/
theorem partRows_written (srv : GraphServer) (s : Snapshot) :
    (written srv s).partRows = nodesOf s := by
  apply List.mergeSort_of_pairwise
  rw [written, nodesOf, List.pairwise_map]
  refine (pairwise_zipIdx s.parts 0).imp fun {a b} h => ?_
  simp [nodeOf, sortKeyLe_ofNat]
  omega

theorem idOf_toString (key : String) (id : PartId) : idOf key (.string id.toString) = .ok id := by
  simp only [idOf, Json.textOrEmpty, PartId.parse?_toString]
  rfl

theorem mapM_nodes (s : Snapshot) :
    (nodesOf s).mapM (fun n => do
      let id ← idOf "id" n.id
      pure ({ id, name := n.name.textOrEmpty } : StoredPart)) =
      .ok (s.parts.map fun p => { id := p.id, name := p.name }) := by
  rw [nodesOf, List.mapM_map, mapM_eq_ok_map (g := fun x => { id := x.1.id, name := x.1.name })]
  · conv => rhs; rw [← List.zipIdx_map_fst 0 s.parts, List.map_map]
    rfl
  · intro x _
    simp [nodeOf, idOf_toString, Json.textOrEmpty]

theorem index_unique {α β : Type} {l : List α} {f : α → β} (hnd : (l.map f).Nodup) {i j : Nat}
    {a b : α} (ha : l[i]? = some a) (hb : l[j]? = some b) (hf : f a = f b) : i = j ∧ a = b := by
  have hi : i < l.length := (List.getElem?_eq_some_iff.1 ha).1
  have h : (l.map f)[i]? = (l.map f)[j]? := by simp [ha, hb, hf]
  have hij := (List.getElem?_inj (by simpa using hi) hnd).1 h
  subst hij
  exact ⟨rfl, Option.some.inj (ha.symm.trans hb)⟩

theorem find?_eq_of_unique {α : Type} {l : List α} {P : α → Bool} {a : α} (ha : a ∈ l)
    (hp : P a = true) (hu : ∀ b ∈ l, P b = true → b = a) : l.find? P = some a := by
  induction l with
  | nil => simp at ha
  | cons x l ih =>
    by_cases hx : P x = true
    · rw [List.find?_cons_of_pos hx, hu x List.mem_cons_self hx]
    · rw [List.find?_cons_of_neg hx]
      have hax : a ≠ x := fun h => hx (h ▸ hp)
      exact ih ((List.mem_cons.1 ha).resolve_left hax) fun b hb => hu b (List.mem_cons_of_mem _ hb)

theorem same_string_toString (a b : PartId) :
    Json.same (.string a.toString) (.string b.toString) = decide (a = b) := by
  by_cases h : a = b
  · subst h; simp [Json.same]
  · have hne : Json.render {} (.string a.toString) ≠ Json.render {} (.string b.toString) := by
      intro he
      have ha := @Json.readText_render {} (.string a.toString) trivial
      rw [he, @Json.readText_render {} (.string b.toString) trivial] at ha
      exact h (PartId.toString_injective (Json.string.inj (Except.ok.inj ha)).symm)
    simp [Json.same, hne, h]

/-- In a written server, the node of a part's id is the part's own node. -/
theorem node?_written (srv : GraphServer) {s : Snapshot} (hnd : (s.parts.map (·.id)).Nodup)
    {p : SnapshotPart} {k : Nat} (hk : s.parts[k]? = some p) :
    (written srv s).node? (.string p.id.toString) = some (nodeOf p k) := by
  rw [node?, written, nodesOf, List.find?_map]
  rw [find?_eq_of_unique (a := (p, k)) (List.mem_zipIdx_iff_getElem?.2 hk)]
  · rfl
  · simp [nodeOf, same_string_toString]
  · rintro ⟨q, i⟩ hq hsame
    simp only [Function.comp_apply, nodeOf, same_string_toString, decide_eq_true_eq] at hsame
    obtain ⟨rfl, rfl⟩ := index_unique hnd (List.mem_zipIdx_iff_getElem?.1 hq) hk hsame
    rfl

theorem edgesOf_zipIdx (s : Snapshot) :
    edgesOf s = s.parts.zipIdx.flatMap fun x => x.1.children.zipIdx.map fun (c, i) => edgeOf x.1 c i := by
  conv => lhs; rw [edgesOf, ← List.zipIdx_map_fst 0 s.parts, List.flatMap_map]

section Written

variable (srv : GraphServer) {s : Snapshot} (hnd : (s.parts.map (·.id)).Nodup)
include hnd

theorem seq_edgeOf {p : SnapshotPart} {k : Nat} (hk : s.parts[k]? = some p) (c : PartId) (i : Nat) :
    (((written srv s).node? (edgeOf p c i).parent).map (·.seq)).getD .null = .ofNat k := by
  rw [edgeOf, node?_written srv hnd hk]
  rfl

/-- The edges come back in the order written: by the position of the parent, then by their
own position. -/
theorem edgeRows_written (hclosed : ∀ p ∈ s.parts, ∀ c ∈ p.children, c ∈ s.parts.map (·.id)) :
    (written srv s).edgeRows = edgesOf s := by
  have hkept : ∀ e ∈ edgesOf s, ((written srv s).node? e.parent).isSome &&
      ((written srv s).node? e.child).isSome := by
    intro e he
    simp only [edgesOf, List.mem_flatMap, List.mem_map] at he
    obtain ⟨p, hp, ⟨c, i⟩, hci, rfl⟩ := he
    obtain ⟨k, hk⟩ := List.mem_iff_getElem?.1 hp
    obtain ⟨q, hq, hqc⟩ := List.mem_map.1 (hclosed p hp c (List.mem_zipIdx_iff_getElem?.1 hci |>
      List.mem_of_getElem?))
    obtain ⟨l, hl⟩ := List.mem_iff_getElem?.1 hq
    simp [edgeOf, node?_written srv hnd hk, ← hqc, node?_written srv hnd hl]
  have hfilter : (if (written srv s).unfiltered then (written srv s).edges else
      (written srv s).edges.filter fun e => ((written srv s).node? e.parent).isSome &&
        ((written srv s).node? e.child).isSome) = edgesOf s := by
    split
    · rfl
    · exact List.filter_eq_self.2 hkept
  rw [edgeRows, hfilter]
  apply List.mergeSort_of_pairwise
  rw [edgesOf_zipIdx, List.pairwise_flatMap]
  constructor
  · -- the edges of one part: one parent, positions in order
    rintro ⟨p, k⟩ hpk
    have hk : s.parts[k]? = some p := List.mem_zipIdx_iff_getElem?.1 hpk
    rw [List.pairwise_map]
    refine (pairwise_zipIdx p.children 0).imp ?_
    rintro ⟨c, i⟩ ⟨d, j⟩ h
    simp only [seq_edgeOf srv hnd hk, sortKeyLe_ofNat]
    simp [edgeOf, sortKeyLe_ofNat]
    omega
  · -- the edges of two parts: the earlier parent first
    refine List.Pairwise.imp_of_mem ?_ (pairwise_zipIdx s.parts 0)
    rintro ⟨p, k⟩ ⟨q, l⟩ hpk hql h x hx y hy
    have hk : s.parts[k]? = some p := List.mem_zipIdx_iff_getElem?.1 hpk
    have hl : s.parts[l]? = some q := List.mem_zipIdx_iff_getElem?.1 hql
    obtain ⟨⟨c, i⟩, -, rfl⟩ := List.mem_map.1 hx
    obtain ⟨⟨d, j⟩, -, rfl⟩ := List.mem_map.1 hy
    simp only [seq_edgeOf srv hnd hk, seq_edgeOf srv hnd hl, sortKeyLe_ofNat]
    simp only at h
    simp only [decide_eq_true_eq, Bool.and_eq_true]
    rw [if_neg (by omega)]
    exact decide_eq_true (by omega)

end Written

/-- What a store asks of a server's two queries on the graph a write of a snapshot leaves, when
the snapshot's ids are distinct and its children among its parts: the part query answers the
nodes written, in the order of their `seq`; the edge query answers the edges written, none dropped
by the match on both ends, in the order of the `seq` of their parent and then of their
`position`. -/
structure QueriesReadBack (srv : GraphServer) : Prop where
  parts : ∀ s : Snapshot, (written srv s).partRows = nodesOf s
  edges : ∀ s : Snapshot, (s.parts.map (·.id)).Nodup →
    (∀ p ∈ s.parts, ∀ c ∈ p.children, c ∈ s.parts.map (·.id)) → (written srv s).edgeRows = edgesOf s

theorem queriesReadBack (srv : GraphServer) : srv.QueriesReadBack where
  parts := partRows_written srv
  edges _ hnd hclosed := edgeRows_written srv hnd hclosed

theorem addChild_eq {ps : List StoredPart} (hnd : (ps.map (·.id)).Nodup) {parent : PartId}
    (hmem : parent ∈ ps.map (·.id)) (child : PartId) :
    addChild ps parent child =
      some (ps.map fun q => if q.id = parent then q.withChildren [child] else q) := by
  obtain ⟨q, hq, rfl⟩ := List.mem_map.1 hmem
  obtain ⟨k, hk⟩ := List.mem_iff_getElem?.1 hq
  have hfind : ps.zipIdx.reverse.find? (·.1.id == q.id) = some (q, k) := by
    apply find?_eq_of_unique (List.mem_reverse.2 (List.mem_zipIdx_iff_getElem?.2 hk)) (by simp)
    rintro ⟨q', i⟩ hq' hid
    simp only [beq_iff_eq] at hid
    obtain ⟨rfl, rfl⟩ := index_unique hnd (List.mem_zipIdx_iff_getElem?.1 (List.mem_reverse.1 hq')) hk hid
    rfl
  rw [addChild, hfind]
  simp only [Option.some.injEq]
  apply List.ext_getElem?
  intro j
  rw [List.getElem?_set, List.getElem?_map]
  split
  · next hkj =>
    subst hkj
    obtain ⟨hlt, hget⟩ := List.getElem?_eq_some_iff.1 hk
    simp [hlt, hget, StoredPart.withChildren]
  · next hkj =>
    cases hj : ps[j]? with
    | none => rfl
    | some q' =>
      have hne : q'.id ≠ q.id := fun hid => hkj (index_unique hnd hk hj hid.symm).1
      simp [hne]

theorem map_id_grow (ps : List StoredPart) (parent child : PartId) :
    (ps.map fun q => if q.id = parent then q.withChildren [child] else q).map (·.id) =
      ps.map (·.id) := by
  simp only [List.map_map]
  congr 1
  funext q
  by_cases h : q.id = parent <;> simp [h]

/-- Folding a reader's step over the edges of a list of triples adds each triple's child to its
parent, given that one step does so on a part list with distinct ids holding the parent. -/
theorem foldlM_edges (step : List StoredPart → GraphEdge → Except String (List StoredPart))
    (hstep : ∀ ps (x : SnapshotPart × PartId × Nat), (ps.map (·.id)).Nodup → x.1.id ∈ ps.map (·.id) →
      step ps (edgeOf x.1 x.2.1 x.2.2) =
        .ok (ps.map fun q => if q.id = x.1.id then q.withChildren [x.2.1] else q))
    (E : List (SnapshotPart × PartId × Nat)) {ps : List StoredPart}
    (hnd : (ps.map (·.id)).Nodup) (hmem : ∀ x ∈ E, x.1.id ∈ ps.map (·.id)) :
    (E.map fun x => edgeOf x.1 x.2.1 x.2.2).foldlM step ps =
      .ok (E.foldl (fun ps x => ps.map fun q => if q.id = x.1.id then q.withChildren [x.2.1] else q)
        ps) := by
  induction E generalizing ps with
  | nil => rfl
  | cons x E ih =>
    have hx := hmem x List.mem_cons_self
    rw [List.map_cons, List.foldlM_cons, List.foldl_cons, hstep ps x hnd hx, ok_bind]
    exact ih (by rwa [map_id_grow]) fun y hy => by
      rw [map_id_grow]; exact hmem y (List.mem_cons_of_mem _ hy)

/-- Adding children one edge after the other adds to each part the children of the edges from
it, in order. -/
theorem foldl_grow (E : List (SnapshotPart × PartId × Nat)) (ps : List StoredPart) :
    E.foldl (fun ps x => ps.map fun q => if q.id = x.1.id then q.withChildren [x.2.1] else q) ps =
      ps.map fun q => q.withChildren ((E.filter fun x => x.1.id = q.id).map (·.2.1)) := by
  induction E generalizing ps with
  | nil => simp
  | cons x E ih =>
    rw [List.foldl_cons, ih, List.map_map]
    congr 1
    funext q
    by_cases h : q.id = x.1.id
    · simp [h, StoredPart.withChildren_append]
    · simp [h, Ne.symm h]

/-- The edge triples of a snapshot: each part with each of its children and the child's
position. -/
def edgeTriples (s : Snapshot) : List (SnapshotPart × PartId × Nat) :=
  s.parts.flatMap fun p => p.children.zipIdx.map fun (c, i) => (p, c, i)

theorem edgesOf_eq (s : Snapshot) : edgesOf s = (edgeTriples s).map fun x => edgeOf x.1 x.2.1 x.2.2 := by
  simp only [edgesOf, edgeTriples, List.map_flatMap, List.map_map]
  rfl

theorem children_of_triples (l : List SnapshotPart) (pid : PartId) :
    (((l.flatMap fun p => p.children.zipIdx.map fun (c, i) => (p, c, i)).filter
      fun x => x.1.id = pid).map (·.2.1)) = (l.filter (·.id = pid)).flatMap (·.children) := by
  induction l with
  | nil => rfl
  | cons p l ih =>
    rw [List.flatMap_cons, List.filter_append, List.map_append, ih]
    by_cases h : p.id = pid
    · simp only [h, decide_true, List.filter_cons_of_pos, List.flatMap_cons]
      rw [List.filter_eq_self.2 (by simp; rintro _ _ _ _ _ _ rfl; simp [h])]
      simp only [List.map_map]
      exact congrArg (· ++ _) (List.zipIdx_map_fst 0 p.children)
    · simp only [h, decide_false, Bool.false_eq_true, not_false_eq_true, List.filter_cons_of_neg]
      rw [List.filter_eq_nil_iff.2 (by simp; rintro _ _ _ _ _ _ rfl; simp [h])]
      rfl

theorem filter_id_eq {l : List SnapshotPart} (hnd : (l.map (·.id)).Nodup) {p : SnapshotPart}
    (hp : p ∈ l) : l.filter (fun q => q.id = p.id) = [p] := by
  induction l with
  | nil => simp at hp
  | cons x l ih =>
    rw [List.map_cons, List.nodup_cons] at hnd
    rcases List.mem_cons.1 hp with rfl | hp
    · rw [List.filter_cons_of_pos (by simp), List.filter_eq_nil_iff.2]
      intro q hq
      have hne : q.id ≠ p.id := fun h => hnd.1 (h ▸ List.mem_map_of_mem (f := (·.id)) hq)
      simpa using hne
    · have hx : x.id ≠ p.id := fun h => hnd.1 (h ▸ List.mem_map_of_mem (f := (·.id)) hp)
      rw [List.filter_cons_of_neg (by simpa using hx), ih hnd.2 hp]

/-- The parts a written server reads back: each part of the snapshot in order, its children
added edge by edge. -/
def readBackParts (s : Snapshot) : List StoredPart :=
  s.parts.map fun p => ({ id := p.id, name := p.name } : StoredPart).withChildren p.children

/-- A server answers the queries of a read: it is told to fail none of the steps a read takes. -/
structure AnswersReads (srv : GraphServer) : Prop where
  begin : srv.failure? .begin = none
  readParts : srv.failure? .readParts = none
  readPartsPull : srv.failure? .readPartsPull = none
  readEdges : srv.failure? .readEdges = none
  readEdgesPull : srv.failure? .readEdgesPull = none
  commit : srv.failure? .commit = none

/-- A server that a snapshot with distinct ids and live children was written to reads back its
parts in order, each with its children in order. -/
theorem read_written {srv : GraphServer} (h : srv.AnswersReads) (hq : srv.QueriesReadBack)
    {s : Snapshot}
    (hnd : (s.parts.map (·.id)).Nodup)
    (hclosed : ∀ p ∈ s.parts, ∀ c ∈ p.children, c ∈ s.parts.map (·.id)) :
    (written srv s).read =
      .ok { parts := if (readBackParts s).isEmpty then none else some (readBackParts s) } := by
  have hf (k : GraphStep) : (written srv s).failure? k = srv.failure? k := rfl
  have hids : (s.parts.map fun p => ({ id := p.id, name := p.name } : StoredPart)).map (·.id) =
      s.parts.map (·.id) := by simp
  rw [read]
  simp only [hf, h.begin, h.readParts, h.readPartsPull, h.readEdges, h.readEdgesPull, h.commit,
    hq.parts s, mapM_nodes, ok_bind, hq.edges s hnd hclosed, edgesOf_eq]
  rw [foldlM_edges _ (fun ps x hnd hx => by
      simp only [edgeOf, idOf_toString, ok_bind, addChild_eq hnd hx]; rfl) _
    (by rw [hids]; exact hnd) (by
      intro x hx
      rw [hids]
      simp only [edgeTriples, List.mem_flatMap, List.mem_map] at hx
      obtain ⟨p, hp, _, _, rfl⟩ := hx
      exact List.mem_map_of_mem hp), foldl_grow, List.map_map, ok_bind]
  have hparts : (s.parts.map ((fun q => q.withChildren
      (((edgeTriples s).filter fun x => decide (x.1.id = q.id)).map (·.2.1))) ∘
        fun p => ({ id := p.id, name := p.name } : StoredPart))) = readBackParts s := by
    refine List.map_congr_left fun p hp => ?_
    simp only [Function.comp_apply, edgeTriples, children_of_triples, filter_id_eq hnd hp,
      List.flatMap_singleton]
  rw [hparts]
  rfl

/-- What a written server reads back is the snapshot, once missing lists count as empty. -/
theorem toSnapshot_readBack (s : Snapshot) :
    ({ parts := if (readBackParts s).isEmpty then none else some (readBackParts s) } :
      StoredSnapshot).toSnapshot = s := by
  have hchildren (p : SnapshotPart) :
      ((({ id := p.id, name := p.name } : StoredPart).withChildren p.children).children.getD []) =
        p.children := by
    cases hc : p.children <;> simp [StoredPart.withChildren]
  split
  · next hempty =>
    have : s.parts = [] := by simpa [readBackParts] using hempty
    cases s
    simp_all [StoredSnapshot.toSnapshot]
  · cases s
    simp [StoredSnapshot.toSnapshot, readBackParts, Function.comp_def, hchildren]

/-- A server with no nodes and no edges reads back the empty snapshot. -/
theorem read_blank {srv : GraphServer} (h : srv.AnswersReads) (hn : srv.nodes = [])
    (he : srv.edges = []) : srv.read = .ok {} := by
  have hp : srv.partRows = [] := by simp [partRows, hn]
  have hr : srv.edgeRows = [] := by
    simp only [edgeRows, he, List.filter_nil, ite_self, List.mergeSort_nil]
  rw [read]
  simp only [h.begin, h.readParts, h.readPartsPull, h.readEdges, h.readEdgesPull, h.commit, hp,
    hr, List.mapM_nil, List.foldlM_nil]
  rfl

end GraphServer

end BillOfMaterials
