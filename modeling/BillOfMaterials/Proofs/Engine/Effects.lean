import BillOfMaterials.Proofs.Graph.Relink

/-!
# What an update of children and a delete answer

On every engine that calls reach from a fresh one:

* an update of children answers by its checks, in a fixed order: the part must be live
  (`updateChildren_of_not_mem`), then each requested child in order
  (`updateChildren_of_missing`), then the part may not be among them (`updateChildren_of_self`),
  then the action must be known (`updateChildren_of_unknown`), then no new edge may close a
  cycle. Once they pass it succeeds, relinks every part (`Part.relink`) and answers the part as
  it now is, and the same update again changes nothing (`updateChildren_answer`);
* a delete answers the part as it was, drops it, strikes it from the lists of every other part,
  frees its name, and a second delete of it finds nothing (`deletePart_answer`). That the name
  can then be created again rests on the id stream: its ids are distinct within a round of
  serials, so while fewer parts are live than a round has ids a draw finds a free one
  (`drawFresh_isSome`).
-/

namespace BillOfMaterials

theorem Action.ofName_of_ne {s : String} (h1 : s ≠ "add") (h2 : s ≠ "remove") (h3 : s ≠ "replace") :
    Action.ofName s = .unknown s := by
  simp [Action.ofName, h1, h2, h3]

namespace IdStream

theorem ofSerial_ne_nil (k : Nat) : ofSerial k ≠ PartId.nil := by
  intro h
  have hv := congrArg PartId.val h
  simp only [ofSerial, PartId.ofNat, PartId.nil] at hv
  omega

theorem mod_eq_of_ofSerial_eq {a b : Nat} (h : ofSerial a = ofSerial b) :
    a % 0x1000000000000 = b % 0x1000000000000 := by
  have hv := congrArg PartId.val h
  simp only [ofSerial, PartId.ofNat] at hv
  omega

/-- The stream gives distinct ids at the serials after `a` up to `b`. -/
def Distinct (a b : Nat) : Prop :=
  ∀ i j, a < i → i < j → j ≤ b → ofSerial i ≠ ofSerial j

theorem Distinct.of_le {a b : Nat} (h : b ≤ a + 0x1000000000000) : Distinct a b := by
  intro i j hi hij hj heq
  have hmod := mod_eq_of_ofSerial_eq heq
  omega

theorem Distinct.mono {a b a' b' : Nat} (h : Distinct a b) (ha : a ≤ a') (hb : b' ≤ b) :
    Distinct a' b' :=
  fun i j hi hij hj => h i j (by omega) hij (by omega)

end IdStream

namespace Graph

/-! ## The checks of an update, in order -/

section Checks

variable {g : Graph} {id : PartId} {action : Action} {childIds : List PartId}

theorem forM_lookup_eq_ok {l : List PartId} (hlive : ∀ c ∈ l, c ∈ g.ids) :
    l.forM (fun c => do let _ ← g.lookup c) = .ok () := by
  refine forM_eq_ok.2 fun c hc => ?_
  obtain ⟨n, hn⟩ := lookup_of_mem (hlive c hc)
  simp only [hn]
  rfl

theorem lookup_of_not_mem {r : PartId} (hr : r ∉ g.ids) :
    g.lookup r = .error (.notFound r.toString) := by
  simp [lookup, find?_eq_none.2 hr]

theorem updateChildren_of_not_mem (hid : id ∉ g.ids) :
    g.updateChildren id action childIds = .error (.notFound id.toString) := by
  simp only [updateChildren, lookup_of_not_mem hid]
  rfl

/-- With the part live, the first requested child that is not live is the answer. -/
theorem updateChildren_of_missing (hid : id ∈ g.ids) {pre post : List PartId} {r : PartId}
    (hsplit : dedupe childIds = pre ++ r :: post) (hpre : ∀ x ∈ pre, x ∈ g.ids)
    (hr : r ∉ g.ids) :
    g.updateChildren id action childIds = .error (.notFound r.toString) := by
  obtain ⟨parent, hparent⟩ := lookup_of_mem hid
  have hreq : (dedupe childIds).forM (fun c => do let _ ← g.lookup c) =
      .error (.notFound r.toString) := by
    rw [hsplit]
    refine forM_append_cons_error (fun x hx => ?_) ?_
    · obtain ⟨n, hn⟩ := lookup_of_mem (hpre x hx)
      simp only [hn]
      rfl
    · simp only [lookup_of_not_mem hr]
      rfl
  simp only [updateChildren, hparent, ok_bind, hreq]
  rfl

theorem updateChildren_of_self (hid : id ∈ g.ids) (hlive : ∀ c ∈ dedupe childIds, c ∈ g.ids)
    (hself : id ∈ dedupe childIds) :
    g.updateChildren id action childIds =
      .error (.invalid "children" ("part " ++ id.toString ++ " cannot be its own child")) := by
  obtain ⟨parent, hparent⟩ := lookup_of_mem hid
  have hcontains : (dedupe childIds).contains id = true := by simpa using hself
  simp only [updateChildren, hparent, ok_bind, forM_lookup_eq_ok hlive, hcontains, if_true]
  rfl

theorem updateChildren_of_unknown (hid : id ∈ g.ids) (hlive : ∀ c ∈ dedupe childIds, c ∈ g.ids)
    (hself : id ∉ dedupe childIds) (s : String) :
    g.updateChildren id (.unknown s) childIds = .error (Action.refusal s) := by
  obtain ⟨parent, hparent⟩ := lookup_of_mem hid
  have hcontains : (dedupe childIds).contains id = false := by simpa using hself
  simp only [updateChildren, hparent, ok_bind, forM_lookup_eq_ok hlive, hcontains,
    Bool.false_eq_true, if_false]
  rfl

theorem updateChildren_remove_ok (hid : id ∈ g.ids) (hlive : ∀ c ∈ dedupe childIds, c ∈ g.ids)
    (hself : id ∉ dedupe childIds) : ∃ g', g.updateChildren id .remove childIds = .ok g' := by
  obtain ⟨parent, hparent⟩ := lookup_of_mem hid
  have hcontains : (dedupe childIds).contains id = false := by simpa using hself
  simp only [updateChildren, hparent, ok_bind, forM_lookup_eq_ok hlive, hcontains,
    Bool.false_eq_true, if_false]
  exact ⟨_, rfl⟩

end Checks

/-! ## Creating after a delete -/

section Create

variable {g : Graph}

theorem drawFresh_go_isSome {fuel : Nat} {s : IdStream} {i : Nat} (hi : i < fuel)
    (hfree : IdStream.ofSerial (s.drawn + i + 1) ∉ g.ids) : (drawFresh.go g fuel s).isSome := by
  fun_induction drawFresh.go g fuel s generalizing i with
  | case1 => omega
  | case2 fuel s0 id0 s1 hnext htaken ih =>
    simp only [IdStream.next, Prod.mk.injEq] at hnext
    obtain ⟨rfl, rfl⟩ := hnext
    cases i with
    | zero =>
      have hlive : IdStream.ofSerial (s0.drawn + 1) ∈ g.ids := by
        simpa [IdStream.ofSerial_ne_nil] using htaken
      exact absurd hlive (by simpa using hfree)
    | succ i =>
      have heq : s0.drawn + (i + 1) + 1 = s0.drawn + 1 + i + 1 := by omega
      exact ih (by omega) (heq ▸ hfree)
  | case3 => rfl

theorem drawFresh_isSome_of_distinct {s : IdStream}
    (hd : IdStream.Distinct s.drawn (s.drawn + g.size + 1)) : (g.drawFresh s).isSome := by
  let tried := (List.range (g.size + 1)).map fun i => IdStream.ofSerial (s.drawn + i + 1)
  have htried : tried.Nodup := by
    refine List.Nodup.map_on (fun i hi j hj hij => ?_) List.nodup_range
    rw [List.mem_range] at hi hj
    by_contra hne
    rcases Nat.lt_or_gt_of_ne hne with hlt | hlt
    · exact hd _ _ (by omega) (by omega) (by omega) hij
    · exact hd _ _ (by omega) (by omega) (by omega) hij.symm
  by_cases hall : ∀ x ∈ tried, x ∈ g.ids
  · have hlen := htried.length_le_of_subset hall
    simp [tried, size, ids] at hlen
  · obtain ⟨x, hx, hfree⟩ := not_forall₂.1 hall
    obtain ⟨i, hi, rfl⟩ := List.mem_map.1 hx
    exact drawFresh_go_isSome (List.mem_range.1 hi) hfree

/-- While fewer parts are live than the stream has ids in a round, a draw finds a free one. -/
theorem drawFresh_isSome (hsize : g.size < 0x1000000000000) (s : IdStream) :
    (g.drawFresh s).isSome :=
  drawFresh_isSome_of_distinct (IdStream.Distinct.of_le (by omega))

theorem get_insert {id : PartId} {name : String} (hid : id ∉ g.ids) :
    (g.insert id name).get id = .ok (Node.view { id, name, seq := g.nextSeq + 1 }) := by
  have hfind : g.nodes.find? (·.id == id) = none := find?_eq_none.2 hid
  simp [get, lookup, find?, insert_nodes, List.find?_append, hfind]
  rfl

theorem create_ok_of_free (h : g.Consistent) {name : String} (hblank : Text.isBlank name = false)
    (hfree : ∀ n ∈ g.nodes, n.name ≠ name) (hsize : g.size < 0x1000000000000) (s : IdStream) :
    ∃ id s', g.create s name = .ok (id, g.insert id name, s') := by
  obtain ⟨⟨id, s'⟩, hd⟩ := Option.isSome_iff_exists.1 (drawFresh_isSome hsize s)
  exact ⟨id, s', create_eq_ok.2 ⟨hblank, h.lookup_names_eq_none.2 hfree, hd, rfl⟩⟩

theorem create_error_of_free (h : g.Consistent) {name : String}
    (hblank : Text.isBlank name = false) (hfree : ∀ n ∈ g.nodes, n.name ≠ name) {s : IdStream}
    {f : Fault} (hc : g.create s name = .error f) : f = .text "no free part id" := by
  unfold create at hc
  simp only [hblank, h.lookup_names_eq_none.2 hfree, Bool.false_eq_true, if_false] at hc
  split at hc
  · cases hc
  · cases hc
    rfl

theorem deleteCascade_ok (h : g.Consistent) {id : PartId} (hid : id ∈ g.ids) :
    ∃ g', g.deleteCascade id = .ok g' := by
  obtain ⟨n, hn⟩ := lookup_of_mem hid
  obtain ⟨hnm, rfl⟩ := find?_eq_some (lookup_eq_ok.1 hn)
  simp only [deleteCascade, hn, ok_bind, checkLive_eq_ok (h.parents_live n hnm),
    checkLive_eq_ok (h.children_live n hnm)]
  exact delete_foldl_unlink hid n

theorem deleteCascade_name_free (h : g.WellFormed) {id : PartId} {g' : Graph}
    (hd : g.deleteCascade id = .ok g') {n : Node} (hn : g.lookup id = .ok n) :
    ∀ m ∈ g'.nodes, m.name ≠ n.name := by
  obtain ⟨hnm, rfl⟩ := find?_eq_some (lookup_eq_ok.1 hn)
  intro m hm hname
  rw [deleteCascade_nodes h hd] at hm
  obtain ⟨m0, hm0, rfl⟩ := List.mem_map.1 hm
  obtain ⟨hm0, hne⟩ := List.mem_filter.1 hm0
  have hsame : m0 = n := List.inj_on_of_nodup_map h.names_nodup hm0 hnm hname
  simp [hsame] at hne

theorem deleteCascade_unlisted (h : g.WellFormed) {id : PartId} {g' : Graph}
    (hd : g.deleteCascade id = .ok g') : ∀ q ∈ g'.list, id ∉ q.children ∧ id ∉ q.parents := by
  intro q hq
  rw [deleteCascade_list h hd] at hq
  obtain ⟨q0, hq0, rfl⟩ := List.mem_map.1 hq
  obtain ⟨m, hm, rfl⟩ := List.mem_map.1 (List.mem_filter.1 hq0).1
  exact ⟨(h.children_nodup m hm).not_mem_erase, (h.parents_nodup m hm).not_mem_erase⟩

end Create

end Graph

namespace Engine

open BillOfMaterials.Graph

theorem updateChildren_eq_error_of_graph {e : Engine} {id : PartId} {action : Action}
    {childIds : List PartId} {f : Fault} (hf : e.graph.updateChildren id action childIds = .error f) :
    e.updateChildren id action childIds = .error f := by
  simp only [Engine.updateChildren, hf]
  rfl

theorem updateChildren_eq_ok_iff {e e' : Engine} {id : PartId} {action : Action}
    {childIds : List PartId} {p : Part} :
    e.updateChildren id action childIds = .ok (p, e') ↔
      ∃ g, e.graph.updateChildren id action childIds = .ok g ∧ g.get id = .ok p ∧
        e' = changed { e with graph := g } := by
  simp only [Engine.updateChildren, bind_eq_ok, pure_eq_ok, Prod.mk.injEq]
  constructor
  · rintro ⟨g, hg, p', hp', rfl, rfl⟩
    exact ⟨g, hg, hp', rfl⟩
  · rintro ⟨g, hg, hp, rfl⟩
    exact ⟨g, hg, p, hp, rfl, rfl⟩

/-- The answer of an update of children on every engine that calls reach, for every action
name and every list of requested ids, `R` being that list with repeats dropped and `C` the
children of the part before the call. The checks come in order: the part must be live, then
each id of `R` in order, then the part may not be in `R`, then the action must be `add`,
`remove` or `replace`, then, for `add` and `replace`, the first id of `R` that closes a cycle
is refused. Once they pass the update succeeds. A successful update relinks every part:
the children of the part become what the action gives (`C` and the new ids of `R` after it,
`C` without `R`, or `R`), the part leaves the parents of each child it lost and joins, at the
end, those of each child it gained, and nothing else changes; it answers the part as it now
is; and the same update once more answers the same part and leaves the graph as it is. -/
theorem updateChildren_answer (ids : IdStream) (cs : List Command) (id : PartId) (a : String)
    (childIds : List PartId) :
    let e := ((fresh ids).runAll cs).2
    (id ∉ e.graph.ids →
      e.updateChildren id (Action.ofName a) childIds = .error (.notFound id.toString)) ∧
    (∀ pre r post, dedupe childIds = pre ++ r :: post → id ∈ e.graph.ids →
      (∀ x ∈ pre, x ∈ e.graph.ids) → r ∉ e.graph.ids →
      e.updateChildren id (Action.ofName a) childIds = .error (.notFound r.toString)) ∧
    (id ∈ e.graph.ids → (∀ r ∈ dedupe childIds, r ∈ e.graph.ids) → id ∈ dedupe childIds →
      e.updateChildren id (Action.ofName a) childIds =
        .error (.invalid "children" ("part " ++ id.toString ++ " cannot be its own child"))) ∧
    (id ∈ e.graph.ids → (∀ r ∈ dedupe childIds, r ∈ e.graph.ids) → id ∉ dedupe childIds →
      a ≠ "add" → a ≠ "remove" → a ≠ "replace" →
      e.updateChildren id (Action.ofName a) childIds = .error (Action.refusal a)) ∧
    (id ∈ e.graph.ids → (∀ r ∈ dedupe childIds, r ∈ e.graph.ids) → id ∉ dedupe childIds →
      (a = "add" ∨ a = "replace") →
      ∀ pre r post, dedupe childIds = pre ++ r :: post → e.graph.ClosesCycle id r →
        (∀ b ∈ pre, ¬ e.graph.ClosesCycle id b) →
        e.updateChildren id (Action.ofName a) childIds = .error (.cycle id.toString r.toString)) ∧
    (id ∈ e.graph.ids → (∀ r ∈ dedupe childIds, r ∈ e.graph.ids) → id ∉ dedupe childIds →
      (a = "remove" ∨ (a = "add" ∨ a = "replace") ∧
        ∀ r ∈ dedupe childIds, ¬ e.graph.ClosesCycle id r) →
      ∃ p e', e.updateChildren id (Action.ofName a) childIds = .ok (p, e')) ∧
    (∀ p e', e.updateChildren id (Action.ofName a) childIds = .ok (p, e') →
      (∀ q, e'.getPart q = (e.getPart q).map (Part.relink id (e.graph.childrenOf id)
        ((Action.ofName a).apply (e.graph.childrenOf id) (dedupe childIds)))) ∧
      e'.getPart id = .ok p ∧
      ∃ e'', e'.updateChildren id (Action.ofName a) childIds = .ok (p, e'') ∧
        e''.graph = e'.graph) := by
  intro e
  have h : e.graph.WellFormed := (runAll_fresh_wellFormed ids cs).1
  have hact : (a = "add" ∨ a = "replace") → Action.ofName a = .add ∨ Action.ofName a = .replace := by
    rintro (rfl | rfl)
    · exact .inl (by simp [Action.ofName])
    · exact .inr (by simp [Action.ofName])
  refine ⟨fun hid => updateChildren_eq_error_of_graph (updateChildren_of_not_mem hid),
    fun pre r post hsplit hid hpre hr => updateChildren_eq_error_of_graph
      (updateChildren_of_missing hid hsplit hpre hr),
    fun hid hlive hself => updateChildren_eq_error_of_graph (updateChildren_of_self hid hlive hself),
    fun hid hlive hself h1 h2 h3 => ?_, fun hid hlive hself ha pre r post hsplit hr hpre => ?_,
    fun hid hlive hself hok => ?_, fun p e' hu => ?_⟩
  · -- an unknown action
    rw [Action.ofName_of_ne h1 h2 h3]
    exact updateChildren_eq_error_of_graph (updateChildren_of_unknown hid hlive hself a)
  · -- a new edge that closes a cycle
    obtain ⟨parent, hparent, rfl⟩ := mem_ids.1 hid
    exact updateChildren_eq_error_of_graph
      (updateChildren_eq_cycle h hparent (hact ha) hlive hself hsplit hr hpre)
  · -- every check passes
    obtain ⟨g, hg⟩ : ∃ g, e.graph.updateChildren id (Action.ofName a) childIds = .ok g := by
      rcases hok with rfl | ⟨ha, hnone⟩
      · exact updateChildren_remove_ok hid hlive hself
      · obtain ⟨parent, hparent, rfl⟩ := mem_ids.1 hid
        exact updateChildren_ok_of_no_cycle h hparent (hact ha) hlive hself hnone
    obtain ⟨⟨p, e'⟩, he⟩ := (updateChildren_of_graph hid).2 g hg
    exact ⟨p, e', he⟩
  · -- what a successful update did
    obtain ⟨g, hg, hp, rfl⟩ := updateChildren_eq_ok_iff.1 hu
    refine ⟨fun q => ?_, by simpa [getPart] using hp, ?_⟩
    · simpa [getPart] using updateChildren_get h hg q
    · refine ⟨changed { changed { e with graph := g } with graph := g }, ?_, by simp⟩
      exact updateChildren_eq_ok_iff.2 ⟨g, by simpa using updateChildren_again h hg, hp, rfl⟩

theorem createPart_of_create {e : Engine} {name : String} {id : PartId} {s' : IdStream}
    (hc : e.graph.create e.ids name = .ok (id, e.graph.insert id name, s')) :
    e.createPart name = .ok (Node.view { id, name, seq := e.graph.nextSeq + 1 },
      changed { e with graph := e.graph.insert id name, ids := s' }) := by
  obtain ⟨-, -, hd, -⟩ := create_eq_ok.1 hc
  simp only [createPart, hc, ok_bind, get_insert (drawFresh_eq_some hd).2]
  rfl

theorem createPart_of_free {e : Engine} (h : e.graph.Consistent) {name : String}
    (hblank : Text.isBlank name = false) (hfree : ∀ n ∈ e.graph.nodes, n.name ≠ name) :
    (∀ f, e.createPart name = .error f → f = .text "no free part id") ∧
    (e.graph.size < 0x1000000000000 →
      ∃ p e', e.createPart name = .ok (p, e') ∧ p.name = name) := by
  constructor
  · intro f hf
    unfold createPart at hf
    rw [bind_eq_error] at hf
    rcases hf with hf | ⟨⟨id, g, ids⟩, hc, hf⟩
    · exact create_error_of_free h hblank hfree hf
    obtain ⟨-, -, hd, rfl⟩ := create_eq_ok.1 hc
    rw [bind_eq_error, get_insert (drawFresh_eq_some hd).2] at hf
    rcases hf with hf | ⟨_, -, hf⟩
    · cases hf
    · cases hf
  · intro hsize
    obtain ⟨id, s', hc⟩ := create_ok_of_free h hblank hfree hsize e.ids
    exact ⟨_, _, createPart_of_create hc, rfl⟩

/-- What a delete answers and does, on every engine that calls reach and for every live part. It
answers the part exactly as a read of it did just before. Afterwards the part is gone and no
part lists it among its children or parents; every other part keeps its place and its name,
with the part struck out of its lists; the name is free, so that creating a part of that name
fails only for want of an id and succeeds while the stream has one to spare; and a second
delete of it finds nothing. -/
theorem deletePart_answer (ids : IdStream) (cs : List Command) (id : PartId) :
    let e := ((fresh ids).runAll cs).2
    id ∈ e.graph.ids →
    ∃ p e', e.deletePart id = .ok (p, e') ∧ e.getPart id = .ok p ∧
      e'.getPart id = .error (.notFound id.toString) ∧
      (∀ q ∈ e'.graph.list, id ∉ q.children ∧ id ∉ q.parents) ∧
      e'.graph.list = (e.graph.list.filter (·.id != id)).map (Part.strike id) ∧
      (∀ q, q ≠ id → e'.getPart q = (e.getPart q).map (Part.strike id)) ∧
      (∀ f, e'.createPart p.name = .error f → f = .text "no free part id") ∧
      (e'.graph.size < 0x1000000000000 →
        ∃ q e'', e'.createPart p.name = .ok (q, e'') ∧ q.name = p.name) ∧
      e'.deletePart id = .error (.notFound id.toString) := by
  intro e hid
  have h : e.graph.WellFormed := (runAll_fresh_wellFormed ids cs).1
  obtain ⟨n, hn⟩ := lookup_of_mem hid
  obtain ⟨hnm, rfl⟩ := find?_eq_some (lookup_eq_ok.1 hn)
  obtain ⟨g', hg'⟩ := deleteCascade_ok h.toConsistent hid
  have hget : e.graph.get n.id = .ok n.view := by
    simp only [Graph.get, hn]
    rfl
  have hgone : g'.get n.id = .error (.notFound n.id.toString) := by
    have hdead : n.id ∉ g'.ids := by simp [deleteCascade_ids hg']
    simp only [Graph.get, lookup_of_not_mem hdead]
    rfl
  have hcreate := createPart_of_free (e := changed { e with graph := g' })
    (by simpa using (h.deleteCascade hg').toConsistent) (by simpa using h.name_nonblank n hnm) (by simpa using deleteCascade_name_free h hg' hn)
  refine ⟨n.view, changed { e with graph := g' }, ?_, hget, by simpa [getPart] using hgone,
    by simpa using deleteCascade_unlisted h hg', by simpa using deleteCascade_list h hg',
    fun q hq => by simpa [getPart] using deleteCascade_get_of_ne h hg' hq, hcreate.1,
    fun hsize => hcreate.2 (by simpa using hsize), ?_⟩
  · simp only [deletePart, hget, ok_bind, hg']
    rfl
  · simp only [deletePart, graph_changed, hgone]
    rfl

/-- The delete applies to part `b` of an engine where `b` is a child of `a`. -/
theorem deletePart_answer_of_child :
    let e := ((fresh {}).runAll [.create "a", .create "b",
      .update (IdStream.ofSerial 1).toString .add [(IdStream.ofSerial 2).toString]]).2
    let id := IdStream.ofSerial 2
    id ∈ e.graph.ids ∧
    ∃ p e', e.deletePart id = .ok (p, e') ∧ e.getPart id = .ok p ∧
      e'.getPart id = .error (.notFound id.toString) ∧
      (∀ q ∈ e'.graph.list, id ∉ q.children ∧ id ∉ q.parents) ∧
      e'.graph.list = (e.graph.list.filter (·.id != id)).map (Part.strike id) ∧
      (∀ q, q ≠ id → e'.getPart q = (e.getPart q).map (Part.strike id)) ∧
      (∀ f, e'.createPart p.name = .error f → f = .text "no free part id") ∧
      (e'.graph.size < 0x1000000000000 →
        ∃ q e'', e'.createPart p.name = .ok (q, e'') ∧ q.name = p.name) ∧
      e'.deletePart id = .error (.notFound id.toString) := by
  intro e id
  have hids : e.graph.ids = [IdStream.ofSerial 1, IdStream.ofSerial 2] := by
    simp only [e]
    cbv
  have hid : id ∈ e.graph.ids := by
    rw [hids]
    decide
  exact ⟨hid, deletePart_answer {} [.create "a", .create "b",
    .update (IdStream.ofSerial 1).toString .add [(IdStream.ofSerial 2).toString]] id hid⟩

end Engine

end BillOfMaterials
