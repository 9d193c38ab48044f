import BillOfMaterials.Proofs.Engine.Effects

/-!
# Which ids a create draws

A create draws ids from the engine's stream until one is neither nil nor live, trying at most
one more than there are live parts. So, on every engine that calls reach from a fresh one,
restores included:

* the id it returns is the first of its tries that is free, and each earlier try was live
  (`Graph.drawFresh_go_draws`, `Engine.createPart_draws`);
* while the stream gives distinct ids over those tries (`IdStream.Distinct`, which holds within
  any round of serials) one of them is free, so a create succeeds exactly for a non-blank name
  that no live part has (`Engine.createPart_ok_iff`);
* along a run the stream only moves forward, so each part a create answers has the id of a draw
  made during the run (`Engine.created_runAll`), and a later create's id differs from it.

The repository keeps no record of the ids it has given out. A part restored from a snapshot and
then deleted leaves its id free, and the stream may draw it again
(`Engine.create_redraws_deleted_restored_id`).
-/

namespace BillOfMaterials

namespace Graph

variable {g : Graph}

/-- A draw returns the first of its tries that is free; every earlier try was live. -/
theorem drawFresh_go_draws {fuel : Nat} {s s' : IdStream} {id : PartId}
    (h : drawFresh.go g fuel s = some (id, s')) :
    ∃ k < fuel, s'.drawn = s.drawn + k + 1 ∧ id = IdStream.ofSerial (s.drawn + k + 1) ∧
      id ∉ g.ids ∧ ∀ j < k, IdStream.ofSerial (s.drawn + j + 1) ∈ g.ids := by
  fun_induction drawFresh.go g fuel s with
  | case1 => cases h
  | case2 fuel s0 id0 s1 hnext htaken ih =>
    simp only [IdStream.next, Prod.mk.injEq] at hnext
    obtain ⟨rfl, rfl⟩ := hnext
    obtain ⟨k, hk, hs, rfl, hfree, hlive⟩ := ih h
    have hs' : s'.drawn = s0.drawn + 1 + k + 1 := hs
    have h0 : IdStream.ofSerial (s0.drawn + 1) ∈ g.ids := by
      simpa [IdStream.ofSerial_ne_nil] using htaken
    refine ⟨k + 1, by omega, by omega, by congr 1; omega, hfree, fun j hj => ?_⟩
    cases j with
    | zero => simpa using h0
    | succ j =>
      have hj' := hlive j (by omega)
      rwa [show s0.drawn + 1 + j + 1 = s0.drawn + (j + 1) + 1 by omega] at hj'
  | case3 fuel s0 id0 s1 hnext hfresh =>
    simp only [IdStream.next, Prod.mk.injEq] at hnext
    obtain ⟨rfl, rfl⟩ := hnext
    obtain ⟨rfl, rfl⟩ := Prod.mk.inj (Option.some.inj h)
    exact ⟨0, by omega, rfl, rfl, by simpa [IdStream.ofSerial_ne_nil] using hfresh,
      fun j hj => absurd hj (Nat.not_lt_zero j)⟩

end Graph

namespace Engine

/-- Everything a successful create did: it made `k + 1` draws with `k` at most the number of live
parts, skipped the `k` that were live, and appended a record with no edges under the last. -/
theorem createPart_draws {e e' : Engine} {name : String} {p : Part}
    (h : e.createPart name = .ok (p, e')) :
    ∃ k ≤ e.graph.size, e'.ids.drawn = e.ids.drawn + k + 1 ∧
      p.id = IdStream.ofSerial (e.ids.drawn + k + 1) ∧ p.id ∉ e.graph.ids ∧
      (∀ j < k, IdStream.ofSerial (e.ids.drawn + j + 1) ∈ e.graph.ids) ∧
      p = Node.view { id := p.id, name, seq := e.graph.nextSeq + 1 } ∧
      e'.graph = e.graph.insert p.id name := by
  obtain ⟨id, g, s', hc, rfl⟩ := createPart_eq_ok h
  obtain ⟨-, -, hd, rfl⟩ := Graph.create_eq_ok.1 hc
  have hp : Node.view { id, name, seq := e.graph.nextSeq + 1 } = p := by
    have hanswer := (createPart_of_create hc).symm.trans h
    simp only [Except.ok.injEq, Prod.mk.injEq] at hanswer
    exact hanswer.1
  subst hp
  obtain ⟨k, hk, hs, hid, hfree, hlive⟩ := Graph.drawFresh_go_draws hd
  exact ⟨k, by omega, by simpa using hs, hid, hfree, hlive, rfl, by rw [graph_changed]; rfl⟩

/-- While the ids a create may try are distinct, it succeeds exactly for a non-blank name that no
live part has. -/
theorem createPart_ok_iff {e : Engine} (hcons : e.graph.Consistent) {name : String}
    (hd : IdStream.Distinct e.ids.drawn (e.ids.drawn + e.graph.size + 1)) :
    (∃ p e', e.createPart name = .ok (p, e')) ↔
      Text.isBlank name = false ∧ ∀ n ∈ e.graph.nodes, n.name ≠ name := by
  constructor
  · rintro ⟨p, e', h⟩
    obtain ⟨id, g, s', hc, -⟩ := createPart_eq_ok h
    obtain ⟨hblank, hname, -, -⟩ := Graph.create_eq_ok.1 hc
    exact ⟨hblank, hcons.lookup_names_eq_none.1 hname⟩
  · rintro ⟨hblank, hfree⟩
    obtain ⟨⟨id, s'⟩, hdraw⟩ := Option.isSome_iff_exists.1 (Graph.drawFresh_isSome_of_distinct hd)
    have hc : e.graph.create e.ids name = .ok (id, e.graph.insert id name, s') :=
      Graph.create_eq_ok.2 ⟨hblank, hcons.lookup_names_eq_none.2 hfree, hdraw, rfl⟩
    exact ⟨_, _, createPart_of_create hc⟩

theorem run_create_eq_ok {e : Engine} {name : String} {p : Part}
    (h : (e.run (.create name)).1 = .ok (.part p)) :
    e.createPart name = .ok (p, (e.run (.create name)).2) := by
  cases hc : e.createPart name with
  | error f => simp [run_create, runEdit_step, hc] at h
  | ok r =>
    simp only [run_create, runEdit_step, hc, Except.ok.injEq, Reply.part.injEq] at h ⊢
    subst h
    rfl

theorem drawn_run_le (e : Engine) (c : Command) : e.ids.drawn ≤ (e.run c).2.ids.drawn := by
  cases c with
  | create name =>
    cases hc : e.createPart name with
    | error f => simp [run_create, runEdit_step, hc]
    | ok r =>
      obtain ⟨k, -, hk, -⟩ := createPart_draws hc
      simp only [run_create, runEdit_step, hc]
      omega
  | delete id =>
    simp only [run_delete, runEdit_step]
    split
    · rename_i hd
      rw [bind_eq_ok] at hd
      obtain ⟨_, -, hd⟩ := hd
      obtain ⟨g, -, rfl⟩ := deletePart_eq_ok hd
      simp
    · exact Nat.le_refl _
  | update id action children =>
    simp only [run_update, runEdit_step]
    split
    · rename_i hu
      simp only [bind_eq_ok] at hu
      obtain ⟨_, -, _, -, hu⟩ := hu
      obtain ⟨g, -, rfl⟩ := updateChildren_eq_ok hu
      simp
    · exact Nat.le_refl _
  | restore specs =>
    simp only [run_restore, runEdit_update]
    split
    · rename_i hr
      rw [bind_eq_ok] at hr
      obtain ⟨_, -, hr⟩ := hr
      obtain ⟨g, -, rfl⟩ := restore_eq_ok hr
      exact Nat.le_refl _
    · exact Nat.le_refl _
  | get | list | children | contained | descendants | snapshot | stats | check =>
    exact Nat.le_refl _

/-- Along a run the id stream only moves forward, and each part that a create of the run answers
has the id of a draw made during the run. The induction is on the calls; a create answering at
the head drew within its own step (`createPart_draws`), and the stream never moves back after. -/
theorem created_runAll (e : Engine) (cs : List Command) :
    e.ids.drawn ≤ (e.runAll cs).2.ids.drawn ∧
      ∀ name p, (Command.create name, Except.ok (Reply.part p)) ∈ cs.zip (e.runAll cs).1 →
        ∃ j, e.ids.drawn < j ∧ j ≤ (e.runAll cs).2.ids.drawn ∧ p.id = IdStream.ofSerial j := by
  induction cs generalizing e with
  | nil => simp [runAll]
  | cons c cs ih =>
    obtain ⟨hle, hlater⟩ := ih (e.run c).2
    have hstep := drawn_run_le e c
    simp only [runAll, List.zip_cons_cons, List.mem_cons]
    refine ⟨by omega, fun name p hp => ?_⟩
    rcases hp with hp | hp
    · -- the first call is the create
      obtain ⟨rfl, hr⟩ := Prod.mk.inj hp
      obtain ⟨k, -, hk, hid, -⟩ := createPart_draws (run_create_eq_ok hr.symm)
      exact ⟨e.ids.drawn + k + 1, by omega, by omega, hid⟩
    · obtain ⟨j, hj, hjle, hid⟩ := hlater name p hp
      exact ⟨j, by omega, hjle, hid⟩

/-- What a create does on every engine that calls reach from a fresh one, restores included, while
the stream gives distinct ids from the start of the run up to the last draw this create may make.
It succeeds exactly for a non-blank name that no live part has. Then it made at most one draw more
than there are live parts; every draw but the last gave a live id, and the last gave the id of
its answer, which is neither nil nor live. The new part has the name and no edges, and the graph
gains its record at the end with every other record unchanged. Its id differs from that of every
part an earlier create of the run answered. -/
theorem createPart_fresh_id (ids : IdStream) (cs : List Command) (name : String) :
    let e := ((Engine.fresh ids).runAll cs).2
    IdStream.Distinct ids.drawn (e.ids.drawn + e.graph.size + 1) →
    ((∃ p e', e.createPart name = .ok (p, e')) ↔
        Text.isBlank name = false ∧ ∀ n ∈ e.graph.nodes, n.name ≠ name) ∧
    ∀ p e', e.createPart name = .ok (p, e') →
      (∃ k ≤ e.graph.size, e'.ids.drawn = e.ids.drawn + k + 1 ∧
        p.id = IdStream.ofSerial (e.ids.drawn + k + 1) ∧
        ∀ j < k, IdStream.ofSerial (e.ids.drawn + j + 1) ∈ e.graph.ids) ∧
      p.id ≠ PartId.nil ∧ p.id ∉ e.graph.ids ∧
      p.name = name ∧ p.parents = [] ∧ p.children = [] ∧
      e'.graph.nodes = e.graph.nodes ++ [{ id := p.id, name, seq := e.graph.nextSeq + 1 }] ∧
      ∀ name' q, (Command.create name', Except.ok (Reply.part q)) ∈
        cs.zip ((Engine.fresh ids).runAll cs).1 → q.id ≠ p.id := by
  intro e hd
  obtain ⟨hdrawn, hcreated⟩ := created_runAll (Engine.fresh ids) cs
  refine ⟨createPart_ok_iff (runAll_fresh_wellFormed ids cs).1.toConsistent
    (hd.mono hdrawn (Nat.le_refl _)), fun p e' h => ?_⟩
  obtain ⟨k, hk, hs, hid, hfree, hlive, hp, hg⟩ := createPart_draws h
  have hview : p.name = name ∧ p.parents = [] ∧ p.children = [] := by
    rw [hp]
    exact ⟨rfl, rfl, rfl⟩
  refine ⟨⟨k, hk, hs, hid, hlive⟩, by rw [hid]; exact IdStream.ofSerial_ne_nil _, hfree, hview.1,
    hview.2.1, hview.2.2, by rw [hg]; rfl, fun name' q hq heq => ?_⟩
  obtain ⟨j, hj, hjle, hqid⟩ := hcreated name' q hq
  have hjle' : j ≤ e.ids.drawn := hjle
  exact hd j (e.ids.drawn + k + 1) hj (by omega) (by omega) (by rw [← hqid, ← hid]; exact heq)

/-- A create after a restore: the restored part holds the first id, so the create of `bolt` skips
it and draws the second, and a create of `washer` draws the third. -/
theorem createPart_fresh_id_after_restore :
    let cs := [Command.restore [⟨(IdStream.ofSerial 1).toString, "frame", []⟩], .create "bolt"]
    let e := ((Engine.fresh {}).runAll cs).2
    IdStream.Distinct 0 (e.ids.drawn + e.graph.size + 1) ∧
    ((∃ p e', e.createPart "washer" = .ok (p, e')) ↔
        Text.isBlank "washer" = false ∧ ∀ n ∈ e.graph.nodes, n.name ≠ "washer") ∧
    ∀ p e', e.createPart "washer" = .ok (p, e') →
      (∃ k ≤ e.graph.size, e'.ids.drawn = e.ids.drawn + k + 1 ∧
        p.id = IdStream.ofSerial (e.ids.drawn + k + 1) ∧
        ∀ j < k, IdStream.ofSerial (e.ids.drawn + j + 1) ∈ e.graph.ids) ∧
      p.id ≠ PartId.nil ∧ p.id ∉ e.graph.ids ∧
      p.name = "washer" ∧ p.parents = [] ∧ p.children = [] ∧
      e'.graph.nodes =
        e.graph.nodes ++ [{ id := p.id, name := "washer", seq := e.graph.nextSeq + 1 }] ∧
      ∀ name' q, (Command.create name', Except.ok (Reply.part q)) ∈
        cs.zip ((Engine.fresh {}).runAll cs).1 → q.id ≠ p.id := by
  intro cs e
  have hcounts : e.ids.drawn = 2 ∧ e.graph.size = 2 := by
    simp only [e, cs]
    cbv
  have hd : IdStream.Distinct 0 (e.ids.drawn + e.graph.size + 1) :=
    IdStream.Distinct.of_le (by omega)
  exact ⟨hd, createPart_fresh_id {} cs "washer" hd⟩

/-- The ids given out are not reserved. A part restored under the first id of the stream and then
deleted leaves that id free, and the next create draws it again, though it was live earlier in
the run. -/
theorem create_redraws_deleted_restored_id :
    let cs := [Command.restore [⟨(IdStream.ofSerial 1).toString, "frame", []⟩],
      .delete (IdStream.ofSerial 1).toString]
    ((Engine.fresh {}).runAll (cs.take 1)).2.graph.ids = [IdStream.ofSerial 1] ∧
      (((Engine.fresh {}).runAll cs).2.createPart "bolt").map (·.1.id) =
        .ok (IdStream.ofSerial 1) := by
  cbv

end Engine

end BillOfMaterials
