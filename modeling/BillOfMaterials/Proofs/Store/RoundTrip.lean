import Mathlib
import BillOfMaterials.Store.Backend
import BillOfMaterials.Proofs.Store.Codec
import BillOfMaterials.Proofs.Store.Graph
import BillOfMaterials.Proofs.Engine.Invariant
import BillOfMaterials.Proofs.Graph.Restore

/-!
# A load reads back the last save

Each backend keeps a saved snapshot its own way, and a load reads it back:

* memory, `sqlite`, `postgres` and `s3` keep the encoded text, which decodes back to the
  snapshot with every children list present (`StoredSnapshot.decode_encode`); the database
  hands back the bytes an upsert gave it, as the text's UTF-8 (`Text.Utf8.lossy_bytes`);
* `neo4j` keeps nodes and edges, which read back as the parts in order with their children in
  order, a part with no children having no list (`GraphServer.read_written`).

What the store's code asks of each server is stated apart from the server, and the loads are
proved through it alone: a relational server's select answers the payload of its last upsert
(`PgServer.KeepsUpserts`), an object service's get answers the object last put under the name
(`ObjectService.KeepsPuts`), and a graph server's queries answer the nodes and edges written in
the order of their `seq` and `position` (`GraphServer.QueriesReadBack`). The servers give each
(`PgServer.keepsUpserts`, `ObjectService.keepsPuts`, `GraphServer.queriesReadBack`).

So once a missing list counts as empty a load after a save gives the snapshot saved, whatever
the store held before (`Store.load_save`), given that the snapshot's ids are distinct and its
children are among its parts (`Snapshot.Closed`), as they are in every consistent graph. What
the store asks of its database and servers is `Store.Dependable`. A store that holds no
snapshot (`Store.Blank`) loads the empty one (`Store.load_blank`). The snapshot of an engine
that calls reached restores to it (`Engine.restore_reached_snapshot`), and `load_after_save`
puts the three together.
-/

namespace BillOfMaterials

/-- A snapshot whose ids are distinct and whose children are all among its parts. -/
structure Snapshot.Closed (s : Snapshot) : Prop where
  ids_nodup : (s.parts.map (·.id)).Nodup
  children_mem : ∀ p ∈ s.parts, ∀ c ∈ p.children, c ∈ s.parts.map (·.id)

theorem Graph.Consistent.snapshot_closed {g : Graph} (h : g.Consistent) : g.snapshot.Closed where
  ids_nodup := Graph.ids_eq_snapshot g ▸ h.ids_nodup
  children_mem := by
    intro p hp c hc
    rw [← Graph.ids_eq_snapshot]
    rw [Graph.snapshot_parts] at hp
    obtain ⟨n, hn, rfl⟩ := List.mem_map.1 hp
    exact h.children_live n hn c hc

namespace PgServer

/-- What a store asks of a relational server: the select answers the payload of the last upsert,
and an upsert leaves the steps the server fails as they were. -/
structure KeepsUpserts (srv : PgServer) : Prop where
  select_upsert : ∀ t, (srv.upsert t).select = some t
  failure?_upsert : ∀ t k, (srv.upsert t).failure? k = srv.failure? k

theorem keepsUpserts (srv : PgServer) : srv.KeepsUpserts where
  select_upsert _ := rfl
  failure?_upsert _ _ := rfl

theorem load_save {srv srv' : PgServer} (hk : srv.KeepsUpserts) (hsel : srv.failure? .select = none)
    {s : Snapshot} (h : srv.save s = .ok srv') : srv'.load = .ok (StoredSnapshot.ofSnapshot s) := by
  unfold save at h
  cases h1 : srv.failure? .begin <;> cases h2 : srv.failure? .insert <;>
    cases h3 : srv.failure? .commit <;> simp [h1, h2, h3] at h
  subst h
  simp only [load, hk.failure?_upsert, hsel, hk.select_upsert, StoredSnapshot.decode_encode]
  rfl

theorem load_blank {srv : PgServer} (hsel : srv.failure? .select = none) (hp : srv.payload = none) :
    srv.load = .ok {} := by
  simp only [load, hsel, select, hp]

end PgServer

namespace ObjectService

theorem lookup_replace {α : Type} (l : List (String × α)) (k : String) (v : α) :
    (l.filter (·.1 ≠ k) ++ [(k, v)]).lookup k = some v := by
  induction l with
  | nil => simp
  | cons x l ih =>
    by_cases h : x.1 = k
    · rw [List.filter_cons_of_neg (by simp [h])]
      exact ih
    · obtain ⟨a, b⟩ := x
      rw [List.filter_cons_of_pos (by simpa using h), List.cons_append, List.lookup_cons,
        beq_false_of_ne (Ne.symm h)]
      exact ih

/-- What a store asks of an object service: a get of a name answers the object last put under
it, and a put leaves the failures of gets and the cutting of bodies as they were. -/
structure KeepsPuts (svc : ObjectService) : Prop where
  get_put : ∀ name text, (svc.putObject name text).getObject name = some text
  failGet_put : ∀ name text, (svc.putObject name text).failGet = svc.failGet
  truncate_put : ∀ name text, (svc.putObject name text).truncate = svc.truncate

theorem keepsPuts (svc : ObjectService) : svc.KeepsPuts where
  get_put name text := lookup_replace svc.objects name text
  failGet_put _ _ := rfl
  truncate_put _ _ := rfl

theorem load_save {svc svc' : ObjectService} (hk : svc.KeepsPuts) (hget : svc.failGet = none)
    (htrunc : svc.truncate = false) {bucket key : String} {s : Snapshot}
    (h : svc.save bucket key s = .ok svc') : svc'.load bucket key = .ok (StoredSnapshot.ofSnapshot s) := by
  unfold save at h
  cases hput : svc.failPut with
  | some f => simp [hput] at h
  | none =>
    simp only [hput, Except.ok.injEq] at h
    subst h
    simp only [load, hk.failGet_put, hget, hk.get_put, hk.truncate_put, htrunc,
      StoredSnapshot.decode_encode, Bool.false_eq_true, if_false]
    rfl

theorem load_blank {svc : ObjectService} (hget : svc.failGet = none) {bucket key : String}
    (hk : svc.objects.lookup (objectName bucket key) = none) : svc.load bucket key = .ok {} := by
  simp only [load, hget, getObject, hk]

end ObjectService

namespace Store

/-- What a store needs of what lies beyond it for a load to read back what a save wrote: the
database keeps the payload an upsert gives it, and the servers answer the queries of a load. -/
def Dependable : Store → Prop
  | .memory .. => True
  | .sqlite _ _ db => ∀ b db', db.execDml saveStatement [.text bucket, .blob b] = .ok db' →
      ∃ row rows, db'.query loadQuery [.text bucket] = .ok ((.blob b :: row) :: rows)
  | .postgres srv => srv.failure? .select = none
  | .graph srv => srv.AnswersReads
  | .objects svc _ _ => svc.failGet = none ∧ svc.truncate = false

/-- A store that holds no snapshot: no text, no row of the bucket, no payload, no graph, no
object. -/
def Blank : Store → Prop
  | .memory data _ => data = ""
  | .sqlite _ _ db => db.query loadQuery [.text bucket] = .ok []
  | .postgres srv => srv.payload = none
  | .graph srv => srv.nodes = [] ∧ srv.edges = []
  | .objects svc b k => svc.objects.lookup (ObjectService.objectName b k) = none

/-- A load after a save reads back the snapshot saved, whatever the store held before, once
missing children lists count as empty. -/
theorem load_save {st st' : Store} (hd : st.Dependable) {s : Snapshot} (hs : s.Closed)
    (h : st.save s = .ok st') : ∃ loaded, st'.load = .ok loaded ∧ loaded.toSnapshot = s := by
  cases st with
  | memory data n =>
    cases h
    refine ⟨_, ?_, StoredSnapshot.toSnapshot_ofSnapshot s⟩
    simp only [load, StoredSnapshot.decode_encode]
    rfl
  | sqlite fs path db =>
    simp only [save] at h
    split at h
    · next db' hx =>
      cases h
      obtain ⟨row, rows, hq⟩ := hd _ _ hx
      refine ⟨_, ?_, StoredSnapshot.toSnapshot_ofSnapshot s⟩
      simp only [load, hq, List.headD_cons, payloadBytes, Sql.Value.byteForm, Option.getD_some,
        Text.Utf8.lossy_bytes, StoredSnapshot.decode_encode]
      rfl
    · cases h
  | postgres srv =>
    obtain ⟨srv', hsave, rfl⟩ := map_eq_ok.1 h
    exact ⟨_, PgServer.load_save (PgServer.keepsUpserts srv) hd hsave,
      StoredSnapshot.toSnapshot_ofSnapshot s⟩
  | graph srv =>
    simp only [save] at h
    split at h
    · next srv' hw =>
      obtain ⟨-, -, rfl⟩ := GraphServer.write_eq hw
      cases h
      refine ⟨_, ?_, GraphServer.toSnapshot_readBack s⟩
      simp only [load, GraphServer.read_written hd (GraphServer.queriesReadBack srv) hs.ids_nodup
        hs.children_mem]
      rfl
    · cases h
  | objects svc b k =>
    obtain ⟨svc', hsave, rfl⟩ := map_eq_ok.1 h
    exact ⟨_, ObjectService.load_save (ObjectService.keepsPuts svc) hd.1 hd.2 hsave,
      StoredSnapshot.toSnapshot_ofSnapshot s⟩

/-- A store that holds no snapshot loads the empty one. -/
theorem load_blank {st : Store} (hd : st.Dependable) (hb : st.Blank) : st.load = .ok {} := by
  cases st with
  | memory data n =>
    cases hb
    rfl
  | sqlite fs path db =>
    have hq : db.query loadQuery [.text bucket] = .ok [] := hb
    simp only [load, hq]
  | postgres srv => exact PgServer.load_blank hd hb
  | graph srv =>
    simp only [load, GraphServer.read_blank hd hb.1 hb.2]
    rfl
  | objects svc b k => exact ObjectService.load_blank hd.1 hb

end Store

namespace Engine

/-- The snapshot of an engine that calls reached restores into any engine, which then has that
snapshot. -/
theorem restore_reached_snapshot (ids : IdStream) (cs : List Command) (e : Engine) :
    ∃ e', e.restore ((fresh ids).runAll cs).2.snapshot = .ok e' ∧
      e'.snapshot = ((fresh ids).runAll cs).2.snapshot := by
  obtain ⟨hw, hnil⟩ := runAll_fresh_wellFormed ids cs
  obtain ⟨g, hb, hsnap, -⟩ := Snapshot.build_snapshot hw hnil
  refine ⟨{ e with graph := g }, ?_, hsnap⟩
  simp only [restore, snapshot, hb, ok_bind]
  rfl

end Engine

/-- Saving the snapshot of an engine that calls reached, to a store of any backend whose
database and servers keep and answer as they should, then loading, reads back that snapshot,
whatever the store held before, once missing children lists count as empty; restoring what was
read gives an engine with that snapshot. A store that holds no snapshot loads the empty one. -/
theorem load_after_save (ids : IdStream) (cs : List Command) (st : Store) (hd : st.Dependable) :
    (∀ st', st.save ((Engine.fresh ids).runAll cs).2.snapshot = .ok st' →
      ∃ loaded, st'.load = .ok loaded ∧ loaded.toSnapshot = ((Engine.fresh ids).runAll cs).2.snapshot ∧
        ∀ e : Engine, ∃ e', e.restore loaded.toSnapshot = .ok e' ∧
          e'.snapshot = ((Engine.fresh ids).runAll cs).2.snapshot) ∧
      (st.Blank → st.load = .ok {}) := by
  have hclosed := (Engine.runAll_fresh_wellFormed ids cs).1.toConsistent.snapshot_closed
  refine ⟨fun st' hs => ?_, Store.load_blank hd⟩
  obtain ⟨loaded, hl, hsnap⟩ := Store.load_save hd hclosed hs
  exact ⟨loaded, hl, hsnap, fun e => hsnap ▸ Engine.restore_reached_snapshot ids cs e⟩

/-- A memory store and a graph server that answers every read both read back the snapshot of an
engine that made one part. -/
theorem stores_load_after_save :
    ((∀ st', (Store.memory "" 0).save ((Engine.fresh {}).runAll [.create "Bolt"]).2.snapshot =
        .ok st' →
      ∃ loaded, st'.load = .ok loaded ∧
        loaded.toSnapshot = ((Engine.fresh {}).runAll [.create "Bolt"]).2.snapshot ∧
        ∀ e : Engine, ∃ e', e.restore loaded.toSnapshot = .ok e' ∧
          e'.snapshot = ((Engine.fresh {}).runAll [.create "Bolt"]).2.snapshot) ∧
      ((Store.memory "" 0).Blank → (Store.memory "" 0).load = .ok {})) ∧
    (GraphServer.AnswersReads {} ∧
      (∀ st', (Store.graph {}).save ((Engine.fresh {}).runAll [.create "Bolt"]).2.snapshot =
          .ok st' →
        ∃ loaded, st'.load = .ok loaded ∧
          loaded.toSnapshot = ((Engine.fresh {}).runAll [.create "Bolt"]).2.snapshot ∧
          ∀ e : Engine, ∃ e', e.restore loaded.toSnapshot = .ok e' ∧
            e'.snapshot = ((Engine.fresh {}).runAll [.create "Bolt"]).2.snapshot) ∧
      ((Store.graph {}).Blank → (Store.graph {}).load = .ok {})) :=
  have hreads : GraphServer.AnswersReads {} := ⟨rfl, rfl, rfl, rfl, rfl, rfl⟩
  ⟨load_after_save {} [.create "Bolt"] (.memory "" 0) trivial,
    hreads, load_after_save {} [.create "Bolt"] (.graph {}) hreads⟩

end BillOfMaterials
