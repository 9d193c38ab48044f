import BillOfMaterials.Proofs.Graph.Restore
import BillOfMaterials.Proofs.Graph.Closure
import BillOfMaterials.Proofs.Graph.Edit
import BillOfMaterials.Engine.Command

/-!
# What each call on an engine does

One lemma per call says what a successful call did to the engine (`createPart_eq_ok`,
`deletePart_eq_ok`, `updateChildren_eq_ok`, `restore_eq_ok`), and one per call that can fail
says that, on a consistent graph, it fails only for a reason the caller can see: never with an
internal fault (`createPart_error`, `deletePart_error`, ..., `PartId.read_error` for an id that
does not read).

The engine makes each mutation in place, step by step (`Engine.editCreate`, ...); each such edit
is the step of its operation (`editCreate_eq_step`, `editDelete_eq_step`, `editChildren_eq_step`,
`editRestore_eq_update`), so a command is carried out as its operation computes it
(`run_create`, `run_delete`, `run_update`, `run_restore`, with `runEdit_step`).
-/

namespace BillOfMaterials

/-- A text that is no id is a rejected value. -/
theorem PartId.read_error {s : String} {f : Fault} (h : PartId.read s = .error f) :
    f.isKind .internal = false := by
  unfold PartId.read at h
  split at h
  · cases h
  · cases h
    rfl

/-- Reading the ids of a snapshot fails only at an id that does not read. -/
theorem PartSpec.read_error {specs : List PartSpec} {f : Fault} (h : PartSpec.read specs = .error f) :
    f.isKind .internal = false := by
  unfold PartSpec.read at h
  simp only [bind_eq_error, pure_ne_error, and_false, exists_false, or_false] at h
  obtain ⟨p, -, hp⟩ := mapM_eq_error h
  simp only [bind_eq_error] at hp
  rcases hp with hp | ⟨_, -, hp | ⟨_, -, hp⟩⟩
  · exact PartId.read_error hp
  · obtain ⟨c, -, hc⟩ := mapM_eq_error hp
    exact PartId.read_error hc
  · simp at hp

namespace Graph

theorem get_error {g : Graph} {id : PartId} {f : Fault} (h : g.get id = .error f) :
    f = .notFound id.toString := by
  unfold get at h
  exact lookup_error_eq (map_eq_error.1 h)

theorem get_id {g : Graph} {id : PartId} {p : Part} (h : g.get id = .ok p) : p.id = id := by
  unfold get at h
  obtain ⟨n, hn, rfl⟩ := map_eq_ok.1 h
  exact (find?_eq_some (lookup_eq_ok.1 hn)).2

theorem get_of_mem {g : Graph} {id : PartId} (h : id ∈ g.ids) : ∃ p, g.get id = .ok p := by
  obtain ⟨n, hn⟩ := lookup_of_mem h
  exact ⟨n.view, by rw [get, hn]; rfl⟩

theorem Consistent.listChildren_error {g : Graph} (hg : g.Consistent) {id : PartId} {flt : Filter}
    {f : Fault} (h : g.listChildren id flt = .error f) : f.isKind .internal = false := by
  unfold listChildren at h
  dsimp only at h
  split at h
  · simp at h
    subst h
    rfl
  rw [bind_eq_error] at h
  rcases h with h | ⟨n, hn, h⟩
  · rw [lookup_error_eq h]
    rfl
  rw [bind_eq_error] at h
  rcases h with h | ⟨_, -, h⟩
  · obtain ⟨x, hx, hdead⟩ := views_error h
    have hn := find?_eq_some (lookup_eq_ok.1 hn)
    exact absurd (hg.children_live n hn.1 x hx) hdead
  · simp at h

end Graph

namespace Engine

open BillOfMaterials.Graph

@[simp] theorem graph_changed (e : Engine) : (changed e).graph = e.graph := by
  unfold changed
  split <;> rfl

@[simp] theorem ids_changed (e : Engine) : (changed e).ids = e.ids := by
  unfold changed
  split <;> rfl

theorem createPart_eq_ok {e e' : Engine} {name : String} {p : Part}
    (h : e.createPart name = .ok (p, e')) :
    ∃ id g ids, e.graph.create e.ids name = .ok (id, g, ids) ∧
      e' = changed { e with graph := g, ids } := by
  unfold createPart at h
  simp only [bind_eq_ok] at h
  obtain ⟨⟨id, g, ids⟩, hc, q, -, h⟩ := h
  simp only [pure_eq_ok, Prod.mk.injEq] at h
  exact ⟨id, g, ids, hc, h.2.symm⟩

theorem createPart_error {e : Engine} {name : String} {f : Fault}
    (h : e.createPart name = .error f) : f.isKind .internal = false := by
  unfold createPart at h
  rw [bind_eq_error] at h
  rcases h with h | ⟨⟨id, g, ids⟩, -, h⟩
  · exact create_error h
  rw [bind_eq_error] at h
  rcases h with h | ⟨_, -, h⟩
  · rw [get_error h]
    rfl
  · simp at h

theorem deletePart_eq_ok {e e' : Engine} {id : PartId} {p : Part}
    (h : e.deletePart id = .ok (p, e')) :
    ∃ g, e.graph.deleteCascade id = .ok g ∧ e' = changed { e with graph := g } := by
  unfold deletePart at h
  simp only [bind_eq_ok, pure_eq_ok, Prod.mk.injEq] at h
  obtain ⟨_, -, g, hg, -, rfl⟩ := h
  exact ⟨g, hg, rfl⟩

theorem deletePart_error {e : Engine} (he : e.graph.Consistent) {id : PartId} {f : Fault}
    (h : e.deletePart id = .error f) : f.isKind .internal = false := by
  unfold deletePart at h
  rw [bind_eq_error] at h
  rcases h with h | ⟨_, -, h⟩
  · rw [get_error h]
    rfl
  rw [bind_eq_error] at h
  rcases h with h | ⟨_, -, h⟩
  · rw [he.deleteCascade_error h]
    rfl
  · simp at h

theorem updateChildren_eq_ok {e e' : Engine} {id : PartId} {action : Action}
    {children : List PartId} {p : Part} (h : e.updateChildren id action children = .ok (p, e')) :
    ∃ g, e.graph.updateChildren id action children = .ok g ∧
      e' = changed { e with graph := g } := by
  unfold updateChildren at h
  simp only [bind_eq_ok, pure_eq_ok, Prod.mk.injEq] at h
  obtain ⟨g, hg, _, -, -, rfl⟩ := h
  exact ⟨g, hg, rfl⟩

theorem updateChildren_error {e : Engine} (he : e.graph.Consistent) {id : PartId}
    {action : Action} {children : List PartId} {f : Fault}
    (h : e.updateChildren id action children = .error f) : f.isKind .internal = false := by
  unfold updateChildren at h
  rw [bind_eq_error] at h
  rcases h with h | ⟨g, -, h⟩
  · exact he.updateChildren_error h
  rw [bind_eq_error] at h
  rcases h with h | ⟨_, -, h⟩
  · rw [get_error h]
    rfl
  · simp at h

theorem restore_eq_ok {e e' : Engine} {s : Snapshot} (h : e.restore s = .ok e') :
    ∃ g, s.build = .ok g ∧ e' = { e with graph := g } := by
  unfold restore at h
  simp only [bind_eq_ok, pure_eq_ok] at h
  obtain ⟨g, hg, rfl⟩ := h
  exact ⟨g, hg, rfl⟩

theorem restore_error {e : Engine} {s : Snapshot} {f : Fault} (h : e.restore s = .error f) :
    f.isKind .internal = false := by
  unfold restore at h
  rw [bind_eq_error] at h
  rcases h with h | ⟨_, -, h⟩
  · exact Snapshot.build_error h
  · simp at h

theorem contained_error {e : Engine} (he : e.graph.Consistent) {id : PartId} {f : Fault}
    (h : e.contained id = .error f) : f.isKind .internal = false := by
  have hnext : ∀ n ∈ e.graph.nodes, ∀ x ∈ n.parents.toList, x ∈ e.graph.ids := he.parents_live
  unfold contained at h
  rw [bind_eq_error] at h
  rcases h with h | ⟨r, hr, h⟩
  · rw [walk_error hnext h]
    rfl
  · obtain ⟨x, hx, hdead⟩ := views_error h
    exact absurd (walk_live hnext hr x hx) hdead

theorem listDescendants_error {e : Engine} (he : e.graph.Consistent) {id : PartId} {flt : Filter}
    {f : Fault} (h : e.listDescendants id flt = .error f) : f.isKind .internal = false := by
  have hnext : ∀ n ∈ e.graph.nodes, ∀ x ∈ n.children.toList, x ∈ e.graph.ids :=
    he.children_live
  unfold listDescendants at h
  rw [bind_eq_error] at h
  rcases h with h | ⟨r, hr, h⟩
  · rw [walk_error hnext h]
    rfl
  rw [bind_eq_error] at h
  rcases h with h | ⟨_, -, h⟩
  · obtain ⟨x, hx, hdead⟩ := views_error h
    exact absurd (walk_live hnext hr x hx) hdead
  · simp at h

/-! ## The mutations in place -/

theorem editCreate_eq_step (name : String) : editCreate name = Edit.step (·.createPart name) := by
  funext e
  show (editCreate name).run e = (Edit.step _).run e
  unfold editCreate
  rw [Graph.editCreate_eq_step]
  cases hc : e.graph.create e.ids name with
  | error f =>
    rw [Edit.run_bind_error (Edit.run_focus_error
        (Edit.run_step_error (f := fun gs : Graph × IdStream => gs.1.create gs.2 name) hc)),
      Edit.run_step_error (s := e) (e := f) (by simp [createPart, hc])]
  | ok r =>
    obtain ⟨id, g, s⟩ := r
    have hid : id ∈ g.ids := by
      obtain ⟨-, -, -, rfl⟩ := create_eq_ok.1 hc
      simp [Graph.ids, insert_nodes]
    obtain ⟨p, hp⟩ := get_of_mem hid
    have hread : ({ e with graph := g, ids := s } : Engine).getPart id = .ok p := hp
    have hcreate : e.createPart name = .ok (p, changed { e with graph := g, ids := s }) := by
      simp [createPart, hc, hp]
    rw [Edit.run_bind_ok (Edit.run_focus_ok
        (Edit.run_step_ok (f := fun gs : Graph × IdStream => gs.1.create gs.2 name) hc)),
      Edit.run_bind_ok (Edit.run_read_ok (f := fun e : Engine => e.getPart id) hread),
      Edit.run_bind_ok (Edit.run_write _ _), Edit.run_step_ok (s := e) hcreate]
    rfl

theorem editChildren_eq_step (id : PartId) (action : Action) (children : List PartId) :
    editChildren id action children = Edit.step (·.updateChildren id action children) := by
  funext e
  show (editChildren id action children).run e = (Edit.step _).run e
  unfold editChildren onGraph
  rw [Graph.editChildren_eq_update]
  cases hu : e.graph.updateChildren id action children with
  | error f =>
    rw [Edit.run_bind_error (Edit.run_focus_error (Edit.run_update_error (s := e.graph) hu)),
      Edit.run_step_error (s := e) (e := f) (by simp [updateChildren, hu])]
  | ok g =>
    have hid : id ∈ g.ids := by
      obtain ⟨parent, hparent, -⟩ := Graph.updateChildren_eq_ok hu
      rw [updateChildren_ids hu]
      exact mem_ids_of_lookup (lookup_eq_ok.2 hparent)
    obtain ⟨p, hp⟩ := get_of_mem hid
    have hread : ({ e with graph := g } : Engine).getPart id = .ok p := hp
    have hupdate : e.updateChildren id action children = .ok (p, changed { e with graph := g }) := by
      simp [updateChildren, hu, hp]
    rw [Edit.run_bind_ok (Edit.run_focus_ok (Edit.run_update_ok (s := e.graph) hu)),
      Edit.run_bind_ok (Edit.run_read_ok (f := fun e : Engine => e.getPart id) hread),
      Edit.run_bind_ok (Edit.run_write _ _), Edit.run_step_ok (s := e) hupdate]
    rfl

theorem editDelete_eq_step (id : PartId) : editDelete id = Edit.step (·.deletePart id) := by
  funext e
  show (editDelete id).run e = (Edit.step _).run e
  unfold editDelete onGraph
  rw [Graph.editCascade_eq_update]
  cases hp : e.graph.get id with
  | error f =>
    rw [Edit.run_bind_error (Edit.run_read_error (f := fun e : Engine => e.getPart id) hp),
      Edit.run_step_error (s := e) (e := f) (by simp [deletePart, hp])]
  | ok p =>
    rw [Edit.run_bind_ok (Edit.run_read_ok (f := fun e : Engine => e.getPart id) hp)]
    cases hc : e.graph.deleteCascade id with
    | error f =>
      rw [Edit.run_bind_error (Edit.run_focus_error (Edit.run_update_error (s := e.graph) hc)),
        Edit.run_step_error (s := e) (e := f) (by simp [deletePart, hp, hc])]
    | ok g =>
      have hdelete : e.deletePart id = .ok (p, changed { e with graph := g }) := by
        simp [deletePart, hp, hc]
      rw [Edit.run_bind_ok (Edit.run_focus_ok (Edit.run_update_ok (s := e.graph) hc)),
        Edit.run_bind_ok (Edit.run_write _ _), Edit.run_step_ok (s := e) hdelete]
      rfl

theorem editRestore_eq_update (s : Snapshot) : editRestore s = Edit.update (·.restore s) := by
  unfold editRestore restore
  simp only [Edit.write_eq_update, Edit.read_bind_update]
  rfl

/-- Carrying out an edit that is one step answers what the step computes, or its fault with the
engine as it was. -/
theorem runEdit_step {α : Type} (e : Engine) (f : Engine → Except Fault (α × Engine))
    (reply : α → Reply) :
    e.runEdit (Edit.step f) reply = match f e with
      | .ok (a, e') => (.ok (reply a), e')
      | .error x => (.error x, e) := by
  cases h : f e with
  | ok r =>
    obtain ⟨a, e'⟩ := r
    simp [runEdit, Edit.run_step_ok h]
  | error x => simp [runEdit, Edit.run_step_error h]

theorem runEdit_update (e : Engine) (f : Engine → Except Fault Engine) (reply : Unit → Reply) :
    e.runEdit (Edit.update f) reply = match f e with
      | .ok e' => (.ok (reply ()), e')
      | .error x => (.error x, e) := by
  cases h : f e with
  | ok e' => simp [runEdit, Edit.run_update_ok h]
  | error x => simp [runEdit, Edit.run_update_error h]

theorem runEdit_step_ok {α : Type} {e : Engine} {f : Engine → Except Fault (α × Engine)}
    {reply : α → Reply} {r : Reply} (h : (e.runEdit (Edit.step f) reply).1 = .ok r) :
    ∃ a, f e = .ok (a, (e.runEdit (Edit.step f) reply).2) := by
  rw [runEdit_step] at h ⊢
  cases hf : f e with
  | ok r' => exact ⟨r'.1, rfl⟩
  | error x => simp [hf] at h

theorem runEdit_update_ok {e : Engine} {f : Engine → Except Fault Engine} {reply : Unit → Reply}
    {r : Reply} (h : (e.runEdit (Edit.update f) reply).1 = .ok r) :
    f e = .ok (e.runEdit (Edit.update f) reply).2 := by
  rw [Edit.update_eq_step] at h ⊢
  obtain ⟨_, hf⟩ := runEdit_step_ok h
  obtain ⟨e', he', hmap⟩ := map_eq_ok.1 hf
  rw [he', (Prod.mk.inj hmap).2]

/-! The mutating commands, each carried out as the step of its operation. -/

theorem run_create (e : Engine) (name : String) :
    e.run (.create name) = e.runEdit (Edit.step (·.createPart name)) .part := by
  rw [run, editCreate_eq_step]

theorem run_delete (e : Engine) (id : String) :
    e.run (.delete id) = e.runEdit (Edit.step fun e => do e.deletePart (← PartId.read id)) .part := by
  simp only [run, editDelete_eq_step, Edit.read_bind_step]

theorem run_update (e : Engine) (id : String) (action : Action) (children : List String) :
    e.run (.update id action children) = e.runEdit (Edit.step fun e => do
      e.updateChildren (← PartId.read id) action (← children.mapM PartId.read)) .part := by
  simp only [run, editChildren_eq_step, Edit.read_bind_step]

theorem run_restore (e : Engine) (specs : List PartSpec) :
    e.run (.restore specs) =
      e.runEdit (Edit.update fun e => do e.restore (← PartSpec.read specs)) fun () => .done := by
  simp only [run, editRestore_eq_update, Edit.read_bind_update]

end Engine

end BillOfMaterials
