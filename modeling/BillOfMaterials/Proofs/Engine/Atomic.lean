import BillOfMaterials.Proofs.Engine.Calls
import BillOfMaterials.Graph.Command

/-!
# Failed calls change nothing

The graph is changed in place, and the runners keep whatever an edit leaves, also after a fault.
Each edit of the graph and of the engine is atomic, as each one is the update of its operation
(`Graph.editChildren_eq_update`, `Engine.editChildren_eq_step`, ...): a fault comes before the
first write. So a call that fails leaves everything as it was: a bare graph and its id stream
(`Graph.run_error_unchanged`, so a refused create draws no id), or a whole engine
(`Engine.run_error_unchanged`, so a refused restore keeps the graph). The change hook fires once
for each create, delete and update that succeeds, an update that changes no edge included, and
never for a restore or a read (`Engine.changes_run`).
-/

namespace BillOfMaterials

/-- The calls whose success fires the change hook: a create, a delete and an update. -/
def Command.fires : Command → Bool
  | .create _ | .delete _ | .update .. => true
  | _ => false

namespace Graph

theorem runEdit_error {g : Graph} {s : IdStream} {m : Edit Graph Unit} (hm : m.Atomic) {f : Fault}
    (h : (g.runEdit s m).1 = .error f) : (g.runEdit s m).2 = (g, s) := by
  cases hr : m.run g with
  | ok u g' => simp [runEdit, hr] at h
  | error e g' => simp [runEdit, hr, hm g e g' hr]

/-- A call on a bare graph that fails leaves the graph and the id stream as they were. -/
theorem run_error_unchanged (g : Graph) (s : IdStream) (c : GraphCommand) {f : Fault}
    (h : (g.run s c).1 = .error f) : (g.run s c).2 = (g, s) := by
  cases c with
  | create name =>
    simp only [run] at h ⊢
    cases hr : (editCreate name).run (g, s) with
    | ok id gs => simp [hr] at h
    | error e gs => simp [editCreate_atomic name (g, s) e gs hr]
  | delete id => exact runEdit_error (Edit.Atomic.read_bind fun _ => Edit.atomic_update _) h
  | update id action children =>
    exact runEdit_error (Edit.Atomic.read_bind fun a => Edit.Atomic.read_bind fun cs =>
      editChildren_atomic a action cs) h
  | cascade id => exact runEdit_error (Edit.Atomic.read_bind editCascade_atomic) h
  | get | list | size | parts | children | contained | descendants => rfl

end Graph

namespace Engine

@[simp] theorem changes_changed (e : Engine) :
    (changed e).changes = e.changes + if e.hooked then 1 else 0 := by
  unfold changed
  split <;> simp [*]

theorem editCreate_atomic (name : String) : (editCreate name).Atomic := by
  rw [editCreate_eq_step]
  exact Edit.atomic_step _

theorem editDelete_atomic (id : PartId) : (editDelete id).Atomic := by
  rw [editDelete_eq_step]
  exact Edit.atomic_step _

theorem editChildren_atomic (id : PartId) (action : Action) (children : List PartId) :
    (editChildren id action children).Atomic := by
  rw [editChildren_eq_step]
  exact Edit.atomic_step _

theorem editRestore_atomic (s : Snapshot) : (editRestore s).Atomic := by
  rw [editRestore_eq_update]
  exact Edit.atomic_update _

theorem runEdit_error {α : Type} {e : Engine} {m : Edit Engine α} (hm : m.Atomic)
    {reply : α → Reply} {f : Fault} (h : (e.runEdit m reply).1 = .error f) :
    (e.runEdit m reply).2 = e := by
  cases hr : m.run e with
  | ok a e' => simp [runEdit, hr] at h
  | error x e' => simp [runEdit, hr, hm e x e' hr]

/-- A call on an engine that fails leaves the engine as it was. -/
theorem run_error_unchanged (e : Engine) (c : Command) {f : Fault}
    (h : (e.run c).1 = .error f) : (e.run c).2 = e := by
  cases c with
  | create name => exact runEdit_error (editCreate_atomic name) h
  | delete id => exact runEdit_error (Edit.Atomic.read_bind editDelete_atomic) h
  | update id action children =>
    exact runEdit_error (Edit.Atomic.read_bind fun a => Edit.Atomic.read_bind fun cs =>
      editChildren_atomic a action cs) h
  | restore specs => exact runEdit_error (Edit.Atomic.read_bind editRestore_atomic) h
  | get | list | children | contained | descendants | snapshot | stats | check => rfl

theorem changes_run_ok (e : Engine) (c : Command) {r : Reply} (h : (e.run c).1 = .ok r) :
    (e.run c).2.changes = e.changes + if e.hooked && c.fires then 1 else 0 := by
  cases c with
  | create name =>
    rw [run_create] at h ⊢
    obtain ⟨_, hc⟩ := runEdit_step_ok h
    obtain ⟨id, g, ids, -, he⟩ := createPart_eq_ok hc
    simp [he, Command.fires]
  | delete id =>
    rw [run_delete] at h ⊢
    obtain ⟨_, hd⟩ := runEdit_step_ok h
    obtain ⟨_, -, hd⟩ := bind_eq_ok.1 hd
    obtain ⟨g, -, he⟩ := deletePart_eq_ok hd
    simp [he, Command.fires]
  | update id action children =>
    rw [run_update] at h ⊢
    obtain ⟨_, hu⟩ := runEdit_step_ok h
    simp only [bind_eq_ok] at hu
    obtain ⟨_, -, _, -, hu⟩ := hu
    obtain ⟨g, -, he⟩ := updateChildren_eq_ok hu
    simp [he, Command.fires]
  | restore specs =>
    rw [run_restore] at h ⊢
    obtain ⟨_, -, hr⟩ := bind_eq_ok.1 (runEdit_update_ok h)
    obtain ⟨g, -, he⟩ := restore_eq_ok hr
    simp [he, Command.fires]
  | get | list | children | contained | descendants | snapshot | stats | check =>
    simp [run, Command.fires]

/-- The change hook fires once for each successful create, delete and update, if it is
installed, and for no other call. -/
theorem changes_run (e : Engine) (c : Command) :
    (e.run c).2.changes = e.changes + if e.hooked && c.fires && (e.run c).1.isOk then 1 else 0 := by
  cases hr : (e.run c).1 with
  | error f =>
    rw [run_error_unchanged e c hr]
    simp [Except.isOk, Except.toBool]
  | ok r =>
    rw [changes_run_ok e c hr]
    simp [Except.isOk, Except.toBool]

/-- Every fault of an update of children, of a cascade and of a create is raised before the
first write, so a failing call changes nothing: on a bare graph neither the graph nor the id
stream, on an engine nothing at all; and the change hook fires once for each create, delete and
update that succeeds, and for nothing else. -/
theorem failed_call_changes_nothing :
    (∀ (id : PartId) (action : Action) (childIds : List PartId),
      (Graph.editChildren id action childIds).Atomic) ∧
    (∀ id : PartId, (Graph.editCascade id).Atomic) ∧
    (∀ name : String, (Graph.editCreate name).Atomic) ∧
    (∀ (g : Graph) (s : IdStream) (c : GraphCommand) (f : Fault),
      (g.run s c).1 = .error f → (g.run s c).2 = (g, s)) ∧
    (∀ (e : Engine) (c : Command) (f : Fault), (e.run c).1 = .error f → (e.run c).2 = e) ∧
    ∀ (e : Engine) (c : Command),
      (e.run c).2.changes = e.changes + if e.hooked && c.fires && (e.run c).1.isOk then 1 else 0 :=
  ⟨Graph.editChildren_atomic, Graph.editCascade_atomic, Graph.editCreate_atomic,
    fun g s c _ h => Graph.run_error_unchanged g s c h, fun e c _ h => run_error_unchanged e c h,
    changes_run⟩

end Engine

end BillOfMaterials
