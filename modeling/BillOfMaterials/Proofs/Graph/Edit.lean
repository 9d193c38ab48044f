import BillOfMaterials.Graph.Edit
import BillOfMaterials.Proofs.Graph.Operations

/-!
# Edits that fail change nothing

The edge manager writes in place: a fault raised after its first link or unlink would leave half
a change behind. Every fault of an update of children, of a cascade and of a create is raised
before the first write, and the last write of a cascade, the record delete, cannot fail: each of
these edits is the atomic update of its operation (`Graph.editChildren_eq_update`,
`Graph.editCascade_eq_update`, `Graph.editCreate_eq_step`), and an atomic update that fails writes
nothing (`Edit.Atomic`).

* `Edit.run_bind_ok`, `Edit.run_bind_error`, `Edit.run_read_ok`, ... : one step of an edit;
* `Edit.forM_read`, `Edit.forM_write` : reads in a row are one read, writes in a row one write;
  `Edit.read_bind_step`, `Edit.read_bind_update` : a read before a step or an update is part of
  it, an update being a step with no answer (`Edit.update_eq_step`);
* `Edit.Atomic` : an edit that stops at a fault leaves the state as it was; an update is atomic,
  and so is an atomic edit behind a read (`Atomic.read_bind`) or run on part of a state
  (`Atomic.focus`).
-/

namespace BillOfMaterials

namespace Edit

variable {σ τ α β : Type}

/-! ## One step -/

theorem run_bind_ok {m : Edit σ α} {s s' : σ} {a : α} (h : m.run s = .ok a s') (k : α → Edit σ β) :
    (m >>= k).run s = (k a).run s' := by
  simp only [EStateM.run] at h ⊢
  show EStateM.bind m k s = _
  unfold EStateM.bind
  rw [h]

theorem run_bind_error {m : Edit σ α} {s s' : σ} {e : Fault} (h : m.run s = .error e s')
    (k : α → Edit σ β) : (m >>= k).run s = .error e s' := by
  simp only [EStateM.run] at h ⊢
  show EStateM.bind m k s = _
  unfold EStateM.bind
  rw [h]

theorem run_read_ok {f : σ → Except Fault α} {s : σ} {a : α} (h : f s = .ok a) :
    (read f).run s = .ok a s := by
  simp [read, EStateM.run, h]

theorem run_read_error {f : σ → Except Fault α} {s : σ} {e : Fault} (h : f s = .error e) :
    (read f).run s = .error e s := by
  simp [read, EStateM.run, h]

theorem run_write (f : σ → σ) (s : σ) : (write f).run s = .ok () (f s) := rfl

theorem run_step_ok {f : σ → Except Fault (α × σ)} {s s' : σ} {a : α} (h : f s = .ok (a, s')) :
    (step f).run s = .ok a s' := by
  simp [step, EStateM.run, h]

theorem run_step_error {f : σ → Except Fault (α × σ)} {s : σ} {e : Fault} (h : f s = .error e) :
    (step f).run s = .error e s := by
  simp [step, EStateM.run, h]

/-- An update is a step with no answer. -/
theorem update_eq_step (f : σ → Except Fault σ) :
    update f = step fun s => (f s).map fun s' => ((), s') := by
  funext s
  simp only [update, step]
  cases f s <;> rfl

theorem run_update_ok {f : σ → Except Fault σ} {s s' : σ} (h : f s = .ok s') :
    (update f).run s = .ok () s' := by
  rw [update_eq_step]
  exact run_step_ok (by rw [h]; rfl)

theorem run_update_error {f : σ → Except Fault σ} {s : σ} {e : Fault} (h : f s = .error e) :
    (update f).run s = .error e s := by
  rw [update_eq_step]
  exact run_step_error (by rw [h]; rfl)

section Focus

variable {get : σ → τ} {set : σ → τ → σ} {m : Edit τ α} {s : σ} {t : τ}

theorem run_focus_ok {a : α} (h : m.run (get s) = .ok a t) :
    (focus get set m).run s = .ok a (set s t) := by
  simp only [focus, EStateM.run] at h ⊢
  rw [h]

theorem run_focus_error {e : Fault} (h : m.run (get s) = .error e t) :
    (focus get set m).run s = .error e (set s t) := by
  simp only [focus, EStateM.run] at h ⊢
  rw [h]

end Focus

/-! ## Reads and writes in a row -/

theorem forM_read (R : β → σ → Except Fault Unit) :
    ∀ l : List β, (l.forM fun x => read (R x)) = read fun s => l.forM fun x => R x s
  | [] => rfl
  | x :: l => by
    funext s
    show ((read (R x)) >>= fun _ => l.forM fun x => read (R x)).run s = (read _).run s
    cases hx : R x s with
    | error e =>
      rw [run_bind_error (run_read_error hx), run_read_error (by simp only [List.forM, hx]; rfl)]
    | ok u =>
      rw [run_bind_ok (run_read_ok hx), forM_read R l]
      cases hl : l.forM fun x => R x s with
      | error e =>
        rw [run_read_error (f := fun s => l.forM fun x => R x s) hl,
          run_read_error (by simp only [List.forM, hx]; exact hl)]
      | ok v =>
        rw [run_read_ok (f := fun s => l.forM fun x => R x s) hl,
          run_read_ok (by simp only [List.forM, hx]; exact hl)]

theorem forM_write (F : β → σ → σ) :
    ∀ l : List β, (l.forM fun x => write (F x)) = write fun s => l.foldl (fun s x => F x s) s
  | [] => rfl
  | x :: l => by
    funext s
    show ((write (F x)) >>= fun _ => l.forM fun x => write (F x)).run s = _
    rw [run_bind_ok (run_write _ _), forM_write F l]
    rfl

theorem write_bind_write (f g : σ → σ) :
    (write f >>= fun _ => write g) = write fun s => g (f s) := rfl

theorem ite_write (b : Bool) (f : σ → σ) :
    (if b then write f else pure ()) = write fun s => if b then f s else s := by
  cases b <;> rfl

theorem throw_bind (e : Fault) (k : α → Edit σ β) : (throw e >>= k) = throw e := rfl

/-! ## Updates -/

theorem write_eq_update (f : σ → σ) : write f = update fun s => .ok (f s) := rfl

theorem throw_eq_update (e : Fault) : (throw e : Edit σ Unit) = update fun _ => .error e := rfl

theorem ite_update (p : Prop) [Decidable p] (f g : σ → Except Fault σ) :
    (if p then update f else update g) = update fun s => if p then f s else g s := by
  by_cases hp : p <;> simp [hp]

/-- A read before a step is part of the step: it writes nothing, and when it fails the step has
not begun. -/
theorem read_bind_step (f : σ → Except Fault α) (k : α → σ → Except Fault (β × σ)) :
    (read f >>= fun a => step (k a)) = step fun s => f s >>= fun a => k a s := by
  funext s
  show (read f >>= fun a => step (k a)).run s = (step _).run s
  cases hf : f s with
  | error e =>
    rw [run_bind_error (run_read_error hf), run_step_error (by rw [hf]; rfl)]
  | ok a =>
    rw [run_bind_ok (run_read_ok hf)]
    cases hk : k a s with
    | error e => rw [run_step_error hk, run_step_error (by rw [hf]; exact hk)]
    | ok r => rw [run_step_ok hk, run_step_ok (by rw [hf]; exact hk)]

theorem read_bind_update (f : σ → Except Fault α) (k : α → σ → Except Fault σ) :
    (read f >>= fun a => update (k a)) = update fun s => f s >>= fun a => k a s := by
  simp only [update_eq_step, read_bind_step]
  congr 1
  funext s
  cases f s <;> rfl

/-! ## Atomic edits -/

/-- An edit that stops at a fault leaves the state as it was. -/
def Atomic (m : Edit σ α) : Prop := ∀ s e s', m.run s = .error e s' → s' = s

theorem atomic_step (f : σ → Except Fault (α × σ)) : (step f).Atomic := by
  intro s e s' h
  cases hf : f s with
  | ok r => rw [run_step_ok hf] at h; cases h
  | error e' =>
    rw [run_step_error hf] at h
    cases h
    rfl

theorem atomic_update (f : σ → Except Fault σ) : (update f).Atomic :=
  update_eq_step f ▸ atomic_step _

theorem Atomic.read_bind {f : σ → Except Fault α} {k : α → Edit σ β} (h : ∀ a, (k a).Atomic) :
    (read f >>= k).Atomic := by
  intro s e s' hr
  cases hf : f s with
  | error e' =>
    rw [run_bind_error (run_read_error hf)] at hr
    cases hr
    rfl
  | ok a =>
    rw [run_bind_ok (run_read_ok hf)] at hr
    exact h a s e s' hr

/-- An atomic edit of part of a state is atomic when writing back what was read changes
nothing. -/
theorem Atomic.focus {get : σ → τ} {set : σ → τ → σ} {m : Edit τ α} (h : m.Atomic)
    (hset : ∀ s, set s (get s) = s) : (focus get set m).Atomic := by
  intro s e s' hr
  cases hm : m.run (get s) with
  | ok a t => rw [run_focus_ok hm] at hr; cases hr
  | error e' t =>
    rw [run_focus_error hm] at hr
    cases hr
    rw [h _ _ _ hm, hset]

end Edit

namespace Graph

/-- An update of children in place does what `updateChildren` computes, and when that fails it
has not written: every lookup and check comes before the first link or unlink. -/
theorem editChildren_eq_update (id : PartId) (action : Action) (childIds : List PartId) :
    editChildren id action childIds = Edit.update (·.updateChildren id action childIds) := by
  cases action <;>
  · simp only [editChildren, Edit.forM_read, Edit.forM_write, Edit.ite_write, Edit.throw_bind,
      Edit.write_bind_write]
    simp only [Edit.write_eq_update, Edit.throw_eq_update, Edit.ite_update, Edit.read_bind_update]
    rfl

/-- A cascade in place does what `deleteCascade` computes: its lookups come before the first
unlink, and the record delete after the unlinks finds the part. -/
theorem editCascade_eq_update (id : PartId) :
    editCascade id = Edit.update (·.deleteCascade id) := by
  funext g
  show (editCascade id).run g = (Edit.update _).run g
  simp only [editCascade, editDelete, Edit.forM_write]
  cases hn : g.lookup id with
  | error e =>
    rw [Edit.run_bind_error (Edit.run_read_error (s := g) hn),
      Edit.run_update_error (s := g) (e := e) (by simp [deleteCascade, hn])]
  | ok n =>
    rw [Edit.run_bind_ok (Edit.run_read_ok (s := g) hn)]
    cases hp : g.checkLive "dangling parent reference" n.parents.toList with
    | error e =>
      rw [Edit.run_bind_error (Edit.run_read_error (s := g) hp),
        Edit.run_update_error (s := g) (e := e) (by simp [deleteCascade, hn, hp])]
    | ok u =>
      rw [Edit.run_bind_ok (Edit.run_read_ok (s := g) hp)]
      cases hc : g.checkLive "dangling child reference" n.children.toList with
      | error e =>
        rw [Edit.run_bind_error (Edit.run_read_error (s := g) hc),
          Edit.run_update_error (s := g) (e := e) (by simp [deleteCascade, hn, hp, hc])]
      | ok v =>
        obtain ⟨g', hd⟩ := delete_foldl_unlink (mem_ids_of_lookup hn) n
        have hcascade : g.deleteCascade id = .ok g' := by simp [deleteCascade, hn, hp, hc, hd]
        rw [Edit.run_bind_ok (Edit.run_read_ok (s := g) hc), Edit.run_bind_ok (Edit.run_write _ _),
          Edit.run_bind_ok (Edit.run_write _ _), Edit.run_update_ok hd,
          Edit.run_update_ok (s := g) hcascade]

/-- A create in place does what `create` computes, and when that fails it has drawn no id. -/
theorem editCreate_eq_step (name : String) :
    editCreate name = Edit.step fun gs => gs.1.create gs.2 name := by
  simp only [editCreate, Edit.read_bind_step]
  congr 1
  funext gs
  unfold create
  cases Text.isBlank name <;> cases gs.1.names.lookup name <;> rfl

theorem editChildren_atomic (id : PartId) (action : Action) (childIds : List PartId) :
    (editChildren id action childIds).Atomic := by
  rw [editChildren_eq_update]
  exact Edit.atomic_update _

theorem editCascade_atomic (id : PartId) : (editCascade id).Atomic := by
  rw [editCascade_eq_update]
  exact Edit.atomic_update _

theorem editCreate_atomic (name : String) : (editCreate name).Atomic := by
  rw [editCreate_eq_step]
  exact Edit.atomic_step _

end Graph

end BillOfMaterials
