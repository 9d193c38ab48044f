import BillOfMaterials.Proofs.Engine.Calls

/-!
# The invariants of a reachable engine

Every call keeps the graph of an engine well formed (`run_wellFormed`), and on a well-formed
graph no call fails with an internal fault (`run_error`): the faults for broken references
that the reads and the edge manager carry are never raised. From a fresh engine, whose graph is
empty, a run of any calls therefore keeps `Engine.Invariant` (`fresh_runAll_invariant`), and
every reorder a replace makes along it is an allowed call on the part's children kept with an
index (`runAll_replace_reorder_allowed`).
-/

namespace BillOfMaterials

namespace Engine

open BillOfMaterials.Graph

theorem run_keeps {P : Graph → Prop}
    (hcreate : ∀ {g g' : Graph} {s s' : IdStream} {name : String} {id : PartId},
      P g → g.create s name = .ok (id, g', s') → P g')
    (hdelete : ∀ {g g' : Graph} {id : PartId}, P g → g.deleteCascade id = .ok g' → P g')
    (hupdate : ∀ {g g' : Graph} {id : PartId} {action : Action} {children : List PartId},
      P g → g.updateChildren id action children = .ok g' → P g')
    (hbuild : ∀ {s : Snapshot} {g : Graph}, s.build = .ok g → P g)
    {e : Engine} (h : P e.graph) (c : Command) : P (e.run c).2.graph := by
  cases c with
  | create name =>
    simp only [run_create, runEdit_step]
    split
    · rename_i hc
      obtain ⟨id, g, ids, hg, rfl⟩ := createPart_eq_ok hc
      simpa using hcreate h hg
    · exact h
  | delete id =>
    simp only [run_delete, runEdit_step]
    split
    · rename_i hd
      rw [bind_eq_ok] at hd
      obtain ⟨_, -, hd⟩ := hd
      obtain ⟨g, hg, rfl⟩ := deletePart_eq_ok hd
      simpa using hdelete h hg
    · exact h
  | update id action children =>
    simp only [run_update, runEdit_step]
    split
    · rename_i hu
      simp only [bind_eq_ok] at hu
      obtain ⟨_, -, _, -, hu⟩ := hu
      obtain ⟨g, hg, rfl⟩ := updateChildren_eq_ok hu
      simpa using hupdate h hg
    · exact h
  | restore specs =>
    simp only [run_restore, runEdit_update]
    split
    · rename_i hr
      rw [bind_eq_ok] at hr
      obtain ⟨_, -, hr⟩ := hr
      obtain ⟨g, hg, rfl⟩ := restore_eq_ok hr
      exact hbuild hg
    · exact h
  | get | list | children | contained | descendants | snapshot | stats | check => exact h

theorem runAll_keeps {Q : Engine → Prop} (hrun : ∀ e c, Q e → Q (e.run c).2) :
    ∀ {e : Engine} (cs : List Command), Q e → Q (e.runAll cs).2
  | _, [], h => h
  | e, c :: cs, h => runAll_keeps hrun cs (hrun e c h)

/-- Every call keeps the graph of an engine well formed. -/
theorem run_wellFormed {e : Engine} (h : e.graph.WellFormed) (c : Command) :
    (e.run c).2.graph.WellFormed :=
  run_keeps (fun h hc => h.create hc) (fun h hd => h.deleteCascade hd)
    (fun h hu => h.updateChildren hu) Snapshot.build_wellFormed h c

theorem run_nil_not_mem {e : Engine} (h : PartId.nil ∉ e.graph.ids) (c : Command) :
    PartId.nil ∉ (e.run c).2.graph.ids := by
  refine run_keeps (P := fun g => PartId.nil ∉ g.ids) (fun h hc => ?_)
    (fun h hd => ?_) (fun h hu => ?_) (fun hb => (Snapshot.build_ids hb).2) h c
  · rw [create_ids hc, List.mem_append, List.mem_singleton]
    rintro (hin | e)
    · exact h hin
    · exact (drawFresh_eq_some (create_eq_ok.1 hc).2.2.1).1 e.symm
  · rw [deleteCascade_ids hd]
    exact fun hin => h (List.mem_filter.1 hin).1
  · rw [updateChildren_ids hu]
    exact h

/-- On a well-formed graph no call fails with an internal fault. -/
theorem run_error {e : Engine} (h : e.graph.WellFormed) (c : Command) {f : Fault}
    (hr : (e.run c).1 = .error f) : f.isKind .internal = false := by
  cases c with
  | create name =>
    simp only [run_create, runEdit_step] at hr
    split at hr
    · cases hr
    · rename_i hc
      cases hr
      exact createPart_error hc
  | get id =>
    simp only [run, bind_eq_error] at hr
    rcases hr with hr | ⟨_, -, hr | ⟨_, -, hr⟩⟩
    · exact PartId.read_error hr
    · rw [get_error hr]
      rfl
    · simp at hr
  | delete id =>
    simp only [run_delete, runEdit_step] at hr
    split at hr
    · cases hr
    · rename_i hd
      cases hr
      rw [bind_eq_error] at hd
      rcases hd with hd | ⟨_, -, hd⟩
      · exact PartId.read_error hd
      · exact deletePart_error h.toConsistent hd
  | update id action children =>
    simp only [run_update, runEdit_step] at hr
    split at hr
    · cases hr
    · rename_i hu
      cases hr
      simp only [bind_eq_error] at hu
      rcases hu with hu | ⟨_, -, hu | ⟨_, -, hu⟩⟩
      · exact PartId.read_error hu
      · obtain ⟨x, -, hx⟩ := mapM_eq_error hu
        exact PartId.read_error hx
      · exact updateChildren_error h.toConsistent hu
  | list flt => simp [run] at hr
  | children id flt =>
    simp only [run, bind_eq_error] at hr
    rcases hr with hr | ⟨_, -, hr | ⟨_, -, hr⟩⟩
    · exact PartId.read_error hr
    · exact h.listChildren_error hr
    · simp at hr
  | contained id =>
    simp only [run, bind_eq_error] at hr
    rcases hr with hr | ⟨_, -, hr | ⟨_, -, hr⟩⟩
    · exact PartId.read_error hr
    · exact contained_error h.toConsistent hr
    · simp at hr
  | descendants id flt =>
    simp only [run, bind_eq_error] at hr
    rcases hr with hr | ⟨_, -, hr | ⟨_, -, hr⟩⟩
    · exact PartId.read_error hr
    · exact listDescendants_error h.toConsistent hr
    · simp at hr
  | snapshot => simp [run] at hr
  | restore specs =>
    simp only [run_restore, runEdit_update] at hr
    split at hr
    · cases hr
    · rename_i hs
      cases hr
      rw [bind_eq_error] at hs
      rcases hs with hs | ⟨_, -, hs⟩
      · exact PartSpec.read_error hs
      · exact restore_error hs
  | stats => simp [run] at hr
  | check =>
    simp only [run, checkInvariants, h.checkInvariants_eq_ok] at hr
    simp at hr

/-- What holds of every engine that calls reach from a fresh one: its graph is well formed, a
part is found by its id or by its name exactly, the invariant check passes, and no call fails
with an internal fault. -/
structure Invariant (e : Engine) : Prop where
  wellFormed : e.graph.WellFormed
  find?_eq_some_iff : ∀ id n, e.graph.find? id = some n ↔ n ∈ e.graph.nodes ∧ n.id = id
  findName?_eq_some_iff :
    ∀ name n, e.graph.findName? name = some n ↔ n ∈ e.graph.nodes ∧ n.name = name
  checkInvariants_eq_ok : e.checkInvariants = .ok ()
  run_not_internal : ∀ c f, (e.run c).1 = .error f → f.isKind .internal = false

theorem Invariant.of_wellFormed {e : Engine} (h : e.graph.WellFormed) : e.Invariant where
  wellFormed := h
  find?_eq_some_iff _ _ := h.find?_eq_some_iff
  findName?_eq_some_iff _ _ := h.findName?_eq_some_iff
  checkInvariants_eq_ok := h.checkInvariants_eq_ok
  run_not_internal c _ := run_error h c

/-- A run of calls from an engine with a well-formed graph: no call fails with an internal fault,
and the engine it ends with keeps the invariant. The induction is on the calls, each step by
`run_wellFormed`. -/
theorem runAll_invariant {e : Engine} (h : e.graph.WellFormed) (cs : List Command) :
    (∀ r ∈ (e.runAll cs).1, ∀ f, r = .error f → f.isKind .internal = false) ∧
      (e.runAll cs).2.Invariant := by
  induction cs generalizing e with
  | nil => exact ⟨by simp [runAll], Invariant.of_wellFormed h⟩
  | cons c cs ih =>
    obtain ⟨hrest, hinv⟩ := ih (run_wellFormed h c)
    refine ⟨fun r hr f hf => ?_, hinv⟩
    simp only [runAll, List.mem_cons] at hr
    rcases hr with rfl | hr
    · exact run_error h c hf
    · exact hrest r hr f hf

theorem runAll_fresh_wellFormed (ids : IdStream) (cs : List Command) :
    ((fresh ids).runAll cs).2.graph.WellFormed ∧ PartId.nil ∉ ((fresh ids).runAll cs).2.graph.ids :=
  ⟨(runAll_invariant wellFormed_empty cs).2.wellFormed,
    runAll_keeps (Q := fun e => PartId.nil ∉ e.graph.ids) (fun _ c h => run_nil_not_mem h c) cs
      List.not_mem_nil⟩

/-- On the graph of an engine that calls reached from a fresh one, a replace reorders a part's
children only once they are exactly the requested ids: kept with an index, the children take
the reorder as an allowed call, and links and unlinks add and remove, which are always allowed;
so along every run the index stays in step with the order (`IdSet.Indexed.WellFormed.run`). -/
theorem runAll_replace_reorder_allowed (ids : IdStream) (cs : List Command) {id : PartId}
    {childIds : List PartId} {g' : Graph}
    (hu : ((fresh ids).runAll cs).2.graph.updateChildren id .replace childIds = .ok g') :
    ∃ g1 : Graph,
      g' = g1.modify id (fun n => { n with children := n.children.reorder (dedupe childIds) }) ∧
      ∀ m ∈ g1.nodes, m.id = id →
        (IdSet.Indexed.ofIdSet m.children).Allowed (.reorder (dedupe childIds)) ∧
          ((IdSet.Indexed.ofIdSet m.children).reorder (dedupe childIds)).WellFormed :=
  (runAll_fresh_wellFormed ids cs).1.updateChildren_reorder_allowed hu

/-- Every sequence of calls from a fresh engine: no call fails with an internal fault, and the
engine it reaches keeps every invariant of the graph. -/
theorem fresh_runAll_invariant (ids : IdStream) (cs : List Command) :
    (∀ r ∈ ((fresh ids).runAll cs).1, ∀ f, r = .error f → f.isKind .internal = false) ∧
      ((fresh ids).runAll cs).2.Invariant :=
  runAll_invariant wellFormed_empty cs

end Engine

end BillOfMaterials
