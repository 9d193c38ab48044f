import BillOfMaterials.Seed.Sample
import BillOfMaterials.Proofs.Engine.Create
import BillOfMaterials.Proofs.Graph.Accept

/-!
# What seeding builds

`seed_answer`: seeding a fresh engine with a list of assemblies succeeds exactly when the
assemblies can be seeded (`Assembly.Seedable`: no blank name, and no name below itself through
the children listed, a name listing itself included), and then the graph is the one the list
describes. Assemblies are linked one at a time, so this rests on the cycle check of each update
being exact on the graph built so far.

* first occurrences: `List.eraseDups` of an append (`eraseDups_append_eq`), under a map that is
  one-to-one (`eraseDups_map`), and `dedupe` is `eraseDups`;
* `Assembly.layout`: the parts a list of assemblies calls for, read by name, and
  `Graph.shape` the parts a graph has, read the same way;
* `Seeding.Holds`: the invariant of a run, a well-formed graph whose shape is the layout of
  the assemblies built and the names met; one lemma per step keeps it (`Holds.ensure_ok`,
  `Holds.ensureAll_ok`, `Holds.link`, `Holds.built`) and one per step says it succeeds
  (`Holds.ensure_progress`, `Holds.ensureAll_progress`, `Holds.link_progress`);
* `Holds.build_ok`, `Holds.build_progress`: by induction on the assemblies left, a run that
  succeeds keeps the invariant, and a run over seedable assemblies succeeds;
* `Holds.seedable`: the invariant holds of seedable assemblies only.

The ids come from a stream with a period of 2^48, so success needs no more distinct names than
that.
-/

namespace BillOfMaterials

/-! ## First occurrences -/

theorem mem_map_iff_of_injOn {α β : Type} (f : α → β) {k l : List α}
    (hf : ∀ a ∈ k, ∀ b ∈ k, f a = f b → a = b) {x : α} (hx : x ∈ k) (hl : ∀ y ∈ l, y ∈ k) :
    f x ∈ l.map f ↔ x ∈ l := by
  constructor
  · intro hfx
    obtain ⟨y, hy, hxy⟩ := List.mem_map.1 hfx
    rwa [← hf y (hl y hy) x hx hxy]
  · exact List.mem_map_of_mem

section FirstOccurrences

variable {α β : Type} [BEq α] [LawfulBEq α] [BEq β] [LawfulBEq β]

theorem eraseDups_append_singleton (l : List α) (x : α) :
    (l ++ [x]).eraseDups = if x ∈ l then l.eraseDups else l.eraseDups ++ [x] := by
  rw [List.eraseDups_append]
  by_cases hx : x ∈ l
  · simp [hx, List.removeAll]
  · simp [hx, List.removeAll, List.eraseDups_cons]

theorem eraseDups_filter (p : α → Bool) (l : List α) :
    (l.filter p).eraseDups = l.eraseDups.filter p := by
  induction l using List.reverseRecOn with
  | nil => simp
  | append_singleton l x ih =>
    rw [List.filter_append, eraseDups_append_singleton]
    by_cases hp : p x
    · have hmem : x ∈ l.filter p ↔ x ∈ l := by simp [hp]
      simp only [List.filter_cons, hp, if_true, List.filter_nil]
      rw [eraseDups_append_singleton]
      by_cases hx : x ∈ l
      · rw [if_pos (hmem.2 hx), if_pos hx, ih]
      · rw [if_neg (mt hmem.1 hx), if_neg hx, ih, List.filter_append]
        simp [hp]
    · simp only [List.filter_cons, hp, Bool.false_eq_true, if_false, List.filter_nil,
        List.append_nil, ih]
      split <;> simp [hp]

/-- Repeats dropped from two lists in a row: those of the first, then the new members of the
second. -/
theorem eraseDups_append_eq (l m : List α) :
    (l ++ m).eraseDups = l.eraseDups ++ m.eraseDups.filter fun x => x ∉ l := by
  rw [List.eraseDups_append, List.removeAll, eraseDups_filter]
  congr 1
  apply List.filter_congr
  intro x _
  simp

theorem length_eraseDups_le_append (l m : List α) :
    l.eraseDups.length ≤ (l ++ m).eraseDups.length := by
  rw [eraseDups_append_eq, List.length_append]
  omega

theorem eraseDups_map (f : α → β) {l : List α} (hf : ∀ a ∈ l, ∀ b ∈ l, f a = f b → a = b) :
    (l.map f).eraseDups = l.eraseDups.map f := by
  induction l using List.reverseRecOn with
  | nil => simp
  | append_singleton l x ih =>
    have ih := ih fun a ha b hb => hf a (by simp [ha]) b (by simp [hb])
    have hmem : f x ∈ l.map f ↔ x ∈ l :=
      mem_map_iff_of_injOn f hf (by simp) fun y hy => by simp [hy]
    rw [List.map_append, List.map_singleton, eraseDups_append_singleton,
      eraseDups_append_singleton]
    by_cases hx : x ∈ l
    · rw [if_pos (hmem.2 hx), if_pos hx, ih]
    · rw [if_neg (mt hmem.1 hx), if_neg hx, ih, List.map_append, List.map_singleton]

theorem map_filter_not_mem (f : α → β) {l m : List α}
    (hf : ∀ a ∈ l ++ m, ∀ b ∈ l ++ m, f a = f b → a = b) :
    (l.filter fun x => x ∉ m).map f = (l.map f).filter fun y => y ∉ m.map f := by
  rw [List.filter_map]
  congr 1
  refine List.filter_congr fun x hx => ?_
  have hmem : f x ∈ m.map f ↔ x ∈ m :=
    mem_map_iff_of_injOn f hf (by simp [hx]) fun y hy => by simp [hy]
  simp [hmem]

end FirstOccurrences

theorem dedupe_eq_eraseDups (l : List PartId) : dedupe l = l.eraseDups := by
  induction l using List.reverseRecOn with
  | nil => rfl
  | append_singleton l x ih =>
    rw [dedupe_append_singleton, eraseDups_append_singleton, ih]

namespace Assembly

/-- Every name a list of assemblies mentions, in the order seeding meets them: each assembly's
name, then the names of its children. -/
def mentions (entries : List Assembly) : List String :=
  entries.flatMap fun a => a.name :: a.children

/-- The names listed as children of `name`, by every assembly of that name in turn. -/
def childrenOf (entries : List Assembly) (name : String) : List String :=
  (entries.filter (·.name == name)).flatMap (·.children)

/-- Some assembly named `a` lists `b` among its children. -/
def Lists (entries : List Assembly) (a b : String) : Prop :=
  ∃ x ∈ entries, x.name = a ∧ b ∈ x.children

/-- Assemblies that can be seeded: every name they mention is not blank, and no name lies below
itself through the children they list, a name listing itself included. -/
structure Seedable (entries : List Assembly) : Prop where
  nonblank : ∀ x ∈ mentions entries, Text.isBlank x = false
  acyclic : ∀ x, ¬ Relation.TransGen (Lists entries) x x

/-- The parts seeding is to build, having met the names `ms`: one per name, in the order the
names were first met, each with the names its assemblies list as children, repeats dropped. -/
def layout (entries : List Assembly) (ms : List String) : List (String × List (Option String)) :=
  ms.eraseDups.map fun x => (x, (childrenOf entries x).eraseDups.map some)

@[simp] theorem mentions_nil : mentions [] = [] := rfl

theorem mentions_cons (a : Assembly) (rest : List Assembly) :
    mentions (a :: rest) = a.name :: a.children ++ mentions rest := by
  simp [mentions]

theorem mentions_append_singleton (entries : List Assembly) (a : Assembly) :
    mentions (entries ++ [a]) = mentions entries ++ a.name :: a.children := by
  simp [mentions]

theorem childrenOf_append_singleton (entries : List Assembly) (a : Assembly) (x : String) :
    childrenOf (entries ++ [a]) x =
      childrenOf entries x ++ if a.name = x then a.children else [] := by
  by_cases hx : a.name = x <;> simp [childrenOf, hx]

theorem mem_childrenOf {entries : List Assembly} {x y : String} :
    y ∈ childrenOf entries x ↔ Lists entries x y := by
  simp [childrenOf, Lists, and_assoc]

theorem childrenOf_eq_nil {entries : List Assembly} {x : String} (hx : x ∉ mentions entries) :
    childrenOf entries x = [] := by
  simp only [childrenOf, List.flatMap_eq_nil_iff, List.mem_filter, beq_iff_eq, and_imp]
  intro a ha hax
  exact absurd (List.mem_flatMap.2 ⟨a, ha, hax ▸ List.mem_cons_self⟩) hx

theorem lists_append_singleton {entries : List Assembly} {a : Assembly} {x y : String} :
    Lists (entries ++ [a]) x y ↔ Lists entries x y ∨ a.name = x ∧ y ∈ a.children := by
  simp only [Lists, List.mem_append, List.mem_singleton]
  constructor
  · rintro ⟨b, hb | rfl, hbx, hy⟩
    · exact .inl ⟨b, hb, hbx, hy⟩
    · exact .inr ⟨hbx, hy⟩
  · rintro (⟨b, hb, hbx, hy⟩ | ⟨hax, hy⟩)
    · exact ⟨b, .inl hb, hbx, hy⟩
    · exact ⟨a, .inr rfl, hax, hy⟩

theorem Lists.mono {entries more : List Assembly} {x y : String} (h : Lists entries x y) :
    Lists (entries ++ more) x y := by
  obtain ⟨b, hb, hbx, hy⟩ := h
  exact ⟨b, List.mem_append_left _ hb, hbx, hy⟩

theorem Seedable.of_append {entries more : List Assembly} (h : Seedable (entries ++ more)) :
    Seedable entries where
  nonblank x hx := h.nonblank x (by simp only [mentions, List.flatMap_append] at hx ⊢; simp [hx])
  acyclic x hx := h.acyclic x (Relation.TransGen.mono (fun _ _ hab => Lists.mono hab) x x hx)

end Assembly

namespace Graph

/-- The name of a part, when it is live. -/
def nameOf? (g : Graph) (id : PartId) : Option String := (g.find? id).map (·.name)

/-- Each part's name with the names of its children, in the order the parts entered. -/
def shape (g : Graph) : List (String × List (Option String)) :=
  g.nodes.map fun n => (n.name, n.children.toList.map g.nameOf?)

section Names

variable {g : Graph}

theorem Consistent.nameOf?_eq_some (h : g.Consistent) {id : PartId} {x : String} :
    g.nameOf? id = some x ↔ ∃ n ∈ g.nodes, n.id = id ∧ n.name = x := by
  simp only [nameOf?, Option.map_eq_some_iff, h.find?_eq_some_iff, and_assoc]

theorem nameOf?_of_mem {id : PartId} (hid : id ∈ g.ids) : ∃ x, g.nameOf? id = some x := by
  obtain ⟨n, hn⟩ := lookup_of_mem hid
  exact ⟨n.name, by simp [nameOf?, lookup_eq_ok.1 hn]⟩

theorem mem_of_nameOf? {id : PartId} {x : String} (h : g.nameOf? id = some x) : id ∈ g.ids := by
  obtain ⟨n, hn, -⟩ := Option.map_eq_some_iff.1 h
  obtain ⟨hnm, rfl⟩ := find?_eq_some hn
  exact mem_ids.2 ⟨n, hnm, rfl⟩

theorem exists_of_map_nameOf? {ids : List PartId} {xs : List String}
    (h : ids.map g.nameOf? = xs.map some) {c : PartId} (hc : c ∈ ids) :
    ∃ y ∈ xs, g.nameOf? c = some y := by
  obtain ⟨y, hy, hcy⟩ := List.mem_map.1 (h ▸ List.mem_map_of_mem hc : g.nameOf? c ∈ xs.map some)
  exact ⟨y, hy, hcy.symm⟩

theorem Consistent.eq_of_nameOf? (h : g.Consistent) {c c' : PartId} {x : String}
    (hc : g.nameOf? c = some x) (hc' : g.nameOf? c' = some x) : c = c' := by
  obtain ⟨n, hn, rfl, rfl⟩ := h.nameOf?_eq_some.1 hc
  obtain ⟨m, hm, rfl, hname⟩ := h.nameOf?_eq_some.1 hc'
  rw [List.inj_on_of_nodup_map h.names_nodup hn hm hname.symm]

theorem Consistent.nameOf?_inj (h : g.Consistent) {c c' : PartId} (hc : c ∈ g.ids)
    (he : g.nameOf? c = g.nameOf? c') : c = c' := by
  obtain ⟨x, hx⟩ := nameOf?_of_mem hc
  exact h.eq_of_nameOf? hx (he ▸ hx)

theorem nameOf?_insert_of_mem {id c : PartId} {name : String} (hc : c ∈ g.ids) :
    (g.insert id name).nameOf? c = g.nameOf? c := by
  obtain ⟨n, hn⟩ := lookup_of_mem hc
  have hf : g.nodes.find? (·.id == c) = some n := lookup_eq_ok.1 hn
  simp [nameOf?, find?, insert_nodes, List.find?_append, hf]

theorem nameOf?_insert_self {id : PartId} {name : String} (hid : id ∉ g.ids) :
    (g.insert id name).nameOf? id = some name := by
  have hf : g.nodes.find? (·.id == id) = none := find?_eq_none.2 hid
  simp [nameOf?, find?, insert_nodes, List.find?_append, hf]

theorem nameOf?_of_map_nodes {g' : Graph} {f : Node → Node} (h : g'.nodes = g.nodes.map f)
    (hf : ∀ n, (f n).id = n.id) (hname : ∀ n, (f n).name = n.name) : g'.nameOf? = g.nameOf? := by
  funext q
  simp only [nameOf?, find?_map_nodes h hf q, Option.map_map]
  congr 1
  funext n
  simp [hname]

theorem Consistent.shape_insert (h : g.Consistent) (id : PartId) (name : String) :
    (g.insert id name).shape = g.shape ++ [(name, [])] := by
  simp only [shape, insert_nodes, List.map_append, List.map_singleton]
  congr 1
  refine List.map_congr_left fun n hn => ?_
  congr 1
  exact List.map_congr_left fun c hc => nameOf?_insert_of_mem (h.children_live n hn c hc)

theorem WellFormed.shape_updateChildren (h : g.WellFormed) {g' : Graph} {id : PartId}
    {action : Action} {childIds : List PartId} (hu : g.updateChildren id action childIds = .ok g') :
    g'.shape = g.nodes.map fun n => (n.name,
      (if n.id = id then action.apply (g.childrenOf id) (dedupe childIds)
        else n.children.toList).map g.nameOf?) := by
  have hnodes := updateChildren_nodes h hu
  rw [shape, nameOf?_of_map_nodes hnodes (fun _ => rfl) (fun _ => rfl), hnodes, List.map_map]
  refine List.map_congr_left fun n _ => ?_
  by_cases hn : n.id = id <;> simp [Node.relink, hn]

end Names

end Graph

theorem Engine.updateLogged_fst (e : Engine) (logger : Logger) (id : PartId) (action : Action)
    (children : List PartId) :
    (e.updateLogged logger id action children).1 = e.updateChildren id action children := by
  unfold Engine.updateLogged
  split <;> simp_all

namespace Seeding

open BillOfMaterials.Graph BillOfMaterials.Assembly

/-- What a seeding run keeps, having built the assemblies `done` and met the names `ms`: a
well-formed graph; the parts made by name are exactly its parts; and they are the parts those
names and assemblies call for (`Assembly.layout`). -/
structure Holds (done : List Assembly) (ms : List String) (s : Seeding) : Prop where
  wf : s.engine.graph.WellFormed
  made : s.made = s.engine.graph.nodes.map fun n => (n.name, n.id)
  shape : s.engine.graph.shape = layout done ms
  covers : ∀ x ∈ mentions done, x ∈ ms

theorem holds_start : Holds [] [] ({ engine := {} } : Seeding) where
  wf := wellFormed_empty
  made := rfl
  shape := rfl
  covers := by simp

theorem lookup_made (l : List Node) (x : String) :
    (l.map fun n => (n.name, n.id)).lookup x = (l.find? (·.name == x)).map (·.id) := by
  induction l with
  | nil => rfl
  | cons n l ih =>
    by_cases hx : x = n.name
    · subst hx
      simp
    · have hx' : (n.name == x) = false := by simpa using Ne.symm hx
      have hxn : (x == n.name) = false := by simpa using hx
      simp [List.lookup, hxn, hx', ih]

section Holds

variable {done : List Assembly} {ms : List String} {s : Seeding}

theorem Holds.names (h : Holds done ms s) :
    s.engine.graph.nodes.map (·.name) = ms.eraseDups := by
  have := congrArg (List.map Prod.fst) h.shape
  simpa [Graph.shape, layout, List.map_map, Function.comp_def] using this

theorem Holds.mem_names (h : Holds done ms s) {x : String} :
    (∃ n ∈ s.engine.graph.nodes, n.name = x) ↔ x ∈ ms := by
  rw [← List.mem_eraseDups, ← h.names, List.mem_map]

theorem Holds.size (h : Holds done ms s) : s.engine.graph.size = ms.eraseDups.length := by
  rw [Graph.size, ← h.names, List.length_map]

theorem Holds.children (h : Holds done ms s) {n : Node} (hn : n ∈ s.engine.graph.nodes) :
    n.children.toList.map s.engine.graph.nameOf? = (childrenOf done n.name).eraseDups.map some := by
  have hmem : (n.name, n.children.toList.map s.engine.graph.nameOf?) ∈ layout done ms := by
    rw [← h.shape]
    exact List.mem_map_of_mem hn
  obtain ⟨x, -, hx⟩ := List.mem_map.1 hmem
  simp only [Prod.mk.injEq] at hx
  rw [← hx.2, hx.1]

theorem Holds.lookup_made (h : Holds done ms s) (x : String) :
    s.made.lookup x = (s.engine.graph.findName? x).map (·.id) := by
  rw [h.made, Seeding.lookup_made]
  rfl

theorem Holds.append_of_mem (h : Holds done ms s) {x : String} (hx : x ∈ ms) :
    Holds done (ms ++ [x]) s where
  wf := h.wf
  made := h.made
  shape := by rw [h.shape, layout, layout, eraseDups_append_singleton, if_pos hx]
  covers y hy := List.mem_append_left _ (h.covers y hy)

end Holds

/-! ## One name -/

section Ensure

variable {done : List Assembly} {ms : List String} {s : Seeding} {logger : Logger}

theorem Holds.ensure_of_mem (h : Holds done ms s) (logger : Logger) {x : String} (hx : x ∈ ms) :
    ∃ id, s.ensure logger x = (.ok id, s) ∧ s.engine.graph.nameOf? id = some x := by
  obtain ⟨n, hn, rfl⟩ := h.mem_names.2 hx
  have hfind : s.engine.graph.findName? n.name = some n :=
    h.wf.findName?_eq_some_iff.2 ⟨hn, rfl⟩
  refine ⟨n.id, ?_, h.wf.nameOf?_eq_some.2 ⟨n, hn, rfl, rfl⟩⟩
  simp [ensure, h.lookup_made, hfind]

theorem Holds.lookup_of_not_mem (h : Holds done ms s) {x : String} (hx : x ∉ ms) :
    s.made.lookup x = none := by
  have hfree : s.engine.graph.findName? x = none :=
    findName?_eq_none.2 fun n hn hname => hx (h.mem_names.1 ⟨n, hn, hname⟩)
  rw [h.lookup_made, hfree, Option.map_none]

theorem Holds.create (h : Holds done ms s) {x : String} (hx : x ∉ ms) {p : Part} {e : Engine}
    (hc : s.engine.createPart x = .ok (p, e)) (logs : List LogEntry) :
    Holds done (ms ++ [x]) { s with engine := e, made := s.made ++ [(x, p.id)], logs } ∧
      e.graph.nameOf? p.id = some x ∧
      ∀ c y, s.engine.graph.nameOf? c = some y → e.graph.nameOf? c = some y := by
  obtain ⟨-, -, -, -, hfree, -, -, hgraph⟩ := Engine.createPart_draws hc
  obtain ⟨id, g, ids, hcreate, he⟩ := Engine.createPart_eq_ok hc
  have hwf : e.graph.WellFormed := by
    rw [he, Engine.graph_changed]
    exact h.wf.create hcreate
  have hnil : childrenOf done x = [] := childrenOf_eq_nil fun hm => hx (h.covers x hm)
  refine ⟨⟨hwf, ?_, ?_, fun y hy => List.mem_append_left _ (h.covers y hy)⟩,
    hgraph ▸ nameOf?_insert_self hfree,
    fun c y hc => hgraph ▸ (nameOf?_insert_of_mem (mem_of_nameOf? hc)).trans hc⟩
  · simp [h.made, hgraph, insert_nodes]
  · rw [hgraph, h.wf.shape_insert, h.shape, layout, layout, eraseDups_append_singleton, if_neg hx,
      List.map_append, List.map_singleton, hnil]
    rfl

theorem Holds.ensure_ok (h : Holds done ms s) {x : String} {id : PartId} {s' : Seeding}
    (he : s.ensure logger x = (.ok id, s')) :
    Holds done (ms ++ [x]) s' ∧ s'.engine.graph.nameOf? id = some x ∧
      ∀ c y, s.engine.graph.nameOf? c = some y → s'.engine.graph.nameOf? c = some y := by
  by_cases hx : x ∈ ms
  · obtain ⟨id', he', hid'⟩ := h.ensure_of_mem logger hx
    rw [he'] at he
    simp only [Prod.mk.injEq, Except.ok.injEq] at he
    obtain ⟨rfl, rfl⟩ := he
    exact ⟨h.append_of_mem hx, hid', fun _ _ hc => hc⟩
  · unfold ensure at he
    rw [h.lookup_of_not_mem hx] at he
    cases hc : s.engine.createPart x with
    | error f => simp [Engine.createLogged, hc] at he
    | ok r =>
      obtain ⟨p, e⟩ := r
      simp only [Engine.createLogged, hc, Prod.mk.injEq, Except.ok.injEq] at he
      obtain ⟨rfl, rfl⟩ := he
      exact h.create hx hc _

/-- A name that is not blank gives a part, while the stream has ids to spare. -/
theorem Holds.ensure_progress (h : Holds done ms s) (logger : Logger) {x : String}
    (hx : Text.isBlank x = false)
    (hfit : (ms ++ [x]).eraseDups.length ≤ 0x1000000000000) :
    ∃ id s', s.ensure logger x = (.ok id, s') := by
  by_cases hmem : x ∈ ms
  · obtain ⟨id, he, -⟩ := h.ensure_of_mem logger hmem
    exact ⟨id, s, he⟩
  · have hsize : s.engine.graph.size < 0x1000000000000 := by
      rw [eraseDups_append_singleton, if_neg hmem, List.length_append] at hfit
      rw [h.size]
      simp at hfit
      omega
    obtain ⟨p, e, hc, -⟩ := (Engine.createPart_of_free h.wf.toConsistent hx
      fun n hn hname => hmem (h.mem_names.1 ⟨n, hn, hname⟩)).2 hsize
    refine ⟨p.id, ?_⟩
    unfold ensure
    rw [h.lookup_of_not_mem hmem]
    simp only [Engine.createLogged, hc]
    exact ⟨_, rfl⟩

/-- The parts of a list of names, in order, each made or found. -/
theorem Holds.ensureAll_ok (h : Holds done ms s) {xs : List String} {ids : List PartId}
    {s' : Seeding} (he : s.ensureAll logger xs = (.ok ids, s')) :
    Holds done (ms ++ xs) s' ∧ ids.map s'.engine.graph.nameOf? = xs.map some ∧
      ∀ c y, s.engine.graph.nameOf? c = some y → s'.engine.graph.nameOf? c = some y := by
  induction xs generalizing ms s ids with
  | nil =>
    simp only [ensureAll, Prod.mk.injEq, Except.ok.injEq] at he
    obtain ⟨rfl, rfl⟩ := he
    exact ⟨by simpa using h, rfl, fun _ _ hc => hc⟩
  | cons x xs ih =>
    rcases h1 : s.ensure logger x with ⟨r1, s1⟩
    cases r1 with
    | error f => simp [ensureAll, h1] at he
    | ok id =>
      obtain ⟨hs1, hid, hmono1⟩ := h.ensure_ok h1
      rcases h2 : s1.ensureAll logger xs with ⟨r2, s2⟩
      cases r2 with
      | error f => simp [ensureAll, h1, h2] at he
      | ok ids' =>
        simp only [ensureAll, h1, h2, Prod.mk.injEq, Except.ok.injEq] at he
        obtain ⟨rfl, rfl⟩ := he
        obtain ⟨hs2, hids, hmono2⟩ := ih hs1 h2
        refine ⟨by simpa using hs2, ?_, fun c y hc => hmono2 c y (hmono1 c y hc)⟩
        simp [hids, hmono2 id x hid]

/-- Names that are not blank all give parts, while the stream has ids to spare. -/
theorem Holds.ensureAll_progress (h : Holds done ms s) (logger : Logger) {xs : List String}
    (hxs : ∀ x ∈ xs, Text.isBlank x = false)
    (hfit : (ms ++ xs).eraseDups.length ≤ 0x1000000000000) :
    ∃ ids s', s.ensureAll logger xs = (.ok ids, s') := by
  induction xs generalizing ms s with
  | nil => exact ⟨[], s, rfl⟩
  | cons x xs ih =>
    have hfit1 : (ms ++ [x]).eraseDups.length ≤ 0x1000000000000 :=
      (length_eraseDups_le_append (ms ++ [x]) xs).trans (by simpa using hfit)
    obtain ⟨id, s1, h1⟩ := h.ensure_progress logger (hxs x List.mem_cons_self) hfit1
    obtain ⟨ids, s2, h2⟩ := ih (h.ensure_ok h1).1 (fun y hy => hxs y (List.mem_cons_of_mem _ hy))
      (by simpa using hfit)
    exact ⟨id :: ids, s2, by simp [ensureAll, h1, h2]⟩

end Ensure

/-! ## The children of one assembly -/

section Link

variable {done : List Assembly} {ms : List String} {s : Seeding} {a : Assembly}

theorem Holds.lists_of_edge (h : Holds done ms s) {x y : PartId} (he : s.engine.graph.Edge x y) :
    Lists done ((s.engine.graph.nameOf? x).getD "") ((s.engine.graph.nameOf? y).getD "") := by
  obtain ⟨n, hn, rfl, hy⟩ := he
  have hx : s.engine.graph.nameOf? n.id = some n.name := h.wf.nameOf?_eq_some.2 ⟨n, hn, rfl, rfl⟩
  have hmem : s.engine.graph.nameOf? y ∈ (childrenOf done n.name).eraseDups.map some := by
    rw [← h.children hn]
    exact List.mem_map_of_mem hy
  obtain ⟨z, hz, hyz⟩ := List.mem_map.1 hmem
  rw [hx, ← hyz]
  exact mem_childrenOf.1 (List.mem_eraseDups.1 hz)

theorem Holds.names_added (h : Holds done ms s) {n : Node} (hn : n ∈ s.engine.graph.nodes)
    {ids : List PartId} {xs : List String} (hids : ids.map s.engine.graph.nameOf? = xs.map some) :
    ((dedupe ids).filter fun c => c ∉ n.children.toList).map s.engine.graph.nameOf? =
      (xs.eraseDups.filter fun y => y ∉ childrenOf done n.name).map some := by
  have hlive : ∀ c ∈ ids, c ∈ s.engine.graph.ids := fun c hc =>
    mem_of_nameOf? (exists_of_map_nameOf? hids hc).choose_spec.2
  have hinj : ∀ l : List PartId, (∀ c ∈ l, c ∈ s.engine.graph.ids) → ∀ a ∈ l, ∀ b ∈ l,
      s.engine.graph.nameOf? a = s.engine.graph.nameOf? b → a = b :=
    fun _ hl a ha _ _ he => h.wf.nameOf?_inj (hl a ha) he
  rw [dedupe_eq_eraseDups]
  calc (ids.eraseDups.filter fun c => c ∉ n.children.toList).map s.engine.graph.nameOf?
      = (ids.eraseDups.map s.engine.graph.nameOf?).filter
          (fun y => y ∉ n.children.toList.map s.engine.graph.nameOf?) :=
        map_filter_not_mem _ (hinj _ fun c hc => by
          rcases List.mem_append.1 hc with hc | hc
          · exact hlive c (List.mem_eraseDups.1 hc)
          · exact h.wf.children_live n hn c hc)
    _ = ((xs.map some).eraseDups).filter
          (fun y => y ∉ (childrenOf done n.name).eraseDups.map some) := by
        rw [← eraseDups_map _ (hinj _ hlive), hids, h.children hn]
    _ = (xs.eraseDups.filter fun y => y ∉ (childrenOf done n.name).eraseDups).map some := by
        rw [eraseDups_map _ fun _ _ _ _ => Option.some.inj,
          map_filter_not_mem _ fun _ _ _ _ => Option.some.inj]
    _ = (xs.eraseDups.filter fun y => y ∉ childrenOf done n.name).map some := by
        simp

/-- Linking the parts of an assembly's children under its part keeps the invariant, the
assembly now built. -/
theorem Holds.link (h : Holds done (ms ++ a.name :: a.children) s) {parent : PartId}
    (hp : s.engine.graph.nameOf? parent = some a.name) {ids : List PartId}
    (hids : ids.map s.engine.graph.nameOf? = a.children.map some) {p : Part} {e : Engine}
    (hu : s.engine.updateChildren parent .add ids = .ok (p, e)) (logs : List LogEntry) :
    Holds (done ++ [a]) (ms ++ a.name :: a.children) { s with engine := e, logs } := by
  obtain ⟨g', hg', rfl⟩ := Engine.updateChildren_eq_ok hu
  have hnodes := updateChildren_nodes h.wf hg'
  have hwf : (Engine.changed { s.engine with graph := g' }).graph.WellFormed := by
    rw [Engine.graph_changed]
    exact h.wf.updateChildren hg'
  have hmade : (Engine.changed { s.engine with graph := g' }).graph.nodes.map
      (fun n => (n.name, n.id)) = s.engine.graph.nodes.map fun n => (n.name, n.id) := by
    rw [Engine.graph_changed, hnodes, List.map_map]
    rfl
  refine ⟨hwf, h.made.trans hmade.symm, ?_, fun x hx => ?_⟩
  · rw [Engine.graph_changed, h.wf.shape_updateChildren hg', layout, ← h.names, List.map_map]
    refine List.map_congr_left fun n hn => ?_
    have hname : s.engine.graph.nameOf? n.id = some n.name :=
      h.wf.nameOf?_eq_some.2 ⟨n, hn, rfl, rfl⟩
    simp only [Function.comp_apply, Prod.mk.injEq, true_and, childrenOf_append_singleton]
    by_cases hpn : n.id = parent
    · -- the assembly's part: its old children, then the new ones
      have hna : n.name = a.name := Option.some.inj (hname.symm.trans (hpn ▸ hp))
      have hC : s.engine.graph.childrenOf parent = n.children.toList := by
        rw [← hpn, Graph.childrenOf, h.wf.find?_eq_some_iff.2 ⟨hn, rfl⟩]
        rfl
      rw [if_pos hpn, if_pos hna.symm, hC, Action.apply, eraseDups_append_eq, List.map_append,
        List.map_append, ← h.children hn, h.names_added hn hids]
    · -- any other part keeps its children and lists none from the new assembly
      have hna : a.name ≠ n.name := fun e => hpn (h.wf.eq_of_nameOf? hname (e ▸ hp))
      rw [if_neg hpn, if_neg hna, List.append_nil, h.children hn]
  · rw [mentions_append_singleton, List.mem_append] at hx
    rcases hx with hx | hx
    · exact h.covers x hx
    · exact List.mem_append_right ms hx

/-- Linking the parts of an assembly's children succeeds when the assemblies, this one
included, list no name below itself. -/
theorem Holds.link_progress (h : Holds done (ms ++ a.name :: a.children) s)
    (hacyclic : ∀ x, ¬ Relation.TransGen (Lists (done ++ [a])) x x) {parent : PartId}
    (hp : s.engine.graph.nameOf? parent = some a.name) {ids : List PartId}
    (hids : ids.map s.engine.graph.nameOf? = a.children.map some) :
    ∃ r, s.engine.updateChildren parent .add ids = .ok r := by
  obtain ⟨n, hn, rfl, -⟩ := h.wf.nameOf?_eq_some.1 hp
  have hchild : ∀ c ∈ dedupe ids, ∃ y ∈ a.children, s.engine.graph.nameOf? c = some y :=
    fun c hc => exists_of_map_nameOf? hids (mem_dedupe.1 hc)
  have hlists : ∀ c ∈ dedupe ids,
      Lists (done ++ [a]) a.name ((s.engine.graph.nameOf? c).getD "") := by
    intro c hc
    obtain ⟨y, hy, hcy⟩ := hchild c hc
    rw [hcy]
    exact lists_append_singleton.2 (.inr ⟨rfl, hy⟩)
  have hlive : ∀ c ∈ dedupe ids, c ∈ s.engine.graph.ids := fun c hc =>
    mem_of_nameOf? (hchild c hc).choose_spec.2
  have hself : n.id ∉ dedupe ids := fun hc =>
    hacyclic a.name (.single (by simpa [hp] using hlists n.id hc))
  have hnone : ∀ c ∈ dedupe ids, ¬ s.engine.graph.ClosesCycle n.id c := by
    rintro c hc ⟨-, hpath⟩
    have hup : Relation.TransGen (Lists (done ++ [a])) ((s.engine.graph.nameOf? c).getD "")
        ((s.engine.graph.nameOf? n.id).getD "") :=
      Relation.TransGen.lift (fun x => (s.engine.graph.nameOf? x).getD "")
      (fun _ _ hxy => (h.lists_of_edge hxy).mono) c n.id hpath
    rw [hp, Option.getD_some] at hup
    exact hacyclic a.name (.head (hlists c hc) hup)
  obtain ⟨g', hg'⟩ := updateChildren_ok_of_no_cycle h.wf hn (.inl rfl) hlive hself hnone
  exact (Engine.updateChildren_of_graph (mem_of_nameOf? hp)).2 g' hg'

/-- An assembly with no children is built once its name is met. -/
theorem Holds.built (h : Holds done ms s) (ha : a.children = []) (hmem : a.name ∈ ms) :
    Holds (done ++ [a]) ms s where
  wf := h.wf
  made := h.made
  shape := by
    rw [h.shape]
    simp only [layout, childrenOf_append_singleton, ha, ite_self, List.append_nil]
  covers x hx := by
    rw [mentions_append_singleton, ha, List.mem_append, List.mem_singleton] at hx
    rcases hx with hx | rfl
    · exact h.covers x hx
    · exact hmem

end Link

/-! ## A whole run -/

section Build

variable {logger : Logger}

/-- A run that builds every assembly keeps the invariant to its end. -/
theorem Holds.build_ok {done : List Assembly} {ms : List String} {s : Seeding}
    (h : Holds done ms s) {rest : List Assembly} {s' : Seeding}
    (hb : s.build logger rest = (.ok (), s')) :
    Holds (done ++ rest) (ms ++ mentions rest) s' := by
  induction rest generalizing done ms s with
  | nil =>
    simp only [build, Prod.mk.injEq] at hb
    obtain ⟨-, rfl⟩ := hb
    simpa using h
  | cons a rest ih =>
    rw [mentions_cons, List.append_cons done a rest, ← List.append_assoc]
    rcases h1 : s.ensure logger a.name with ⟨r1, s1⟩
    cases r1 with
    | error f => simp [build, h1] at hb
    | ok parent =>
      obtain ⟨hs1, hp, -⟩ := h.ensure_ok h1
      by_cases hemp : a.children = []
      · -- an assembly with no children: only its name is met
        simp only [build, h1, hemp, List.isEmpty_nil, if_true] at hb
        simpa [hemp] using ih (hs1.built hemp (by simp)) hb
      · rcases h2 : s1.ensureAll logger a.children with ⟨r2, s2⟩
        cases r2 with
        | error f => simp [build, h1, h2, hemp] at hb
        | ok ids =>
          obtain ⟨hs2, hids, hmono⟩ := hs1.ensureAll_ok h2
          have hs2 : Holds done (ms ++ a.name :: a.children) s2 := by simpa using hs2
          rcases h3 : s2.engine.updateLogged logger parent .add ids with ⟨r3, logs⟩
          have hu := Engine.updateLogged_fst s2.engine logger parent .add ids
          rw [h3] at hu
          rcases r3 with f | ⟨p, e⟩
          · simp [build, h1, h2, h3, hemp] at hb
          · simp only [build, h1, h2, h3, hemp, List.isEmpty_iff, if_false] at hb
            exact ih (hs2.link (hmono _ _ hp) hids hu.symm _) hb

/-- A run over assemblies that can be seeded builds them all, while the stream has an id for
each name. -/
theorem Holds.build_progress {done : List Assembly} {ms : List String} {s : Seeding}
    (h : Holds done ms s) (logger : Logger) {rest : List Assembly}
    (hseed : Seedable (done ++ rest))
    (hfit : (ms ++ mentions rest).eraseDups.length ≤ 0x1000000000000) :
    ∃ s', s.build logger rest = (.ok (), s') := by
  induction rest generalizing done ms s with
  | nil => exact ⟨s, rfl⟩
  | cons a rest ih =>
    rw [List.append_cons done a rest] at hseed
    rw [mentions_cons, ← List.append_assoc] at hfit
    have hnb : ∀ x ∈ a.name :: a.children, Text.isBlank x = false := fun x hx =>
      hseed.nonblank x (List.mem_flatMap.2 ⟨a, by simp, hx⟩)
    have hfit1 : (ms ++ [a.name]).eraseDups.length ≤ 0x1000000000000 :=
      (length_eraseDups_le_append _ (a.children ++ mentions rest)).trans (by simpa using hfit)
    obtain ⟨parent, s1, h1⟩ := h.ensure_progress logger (hnb a.name (by simp)) hfit1
    obtain ⟨hs1, hp, -⟩ := h.ensure_ok h1
    by_cases hemp : a.children = []
    · obtain ⟨s', hb⟩ := ih (hs1.built hemp (by simp)) hseed (by simpa [hemp] using hfit)
      exact ⟨s', by simp [build, h1, hemp, hb]⟩
    · have hfit2 : (ms ++ [a.name] ++ a.children).eraseDups.length ≤ 0x1000000000000 :=
        (length_eraseDups_le_append _ (mentions rest)).trans (by simpa using hfit)
      obtain ⟨ids, s2, h2⟩ := hs1.ensureAll_progress logger
        (fun x hx => hnb x (List.mem_cons_of_mem _ hx)) hfit2
      obtain ⟨hs2, hids, hmono⟩ := hs1.ensureAll_ok h2
      have hs2 : Holds done (ms ++ a.name :: a.children) s2 := by simpa using hs2
      obtain ⟨⟨p, e⟩, hu⟩ := hs2.link_progress (Seedable.of_append hseed).acyclic (hmono _ _ hp) hids
      obtain ⟨logs, h3⟩ : ∃ logs, s2.engine.updateLogged logger parent .add ids =
          (.ok (p, e), logs) :=
        ⟨_, Prod.ext ((Engine.updateLogged_fst _ _ _ _ _).trans hu) rfl⟩
      obtain ⟨s', hb⟩ := ih (hs2.link (hmono _ _ hp) hids hu (s2.logs ++ logs)) hseed
        (by simpa using hfit)
      exact ⟨s', by simp [build, h1, h2, h3, hemp, hb]⟩

end Build

/-! ## What a run builds -/

section Answer

variable {done : List Assembly} {ms : List String} {s : Seeding}

theorem Holds.mem_children_iff (h : Holds done ms s) {m n : Node}
    (hm : m ∈ s.engine.graph.nodes) (hn : n ∈ s.engine.graph.nodes) :
    n.id ∈ m.children.toList ↔ Lists done m.name n.name := by
  have hname : s.engine.graph.nameOf? n.id = some n.name :=
    h.wf.nameOf?_eq_some.2 ⟨n, hn, rfl, rfl⟩
  calc n.id ∈ m.children.toList
      ↔ some n.name ∈ m.children.toList.map s.engine.graph.nameOf? := by
        constructor
        · intro hc
          rw [← hname]
          exact List.mem_map_of_mem hc
        · intro hc
          obtain ⟨c, hc, hcn⟩ := List.mem_map.1 hc
          rwa [h.wf.eq_of_nameOf? hcn hname] at hc
    _ ↔ some n.name ∈ (childrenOf done m.name).eraseDups.map some := by rw [h.children hm]
    _ ↔ Lists done m.name n.name := by
        rw [List.mem_map_of_injective (Option.some_injective _), List.mem_eraseDups,
          mem_childrenOf]

/-- Assemblies the invariant holds of can be seeded: the graph's names are not blank, and each
listing is an edge between the parts of the two names, so a cycle of names is one of parts. -/
theorem Holds.seedable (h : Holds done ms s) : Seedable done where
  nonblank x hx := by
    obtain ⟨n, hn, rfl⟩ := h.mem_names.2 (h.covers x hx)
    exact h.wf.name_nonblank n hn
  acyclic x hx := by
    let idOf : String → PartId := fun y =>
      ((s.engine.graph.findName? y).map (·.id)).getD PartId.nil
    have hid : ∀ m ∈ s.engine.graph.nodes, idOf m.name = m.id := fun m hm => by
      simp [idOf, h.wf.findName?_eq_some_iff.2 ⟨hm, rfl⟩]
    have hedge : ∀ y z, Lists done y z → s.engine.graph.Edge (idOf y) (idOf z) := by
      intro y z hyz
      obtain ⟨b, hb, hby, hz⟩ := hyz
      obtain ⟨m, hm, rfl⟩ := h.mem_names.2
        (h.covers y (List.mem_flatMap.2 ⟨b, hb, hby ▸ List.mem_cons_self⟩))
      obtain ⟨k, hk, rfl⟩ := h.mem_names.2 (h.covers z (List.mem_flatMap.2
        ⟨b, hb, List.mem_cons_of_mem _ hz⟩))
      refine ⟨m, hm, (hid m hm).symm, ?_⟩
      rw [hid k hk, h.mem_children_iff hm hk]
      exact ⟨b, hb, hby, hz⟩
    exact h.wf.acyclic _ (Relation.TransGen.lift idOf hedge x x hx)

end Answer

/-- Seeding a fresh engine succeeds exactly on assemblies that can be seeded, while the id
stream has an id for each name. Then the graph has one part per name, in the order the names
are first met; the children of each part are named as its assemblies list them, in order,
repeats dropped; the parents of each part are the parts whose assemblies list it; and the
graph passes its check. -/
theorem seed_answer (logger : Logger) (entries : List Assembly)
    (hfit : (mentions entries).eraseDups.length ≤ 0x1000000000000)
    {r : Except Fault Unit} {e : Engine} {logs : List LogEntry}
    (hr : seed {} logger entries = (r, e, logs)) :
    (r = .ok () ↔ Seedable entries) ∧
    (r = .ok () →
      e.graph.nodes.map (·.name) = (mentions entries).eraseDups ∧
      (∀ n ∈ e.graph.nodes, n.children.toList.map e.graph.nameOf? =
        (childrenOf entries n.name).eraseDups.map some) ∧
      (∀ n ∈ e.graph.nodes, ∀ m ∈ e.graph.nodes,
        m.id ∈ n.parents.toList ↔ Lists entries m.name n.name) ∧
      e.checkInvariants = .ok ()) := by
  rcases hb : ({ engine := {} } : Seeding).build logger entries with ⟨r0, s'⟩
  cases r0 with
  | error f =>
    simp only [seed, hb, Prod.mk.injEq] at hr
    obtain ⟨rfl, -, -⟩ := hr
    refine ⟨⟨fun h => (nomatch h), fun hseed => ?_⟩, fun h => (nomatch h)⟩
    obtain ⟨s'', hb'⟩ := holds_start.build_progress logger (by simpa using hseed)
      (by simpa using hfit)
    rw [hb] at hb'
    simp at hb'
  | ok u =>
    have hs : Holds entries (mentions entries) s' := by simpa using holds_start.build_ok hb
    simp only [seed, hb, Prod.mk.injEq] at hr
    obtain ⟨rfl, rfl, -⟩ := hr
    have hcheck : s'.engine.checkInvariants = .ok () := hs.wf.checkInvariants_eq_ok
    refine ⟨⟨fun _ => hs.seedable, fun _ => hcheck⟩,
      fun _ => ⟨hs.names, fun n hn => hs.children hn, fun n hn m hm => ?_, hcheck⟩⟩
    rw [← hs.wf.mirror m hm n hn, hs.mem_children_iff hm hn]

/-- The sample bicycle: its sixteen names fit the id stream, so it seeds exactly when it can be
seeded. -/
theorem seed_answer_of_bicycle :
    (mentions bicycle).eraseDups.length ≤ 0x1000000000000 ∧
      ((seed {} default bicycle).1 = .ok () ↔ Seedable bicycle) :=
  ⟨by decide, (seed_answer default bicycle (by decide) rfl).1⟩

end Seeding

end BillOfMaterials
