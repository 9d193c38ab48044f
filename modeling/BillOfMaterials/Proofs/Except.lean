import BillOfMaterials.Fault
import Mathlib.Data.List.Forall2
import Mathlib.Data.List.Perm.Basic

/-!
# Sequences of checks in `Except`

The operations of the library are sequences of checks in `Except`: each passes a value on or
stops with a fault, and the first fault is the answer. These lemmas take such a sequence apart,
so that a proof about an operation names the values that passed or the check that failed
without unfolding the monad.

* `pure_eq_ok`, `throw_eq_error` : a step that passes or fails for sure;
* `bind_eq_ok`, `bind_eq_error`, `map_eq_ok`, `map_eq_error` : a sequence of two steps;
* `forM_eq_ok`, `forM_eq_error`, `forM_append_cons_error`, `mapM_eq_ok_iff`, `mapM_eq_error` :
  one check run over a list, failing at its first failing element;
  `mapM_perm` : run over two orders of one list, it gives two orders of one answer;
* `foldlM_eq_ok_induction`, `foldlM_exists_ok`, `foldlM_eq_error` : a value built by checked
  steps over a list; `foldlM_cons_eq_ok_iff` : a list of what was met, grown by checked steps;
* `Agree R x y` : two sequences of checks fail with the same fault or pass related values; it
  is kept by `bind`, `map`, `forM` and `mapM` (`Agree.bind`, `Agree.map`, `Agree.forM`,
  `Agree.mapM`).
-/

namespace BillOfMaterials

section
variable {ε α β : Type}

@[simp] theorem pure_eq_ok {a b : α} : (pure a : Except ε α) = .ok b ↔ a = b := by
  simp [pure, Except.pure]

@[simp] theorem pure_ne_error {a : α} {e : ε} : (pure a : Except ε α) ≠ .error e := by
  simp [pure, Except.pure]

@[simp] theorem throw_ne_ok {e : ε} {a : α} : (throw e : Except ε α) ≠ .ok a := by
  simp [throw, throwThe, MonadExceptOf.throw]

@[simp] theorem throw_eq_error {e e' : ε} : (throw e : Except ε α) = .error e' ↔ e = e' := by
  simp [throw, throwThe, MonadExceptOf.throw]

theorem ok_bind {a : α} {f : α → Except ε β} : (Except.ok a >>= f) = f a := rfl

@[simp] theorem bind_eq_ok {x : Except ε α} {f : α → Except ε β} {b : β} :
    x >>= f = .ok b ↔ ∃ a, x = .ok a ∧ f a = .ok b := by
  cases x <;> simp [bind, Except.bind]

@[simp] theorem bind_eq_error {x : Except ε α} {f : α → Except ε β} {e : ε} :
    x >>= f = .error e ↔ x = .error e ∨ ∃ a, x = .ok a ∧ f a = .error e := by
  cases x <;> simp [bind, Except.bind]

@[simp] theorem map_eq_ok {g : α → β} {x : Except ε α} {b : β} :
    g <$> x = .ok b ↔ ∃ a, x = .ok a ∧ g a = b := by
  cases x <;> simp [Functor.map, Except.map]

@[simp] theorem map_eq_error {g : α → β} {x : Except ε α} {e : ε} :
    g <$> x = .error e ↔ x = .error e := by
  cases x <;> simp [Functor.map, Except.map]

/-- A check over a list passes exactly when it passes on every element. -/
theorem forM_eq_ok {f : α → Except ε Unit} {l : List α} :
    l.forM f = .ok () ↔ ∀ x ∈ l, f x = .ok () := by
  induction l with
  | nil => simp [List.forM, pure, Except.pure]
  | cons x l ih =>
    show (f x >>= fun _ => l.forM f) = _ ↔ _
    rw [bind_eq_ok, List.forall_mem_cons, ← ih]
    constructor
    · rintro ⟨⟨⟩, hx, hl⟩
      exact ⟨hx, hl⟩
    · rintro ⟨hx, hl⟩
      exact ⟨(), hx, hl⟩

/-- A check over a list fails with the fault of an element it fails on. -/
theorem forM_eq_error {f : α → Except ε Unit} {e : ε} {l : List α} (h : l.forM f = .error e) :
    ∃ x ∈ l, f x = .error e := by
  induction l with
  | nil => cases h
  | cons x l ih =>
    change (f x >>= fun _ => l.forM f) = _ at h
    rw [bind_eq_error] at h
    rcases h with hx | ⟨⟨⟩, -, hl⟩
    · exact ⟨x, List.mem_cons_self, hx⟩
    · obtain ⟨y, hy, hfy⟩ := ih hl
      exact ⟨y, List.mem_cons_of_mem x hy, hfy⟩

/-- A check over a list fails with the fault of the first element it fails on. -/
theorem forM_append_cons_error {f : α → Except ε Unit} {pre post : List α} {a : α} {e : ε}
    (hpre : ∀ x ∈ pre, f x = .ok ()) (ha : f a = .error e) : (pre ++ a :: post).forM f = .error e := by
  induction pre with
  | nil =>
    change (f a >>= fun _ => post.forM f) = _
    rw [ha]
    rfl
  | cons x pre ih =>
    change (f x >>= fun _ => (pre ++ a :: post).forM f) = _
    rw [hpre x List.mem_cons_self, ok_bind]
    exact ih fun y hy => hpre y (List.mem_cons_of_mem x hy)

/-- A map by checked steps passes exactly when every step passes, with the steps' values in
order. -/
theorem mapM_eq_ok_iff {f : α → Except ε β} {l : List α} {r : List β} :
    l.mapM f = .ok r ↔ List.Forall₂ (fun a b => f a = .ok b) l r := by
  induction l generalizing r with
  | nil => cases r <;> simp
  | cons x l ih =>
    cases r with
    | nil => simp [List.mapM_cons]
    | cons b r =>
      simp only [List.mapM_cons, bind_eq_ok, pure_eq_ok, ih, List.cons.injEq, List.forall₂_cons]
      constructor
      · rintro ⟨b', hb', r', hr', rfl, rfl⟩
        exact ⟨hb', hr'⟩
      · rintro ⟨hb, hr⟩
        exact ⟨b, hb, r, hr, rfl, rfl⟩

theorem mapM_eq_ok_map {f : α → Except ε β} {g : α → β} {l : List α} (h : ∀ a ∈ l, f a = .ok (g a)) :
    l.mapM f = .ok (l.map g) :=
  mapM_eq_ok_iff.2 (List.forall₂_map_right_iff.2 (List.forall₂_same.2 h))

/-- The same checked steps, run over two orders of one list, give two orders of one answer. -/
theorem mapM_perm {f : α → Except ε β} {l l' : List α} {r r' : List β} (hp : l.Perm l')
    (h : l.mapM f = .ok r) (h' : l'.mapM f = .ok r') : r.Perm r' := by
  obtain ⟨s, hs, hsr⟩ := List.perm_comp_forall₂ hp (mapM_eq_ok_iff.1 h')
  have hls : l.mapM f = .ok s := mapM_eq_ok_iff.2 hs
  rw [h] at hls
  cases hls
  exact hsr

/-- A map by checked steps fails with the fault of one step. -/
theorem mapM_eq_error {f : α → Except ε β} {e : ε} :
    ∀ {l : List α}, l.mapM f = .error e → ∃ x ∈ l, f x = .error e
  | [], h => by simp at h
  | x :: l, h => by
    rw [List.mapM_cons, bind_eq_error] at h
    rcases h with hx | ⟨_, -, h⟩
    · exact ⟨x, List.mem_cons_self, hx⟩
    rw [bind_eq_error] at h
    rcases h with h | ⟨_, -, h⟩
    · obtain ⟨y, hy, hfy⟩ := mapM_eq_error h
      exact ⟨y, List.mem_cons_of_mem x hy, hfy⟩
    · simp at h

/-- What holds at the start of a fold and is kept by every step that passes holds of its answer.
`P pre b` says that `b` is a value the fold can have after the elements `pre`. -/
theorem foldlM_eq_ok_induction {f : β → α → Except ε β} (P : List α → β → Prop) :
    ∀ {l : List α} {b r : β}, P [] b →
      (∀ pre x post b b', l = pre ++ x :: post → P pre b → f b x = .ok b' → P (pre ++ [x]) b') →
      l.foldlM f b = .ok r → P l r
  | [], _, _, hb, _, h => by
    cases h
    exact hb
  | x :: l, b, r, hb, hf, h => by
    rw [List.foldlM_cons, bind_eq_ok] at h
    obtain ⟨b', hx, h⟩ := h
    refine foldlM_eq_ok_induction (fun pre b => P (x :: pre) b) (hf [] x l b b' rfl hb hx)
      (fun pre y post c c' e hc hy => hf (x :: pre) y post c c' (by simp [e]) hc hy) h

/-- A fold of checked steps passes when each step passes from a value `P` allows after the
elements before it to a value `P` allows after one element more. -/
theorem foldlM_exists_ok {f : β → α → Except ε β} (P : List α → β → Prop) :
    ∀ {l : List α} {b : β}, P [] b →
      (∀ pre x post b, l = pre ++ x :: post → P pre b → ∃ b', f b x = .ok b' ∧ P (pre ++ [x]) b') →
      ∃ r, l.foldlM f b = .ok r ∧ P l r
  | [], b, hb, _ => ⟨b, rfl, hb⟩
  | x :: l, b, hb, hf => by
    obtain ⟨b', hx, hb'⟩ := hf [] x l b rfl hb
    obtain ⟨r, hr, hP⟩ := foldlM_exists_ok (fun pre b => P (x :: pre) b) (l := l) hb'
      (fun pre y post c e hc => hf (x :: pre) y post c (by simp [e]) hc)
    refine ⟨r, ?_, hP⟩
    rw [List.foldlM_cons, hx, ok_bind]
    exact hr

/-- A fold whose every step conses `k x` onto the list built so far, when `Q` holds of that list
and the element, passes exactly when `Q` holds at every element; it then answers the images in
reverse order. -/
theorem foldlM_cons_eq_ok_iff {γ : Type} {f : List γ → α → Except ε (List γ)} {k : α → γ}
    {Q : List γ → α → Prop} (hf : ∀ seen x r, f seen x = .ok r ↔ r = k x :: seen ∧ Q seen x) :
    ∀ (l : List α) (seen r : List γ), l.foldlM f seen = .ok r ↔
      r = (l.map k).reverse ++ seen ∧
        ∀ pre x post, l = pre ++ x :: post → Q ((pre.map k).reverse ++ seen) x
  | [], seen, r => by
    rw [List.foldlM_nil, pure_eq_ok]
    simp only [List.map_nil, List.reverse_nil, List.nil_append]
    exact ⟨fun h => ⟨h.symm, fun pre x post e => by simp at e⟩, fun h => h.1.symm⟩
  | x :: l, seen, r => by
    rw [List.foldlM_cons, bind_eq_ok]
    constructor
    · rintro ⟨b, hb, h⟩
      obtain ⟨rfl, hq⟩ := (hf seen x b).1 hb
      obtain ⟨rfl, hrest⟩ := (foldlM_cons_eq_ok_iff hf l (k x :: seen) r).1 h
      refine ⟨by simp, fun pre y post e => ?_⟩
      cases pre with
      | nil =>
        obtain ⟨rfl, rfl⟩ := List.cons.inj e
        simpa using hq
      | cons z pre =>
        obtain ⟨rfl, e'⟩ := List.cons.inj e
        simpa using hrest pre y post e'
    · rintro ⟨rfl, h⟩
      refine ⟨k x :: seen, (hf seen x _).2 ⟨rfl, by simpa using h [] x l rfl⟩, ?_⟩
      refine (foldlM_cons_eq_ok_iff hf l (k x :: seen) _).2 ⟨by simp, fun pre y post e => ?_⟩
      simpa using h (x :: pre) y post (by simp [e])

/-- A fold of checked steps fails with the fault of one step. -/
theorem foldlM_eq_error {f : β → α → Except ε β} :
    ∀ {l : List α} {b : β} {e : ε}, l.foldlM f b = .error e → ∃ x ∈ l, ∃ b', f b' x = .error e
  | [], _, _, h => by cases h
  | x :: l, b, e, h => by
    rw [List.foldlM_cons, bind_eq_error] at h
    rcases h with hx | ⟨b', -, h⟩
    · exact ⟨x, List.mem_cons_self, b, hx⟩
    · obtain ⟨y, hy, c, hc⟩ := foldlM_eq_error h
      exact ⟨y, List.mem_cons_of_mem x hy, c, hc⟩

end

/-- Two outcomes agree: the same fault, or values related by `R`. -/
inductive Agree {ε α β : Type} (R : α → β → Prop) : Except ε α → Except ε β → Prop
  | error (e : ε) : Agree R (.error e) (.error e)
  | ok {a : α} {b : β} : R a b → Agree R (.ok a) (.ok b)

namespace Agree

variable {ε α β γ δ : Type} {R : α → β → Prop} {S : γ → δ → Prop}

theorem refl {R : α → α → Prop} (hR : ∀ a, R a a) : ∀ x : Except ε α, Agree R x x
  | .error e => .error e
  | .ok a => .ok (hR a)

theorem of_ok {x : Except ε α} {y : Except ε β} {a : α} {b : β} (hx : x = .ok a) (hy : y = .ok b)
    (hab : R a b) : Agree R x y := by
  subst hx hy
  exact .ok hab

theorem mono {x : Except ε α} {y : Except ε β} (h : Agree R x y) {R' : α → β → Prop}
    (hR : ∀ a b, R a b → R' a b) : Agree R' x y := by
  cases h with
  | error e => exact .error e
  | ok hab => exact .ok (hR _ _ hab)

theorem bind {x : Except ε α} {y : Except ε β} (h : Agree R x y) {f : α → Except ε γ}
    {g : β → Except ε δ} (hfg : ∀ a b, R a b → Agree S (f a) (g b)) :
    Agree S (x >>= f) (y >>= g) := by
  cases h with
  | error e => exact .error e
  | ok hab => exact hfg _ _ hab

theorem map {x : Except ε α} {y : Except ε β} (h : Agree R x y) {f : α → γ} {g : β → δ}
    (hfg : ∀ a b, R a b → S (f a) (g b)) : Agree S (f <$> x) (g <$> y) := by
  cases h with
  | error e => exact .error e
  | ok hab => exact .ok (hfg _ _ hab)

theorem bind_same (x : Except ε α) {f : α → Except ε γ} {g : α → Except ε δ}
    (hfg : ∀ a, Agree S (f a) (g a)) : Agree S (x >>= f) (x >>= g) := by
  cases x with
  | error e => exact .error e
  | ok a => exact hfg a

theorem bind_of_ok {x : Except ε α} {y : Except ε β} (h : Agree R x y) {f : α → Except ε γ}
    {g : β → Except ε δ} (hfg : ∀ a b, x = .ok a → y = .ok b → R a b → Agree S (f a) (g b)) :
    Agree S (x >>= f) (y >>= g) := by
  cases h with
  | error e => exact .error e
  | ok hab => exact hfg _ _ rfl rfl hab

/-- Running one check over a list by two steps that agree element by element. -/
theorem forM {f g : α → Except ε Unit} :
    ∀ {l : List α}, (∀ x ∈ l, Agree (fun _ _ => True) (f x) (g x)) →
      Agree (fun _ _ => True) (l.forM f) (l.forM g)
  | [], _ => .ok trivial
  | x :: _, h =>
    (h x List.mem_cons_self).bind fun _ _ _ => forM fun y hy => h y (List.mem_cons_of_mem x hy)

/-- Mapping one list by two steps that agree element by element. -/
theorem mapM {f : α → Except ε γ} {g : α → Except ε δ} :
    ∀ {l : List α}, (∀ x ∈ l, Agree S (f x) (g x)) →
      Agree (List.Forall₂ S) (l.mapM f) (l.mapM g)
  | [], _ => .ok .nil
  | x :: l, h => by
    rw [List.mapM_cons, List.mapM_cons]
    refine (h x List.mem_cons_self).bind fun a b hab => ?_
    refine (mapM fun y hy => h y (List.mem_cons_of_mem x hy)).bind fun as bs habs => ?_
    exact .ok (.cons hab habs)

end Agree

end BillOfMaterials
