import Mathlib.Data.List.Basic

/-!
# Event-driven machines

A deterministic machine handles one event at a time: `next` is the state
after the event, `out` is what handling it puts out. Four principles
are all the developments over it need:

- **invariance** (`Machine.inv_of_guarded`): a predicate that every
  guarded step preserves holds at the end of every guarded run, and by
  `Machine.guarded_append` at each event of it;
- **constancy** (`Machine.out_run`): an output that is decided by what no
  step changes is the same after any run;
- **origin** (`Machine.occurs_of_guarded`): what a state has after a run
  and did not have before was brought by an event of the run;
- **simulation** (`Machine.simulates`): a relation that every step of two
  machines over the same events preserves relates the ends of equal runs;
  where an event of the one is any number of events of the other,
  `Machine.simulates_flatMap`.
-/

structure Machine (σ ε ο : Type*) where
  next : σ → ε → σ
  out : σ → ε → ο

namespace Machine

variable {σ τ ε ε' ο ο' : Type*}

/-- The state after a run. -/
def run (M : Machine σ ε ο) (s : σ) (es : List ε) : σ := es.foldl M.next s

@[simp] theorem run_nil (M : Machine σ ε ο) (s : σ) : M.run s [] = s := rfl

@[simp] theorem run_cons (M : Machine σ ε ο) (s : σ) (e : ε) (es : List ε) :
    M.run s (e :: es) = M.run (M.next s e) es := rfl

theorem run_append (M : Machine σ ε ο) (s : σ) (es fs : List ε) :
    M.run s (es ++ fs) = M.run (M.run s es) fs := List.foldl_append

/-- What a run puts out, event by event. -/
def outs (M : Machine σ ε ο) : σ → List ε → List ο
  | _, [] => []
  | s, e :: es => M.out s e :: outs M (M.next s e) es

/-! ## Guarded runs and invariants -/

/-- Every event of the run meets the guard in the state it is handled in. -/
def Guarded (M : Machine σ ε ο) (G : σ → ε → Prop) : σ → List ε → Prop
  | _, [] => True
  | s, e :: es => G s e ∧ Guarded M G (M.next s e) es

instance decidableGuarded (M : Machine σ ε ο) {G : σ → ε → Prop} [∀ s e, Decidable (G s e)] :
    ∀ (s : σ) (es : List ε), Decidable (M.Guarded G s es)
  | _, [] => inferInstanceAs (Decidable True)
  | s, e :: es =>
      have := decidableGuarded M (G := G) (M.next s e) es
      inferInstanceAs (Decidable (G s e ∧ M.Guarded G (M.next s e) es))

theorem guarded_append {M : Machine σ ε ο} {G : σ → ε → Prop} {es fs : List ε} :
    ∀ {s : σ}, M.Guarded G s (es ++ fs)
      ↔ M.Guarded G s es ∧ M.Guarded G (M.run s es) fs := by
  induction es with
  | nil => intro s; simp [Guarded]
  | cons e es ih => intro s; simp [Guarded, ih, and_assoc]

theorem inv_of_guarded {M : Machine σ ε ο} {G : σ → ε → Prop} {I : σ → Prop}
    (hstep : ∀ s e, I s → G s e → I (M.next s e)) {es : List ε} :
    ∀ {s : σ}, I s → M.Guarded G s es → I (M.run s es) := by
  induction es with
  | nil => intro s hs _; exact hs
  | cons e es ih => intro s hs hg; exact ih (hstep s e hs hg.1) hg.2

/-- Two guards that agree wherever the invariant holds, and of which the
first keeps it, guard the same runs. -/
theorem guarded_congr {M : Machine σ ε ο} {G H : σ → ε → Prop} {I : σ → Prop}
    (hstep : ∀ s e, I s → G s e → I (M.next s e))
    (hiff : ∀ s e, I s → (G s e ↔ H s e)) {es : List ε} :
    ∀ {s : σ}, I s → (M.Guarded G s es ↔ M.Guarded H s es) := by
  induction es with
  | nil => intro s _; exact Iff.rfl
  | cons e es ih =>
      intro s hs
      simp only [Guarded, hiff s e hs]
      exact and_congr_right fun hH => ih (hstep s e hs ((hiff s e hs).mpr hH))

/-- What the guard keeps may be added to it. -/
theorem guarded_of_inv {M : Machine σ ε ο} {G : σ → ε → Prop} {I : σ → Prop}
    (hstep : ∀ s e, I s → G s e → I (M.next s e)) {es : List ε} {s : σ} (hs : I s)
    (hg : M.Guarded G s es) : M.Guarded (fun s e => I s ∧ G s e) s es :=
  (guarded_congr hstep (fun _ _ hI => ⟨fun h => ⟨hI, h⟩, And.right⟩) hs).mp hg

/-- A guard that does not look at the state. -/
theorem guarded_const {M : Machine σ ε ο} {P : ε → Prop} {es : List ε} :
    ∀ {s : σ}, M.Guarded (fun _ e => P e) s es ↔ ∀ e ∈ es, P e := by
  induction es with
  | nil => intro s; simp [Guarded]
  | cons e es ih => intro s; simp [Guarded, ih]

/-- Without a guard: a predicate every step preserves holds after any run. -/
theorem inv_run {M : Machine σ ε ο} {I : σ → Prop}
    (hstep : ∀ s e, I s → I (M.next s e)) {s : σ} (hs : I s) (es : List ε) :
    I (M.run s es) := by
  induction es generalizing s with
  | nil => exact hs
  | cons e es ih => exact ih (hstep s e hs)

/-! ## What no step changes -/

/-- An output that is decided by what no step changes is the same after any
run. -/
theorem out_run {κ : Type*} {M : Machine σ ε ο} {f : σ → κ}
    (hstep : ∀ s e, f (M.next s e) = f s) {e : ε}
    (hout : ∀ s t, f s = f t → M.out s e = M.out t e) (s : σ) (es : List ε) :
    M.out (M.run s es) e = M.out s e := by
  refine hout _ _ (inv_run (I := fun s' => f s' = f s) (fun s' e' h => ?_) rfl es)
  exact (hstep s' e').trans h

/-! ## Where something comes from -/

/-- Some event of the run satisfies `C` in the state it is handled in. -/
def Occurs (M : Machine σ ε ο) (C : σ → ε → Prop) (s : σ) (es : List ε) : Prop :=
  ∃ pre e post, es = pre ++ e :: post ∧ C (M.run s pre) e

theorem Occurs.cons {M : Machine σ ε ο} {C : σ → ε → Prop} {s : σ} {e : ε} {es : List ε}
    (h : M.Occurs C (M.next s e) es) : M.Occurs C s (e :: es) := by
  obtain ⟨pre, e', post, rfl, hC⟩ := h
  exact ⟨e :: pre, e', post, rfl, hC⟩

theorem Occurs.append {M : Machine σ ε ο} {C : σ → ε → Prop} {s : σ} {es : List ε}
    (h : M.Occurs C s es) (fs : List ε) : M.Occurs C s (es ++ fs) := by
  obtain ⟨pre, e, post, rfl, hC⟩ := h
  exact ⟨pre, e, post ++ fs, by simp, hC⟩

/-- What a state has after a guarded run, it had before, or some event of the
run brought it. -/
theorem occurs_of_guarded {M : Machine σ ε ο} {G : σ → ε → Prop} {Q : σ → Prop}
    {C : σ → ε → Prop} (hstep : ∀ s e, G s e → Q (M.next s e) → Q s ∨ C s e)
    {es : List ε} : ∀ {s : σ}, M.Guarded G s es → Q (M.run s es) → Q s ∨ M.Occurs C s es := by
  induction es with
  | nil => intro s _ hQ; exact Or.inl hQ
  | cons e es ih =>
      intro s hg hQ
      rcases ih hg.2 hQ with hnext | hocc
      · rcases hstep s e hg.1 hnext with hs | hC
        · exact Or.inl hs
        · exact Or.inr ⟨[], e, es, rfl, hC⟩
      · exact Or.inr hocc.cons

/-! ## Simulation -/

theorem simulates {M : Machine σ ε ο} {A : Machine τ ε ο'} {R : σ → τ → Prop}
    (hstep : ∀ s t e, R s t → R (M.next s e) (A.next t e)) {s : σ} {t : τ}
    (h : R s t) (es : List ε) : R (M.run s es) (A.run t es) := by
  induction es generalizing s t with
  | nil => exact h
  | cons e es ih => exact ih (hstep s t e h)

theorem simulates_flatMap {M : Machine σ ε ο} {A : Machine τ ε' ο'} {R : σ → τ → Prop}
    {f : ε → List ε'} (hstep : ∀ s t e, R s t → R (M.next s e) (A.run t (f e))) {s : σ} {t : τ}
    (h : R s t) (es : List ε) : R (M.run s es) (A.run t (es.flatMap f)) := by
  induction es generalizing s t with
  | nil => exact h
  | cons e es ih =>
      rw [List.flatMap_cons, run_append]
      exact ih (hstep s t e h)

end Machine
