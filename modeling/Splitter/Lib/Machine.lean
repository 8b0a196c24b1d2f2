import Mathlib.Data.List.Infix

/-!
# Guarded transition systems

A `Machine` is a set of initial states and a partial step function: `step s e` is the state after
the event `e`, and `none` where `e` is not enabled. A run is a list of events. Three readings of a
run are developed: the state it ends in (`run`), a property of every state it passes through
(`Always`) and a condition on every step it takes (`Guarded`). `always_of_guarded` and
`always_iff_guarded` turn a fact about one step into one about all runs; `Reachable.invariant` is
the same rule for the reachable states. `outputs` collects what the steps of a run put out, and
`run_outputs` is the rule for a relation between that and the state.
-/

/-- A guarded transition system over states `σ` and events `ε`. -/
structure Machine (σ ε : Type _) where
  /-- The states a run may start in. -/
  init : σ → Prop
  /-- The state after an event, `none` where the event is not enabled. -/
  step : σ → ε → Option σ

namespace Machine

variable {σ ε : Type _} (M : Machine σ ε)

/-! ## Runs -/

/-- The state a list of events leads to, `none` if one of them is not enabled on the way. -/
def run : σ → List ε → Option σ
  | s, [] => some s
  | s, e :: es => (M.step s e).bind fun t => run t es

@[simp] theorem run_nil (s : σ) : M.run s [] = some s := rfl

theorem run_cons (s : σ) (e : ε) (es : List ε) :
    M.run s (e :: es) = (M.step s e).bind fun t => M.run t es := rfl

/-- A run that starts with an event takes that step and goes on from there. -/
theorem run_cons_eq_some {s u : σ} {e : ε} {es : List ε} :
    M.run s (e :: es) = some u ↔ ∃ t, M.step s e = some t ∧ M.run t es = some u := by
  rw [run_cons, Option.bind_eq_some_iff]

/-- Two runs compose to the run of the two lists in order. -/
theorem run_append (s : σ) (es fs : List ε) :
    M.run s (es ++ fs) = (M.run s es).bind fun t => M.run t fs := by
  induction es generalizing s with
  | nil => rfl
  | cons e es ih =>
    simp only [List.cons_append, run_cons, Option.bind_assoc]
    congr 1
    funext t
    exact ih t

/-- The states some run from an initial state ends in. -/
inductive Reachable : σ → Prop
  | init {s : σ} : M.init s → Reachable s
  | step {s t : σ} {e : ε} : Reachable s → M.step s e = some t → Reachable t

/-- A run that ends with an event takes that step from where the others lead to. -/
theorem run_concat_eq_some {s u : σ} {e : ε} {es : List ε} :
    M.run s (es ++ [e]) = some u ↔ ∃ t, M.run s es = some t ∧ M.step t e = some u := by
  rw [run_append, Option.bind_eq_some_iff]
  simp only [run_cons_eq_some, run_nil, Option.some_inj, exists_eq_right]

variable {M}

/-- A run from a reachable state ends in a reachable state. -/
theorem Reachable.run {s t : σ} {es : List ε} (hs : M.Reachable s) (h : M.run s es = some t) :
    M.Reachable t := by
  induction es generalizing s with
  | nil => cases h; exact hs
  | cons e es ih =>
    obtain ⟨u, hu, h⟩ := M.run_cons_eq_some.1 h
    exact ih (.step hs hu) h

/-- What holds initially and is preserved by every step holds of every reachable state. -/
theorem Reachable.invariant {I : σ → Prop} (hinit : ∀ s, M.init s → I s)
    (hstep : ∀ s e t, I s → M.step s e = some t → I t) {s : σ} (h : M.Reachable s) : I s := by
  induction h with
  | init hs => exact hinit _ hs
  | step _ hst ih => exact hstep _ _ _ ih hst

/-- A preserved property holds at the end of every run that starts in it. -/
theorem run_invariant {I : σ → Prop} (hstep : ∀ s e t, I s → M.step s e = some t → I t)
    {s t : σ} {es : List ε} (hs : I s) (h : M.run s es = some t) : I t := by
  induction es generalizing s with
  | nil => cases h; exact hs
  | cons e es ih =>
    obtain ⟨u, hu, h⟩ := M.run_cons_eq_some.1 h
    exact ih (hstep _ _ _ hs hu) h

/-- **The potential rule.** A run has no more steps of a kind than the potential it starts with, if
each of them uses up some of it and no step adds to it. -/
theorem countP_le {p : ε → Bool} {m : σ → Nat}
    (hstep : ∀ s e t, M.step s e = some t → m t + (if p e then 1 else 0) ≤ m s) {s t : σ}
    {es : List ε} (hrun : M.run s es = some t) : m t + es.countP p ≤ m s := by
  induction es generalizing s with
  | nil => cases hrun; exact Nat.le_refl _
  | cons e es ih =>
    obtain ⟨u, hu, hrun⟩ := M.run_cons_eq_some.1 hrun
    have hfirst := hstep s e u hu
    have hrest := ih hrun
    rw [List.countP_cons]
    omega

variable (M)

/-! ## Every state of a run, every step of a run -/

/-- `φ` holds in every state the run of `es` from `s` passes through. -/
def Always (φ : σ → Prop) (s : σ) (es : List ε) : Prop :=
  ∀ pre t, pre <+: es → M.run s pre = some t → φ t

/-- Every step the run of `es` from `s` takes meets the condition `c` on the state before it and
the event. -/
def Guarded (c : σ → ε → Prop) (s : σ) (es : List ε) : Prop :=
  ∀ pre e t u, pre ++ [e] <+: es → M.run s pre = some t → M.step t e = some u → c t e

variable {M}

theorem always_nil {φ : σ → Prop} {s : σ} : M.Always φ s [] ↔ φ s := by
  constructor
  · intro h
    exact h [] s (List.prefix_refl _) rfl
  · intro h pre t hpre hrun
    rw [List.prefix_nil.1 hpre] at hrun
    cases hrun
    exact h

theorem always_cons {φ : σ → Prop} {s : σ} {e : ε} {es : List ε} :
    M.Always φ s (e :: es) ↔ φ s ∧ ∀ t, M.step s e = some t → M.Always φ t es := by
  constructor
  · intro h
    refine ⟨h [] s (List.nil_prefix) rfl, fun t ht pre u hpre hrun => ?_⟩
    exact h (e :: pre) u ((List.cons_prefix_cons).2 ⟨rfl, hpre⟩)
      (M.run_cons_eq_some.2 ⟨t, ht, hrun⟩)
  · rintro ⟨hs, hes⟩ pre u hpre hrun
    cases pre with
    | nil => cases hrun; exact hs
    | cons f pre =>
      obtain ⟨rfl, htail⟩ := List.cons_prefix_cons.1 hpre
      obtain ⟨t, ht, hrun⟩ := M.run_cons_eq_some.1 hrun
      exact hes t ht pre u htail hrun

theorem guarded_nil {c : σ → ε → Prop} {s : σ} : M.Guarded c s [] := by
  intro pre e t u hpre
  exact absurd (List.prefix_nil.1 hpre) (by simp)

theorem guarded_cons {c : σ → ε → Prop} {s : σ} {e : ε} {es : List ε} :
    M.Guarded c s (e :: es) ↔ ∀ t, M.step s e = some t → c s e ∧ M.Guarded c t es := by
  constructor
  · intro h t ht
    refine ⟨h [] e s t (by simp) rfl ht, fun pre f u v hpre hrun hst => ?_⟩
    exact h (e :: pre) f u v (by simpa using hpre) (M.run_cons_eq_some.2 ⟨t, ht, hrun⟩) hst
  · intro h pre f u v hpre hrun hst
    cases pre with
    | nil =>
      cases hrun
      obtain ⟨rfl, -⟩ := List.cons_prefix_cons.1 hpre
      exact (h v hst).1
    | cons g pre =>
      obtain ⟨rfl, htail⟩ := List.cons_prefix_cons.1 hpre
      obtain ⟨t, ht, hrun⟩ := M.run_cons_eq_some.1 hrun
      exact (h t ht).2 pre f u v htail hrun hst

/-- The steps of a run are those of its parts. -/
theorem guarded_append {c : σ → ε → Prop} {s : σ} {es fs : List ε} :
    M.Guarded c s (es ++ fs) ↔
      M.Guarded c s es ∧ ∀ t, M.run s es = some t → M.Guarded c t fs := by
  induction es generalizing s with
  | nil => simp [guarded_nil]
  | cons e es ih =>
    rw [List.cons_append, guarded_cons, guarded_cons]
    constructor
    · intro h
      refine ⟨fun u hu => ⟨(h u hu).1, (ih.1 (h u hu).2).1⟩, fun t hrun => ?_⟩
      obtain ⟨u, hu, hrun⟩ := M.run_cons_eq_some.1 hrun
      exact (ih.1 (h u hu).2).2 t hrun
    · rintro ⟨h, hfs⟩ u hu
      exact ⟨(h u hu).1, ih.2 ⟨(h u hu).2, fun t hrun =>
        hfs t (M.run_cons_eq_some.2 ⟨u, hu, hrun⟩)⟩⟩

/-- Events that meet the condition in every state. -/
theorem guarded_of_forall {c : σ → ε → Prop} {s : σ} {es : List ε} (h : ∀ e ∈ es, ∀ t, c t e) :
    M.Guarded c s es :=
  fun _ e t _ hpre _ _ => h e (hpre.subset (by simp)) t

/-- A property that holds in every state of a run holds in its last one. -/
theorem Always.last {φ : σ → Prop} {s t : σ} {es : List ε} (h : M.Always φ s es)
    (hrun : M.run s es = some t) : φ t :=
  h es t (List.prefix_refl es) hrun

/-- A weaker property holds in every state where the stronger one does. -/
theorem Always.mono {φ ψ : σ → Prop} {s : σ} {es : List ε} (hφψ : ∀ t, φ t → ψ t)
    (h : M.Always φ s es) : M.Always ψ s es :=
  fun pre t hpre hrun => hφψ t (h pre t hpre hrun)

/-- What follows from a property of the state before a step holds of every step of a run that stays
in the property. -/
theorem Always.guarded {φ : σ → Prop} {c : σ → ε → Prop} {s : σ} {es : List ε}
    (h : M.Always φ s es) (hc : ∀ t e u, φ t → M.step t e = some u → c t e) : M.Guarded c s es :=
  fun pre e t u hpre hrun hst => hc t e u (h pre t ((List.prefix_append pre [e]).trans hpre) hrun) hst

/-- Two conditions that say the same of every step from a property that holds throughout the run. -/
theorem Always.guarded_congr {φ : σ → Prop} {c d : σ → ε → Prop} {s : σ} {es : List ε}
    (h : M.Always φ s es) (hcd : ∀ t e u, φ t → M.step t e = some u → (c t e ↔ d t e)) :
    M.Guarded c s es ↔ M.Guarded d s es := by
  have hφ : ∀ pre e t, pre ++ [e] <+: es → M.run s pre = some t → φ t :=
    fun pre e t hpre hrun => h pre t ((List.prefix_append pre [e]).trans hpre) hrun
  constructor
  · intro hc pre e t u hpre hrun hst
    exact (hcd t e u (hφ pre e t hpre hrun) hst).1 (hc pre e t u hpre hrun hst)
  · intro hd pre e t u hpre hrun hst
    exact (hcd t e u (hφ pre e t hpre hrun) hst).2 (hd pre e t u hpre hrun hst)

/-- A preserved property holds in every state of every run that starts in it. -/
theorem always_of_invariant {I : σ → Prop} (hstep : ∀ s e t, I s → M.step s e = some t → I t)
    {s : σ} (hs : I s) (es : List ε) : M.Always I s es :=
  fun _ _ _ hrun => run_invariant hstep hs hrun

/-- **The run rule.** A property that every step meeting `c` preserves holds in every state of a
run whose steps all meet `c`. -/
theorem always_of_guarded {I : σ → Prop} {c : σ → ε → Prop}
    (hstep : ∀ s e t, I s → M.step s e = some t → c s e → I t) {s : σ} {es : List ε}
    (hs : I s) (hc : M.Guarded c s es) : M.Always I s es := by
  induction es generalizing s with
  | nil => exact always_nil.2 hs
  | cons e es ih =>
    refine always_cons.2 ⟨hs, fun t ht => ?_⟩
    obtain ⟨hce, hrest⟩ := guarded_cons.1 hc t ht
    exact ih (hstep s e t hs ht hce) hrest

/-- **The exact run rule.** Where a step leads from `φ` to `φ` exactly if it meets `c`, the runs
that stay in `φ` are exactly the runs whose steps all meet `c`. The invariant `I` is what the
equivalence for one step may rest on besides `φ`. -/
theorem always_iff_guarded {I φ : σ → Prop} {c : σ → ε → Prop}
    (hinv : ∀ s e t, I s → M.step s e = some t → I t)
    (hstep : ∀ s e t, I s → φ s → M.step s e = some t → (φ t ↔ c s e)) {s : σ} {es : List ε}
    (hI : I s) (hφ : φ s) : M.Always φ s es ↔ M.Guarded c s es := by
  induction es generalizing s with
  | nil => exact iff_of_true (always_nil.2 hφ) guarded_nil
  | cons e es ih =>
    rw [always_cons, guarded_cons]
    constructor
    · rintro ⟨-, hes⟩ t ht
      have hφt : φ t := hes t ht [] t List.nil_prefix rfl
      exact ⟨(hstep s e t hI hφ ht).1 hφt, (ih (hinv s e t hI ht) hφt).1 (hes t ht)⟩
    · intro hes
      refine ⟨hφ, fun t ht => ?_⟩
      obtain ⟨hce, hrest⟩ := hes t ht
      have hφt : φ t := (hstep s e t hI hφ ht).2 hce
      exact (ih (hinv s e t hI ht) hφt).2 hrest

/-- The exact run rule where the step rests on nothing else. -/
theorem always_iff_guarded_of_step {φ : σ → Prop} {c : σ → ε → Prop}
    (hstep : ∀ s e t, φ s → M.step s e = some t → (φ t ↔ c s e)) {s : σ} {es : List ε} (hφ : φ s) :
    M.Always φ s es ↔ M.Guarded c s es :=
  always_iff_guarded (fun _ _ _ _ _ => trivial) (fun s e t (_ : True) => hstep s e t) trivial hφ

/-! ## What a run puts out -/

variable (M)

/-- What the steps of a run put out, in order, up to a step that is not enabled. -/
def outputs {ω : Type _} (out : σ → ε → List ω) : σ → List ε → List ω
  | _, [] => []
  | s, e :: es =>
    match M.step s e with
    | some t => out s e ++ outputs out t es
    | none => []

variable {M}

/-- **The output rule.** A relation between the state and what was put out so far that every step
keeps holds at the end of every run that starts in it. -/
theorem run_outputs {ω : Type _} {out : σ → ε → List ω} {I : σ → List ω → Prop}
    (hstep : ∀ s e t log, I s log → M.step s e = some t → I t (log ++ out s e)) {s t : σ}
    {es : List ε} {log : List ω} (hs : I s log) (hrun : M.run s es = some t) :
    I t (log ++ M.outputs out s es) := by
  induction es generalizing s log with
  | nil =>
    cases hrun
    rw [outputs, List.append_nil]
    exact hs
  | cons e es ih =>
    obtain ⟨u, hu, hrun⟩ := M.run_cons_eq_some.1 hrun
    simp only [outputs, hu]
    rw [← List.append_assoc]
    exact ih (hstep _ _ _ _ hs hu) hrun

end Machine
