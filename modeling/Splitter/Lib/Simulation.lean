import Mathlib.Logic.Function.Basic
import Splitter.Lib.Machine

/-!
# Simulations

`Simulation M N label R`: whatever the machine `M` does, `N` can do too. Each step of `M` is matched
by the events of `N` that `label` names, in their order, and by none where `N` stands still. So the
labels of a run of `M` are a run of `N` (`Simulation.run`), and they meet a condition of `N` where
the steps of `M` see to it (`Simulation.guarded`).

`M.team` is any number of copies of a machine side by side, with one event of one member at a time.
What one member does in a run of the team is a run of the machine (`team_member`).
-/

namespace Machine

variable {σ ε τ δ : Type _}

/-- `N` follows `M` through `R`: a step of `M` is matched by the events `label` gives for it. -/
structure Simulation (M : Machine σ ε) (N : Machine τ δ) (label : σ → ε → List δ)
    (R : σ → τ → Prop) : Prop where
  init : ∀ s, M.init s → ∃ t, N.init t ∧ R s t
  step : ∀ s e s' t, R s t → M.step s e = some s' → ∃ t', N.run t (label s e) = some t' ∧ R s' t'

namespace Simulation

variable {M : Machine σ ε} {N : Machine τ δ} {label : σ → ε → List δ} {R : σ → τ → Prop}

/-- **The labels of a run are a run.** -/
theorem run (h : Simulation M N label R) {s s' : σ} {t : τ} {es : List ε} (hR : R s t)
    (hrun : M.run s es = some s') :
    ∃ t', N.run t (M.outputs label s es) = some t' ∧ R s' t' := by
  induction es generalizing s t with
  | nil =>
    cases hrun
    exact ⟨t, rfl, hR⟩
  | cons e es ih =>
    obtain ⟨u, hu, hrun⟩ := M.run_cons_eq_some.1 hrun
    obtain ⟨v, hv, hR⟩ := h.step s e u t hR hu
    obtain ⟨t', ht', hR⟩ := ih hR hrun
    refine ⟨t', ?_, hR⟩
    simp only [outputs, hu]
    rw [N.run_append, hv]
    exact ht'

/-- A condition that the steps of a run meet passes to its labels, if the labels of each step that
meets it meet theirs. -/
theorem guarded (h : Simulation M N label R) {c : σ → ε → Prop} {d : τ → δ → Prop}
    (hlabel : ∀ s e s' t, R s t → M.step s e = some s' → c s e → N.Guarded d t (label s e))
    {s : σ} {t : τ} {es : List ε} (hR : R s t) (hguard : M.Guarded c s es) :
    N.Guarded d t (M.outputs label s es) := by
  induction es generalizing s t with
  | nil => exact Machine.guarded_nil
  | cons e es ih =>
    simp only [outputs]
    cases hu : M.step s e with
    | none => exact Machine.guarded_nil
    | some u =>
      obtain ⟨hc, hrest⟩ := Machine.guarded_cons.1 hguard u hu
      obtain ⟨v, hv, hR'⟩ := h.step s e u t hR hu
      refine Machine.guarded_append.2 ⟨hlabel s e u t hR hu hc, fun v' hv' => ?_⟩
      cases hv.symm.trans hv'
      exact ih hR' hrest

end Simulation

/-! ## Outputs of outputs -/

/-- To pick from what each step puts out is to pick from what the run puts out. -/
theorem outputs_filterMap {ω ω' : Type _} (M : Machine σ ε) (out : σ → ε → List ω)
    (f : ω → Option ω') (s : σ) (es : List ε) :
    M.outputs (fun s e => (out s e).filterMap f) s es = (M.outputs out s es).filterMap f := by
  induction es generalizing s with
  | nil => rfl
  | cons e es ih =>
    simp only [outputs]
    cases M.step s e with
    | none => rfl
    | some t => rw [List.filterMap_append, ← ih]

/-! ## A team -/

/-- Copies of a machine side by side. -/
def team {ι : Type _} [DecidableEq ι] (M : Machine σ ε) : Machine (ι → σ) (ι × ε) where
  init s := ∀ i, M.init (s i)
  step s e := (M.step (s e.1) e.2).map fun t => Function.update s e.1 t

/-- The events of one member. -/
def ofMember {ι : Type _} [DecidableEq ι] (i : ι) (_ : ι → σ) (e : ι × ε) : List ε :=
  if e.1 = i then [e.2] else []

section
variable {ι : Type _} [DecidableEq ι] {M : Machine σ ε}

/-- A step of the team is a step of one member. -/
theorem team_step {s t : ι → σ} {e : ι × ε} :
    M.team.step s e = some t ↔ ∃ u, M.step (s e.1) e.2 = some u ∧ t = Function.update s e.1 u := by
  show (M.step (s e.1) e.2).map _ = some t ↔ _
  rw [Option.map_eq_some_iff]
  simp only [eq_comm]

/-- A step of the team is a step of a member, or leaves it alone. -/
theorem team_step_member {s t : ι → σ} {e : ι × ε} (h : M.team.step s e = some t) (i : ι) :
    e.1 = i ∧ M.step (s i) e.2 = some (t i) ∨ t i = s i := by
  obtain ⟨u, hu, rfl⟩ := team_step.1 h
  by_cases hi : e.1 = i
  · subst hi
    exact .inl ⟨rfl, by rw [hu, Function.update_self]⟩
  · exact .inr (Function.update_of_ne (Ne.symm hi) ..)

/-- **What one member does in a run of the team is a run.** -/
theorem team_member (i : ι) :
    Simulation (M.team (ι := ι)) M (ofMember i) fun s t => t = s i where
  init s hs := ⟨s i, hs i, rfl⟩
  step s e s' t ht hst := by
    subst ht
    obtain ⟨u, hu, rfl⟩ := team_step.1 hst
    refine ⟨_, ?_, rfl⟩
    unfold ofMember
    split
    · next hi =>
      subst hi
      rw [run_cons, hu, Function.update_self]
      rfl
    · next hi =>
      rw [Function.update_of_ne (Ne.symm hi)]
      rfl

/-- A run of one member alone. -/
theorem team_run_map (i : ι) (s : ι → σ) (es : List ε) :
    M.team.run s (es.map (i, ·)) = (M.run (s i) es).map fun t => Function.update s i t := by
  induction es generalizing s with
  | nil => exact congrArg some (Function.update_eq_self i s).symm
  | cons e es ih =>
    rw [List.map_cons, run_cons, run_cons]
    show ((M.step (s i) e).map _).bind _ = _
    cases M.step (s i) e with
    | none => rfl
    | some u =>
      simp only [Option.map_some, Option.bind_some]
      rw [ih, Function.update_self]
      simp only [Function.update_idem]

end

end Machine
