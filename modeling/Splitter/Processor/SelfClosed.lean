import Splitter.Processor.Hold

/-!
# A Range that closes itself

A Range that has closed itself is dead, and its grant should only be cleaned up. `run_grant` looks
at the Range's `closed` latch in two places, in the `select!` of step 2 and after the drain; at every
other point it goes on as if the Range lived. `stops_iff` says in which runs it never does.
-/

namespace Splitter

namespace GrantTask

open Ownership (Branch)

/-! ## Forward transitions -/

/-- The points whose step takes the grant forward: a write to the grant map, or a call of `load`,
`drain` or `unload`. -/
def Pc.Forward : Pc → Prop
  | .allocated | .load | .loaded | .activate | .revoke | .drain | .unload | .unloaded => True
  | _ => False

/-- The branches of a wait that lead on to a forward transition with no further look at the Range. -/
def Pc.Advances : Pc → Branch → Prop
  | .waitUnload, .active | .waitUnload, .unloaded | .waitInit, .action | .waitActive, .active
  | .waitRevoke, .revoked => True
  | _, _ => False

variable {s t : GrantTask} {b : Branch} {now : SystemTime}

/-- A forward transition waits for nothing. -/
theorem exists_run_of_forward (hpc : s.pc.Forward) (now : SystemTime) :
    ∃ t, s.run .go now = some t := by
  obtain ⟨pc, o, range⟩ := s
  cases pc with
  | allocated | load | loaded | activate | revoke | drain | unload | unloaded => exact ⟨_, rfl⟩
  | _ => exact hpc.elim

/-- A step that is no forward transition, of a task whose Range has closed, leads to one exactly
where a wait ends in the grant's favour. -/
theorem forward_iff_advances (hrun : s.run b now = some t) (hpc : ¬ s.pc.Forward)
    (hclosed : s.range.closed.isClosed = true) : t.pc.Forward ↔ s.pc.Advances b := by
  by_cases hwait : s.pc = .waitUnload
  · simp only [run, hwait] at hrun
    rw [hwait]
    cases b with
    | active | unloaded =>
      obtain ⟨r, hr, rfl⟩ := Option.map_eq_some_iff.1 hrun
      obtain ⟨-, rfl⟩ := Latch.closed_eq_some.1 hr
      exact iff_of_true trivial trivial
    | revoked | expired =>
      obtain ⟨r, hr, rfl⟩ := Option.map_eq_some_iff.1 hrun
      obtain ⟨-, rfl⟩ := Latch.closed_eq_some.1 hr
      exact Iff.rfl
    | _ => cases hrun
  · cases run_cases hrun with
    | unloadOk hat | unloadRevoked hat | unloadExpired hat => exact absurd hat hwait
    | allocated hat | load hat | loaded hat | activate hat | revoke hat | drain _ hat | unload hat
    | unloaded hat =>
      rw [hat] at hpc
      exact absurd trivial hpc
    | openAfterDrain _ hopen =>
      rw [hopen] at hclosed
      cases hclosed
    | initOk hat | activeOk hat | revokeOk hat =>
      rw [hat]
      exact iff_of_true trivial trivial
    | initExpired hat | initClosed hat | activeRevoked hat | activeExpired hat | revokeExpired hat
    | drainReturned hat | drainedOk hat | drainedExpired hat | closedAfterDrain hat | finish _ hat
    | delete hat | close hat =>
      rw [hat]
      exact Iff.rfl

/-! ## What a closed Range owes -/

/-- The step is no forward transition of a grant whose Range has closed itself. -/
def Stops (s : GrantTask) (e : Event) : Prop :=
  s.range.closed.isClosed = true → ∀ b now, e = .run b now → ¬ s.pc.Forward

/-- The task does not stand at a forward transition with its Range closed. -/
def Stopped (s : GrantTask) : Prop := s.range.closed.isClosed = true → ¬ s.pc.Forward

/-- What a step must meet: the Range does not close itself while the task stands at a forward
transition, and no wait of a grant whose Range has closed itself ends in its favour. -/
def HeedsClosed (s : GrantTask) : Event → Prop
  | .range .closeItself => ¬ s.pc.Forward
  | .run b _ => s.range.closed.isClosed = true → ¬ s.pc.Advances b
  | _ => True

/-- **One step.** -/
theorem stopped_step_iff {e : Event} (h : s.Stopped) (hst : s.step e = some t) :
    t.Stopped ↔ s.HeedsClosed e := by
  cases e with
  | signal sig =>
    cases hst
    exact iff_of_true h trivial
  | range e =>
    obtain ⟨range, hrange, rfl⟩ := Option.map_eq_some_iff.1 hst
    cases e with
    | closeItself =>
      cases hrange
      exact ⟨fun hstop => hstop rfl, fun hpc _ => hpc⟩
    | initialized =>
      cases hrange
      exact iff_of_true h trivial
    | drainReturn | drainClose =>
      simp only [RangeState.step] at hrange
      split at hrange
      · cases hrange
        exact iff_of_true h trivial
      · cases hrange
  | run b now =>
    have hkept : t.range.closed = s.range.closed := by cases run_cases hst <;> rfl
    unfold Stopped
    rw [hkept]
    refine forall_congr' fun hclosed => not_congr ?_
    exact forward_iff_advances hst (h hclosed) hclosed

/-- The runs that never stand at a forward transition with the Range closed are those none of whose
beginnings can be continued by one. -/
theorem always_stopped_iff {es : List Event} (now : SystemTime) :
    machine.Always Stopped s es ↔
      ∀ pre, pre <+: es → machine.Guarded Stops s (pre ++ [.run .go now]) := by
  constructor
  · rintro h pre hpre ini e u v hini hrun - hclosed b now rfl
    refine h ini u (List.IsPrefix.trans ?_ hpre) hrun hclosed
    have hlen := hini.length_le
    simp only [List.length_append, List.length_singleton, Nat.add_le_add_iff_right] at hlen
    exact List.prefix_of_prefix_length_le ((List.prefix_append ini _).trans hini)
      (List.prefix_append pre _) hlen
  · intro h pre u hpre hrun hclosed hpc
    obtain ⟨v, hv⟩ := exists_run_of_forward hpc now
    exact h pre hpre pre (.run .go now) u v (List.prefix_refl _) hrun hv hclosed _ _ rfl hpc

/-- **When a closed Range stops the state machine.** -/
theorem stops_iff {es : List Event} (hinit : machine.init s) (now : SystemTime) :
    (∀ pre, pre <+: es → machine.Guarded Stops s (pre ++ [.run .go now])) ↔
      machine.Guarded HeedsClosed s es := by
  rw [← always_stopped_iff]
  refine Machine.always_iff_guarded_of_step (fun _ _ _ hs hst => stopped_step_iff hs hst) ?_
  intro _ hpc
  rw [hinit.1] at hpc
  exact hpc

/-! ## Two runs -/

/-- A Range that closes itself during its initialization. -/
def closedInitRun : List Event :=
  [.signal .activate, .at .active, .at .go, .range .closeItself, .at .closed]

/-- The task sees it. -/
theorem stops_closedInitRun : machine.Guarded Stops fresh (closedInitRun ++ [.at .go]) := by
  refine (stops_iff ⟨rfl, rfl⟩ SystemTime.unixEpoch).2 ?_ closedInitRun (List.prefix_refl _)
  refine Machine.guarded_cons.2 fun s₁ h₁ => ⟨trivial, ?_⟩
  cases h₁
  refine Machine.guarded_cons.2 fun s₂ h₂ => ⟨fun h => (by cases h), ?_⟩
  cases h₂
  refine Machine.guarded_cons.2 fun s₃ h₃ => ⟨fun h => (by cases h), ?_⟩
  cases h₃
  refine Machine.guarded_cons.2 fun s₄ h₄ => ⟨fun h => h, ?_⟩
  cases h₄
  exact Machine.guarded_cons.2 fun s₅ _ => ⟨fun _ h => h, Machine.guarded_nil⟩

/-- A Range that has closed itself when its grant is activated. -/
def deadRun : List Event :=
  [.signal .counterpartUnloaded, .at .unloaded, .at .go, .range .initialized, .at .action, .at .go,
    .at .go, .range .closeItself, .signal .activate, .at .active]

/-- **A dead Range is marked Active.** In step 3 nothing looks at the Range: the task's next step
writes the state Active for a Range that has closed itself. -/
theorem deadRun_not_stops :
    machine.init fresh ∧ ¬ machine.Guarded Stops fresh (deadRun ++ [.at .go]) := by
  refine ⟨⟨rfl, rfl⟩, fun h => ?_⟩
  exact h deadRun (.at .go) ((machine.run fresh deadRun).get rfl) _ (List.prefix_refl _) rfl rfl rfl
    _ _ rfl trivial

end GrantTask

end Splitter
