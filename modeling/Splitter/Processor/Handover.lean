import Splitter.Processor.Drain

/-!
# What a task has done before it signals

The load signal and the unload signal of a grant are closed by its task alone. `Evidence` is what
their being closed says about the task's past, together with what the task knows at each point.
Every step of the task, every signal from outside and every event of the Range keeps it
(`Evidence.step`).
-/

namespace Splitter

/-- A signal from outside leaves the task's own two latches as they are. -/
theorem Signal.load_apply (o : Ownership) (sig : Signal) :
    (sig.apply o).loader.load = o.loader.load := by
  cases sig <;> rfl

theorem Signal.unload_apply (o : Ownership) (sig : Signal) :
    (sig.apply o).unloader.unload = o.unloader.unload := by
  cases sig <;> rfl

namespace GrantTask

/-- The counterpart has unloaded, or the grant was activated outright. -/
def Clear (s : GrantTask) : Prop :=
  s.ownership.active.isClosed = true ∨ s.ownership.loader.unloaded.isClosed = true

/-- The grant may be taken over and the Range is ready to. -/
def TakenOver (s : GrantTask) : Prop := s.Clear ∧ s.range.initialized.isClosed = true

/-- The load was signalled and the grant is active. -/
def Serving (s : GrantTask) : Prop :=
  s.ownership.loader.load.isClosed = true ∧ s.ownership.active.isClosed = true

/-- A serving grant was revoked. -/
def Revoked (s : GrantTask) : Prop := s.Serving ∧ s.ownership.revoked.isClosed = true

/-- A revoked grant's Range was asked to drain. -/
def Draining (s : GrantTask) : Prop := s.Revoked ∧ s.range.drainCalled.isSome = true

/-- The call of `drain` has returned a latch. -/
def DrainReturned (s : GrantTask) : Prop := s.Draining ∧ s.range.drainReturned = true

/-- The latch `drain` returned has closed. -/
def GivenUp (s : GrantTask) : Prop := s.DrainReturned ∧ s.range.drained.isClosed = true

/-- What the task knows at each point. -/
def Knows (s : GrantTask) : Prop :=
  match s.pc with
  | .allocated | .waitInit => s.Clear
  | .load => s.TakenOver
  | .loaded | .waitActive => s.ownership.loader.load.isClosed = true
  | .activate | .waitRevoke => s.Serving
  | .revoke | .drain => s.Revoked
  | .draining => s.Draining
  | .waitDrained => s.DrainReturned
  | .checkClosed | .unload => s.GivenUp
  | _ => True

/-- What the closed signals of a task say about its past. -/
structure Evidence (s : GrantTask) : Prop where
  load : s.ownership.loader.load.isClosed = true → s.TakenOver
  unload : s.ownership.unloader.unload.isClosed = true → s.GivenUp
  knows : s.Knows

/-! ## Latches only close -/

section
variable {s t : GrantTask} (ho : s.ownership.Le t.ownership) (hr : s.range.Le t.range)
include ho

theorem Clear.mono (h : s.Clear) : t.Clear := h.imp ho.active ho.unloaded

theorem Serving.mono (h : s.Serving) : t.Serving := ⟨ho.load h.1, ho.active h.2⟩

theorem Revoked.mono (h : s.Revoked) : t.Revoked := ⟨h.1.mono ho, ho.revoked h.2⟩

include hr

theorem TakenOver.mono (h : s.TakenOver) : t.TakenOver := ⟨h.1.mono ho, hr.initialized h.2⟩

theorem Draining.mono (h : s.Draining) : t.Draining := ⟨h.1.mono ho, hr.drainCalled h.2⟩

theorem DrainReturned.mono (h : s.DrainReturned) : t.DrainReturned :=
  ⟨h.1.mono ho hr, hr.drainReturned h.2⟩

theorem GivenUp.mono (h : s.GivenUp) : t.GivenUp := ⟨h.1.mono ho hr, hr.drained h.2⟩

/-- What is known at a point stays known while the task stands there. -/
theorem Knows.mono (h : s.Knows) (hpc : t.pc = s.pc) : t.Knows := by
  unfold Knows at h ⊢
  rw [hpc]
  split at h
  · exact h.mono ho
  · exact h.mono ho
  · exact h.mono ho hr
  · exact ho.load h
  · exact ho.load h
  · exact h.mono ho
  · exact h.mono ho
  · exact h.mono ho
  · exact h.mono ho
  · exact h.mono ho hr
  · exact h.mono ho hr
  · exact h.mono ho hr
  · exact h.mono ho hr
  · trivial

/-- What others do to a task leaves the evidence, since they do not touch its two signals. -/
theorem Evidence.mono (h : s.Evidence) (hpc : t.pc = s.pc)
    (hload : t.ownership.loader.load = s.ownership.loader.load)
    (hunload : t.ownership.unloader.unload = s.ownership.unloader.unload) : t.Evidence where
  load hclosed := (h.load (hload ▸ hclosed)).mono ho hr
  unload hclosed := (h.unload (hunload ▸ hclosed)).mono ho hr
  knows := h.knows.mono ho hr hpc

end

/-! ## One step -/

/-- A step of the task that closes neither signal needs only what it comes to know. -/
theorem Evidence.goto {s : GrantTask} (h : s.Evidence) {pc : Pc} (hknows : (s.goto pc).Knows) :
    (s.goto pc).Evidence where
  load := h.load
  unload := h.unload
  knows := hknows

/-- A task that has just been handed a Range, with neither signal closed. -/
theorem Evidence.start {s : GrantTask} (hpc : s.pc = .waitUnload)
    (hload : s.ownership.loader.load.isClosed = false)
    (hunload : s.ownership.unloader.unload.isClosed = false) : s.Evidence where
  load h := by rw [hload] at h; cases h
  unload h := by rw [hunload] at h; cases h
  knows := by unfold Knows; rw [hpc]; trivial

/-- **The step lemma.** -/
theorem Evidence.step {s t : GrantTask} {e : Event} (h : s.Evidence) (hst : s.step e = some t) :
    t.Evidence := by
  cases e with
  | signal sig =>
    cases hst
    exact h.mono (Signal.le_apply _ sig) (.refl _) rfl (Signal.load_apply _ sig)
      (Signal.unload_apply _ sig)
  | range e =>
    obtain ⟨range, hrange, rfl⟩ := Option.map_eq_some_iff.1 hst
    have hle := RangeState.le_step hrange
    exact h.mono (.refl s.ownership) hle rfl rfl rfl
  | run b now =>
    have hknows := h.knows
    unfold Knows at hknows
    cases run_cases hst with
    | unloadOk hpc hclosed => exact h.goto hclosed
    | allocated hpc | loaded hpc | activate hpc | revoke hpc =>
      rw [hpc] at hknows
      exact h.goto hknows
    | initOk hpc hclosed =>
      rw [hpc] at hknows
      exact h.goto ⟨hknows, hclosed⟩
    | load hpc =>
      rw [hpc] at hknows
      exact
        { load := fun _ => hknows
          unload := fun hclosed => (h.unload hclosed).mono s.ownership.le_load (.refl _)
          knows := rfl }
    | activeOk hpc hclosed =>
      rw [hpc] at hknows
      exact h.goto ⟨hknows, hclosed⟩
    | revokeOk hpc hclosed =>
      rw [hpc] at hknows
      exact h.goto ⟨hknows, hclosed⟩
    | drain timeout hpc =>
      rw [hpc] at hknows
      have hle : s.range.Le { s.range with drainCalled := some timeout } :=
        { RangeState.Le.refl s.range with drainCalled := fun _ => rfl }
      exact
        { load := h.load
          unload := fun hclosed => (h.unload hclosed).mono (.refl s.ownership) hle
          knows := ⟨hknows, rfl⟩ }
    | drainReturned hpc hreturned =>
      rw [hpc] at hknows
      exact h.goto ⟨hknows, hreturned⟩
    | drainedOk hpc hclosed =>
      rw [hpc] at hknows
      exact h.goto ⟨hknows, hclosed⟩
    | openAfterDrain hpc =>
      rw [hpc] at hknows
      exact h.goto hknows
    | unload hpc =>
      rw [hpc] at hknows
      exact
        { load := h.load
          unload := fun _ => hknows.mono s.ownership.le_unload (.refl s.range)
          knows := trivial }
    | close hpc => exact { load := h.load, unload := h.unload, knows := trivial }
    | _ => exact h.goto trivial

end GrantTask

end Splitter
