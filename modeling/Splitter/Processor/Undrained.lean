import Splitter.Processor.Drain

/-!
# Ranges that are closed undrained

`run_grant` calls `drain` in step 4, once its wait for the revoke has ended in the revoke. Every
other way out before that leads to the clean-up, which closes a Range that was never drained.
`Committed` lists, for each point, what must hold so that no branch leads there any more;
`not_canDrop_iff` says that it lists no more than that, and `committed_step_iff` what a step must
meet to leave it so.
-/

namespace Splitter

/-- The user's Range does not call `drain`. -/
theorem RangeState.drainCalled_step {r r' : RangeState} {e : RangeEvent} (h : r.step e = some r') :
    r'.drainCalled = r.drainCalled := by
  cases e with
  | initialized | closeItself =>
    cases h
    rfl
  | drainReturn | drainClose =>
    simp only [RangeState.step] at h
    split at h
    · cases h
      rfl
    · cases h

namespace GrantTask

open Ownership (Branch)

/-- The points up to the wait for the revoke. -/
def Pc.BeforeRevoke : Pc → Prop
  | .waitUnload | .allocated | .waitInit | .load | .loaded | .waitActive | .activate
  | .waitRevoke => True
  | _ => False

/-- `run_grant` has returned, and its guard has closed a Range that was never drained. -/
def Dropped (s : GrantTask) : Prop :=
  (∃ exit, s.pc = .returned exit) ∧ s.range.drainCalled = none

/-- By steps of `run_grant` alone, the Range can come to be closed undrained. -/
def CanDrop (s : GrantTask) : Prop :=
  ∃ steps : List (Branch × SystemTime), ∃ t,
    machine.run s (steps.map fun step => .run step.1 step.2) = some t ∧ t.Dropped

/-- Every branch that `run_grant` can still take leads to the call of `drain`, or it has been
called. -/
def Committed (s : GrantTask) : Prop :=
  match s.pc with
  | .waitUnload =>
    s.ownership.expired.isClosed = false ∧ s.ownership.revoked.isClosed = false ∧
      s.range.closed.isClosed = false
  | .allocated | .waitInit =>
    s.ownership.expired.isClosed = false ∧ s.range.closed.isClosed = false ∧
      (s.ownership.revoked.isClosed = true → s.range.initialized.isClosed = false)
  | .load | .loaded | .waitActive =>
    s.ownership.expired.isClosed = false ∧ s.ownership.revoked.isClosed = false
  | .activate | .waitRevoke => s.ownership.expired.isClosed = false
  | .revoke | .drain => True
  | _ => s.range.drainCalled.isSome = true

/-- `drain` is called in its place and nowhere else. -/
def DrainsInPlace (s : GrantTask) : Prop :=
  match s.pc with
  | .waitUnload | .allocated | .waitInit | .load | .loaded | .waitActive | .activate | .waitRevoke
  | .revoke | .drain => s.range.drainCalled = none
  | .draining | .waitDrained | .checkClosed | .unload | .unloaded | .waitLoad =>
    s.range.drainCalled.isSome = true
  | .delete _ | .close _ | .returned _ => True

/-- What a step must meet. The grant does not expire before its wait for the revoke has ended; it is
not revoked before its wait for the activation has, except where the Range is still to be
initialized, and then the Range stays so; and the Range does not close itself before that. -/
def DrainsFirst (s : GrantTask) : Event → Prop
  | .signal .expire => ¬ s.pc.BeforeRevoke
  | .signal .revoke =>
    match s.pc with
    | .waitUnload | .load | .loaded | .waitActive => False
    | .allocated | .waitInit => s.range.initialized.isClosed = false
    | _ => True
  | .range .closeItself =>
    match s.pc with
    | .waitUnload | .allocated | .waitInit => False
    | _ => True
  | .range .initialized =>
    match s.pc with
    | .allocated | .waitInit => s.ownership.revoked.isClosed = false
    | _ => True
  | _ => True

variable {s t : GrantTask} {b : Branch} {now : SystemTime}

/-! ## Where `drain` is called -/

/-- **One step.** -/
theorem DrainsInPlace.step {e : Event} (h : s.DrainsInPlace) (hst : s.step e = some t) :
    t.DrainsInPlace := by
  cases e with
  | signal sig =>
    cases hst
    exact h
  | range e =>
    obtain ⟨range, hrange, rfl⟩ := Option.map_eq_some_iff.1 hst
    unfold DrainsInPlace at h ⊢
    rw [← RangeState.drainCalled_step hrange] at h
    exact h
  | run b now =>
    unfold DrainsInPlace at h
    cases run_cases hst with
    | unloadOk hpc | allocated hpc | initOk hpc | load hpc | loaded hpc | activeOk hpc
    | activate hpc | revokeOk hpc | revoke hpc | drainReturned hpc | drainedOk hpc
    | openAfterDrain hpc | unload hpc | unloaded hpc =>
      rw [hpc] at h
      exact h
    | drain => exact rfl
    | _ => trivial

/-! ## Committed tasks -/

/-- **A committed task stays so**, whatever branch it takes. -/
theorem Committed.run (h : s.Committed) (hrun : s.run b now = some t) : t.Committed := by
  unfold Committed at h
  cases run_cases hrun with
  | unloadOk hpc =>
    rw [hpc] at h
    obtain ⟨hexp, hopen, hrange⟩ := h
    refine ⟨hexp, hrange, fun hrevoked => ?_⟩
    have hrevoked : s.ownership.revoked.isClosed = true := hrevoked
    rw [hopen] at hrevoked
    cases hrevoked
  | initOk hpc hinit =>
    rw [hpc] at h
    obtain ⟨hexp, -, hrevoked⟩ := h
    refine ⟨hexp, Bool.eq_false_iff.2 fun hclosed => ?_⟩
    rw [hrevoked hclosed] at hinit
    cases hinit
  | allocated hpc | load hpc | loaded hpc | activate hpc | drainReturned hpc | drainedOk hpc
  | closedAfterDrain hpc | openAfterDrain hpc | unload hpc | unloaded hpc | drainedExpired hpc
  | finish _ hpc | delete hpc | close hpc =>
    rw [hpc] at h
    exact h
  | activeOk hpc =>
    rw [hpc] at h
    exact h.1
  | revokeOk hpc | revoke hpc => trivial
  | drain => exact rfl
  | unloadExpired hpc hclosed | initExpired hpc hclosed | activeExpired hpc hclosed =>
    rw [hpc] at h
    have hexp := h.1
    rw [hclosed] at hexp
    cases hexp
  | revokeExpired hpc hclosed =>
    rw [hpc] at h
    have hexp : s.ownership.expired.isClosed = false := h
    rw [hclosed] at hexp
    cases hexp
  | unloadRevoked hpc hclosed =>
    rw [hpc] at h
    have hopen := h.2.1
    rw [hclosed] at hopen
    cases hopen
  | activeRevoked hpc hclosed =>
    rw [hpc] at h
    have hopen := h.2
    rw [hclosed] at hopen
    cases hopen
  | initClosed hpc hclosed =>
    rw [hpc] at h
    have hopen := h.2.1
    rw [hclosed] at hopen
    cases hopen

theorem Committed.not_canDrop (h : s.Committed) : ¬ s.CanDrop := by
  rintro ⟨steps, t, hrun, ⟨exit, hpc⟩, hnone⟩
  have ht : t.Committed := by
    induction steps generalizing s with
    | nil =>
      cases hrun
      exact h
    | cons step steps ih =>
      obtain ⟨u, hst, hrun⟩ := machine.run_cons_eq_some.1 hrun
      exact ih (h.run hst) hrun
  unfold Committed at ht
  rw [hpc] at ht
  have ht : t.range.drainCalled.isSome = true := ht
  rw [hnone] at ht
  cases ht

/-! ## The ways out -/

/-- One step of `run_grant` towards the clean-up. -/
theorem CanDrop.of_run (hrun : s.run b now = some t) (h : t.CanDrop) : s.CanDrop := by
  obtain ⟨steps, u, hsteps, hdropped⟩ := h
  exact ⟨(b, now) :: steps, u, machine.run_cons_eq_some.2 ⟨t, hrun, hsteps⟩, hdropped⟩

/-- The clean-up of a Range that was not drained. -/
theorem canDrop_of_delete {exit : Exit} (hpc : s.pc = .delete exit)
    (hnone : s.range.drainCalled = none) : s.CanDrop := by
  obtain ⟨pc, o, range⟩ := s
  cases hpc
  exact ⟨[(.go, SystemTime.unixEpoch), (.go, SystemTime.unixEpoch)], _, rfl, ⟨exit, rfl⟩, hnone⟩

section
variable (hnone : s.range.drainCalled = none)
include hnone

theorem canDrop_of_bail {exit : Exit} (hrun : s.run b now = some (s.goto (.delete exit))) :
    s.CanDrop :=
  .of_run hrun (canDrop_of_delete rfl hnone)

/-- Out of step 4. -/
theorem canDrop_waitRevoke (hpc : s.pc = .waitRevoke)
    (hexp : s.ownership.expired.isClosed = true) : s.CanDrop := by
  have hrun : s.run .expired SystemTime.unixEpoch = some (s.goto (.delete (.step4 .expired))) := by
    simp [GrantTask.run, hpc, wait, Ownership.waitForRevoke, Latch.closed, hexp]
  exact canDrop_of_bail hnone hrun

/-- Out of step 3. -/
theorem canDrop_waitActive (hpc : s.pc = .waitActive)
    (h : s.ownership.expired.isClosed = true ∨ s.ownership.revoked.isClosed = true) :
    s.CanDrop := by
  rcases h with hexp | hrevoked
  · have hrun : s.run .expired SystemTime.unixEpoch = some (s.goto (.delete (.step3 .expired))) := by
      simp [GrantTask.run, hpc, wait, Ownership.waitForActive, Latch.closed, hexp]
    exact canDrop_of_bail hnone hrun
  · have hrun : s.run .revoked SystemTime.unixEpoch = some (s.goto (.delete (.step3 .revoked))) := by
      simp [GrantTask.run, hpc, wait, Ownership.waitForActive, Latch.closed, hrevoked]
    exact canDrop_of_bail hnone hrun

/-- Out of step 3, from its two points before. -/
theorem canDrop_step3 (hpc : s.pc = .load ∨ s.pc = .loaded)
    (h : s.ownership.expired.isClosed = true ∨ s.ownership.revoked.isClosed = true) :
    s.CanDrop := by
  have hloaded {u : GrantTask} (hnone : u.range.drainCalled = none) (hpc : u.pc = .loaded)
      (h : u.ownership.expired.isClosed = true ∨ u.ownership.revoked.isClosed = true) :
      u.CanDrop := by
    have hrun : u.run .go SystemTime.unixEpoch = some (u.goto .waitActive) := by
      simp [GrantTask.run, hpc, straight]
    exact .of_run hrun (canDrop_waitActive hnone rfl h)
  rcases hpc with hpc | hpc
  · have hrun : s.run .go SystemTime.unixEpoch =
        some { s with ownership := s.ownership.load, pc := .loaded } := by
      simp [GrantTask.run, hpc, straight]
    exact .of_run hrun (hloaded hnone rfl h)
  · exact hloaded hnone hpc h

/-- Out of step 2. -/
theorem canDrop_waitInit (hpc : s.pc = .waitInit)
    (h : s.ownership.expired.isClosed = true ∨ s.range.closed.isClosed = true ∨
      s.ownership.revoked.isClosed = true ∧ s.range.initialized.isClosed = true) :
    s.CanDrop := by
  rcases h with hexp | hclosed | ⟨hrevoked, hinit⟩
  · have hrun : s.run .expired SystemTime.unixEpoch = some (s.goto (.delete (.init .expired))) := by
      simp [GrantTask.run, hpc, wait, Ownership.waitForAction, Latch.closed, hexp]
    exact canDrop_of_bail hnone hrun
  · have hrun : s.run .closed SystemTime.unixEpoch = some (s.goto (.delete .closedDuringInit)) := by
      simp [GrantTask.run, hpc, Latch.closed, hclosed]
    exact canDrop_of_bail hnone hrun
  · have hrun : s.run .action SystemTime.unixEpoch = some (s.goto .load) := by
      simp [GrantTask.run, hpc, wait, Ownership.waitForAction, Latch.closed, hinit]
    exact .of_run hrun (canDrop_step3 hnone (.inl rfl) (.inr hrevoked))

/-- Out of step 2, from its first point. -/
theorem canDrop_allocated (hpc : s.pc = .allocated)
    (h : s.ownership.expired.isClosed = true ∨ s.range.closed.isClosed = true ∨
      s.ownership.revoked.isClosed = true ∧ s.range.initialized.isClosed = true) :
    s.CanDrop := by
  have hrun : s.run .go SystemTime.unixEpoch = some (s.goto .waitInit) := by
    simp [GrantTask.run, hpc, straight]
  exact .of_run hrun (canDrop_waitInit hnone rfl h)

/-- Out of step 1, or out of step 2 after the grant was found active. -/
theorem canDrop_waitUnload (hpc : s.pc = .waitUnload)
    (hactive : s.ownership.active.isClosed = true)
    (h : s.ownership.expired.isClosed = true ∨ s.ownership.revoked.isClosed = true ∨
      s.range.closed.isClosed = true) : s.CanDrop := by
  rcases h with hexp | hrevoked | hclosed
  · have hrun : s.run .expired SystemTime.unixEpoch = some (s.goto (.delete (.step1 .expired))) := by
      simp [GrantTask.run, hpc, wait, Ownership.waitForUnload, Latch.closed, hexp]
    exact canDrop_of_bail hnone hrun
  · have hrun : s.run .revoked SystemTime.unixEpoch = some (s.goto (.delete (.step1 .revoked))) := by
      simp [GrantTask.run, hpc, wait, Ownership.waitForUnload, Latch.closed, hrevoked]
    exact canDrop_of_bail hnone hrun
  · have hrun : s.run .active SystemTime.unixEpoch = some (s.goto .allocated) := by
      simp [GrantTask.run, hpc, wait, Ownership.waitForUnload, Latch.closed, hactive]
    exact .of_run hrun (canDrop_allocated hnone rfl (.inr (.inl hclosed)))

end

/-- **What it takes not to drop a Range**: the task of an active grant cannot drop its Range by any
branch exactly if it is committed. -/
theorem not_canDrop_iff (hactive : s.ownership.active.isClosed = true) (hplace : s.DrainsInPlace) :
    ¬ s.CanDrop ↔ s.Committed := by
  refine ⟨fun h => ?_, Committed.not_canDrop⟩
  have hkept {exit : Exit} (hdelete : s.pc = .delete exit ∨ s.pc = .close exit ∨
      s.pc = .returned exit) : s.range.drainCalled.isSome = true := by
    by_contra hnone
    have hnone : s.range.drainCalled = none := by simpa using hnone
    obtain ⟨pc, o, range⟩ := s
    rcases hdelete with hpc | hpc | hpc
    · exact h (canDrop_of_delete hpc hnone)
    · cases hpc
      exact h ⟨[(.go, SystemTime.unixEpoch)], _, rfl, ⟨exit, rfl⟩, hnone⟩
    · exact h ⟨[], _, rfl, ⟨exit, hpc⟩, hnone⟩
  unfold DrainsInPlace at hplace
  unfold Committed
  cases hpc : s.pc with
  | waitUnload =>
    rw [hpc] at hplace
    simpa using mt (canDrop_waitUnload hplace hpc hactive) h
  | allocated =>
    rw [hpc] at hplace
    simpa using mt (canDrop_allocated hplace hpc) h
  | waitInit =>
    rw [hpc] at hplace
    simpa using mt (canDrop_waitInit hplace hpc) h
  | load =>
    rw [hpc] at hplace
    simpa using mt (canDrop_step3 hplace (.inl hpc)) h
  | loaded =>
    rw [hpc] at hplace
    simpa using mt (canDrop_step3 hplace (.inr hpc)) h
  | waitActive =>
    rw [hpc] at hplace
    simpa using mt (canDrop_waitActive hplace hpc) h
  | activate =>
    rw [hpc] at hplace
    have hrun : s.run .go SystemTime.unixEpoch = some (s.goto .waitRevoke) := by
      simp [GrantTask.run, hpc, straight]
    have hopen := mt (fun hexp => CanDrop.of_run hrun (canDrop_waitRevoke hplace rfl hexp)) h
    simpa [goto] using hopen
  | waitRevoke =>
    rw [hpc] at hplace
    simpa using mt (canDrop_waitRevoke hplace hpc) h
  | revoke | drain => trivial
  | draining | waitDrained | checkClosed | unload | unloaded | waitLoad =>
    rw [hpc] at hplace
    exact hplace
  | delete exit => exact hkept (.inl hpc)
  | close exit => exact hkept (.inr (.inl hpc))
  | returned exit => exact hkept (.inr (.inr hpc))

/-! ## One step -/

/-- **The step lemma.** A step of a committed task, or next to one, leaves it committed exactly if it
meets the condition. -/
theorem committed_step_iff {e : Event} (h : s.Committed) (hst : s.step e = some t) :
    t.Committed ↔ s.DrainsFirst e := by
  cases e with
  | run b now => exact iff_of_true (h.run hst) trivial
  | signal sig =>
    cases hst
    obtain ⟨pc, o, range⟩ := s
    cases sig with
    | expire =>
      cases pc with
      | waitUnload | allocated | waitInit | load | loaded | waitActive =>
        exact iff_of_false (fun ht => by cases ht.1) fun hc => hc trivial
      | activate | waitRevoke => exact iff_of_false (fun ht => by cases ht) fun hc => hc trivial
      | _ => exact iff_of_true h id
    | revoke =>
      cases pc with
      | waitUnload => exact iff_of_false (fun ht => by cases ht.2.1) id
      | load | loaded | waitActive => exact iff_of_false (fun ht => by cases ht.2) id
      | allocated | waitInit => exact ⟨fun ht => ht.2.2 rfl, fun hc => ⟨h.1, h.2.1, fun _ => hc⟩⟩
      | _ => exact iff_of_true h trivial
    | _ => exact iff_of_true h trivial
  | range e =>
    obtain ⟨range', hrange, rfl⟩ := Option.map_eq_some_iff.1 hst
    have hcalled := RangeState.drainCalled_step hrange
    obtain ⟨pc, o, range⟩ := s
    cases e with
    | closeItself =>
      cases hrange
      cases pc with
      | waitUnload => exact iff_of_false (fun ht => by cases ht.2.2) id
      | allocated | waitInit => exact iff_of_false (fun ht => by cases ht.2.1) id
      | _ => exact iff_of_true h trivial
    | initialized =>
      cases hrange
      cases pc with
      | allocated | waitInit =>
        constructor
        · rintro ⟨-, -, hrevoked⟩
          exact Bool.eq_false_iff.2 fun hclosed => by cases hrevoked hclosed
        · intro hopen
          refine ⟨h.1, h.2.1, fun hclosed => ?_⟩
          have hclosed : o.revoked.isClosed = true := hclosed
          have hopen : o.revoked.isClosed = false := hopen
          rw [hopen] at hclosed
          cases hclosed
      | _ => exact iff_of_true h trivial
    | drainReturn | drainClose =>
      refine iff_of_true ?_ trivial
      simp only [RangeState.step] at hrange
      split at hrange
      · cases hrange
        cases pc <;> exact h
      · cases hrange

/-- The latches of the ownership only close. -/
theorem le_step {e : Event} (hst : s.step e = some t) : s.ownership.Le t.ownership := by
  cases e with
  | signal sig =>
    cases hst
    exact sig.le_apply s.ownership
  | range e =>
    obtain ⟨range, -, rfl⟩ := Option.map_eq_some_iff.1 hst
    exact .refl _
  | run b now => exact le_run hst

/-- No step that fails the condition moves the deadline. -/
theorem expiration_step {e : Event} (hc : ¬ s.DrainsFirst e) (hst : s.step e = some t) :
    t.ownership.expiration = s.ownership.expiration := by
  cases e with
  | signal sig =>
    cases hst
    cases sig with
    | setExpiration => exact absurd trivial hc
    | _ => rfl
  | range e =>
    obtain ⟨range, -, rfl⟩ := Option.map_eq_some_iff.1 hst
    rfl
  | run b now => exact absurd trivial hc

/-! ## Active grants -/

/-- The grant is active and its Range is held: the task stands before the end of its wait for the
revoke. -/
structure HoldsActive (s : GrantTask) : Prop where
  active : s.ownership.active.isClosed = true
  revoked : s.ownership.revoked.isClosed = false
  expired : s.ownership.expired.isClosed = false
  undrained : s.range.drainCalled = none
  held : s.pc.BeforeRevoke

/-- The Range has not closed itself while the task has still to wait for its initialization. -/
def OpenToInit (s : GrantTask) : Prop :=
  s.pc = .waitUnload ∨ s.pc = .allocated ∨ s.pc = .waitInit → s.range.closed.isClosed = false

theorem HoldsActive.drainsInPlace (h : s.HoldsActive) : s.DrainsInPlace := by
  have hheld := h.held
  unfold Pc.BeforeRevoke at hheld
  unfold DrainsInPlace
  split at hheld
  all_goals first
    | exact hheld.elim
    | next hpc => rw [hpc]; exact h.undrained

/-- The task of an active grant is committed as long as its Range has not closed itself in time. -/
theorem HoldsActive.committed_iff (h : s.HoldsActive) : s.Committed ↔ s.OpenToInit := by
  obtain ⟨-, hrevoked, hexpired, -, hheld⟩ := h
  unfold Committed OpenToInit
  cases hpc : s.pc with
  | waitUnload | allocated | waitInit | load | loaded | waitActive => simp [hrevoked, hexpired]
  | activate | waitRevoke => simp [hexpired]
  | _ =>
    rw [hpc] at hheld
    exact hheld.elim

/-- What is committed has its Range open in time. -/
theorem Committed.openToInit (h : s.Committed) : s.OpenToInit := by
  unfold Committed at h
  rintro (hpc | hpc | hpc)
  · rw [hpc] at h
    exact h.2.2
  · rw [hpc] at h
    exact h.2.1
  · rw [hpc] at h
    exact h.2.1

end GrantTask

end Splitter
