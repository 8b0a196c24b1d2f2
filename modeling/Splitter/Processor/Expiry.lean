import Splitter.Processor.Hold

/-!
# Expiry against the waits

Every wait of a grant's life races the expired latch against others in an unbiased `select!`, so an
expired lease does not decide the race. `expiry_dominates_iff` says when it does: exactly where none
of the other latches of the wait is closed, and what that means for the step `run_grant` takes.

One suspension point does not race at all: the call of `drain`, which is user code.
`exitable_iff` says in which runs an expired grant can always get to its clean-up by steps of
`run_grant` alone.
-/

namespace Splitter

namespace Ownership

/-! ## The waits -/

/-- The waits of a grant's life cycle. -/
inductive Wait
  | unload
  | active
  | revoke
  | load
  | action (l : Latch)

namespace Wait

/-- What a wait returns, by the branch it takes. -/
def poll (o : Ownership) : Wait → Branch → Option (Except ClientError Unit)
  | .unload => o.waitForUnload
  | .active => o.waitForActive
  | .revoke => o.waitForRevoke
  | .load => o.waitForLoad
  | .action l => o.waitForAction l

/-- The latches a wait races against the expiration. -/
def rivals (o : Ownership) : Wait → List Latch
  | .unload => [o.active, o.loader.unloaded, o.revoked]
  | .active => [o.active, o.revoked]
  | .revoke => [o.revoked]
  | .load => [o.unloader.loaded]
  | .action l => [l]

/-- None of the latches a wait races against the expiration is closed. -/
def Unrivalled (o : Ownership) (w : Wait) : Prop := ∀ l ∈ w.rivals o, l.isClosed = false

instance (o : Ownership) (w : Wait) : Decidable (w.Unrivalled o) :=
  inferInstanceAs (Decidable (∀ l ∈ w.rivals o, l.isClosed = false))

/-- The wait returns, and what it returns is the error of the expiration. -/
def Expires (o : Ownership) (w : Wait) : Prop :=
  (∃ b r, w.poll o b = some r) ∧ ∀ b r, w.poll o b = some r → r = .error .expired

variable {o : Ownership} {w : Wait}

/-- A wait on an expired ownership can take the branch of the expiration. -/
theorem poll_expired (h : o.expired.isClosed = true) :
    w.poll o .expired = some (.error .expired) := by
  cases w <;> exact Latch.closed_eq_some.2 ⟨h, rfl⟩

/-- A wait none of whose other latches is closed ends in the expiration. -/
theorem poll_of_unrivalled (h : w.Unrivalled o) {b : Branch} {r : Except ClientError Unit}
    (hpoll : w.poll o b = some r) : r = .error .expired := by
  cases w <;> cases b <;>
    simp_all [poll, Unrivalled, rivals, waitForUnload, waitForActive, waitForRevoke, waitForLoad,
      waitForAction, Latch.closed_eq_some]

/-- A closed latch gives the wait a way to end that does not report the expiration. -/
theorem exists_poll_of_rival {l : Latch} (hl : l ∈ w.rivals o) (h : l.isClosed = true) :
    ∃ b r, w.poll o b = some r ∧ r ≠ .error .expired := by
  cases w with
  | unload =>
    rcases List.mem_cons.1 hl with rfl | hl
    · exact ⟨.active, _, Latch.closed_eq_some.2 ⟨h, rfl⟩, by simp⟩
    rcases List.mem_cons.1 hl with rfl | hl
    · exact ⟨.unloaded, _, Latch.closed_eq_some.2 ⟨h, rfl⟩, by simp⟩
    · cases List.mem_singleton.1 hl
      exact ⟨.revoked, _, Latch.closed_eq_some.2 ⟨h, rfl⟩, by simp⟩
  | active =>
    rcases List.mem_cons.1 hl with rfl | hl
    · exact ⟨.active, _, Latch.closed_eq_some.2 ⟨h, rfl⟩, by simp⟩
    · cases List.mem_singleton.1 hl
      exact ⟨.revoked, _, Latch.closed_eq_some.2 ⟨h, rfl⟩, by simp⟩
  | revoke =>
    cases List.mem_singleton.1 hl
    exact ⟨.revoked, _, Latch.closed_eq_some.2 ⟨h, rfl⟩, by simp⟩
  | load =>
    cases List.mem_singleton.1 hl
    exact ⟨.loaded, _, Latch.closed_eq_some.2 ⟨h, rfl⟩, by simp⟩
  | action l =>
    cases List.mem_singleton.1 hl
    exact ⟨.action, _, Latch.closed_eq_some.2 ⟨h, rfl⟩, by simp⟩

/-- Every result of a wait is the expiration exactly if the wait has no closed rival. -/
theorem poll_expired_iff :
    (∀ b r, w.poll o b = some r → r = .error .expired) ↔ w.Unrivalled o := by
  constructor
  · intro h l hl
    by_contra hclosed
    obtain ⟨b, r, hpoll, hne⟩ := exists_poll_of_rival hl (by simpa using hclosed)
    exact hne (h b r hpoll)
  · intro h b r hpoll
    exact poll_of_unrivalled h hpoll

/-- **When expiry wins a wait.** -/
theorem expires_iff (h : o.expired.isClosed = true) : w.Expires o ↔ w.Unrivalled o := by
  rw [← poll_expired_iff]
  exact and_iff_right ⟨.expired, _, poll_expired h⟩

end Wait

end Ownership

namespace GrantTask

open Ownership (Branch Wait)

/-! ## What the task does with them -/

/-- The wait the task is suspended in. -/
def awaits (s : GrantTask) : Option Wait :=
  match s.pc with
  | .waitUnload => some .unload
  | .waitInit => some (.action s.range.initialized)
  | .waitActive => some .active
  | .waitRevoke => some .revoke
  | .waitDrained => some (.action s.range.drained)
  | .waitLoad => some .load
  | _ => none

/-- The exits that report the expiration, and the one that reports a closed Range in step 2. -/
def Exit.Lapsed : Exit → Prop
  | .step1 e | .init e | .step3 e | .step4 e | .drain e => e = .expired
  | .closedDuringInit => True
  | .closedAfterDrain => False
  | .finished result => result = .error .expired

/-- The task has bailed out, on the expiration or on the close of its Range. -/
def Lapsed (s : GrantTask) : Prop := ∃ exit : Exit, s.pc = .delete exit ∧ exit.Lapsed

/-- Whatever branch the task takes, it does not advance: it bails out. -/
def LapsesOnly (s : GrantTask) : Prop := ∀ b now t, s.run b now = some t → t.Lapsed

variable {s t : GrantTask} {w : Wait} {b : Branch} {now : SystemTime}

/-- The task goes on with what its wait returns: it bails out on the error of the expiration. -/
theorem run_of_poll (hw : s.awaits = some w) {r : Except ClientError Unit}
    (hpoll : w.poll s.ownership b = some r) (now : SystemTime) :
    ∃ t, s.run b now = some t ∧ (t.Lapsed ↔ r = .error .expired) := by
  obtain ⟨pc, o, range⟩ := s
  cases pc with
  | waitUnload | waitActive | waitRevoke | waitDrained | waitLoad =>
    cases hw
    simp only [Wait.poll] at hpoll
    rcases r with e | u
    · refine ⟨_, by simp only [run, hpoll, wait, Option.map_some]; rfl, ?_⟩
      simp [Lapsed, Exit.Lapsed, goto]
    · refine ⟨_, by simp only [run, hpoll, wait, Option.map_some]; rfl, ?_⟩
      simp [Lapsed, Exit.Lapsed, goto]
  | waitInit =>
    cases hw
    simp only [Wait.poll] at hpoll
    have hb : b ≠ .closed := by
      rintro rfl
      cases hpoll
    rcases r with e | u
    · refine ⟨{ pc := .delete (.init e), ownership := o, range }, ?_, ?_⟩
      · cases b <;> simp_all [run, wait, goto]
      · simp [Lapsed, Exit.Lapsed]
    · refine ⟨{ pc := .load, ownership := o, range }, ?_, ?_⟩
      · cases b <;> simp_all [run, wait, goto]
      · simp [Lapsed]
  | _ => cases hw

/-- A step of a task that waits ends its wait, or reports that its Range has closed. -/
theorem poll_of_run (hw : s.awaits = some w) (hrun : s.run b now = some t) :
    t.Lapsed ∨ ∃ r, w.poll s.ownership b = some r ∧ r ≠ .error .expired := by
  obtain ⟨pc, o, range⟩ := s
  cases pc with
  | waitUnload | waitActive | waitRevoke | waitDrained | waitLoad =>
    cases hw
    simp only [run] at hrun
    rcases wait_eq_some.1 hrun with ⟨hok, rfl⟩ | ⟨e, herr, rfl⟩
    · exact .inr ⟨_, hok, by simp⟩
    · by_cases he : e = .expired
      · subst he
        exact .inl ⟨_, rfl, rfl⟩
      · exact .inr ⟨_, herr, by simpa using he⟩
  | waitInit =>
    cases hw
    simp only [run] at hrun
    split at hrun
    · obtain ⟨-, rfl⟩ := Latch.closed_eq_some.1 hrun
      exact .inl ⟨_, rfl, trivial⟩
    · rcases wait_eq_some.1 hrun with ⟨hok, rfl⟩ | ⟨e, herr, rfl⟩
      · exact .inr ⟨_, hok, by simp⟩
      · by_cases he : e = .expired
        · subst he
          exact .inl ⟨_, rfl, rfl⟩
        · exact .inr ⟨_, herr, by simpa using he⟩
  | _ => cases hw

/-- A task that waits with an expired lease bails out for sure exactly if its wait has no closed
rival. -/
theorem lapsesOnly_iff (hw : s.awaits = some w) : s.LapsesOnly ↔ w.Unrivalled s.ownership := by
  rw [← Wait.poll_expired_iff]
  constructor
  · intro h b r hpoll
    obtain ⟨t, hrun, hlapsed⟩ := run_of_poll hw hpoll SystemTime.unixEpoch
    exact hlapsed.1 (h b _ t hrun)
  · intro h b now t hrun
    rcases poll_of_run hw hrun with hlapsed | ⟨r, hpoll, hne⟩
    · exact hlapsed
    · exact absurd (h b r hpoll) hne

/-- **When expiry dominates.** A wait on an expired ownership returns the error of the expiration,
whatever ready branch is taken, exactly if no other latch it looks at is closed. The same condition
says when `run_grant`, suspended in that wait, bails out whatever it takes. -/
theorem expiry_dominates_iff (o : Ownership) (w : Wait) (hexp : o.expired.isClosed = true) :
    (w.Expires o ↔ w.Unrivalled o) ∧
      ∀ s : GrantTask, s.ownership = o → s.awaits = some w →
        (s.LapsesOnly ↔ w.Unrivalled o) := by
  refine ⟨Wait.expires_iff hexp, ?_⟩
  rintro s rfl hw
  exact lapsesOnly_iff hw

/-- The ownership of a grant that is assigned in a state after its lease has passed. -/
def late (state : GrantState) : Ownership :=
  Ownership.new state SystemTime.unixEpoch ⟨1, by decide, by decide⟩

/-- A grant that is assigned late and not active yet: `wait_for_active` reports the expiration, and
so does a task that stands in step 3. -/
theorem expiry_dominates_allocated :
    Wait.active.Expires (late .allocated) ∧
      LapsesOnly { pc := .waitActive, ownership := late .allocated, range := .new } := by
  have h : Wait.active.Unrivalled (late .allocated) := by decide
  obtain ⟨hwait, htask⟩ := expiry_dominates_iff (late .allocated) .active rfl
  exact ⟨hwait.2 h, (htask _ rfl rfl).2 h⟩

/-- **An expired lease does not decide the race.** A grant that is assigned late in state Active has
both latches closed, and `wait_for_active` may return normally. -/
theorem late_active_advances :
    ¬ ∀ (o : Ownership) (w : Wait), o.expired.isClosed = true →
      (∀ b r, w.poll o b = some r → r = .error .expired) ∧
      ∀ s : GrantTask, s.ownership = o → s.awaits = some w → s.LapsesOnly := by
  intro h
  have := (h (late .active) .active rfl).1 .active (.ok ()) rfl
  cases this

/-! ## The way to the clean-up -/

/-- The task stands at an `await`. -/
def Suspended (s : GrantTask) : Prop :=
  match s.pc with
  | .waitUnload | .waitInit | .waitActive | .waitRevoke | .draining | .waitDrained | .waitLoad =>
    True
  | _ => False

/-- By steps of `run_grant` alone, the task can delete its entry, close its Range and return. -/
def CanExit (s : GrantTask) : Prop :=
  ∃ steps : List (Branch × SystemTime), ∃ t exit,
    machine.run s (steps.map fun step => .run step.1 step.2) = some t ∧ t.pc = .returned exit

/-- A suspended task whose lease has lapsed can always exit. -/
def Exitable (s : GrantTask) : Prop :=
  s.Suspended → s.ownership.expired.isClosed = true → s.CanExit

/-- The lease has lapsed and the call of `drain` has not returned. -/
def InDrain (s : GrantTask) : Prop :=
  s.pc = .draining ∧ s.ownership.expired.isClosed = true ∧ s.range.drainReturned = false

/-- What a step must meet: a call of `drain` has returned when the lease lapses, and once the lease
has lapsed `drain` is called only if it returns at once. Such a call is one of a Range whose `drain`
counts as returned from the start. -/
def DrainsInTime (s : GrantTask) : Event → Prop
  | .signal .expire => s.pc = .draining → s.range.drainReturned = true
  | .run _ _ =>
    s.pc = .drain → s.ownership.expired.isClosed = true → s.range.drainReturned = true
  | _ => True

/-- One step of `run_grant` towards the exit. -/
theorem CanExit.of_run (hrun : s.run b now = some t) (h : t.CanExit) : s.CanExit := by
  obtain ⟨steps, u, exit, hsteps, hpc⟩ := h
  exact ⟨(b, now) :: steps, u, exit, (machine.run_cons_eq_some).2 ⟨t, hrun, hsteps⟩, hpc⟩

/-- The clean-up waits for nothing. -/
theorem canExit_of_delete {exit : Exit} (hpc : s.pc = .delete exit) : s.CanExit := by
  obtain ⟨pc, o, range⟩ := s
  cases hpc
  exact ⟨[(.go, SystemTime.unixEpoch), (.go, SystemTime.unixEpoch)], _, exit, rfl, rfl⟩

/-- A task that waits can exit once its lease has lapsed. -/
theorem canExit_of_awaits (hw : s.awaits = some w) (hexp : s.ownership.expired.isClosed = true) :
    s.CanExit := by
  obtain ⟨t, hrun, hlapsed⟩ := run_of_poll hw (Wait.poll_expired hexp) SystemTime.unixEpoch
  obtain ⟨exit, hpc, -⟩ := hlapsed.2 rfl
  exact .of_run hrun (canExit_of_delete hpc)

/-- A task whose `drain` has returned can exit once its lease has lapsed. -/
theorem canExit_of_drainReturned (hpc : s.pc = .draining) (hret : s.range.drainReturned = true)
    (hexp : s.ownership.expired.isClosed = true) : s.CanExit := by
  have hrun : s.run .go SystemTime.unixEpoch = some (s.goto .waitDrained) := by
    simp [run, hpc, hret, straight]
  exact .of_run hrun (canExit_of_awaits (w := .action s.range.drained) rfl hexp)

/-- A task that waits for `drain` to return takes no step. -/
theorem not_canExit_of_inDrain (h : s.InDrain) : ¬ s.CanExit := by
  rintro ⟨steps, t, exit, hrun, hpc⟩
  cases steps with
  | nil =>
    cases hrun
    rw [h.1] at hpc
    cases hpc
  | cons step steps =>
    obtain ⟨u, hst, -⟩ := machine.run_cons_eq_some.1 hrun
    have hst : s.run step.1 step.2 = some u := hst
    simp [run, h.1, h.2.2] at hst

/-- **Which suspended tasks can exit on expiry**: all but the ones in `drain`. -/
theorem exitable_iff_not_inDrain : s.Exitable ↔ ¬ s.InDrain := by
  constructor
  · intro h hin
    refine not_canExit_of_inDrain hin (h ?_ hin.2.1)
    rw [Suspended, hin.1]
    trivial
  · intro h hsusp hexp
    cases hpc : s.pc with
    | draining =>
      refine canExit_of_drainReturned hpc ?_ hexp
      by_contra hret
      exact h ⟨hpc, hexp, by simpa using hret⟩
    | waitUnload | waitInit | waitActive | waitRevoke | waitDrained | waitLoad =>
      exact canExit_of_awaits (s := s) (by rw [awaits, hpc]) hexp
    | _ =>
      rw [Suspended, hpc] at hsusp
      exact hsusp.elim

/-- **One step.** A step from a task that is not stuck in `drain` leads to one that is not exactly
if it meets the condition. -/
theorem inDrain_step_iff {e : Event} (h : ¬ s.InDrain) (hst : s.step e = some t) :
    ¬ t.InDrain ↔ s.DrainsInTime e := by
  cases e with
  | signal sig =>
    cases hst
    cases sig with
    | expire =>
      constructor
      · intro hnot hpc
        by_contra hret
        exact hnot ⟨hpc, rfl, by simpa using hret⟩
      · rintro hc ⟨hpc, -, hret⟩
        have hret : s.range.drainReturned = false := hret
        rw [hc hpc] at hret
        cases hret
    | _ => exact iff_of_true h trivial
  | range e =>
    obtain ⟨range, hrange, rfl⟩ := Option.map_eq_some_iff.1 hst
    refine iff_of_true ?_ trivial
    rintro ⟨hpc, hexp, hret⟩
    have hret : range.drainReturned = false := hret
    refine h ⟨hpc, hexp, ?_⟩
    by_contra hs
    rw [(RangeState.le_step hrange).drainReturned (by simpa using hs)] at hret
    cases hret
  | run b now =>
    cases run_cases hst with
    | drain _ hpc =>
      constructor
      · intro hnot _ hexp
        by_contra hret
        exact hnot ⟨rfl, hexp, by simpa using hret⟩
      · rintro hc ⟨-, hexp, hret⟩
        have hret : s.range.drainReturned = false := hret
        rw [hc hpc hexp] at hret
        cases hret
    | unloadOk hpc | unloadRevoked hpc | unloadExpired hpc | allocated hpc | initOk hpc
    | initExpired hpc | initClosed hpc | load hpc | loaded hpc | activeOk hpc | activeRevoked hpc
    | activeExpired hpc | activate hpc | revokeOk hpc | revokeExpired hpc | revoke hpc
    | drainReturned hpc | drainedOk hpc | drainedExpired hpc | closedAfterDrain hpc
    | openAfterDrain hpc | unload hpc | unloaded hpc | finish _ hpc | delete hpc | close hpc =>
      refine iff_of_true (fun hin => ?_) fun hdrain => ?_
      · cases hin.1
      · rw [hpc] at hdrain
        cases hdrain

/-- **When expiry can always end a grant.** -/
theorem exitable_iff {es : List Event} (hinit : machine.init s) :
    machine.Always Exitable s es ↔ machine.Guarded DrainsInTime s es := by
  refine Machine.always_iff_guarded_of_step ?_ ?_
  · intro s e t hs hst
    rw [exitable_iff_not_inDrain] at hs ⊢
    exact inDrain_step_iff hs hst
  · rw [exitable_iff_not_inDrain]
    rintro ⟨hpc, -⟩
    rw [hinit.1] at hpc
    cases hpc

/-- A grant that expires while it waits for its counterpart can exit. -/
theorem exitable_expired : machine.Always Exitable fresh [.signal .expire] := by
  refine (exitable_iff ⟨rfl, rfl⟩).2 (Machine.guarded_cons.2 fun t _ => ⟨?_, Machine.guarded_nil⟩)
  intro hpc
  cases hpc

/-- A grant that is taken over, activated and revoked, and expires while its Range is in `drain`. -/
def stuckRun : List Event :=
  [.signal .activate, .at .active, .at .go, .range .initialized, .at .action, .at .go, .at .go,
    .at .active, .at .go, .signal .revoke, .at .revoked, .at .go, .at .go, .signal .expire]

/-- **An expired grant is held by its Range.** The task is suspended in `drain`, its lease has
lapsed, and no step of `run_grant` is possible before the Range returns. -/
theorem stuckRun_not_exitable : machine.init fresh ∧ ¬ machine.Always Exitable fresh stuckRun := by
  refine ⟨⟨rfl, rfl⟩, fun h => ?_⟩
  have hlast : Exitable _ := h.last (t := (machine.run fresh stuckRun).get rfl) rfl
  exact exitable_iff_not_inDrain.1 hlast ⟨rfl, rfl, rfl⟩

end GrantTask

end Splitter
