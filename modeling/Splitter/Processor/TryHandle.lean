import Splitter.Processor.Drain

/-!
# A filter keeps a grant while it serves it

`Processor::try_handle`, from the wait for the processor's own `initialized` latch to the return of
`run_grant`. A filter that returns `true` owns the grant for its full life cycle: it returns when
the grant is revoked or expired, or after the user has asked for a revoke (`Kept`).

The code does not keep it. A Range that closes itself while the task waits for it to initialize makes
`run_grant` return at once, and `try_handle` answers `true` for a grant that goes on living.
`kept_of_guarded` gives the runs in which it is kept.
-/

namespace Splitter

namespace TryHandle

/-- Where `try_handle` stands. -/
inductive Call
  | waitInitialized
  | build
  | runGrant (pc : GrantTask.Pc) (range : RangeState)
  | returned (handled : Bool)
  deriving DecidableEq

end TryHandle

/-- One call of `try_handle`, with the memory it shares. -/
structure TryHandle where
  /-- The latch of the processor, which `init` closes. -/
  initialized : Latch
  ownership : Ownership
  call : TryHandle.Call
  deriving DecidableEq

namespace TryHandle

open Ownership (Branch)

inductive Event
  /-- `DispatchFilter::init`. -/
  | init
  | signal (sig : Signal)
  | range (e : RangeEvent)
  /-- `self.initialized.closed()` resolves. -/
  | wake
  /-- The factory builds a Range, or declines. -/
  | build (accepted : Bool)
  /-- A step of `run_grant`. -/
  | run (b : Branch) (now : SystemTime)

/-- What a step of `run_grant` leads to; its return is the return of `try_handle`. -/
def afterRun (s : TryHandle) (task : GrantTask) : TryHandle :=
  { s with
    ownership := task.ownership
    call := match task.pc with
      | .returned _ => .returned true
      | pc => .runGrant pc task.range }

def step (s : TryHandle) : Event → Option TryHandle
  | .init => some { s with initialized := s.initialized.close }
  | .signal sig => some { s with ownership := sig.apply s.ownership }
  | .range e =>
    match s.call with
    | .runGrant pc range => (range.step e).map fun range => { s with call := .runGrant pc range }
    | _ => none
  | .wake =>
    match s.call with
    | .waitInitialized => s.initialized.closed { s with call := .build }
    | _ => none
  | .build accepted =>
    match s.call with
    | .build =>
      some { s with call := if accepted then .runGrant .waitUnload .new else .returned false }
    | _ => none
  | .run b now =>
    match s.call with
    | .runGrant pc range =>
      (({ pc, ownership := s.ownership, range } : GrantTask).run b now).map s.afterRun
    | _ => none

/-- A call starts with the wait for the processor, on any ownership. -/
def machine : Machine TryHandle Event where
  init s := s.call = .waitInitialized
  step := step

/-! ## What the filter owes -/

/-- The grant is no longer the filter's to serve. -/
def Released (o : Ownership) : Prop :=
  o.revoked.isClosed = true ∨ o.expired.isClosed = true ∨ o.requestRevokeSignal.isClosed = true

instance (o : Ownership) : Decidable (Released o) := inferInstanceAs (Decidable (_ ∨ _ ∨ _))

/-- **A kept grant is served**: `try_handle` has answered `true` only for a grant that is revoked,
expired or asked to be revoked. -/
def Kept (s : TryHandle) : Prop := s.call = .returned true → Released s.ownership

/-- What a step must meet: `run_grant` does not take the branch of the Range's `closed` latch while
the grant is still the filter's to serve. -/
def StaysUntilReleased (s : TryHandle) : Event → Prop
  | .run .closed _ => Released s.ownership
  | _ => True

/-! ## The invariant -/

/-- Latches only close, so a grant stays released. -/
theorem Released.mono {o o' : Ownership} (h : Released o) (hle : o.Le o') : Released o' :=
  h.imp hle.revoked (.imp hle.expired hle.requestRevokeSignal)

/-- What `run_grant` knows at each point: past step 4 the grant is revoked, and on the way out it is
released. -/
def Knows (o : Ownership) : GrantTask.Pc → Prop
  | .revoke | .drain | .draining | .waitDrained | .checkClosed | .unload | .unloaded | .waitLoad =>
    o.revoked.isClosed = true
  | .delete _ | .close _ | .returned _ => Released o
  | _ => True

/-- What is known wherever the call stands. -/
def Due (s : TryHandle) : Prop :=
  match s.call with
  | .runGrant pc _ => Knows s.ownership pc
  | .returned true => Released s.ownership
  | _ => True

/-- What is known at a point stays known while the task stands there. -/
theorem Knows.mono {o o' : Ownership} {pc : GrantTask.Pc} (h : Knows o pc) (hle : o.Le o') :
    Knows o' pc := by
  cases pc with
  | revoke | drain | draining | waitDrained | checkClosed | unload | unloaded | waitLoad =>
    exact hle.revoked h
  | delete | close | returned => exact Released.mono h hle
  | _ => trivial

theorem Due.mono {s t : TryHandle} (h : s.Due) (hcall : t.call = s.call)
    (hle : s.ownership.Le t.ownership) : t.Due := by
  unfold Due at h ⊢
  rw [hcall]
  split at h
  · exact h.mono hle
  · exact h.mono hle
  · trivial

/-- One step of `run_grant`. Every bail but that of the Range's `closed` latch follows the closing of
`revoked` or `expired`. -/
theorem Knows.run {task next : GrantTask} {b : Branch} {now : SystemTime}
    (h : Knows task.ownership task.pc) (hrun : task.run b now = some next)
    (hc : b = .closed → Released task.ownership) : Knows next.ownership next.pc := by
  cases GrantTask.run_cases hrun with
  | unloadRevoked _ hrevoked | activeRevoked _ hrevoked => exact .inl hrevoked
  | unloadExpired _ hexp | initExpired _ hexp | activeExpired _ hexp | revokeExpired _ hexp
  | drainedExpired _ hexp => exact .inr (.inl hexp)
  | initClosed => exact hc rfl
  | revokeOk _ hrevoked => exact hrevoked
  | revoke hpc | drain _ hpc | drainReturned hpc | drainedOk hpc | openAfterDrain hpc | unload hpc
  | unloaded hpc | delete hpc | close hpc =>
    rw [hpc] at h
    exact h
  | closedAfterDrain hpc | finish _ hpc =>
    rw [hpc] at h
    exact .inl h
  | _ => trivial

/-- What is known after a step of `run_grant` is known of the call. -/
theorem Due.afterRun {s : TryHandle} {task : GrantTask} (h : Knows task.ownership task.pc) :
    (s.afterRun task).Due := by
  obtain ⟨pc, o, range⟩ := task
  cases pc <;> exact h

/-- **The step lemma.** -/
theorem Due.step {s t : TryHandle} {e : Event} (h : s.Due) (hst : s.step e = some t)
    (hc : s.StaysUntilReleased e) : t.Due := by
  cases e with
  | init =>
    cases hst
    exact h.mono rfl (.refl _)
  | signal sig =>
    cases hst
    exact h.mono rfl (Signal.le_apply _ sig)
  | range e =>
    simp only [TryHandle.step] at hst
    split at hst
    · next pc range hcall =>
      obtain ⟨range', -, rfl⟩ := Option.map_eq_some_iff.1 hst
      unfold Due at h
      rw [hcall] at h
      exact h
    · cases hst
  | wake =>
    simp only [TryHandle.step] at hst
    split at hst
    · obtain ⟨-, rfl⟩ := Latch.closed_eq_some.1 hst
      trivial
    · cases hst
  | build accepted =>
    simp only [TryHandle.step] at hst
    split at hst
    · cases hst
      cases accepted <;> trivial
    · cases hst
  | run b now =>
    simp only [TryHandle.step] at hst
    split at hst
    · next pc range hcall =>
      obtain ⟨next, hrun, rfl⟩ := Option.map_eq_some_iff.1 hst
      unfold Due at h
      rw [hcall] at h
      refine .afterRun (Knows.run h hrun ?_)
      rintro rfl
      exact hc
    · cases hst

/-- **When a kept grant is served.** In every run of a call whose steps meet the condition,
`try_handle` has answered `true` only where the grant is revoked, expired or asked to be revoked. -/
theorem kept_of_guarded {s : TryHandle} {es : List Event} (hinit : machine.init s)
    (h : machine.Guarded StaysUntilReleased s es) : machine.Always Kept s es := by
  have hdue : s.Due := by
    have hcall : s.call = .waitInitialized := hinit
    unfold Due
    rw [hcall]
    trivial
  refine (Machine.always_of_guarded (I := Due) (fun _ _ _ h hst hc => h.step hst hc) hdue h).mono
    fun t ht hret => ?_
  unfold Due at ht
  rw [hret] at ht
  exact ht

/-! ## Runs -/

/-- A call on a freshly allocated grant. -/
def fresh : TryHandle :=
  { initialized := .new
    ownership := Ownership.new .allocated SystemTime.unixEpoch SystemTime.unixEpoch
    call := .waitInitialized }

/-- A step of `run_grant`, at the epoch. -/
def Event.at (b : Branch) : Event := .run b SystemTime.unixEpoch

/-- A grant that expires before it is taken over. -/
theorem kept_expired :
    machine.Always Kept fresh
      [.init, .wake, .build true, .signal .expire, .at .expired, .at .go, .at .go] := by
  refine kept_of_guarded rfl (Machine.guarded_of_forall ?_)
  simp [Event.at, StaysUntilReleased]

/-- The Range closes itself while an active grant waits for it to initialize. -/
def selfClosedRun : List Event :=
  [.init, .wake, .build true, .signal .activate, .at .active, .at .go, .range .closeItself,
    .at .closed, .at .go, .at .go]

/-- **A live grant is left with nobody serving it.** `try_handle` has answered `true` with the grant
active and neither revoked, expired nor asked to be revoked. -/
theorem selfClosedRun_not_kept :
    machine.init fresh ∧ ∃ t, machine.run fresh selfClosedRun = some t ∧
      t.ownership.active.isClosed = true ∧ ¬ t.Kept :=
  ⟨rfl, _, rfl, rfl, fun h => absurd (h rfl) (by decide)⟩

/-- Only step 2 waits for the Range's `closed` latch. -/
theorem run_closed {task next : GrantTask} {now : SystemTime}
    (h : task.run .closed now = some next) :
    next = task.goto (.delete .closedDuringInit) := by
  unfold GrantTask.run at h
  split at h
  case h_3 =>
    obtain ⟨-, rfl⟩ := Latch.closed_eq_some.1 h
    rfl
  case h_11 => split at h <;> cases h
  all_goals cases h

/-- **The condition is needed.** A call that breaks it answers `true` two steps later for a grant
that is still the filter's to serve. -/
theorem not_kept_of_bail {s t : TryHandle} {now : SystemTime}
    (hst : s.step (.run .closed now) = some t) (hlive : ¬ Released s.ownership) :
    ∃ u, machine.run t [.at .go, .at .go] = some u ∧ ¬ u.Kept := by
  simp only [step] at hst
  split at hst
  · next pc range hcall =>
    obtain ⟨next, hrun, rfl⟩ := Option.map_eq_some_iff.1 hst
    obtain rfl := run_closed hrun
    exact ⟨_, rfl, fun h => hlive (h rfl)⟩
  · cases hst

end TryHandle

end Splitter
