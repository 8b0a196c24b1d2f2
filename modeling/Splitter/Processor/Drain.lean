import Splitter.Processor.Task

/-!
# No active grant is dropped undrained

The task of a grant among the latch closings of the driver, the user's signals and the events of
the Range, in every order. `ServedOut` is what `run_grant` owes when it returns: a grant that is
active, with its lease running and its Range open, has been drained and its unload signalled.

The code does not keep it. A grant that is promoted and revoked while the task waits in step 1 or 3
has both latches closed there, and an unbiased `select!` may take the revoked branch and bail out.
`servedOut_of_guarded` gives the runs in which it is kept.
-/

namespace Splitter

namespace GrantTask

open Ownership (Branch)

/-- What can happen to a grant's task and the memory it shares. -/
inductive Event
  | signal (sig : Signal)
  | range (e : RangeEvent)
  /-- A step of `run_grant`: the branch it takes, and the clock it may read. -/
  | run (b : Branch) (now : SystemTime)

def step (s : GrantTask) : Event → Option GrantTask
  | .signal sig => some { s with ownership := sig.apply s.ownership }
  | .range e => (s.range.step e).map fun range => { s with range }
  | .run b now => s.run b now

/-- The task starts in step 1, on any ownership and a Range that has not been drained. -/
def machine : Machine GrantTask Event where
  init s := s.pc = .waitUnload ∧ s.range.drainCalled = none
  step := step

/-! ## What the task owes -/

/-- The grant is active, its lease runs and its Range has not closed itself. -/
def Live (s : GrantTask) : Prop :=
  s.ownership.active.isClosed = true ∧ s.ownership.expired.isClosed = false ∧
    s.range.closed.isClosed = false

/-- The Range has been drained and the unload signalled. -/
def Drained (s : GrantTask) : Prop :=
  s.range.drainCalled.isSome = true ∧ s.ownership.unloader.unload.isClosed = true

/-- The step is the return of `run_grant`. -/
def Returns (s : GrantTask) (e : Event) : Prop :=
  ∃ b now exit, e = .run b now ∧ s.pc = .close exit

/-- **A live grant is not dropped undrained.** -/
def ServedOut (s : GrantTask) : Prop := s.Live → s.Drained

/-- The exits on revocation, out of step 1 and step 3. -/
def Exit.Revoked (exit : Exit) : Prop := exit = .step1 .revoked ∨ exit = .step3 .revoked

/-- The task has bailed out on revocation and has not returned. -/
def Bailed (s : GrantTask) : Prop :=
  ∃ exit : Exit, exit.Revoked ∧ (s.pc = .delete exit ∨ s.pc = .close exit)

/-- What a step must meet: step 1 or 3 does not take the revoked branch of a live grant, and a grant
whose lease runs and whose Range is open is not activated between such a bail and the return. -/
def KeepsActive (s : GrantTask) : Event → Prop
  | .run .revoked _ => s.pc = .waitUnload ∨ s.pc = .waitActive → ¬ s.Live
  | .signal .activate => s.Bailed →
      s.ownership.expired.isClosed = true ∨ s.range.closed.isClosed = true
  | _ => True

/-! ## The invariant -/

/-- Why the task may return through an exit. -/
def Settled (s : GrantTask) : Exit → Prop
  | .step1 e | .step3 e =>
    e = .revoked ∧ ¬ s.Live ∨ s.ownership.expired.isClosed = true
  | .init _ | .step4 _ | .drain _ => s.ownership.expired.isClosed = true
  | .closedDuringInit | .closedAfterDrain => s.range.closed.isClosed = true
  | .finished _ => s.Drained

/-- What the task knows at each point. -/
def Due (s : GrantTask) : Prop :=
  match s.pc with
  | .draining | .waitDrained | .checkClosed | .unload => s.range.drainCalled.isSome = true
  | .unloaded | .waitLoad => s.Drained
  | .delete exit | .close exit => s.Settled exit
  | _ => True

/-- An expired grant is not live. -/
theorem Live.expired {s : GrantTask} (h : s.Live) : s.ownership.expired.isClosed ≠ true := by
  rw [h.2.1]
  nofun

/-- A grant whose Range has closed itself is not live. -/
theorem Live.closed {s : GrantTask} (h : s.Live) : s.range.closed.isClosed ≠ true := by
  rw [h.2.2]
  nofun

/-- A task that may return through an exit owes nothing. -/
theorem Settled.servedOut {s : GrantTask} {exit : Exit} (h : s.Settled exit) : s.ServedOut := by
  intro hlive
  cases exit with
  | step1 e | step3 e => exact absurd (h.resolve_left fun h => h.2 hlive) hlive.expired
  | init e | step4 e | drain e => exact absurd h hlive.expired
  | closedDuringInit | closedAfterDrain => exact absurd h hlive.closed
  | finished result => exact h

/-- Latches only close, so a reason to return stays one, unless the grant comes alive. -/
theorem Settled.mono {s t : GrantTask} {exit : Exit} (h : s.Settled exit)
    (ho : s.ownership.Le t.ownership) (hr : s.range.Le t.range)
    (hlive : exit.Revoked → ¬ s.Live → ¬ t.Live) : t.Settled exit := by
  cases exit with
  | step1 e =>
    rcases h with ⟨rfl, hnot⟩ | hexp
    · exact .inl ⟨rfl, hlive (.inl rfl) hnot⟩
    · exact .inr (ho.expired hexp)
  | step3 e =>
    rcases h with ⟨rfl, hnot⟩ | hexp
    · exact .inl ⟨rfl, hlive (.inr rfl) hnot⟩
    · exact .inr (ho.expired hexp)
  | init e | step4 e | drain e => exact ho.expired h
  | closedDuringInit | closedAfterDrain => exact hr.closed h
  | finished result => exact ⟨hr.drainCalled h.1, ho.unload h.2⟩

/-- Only the activation brings a grant to life. -/
theorem live_of_signal {s : GrantTask} {sig : Signal} (hne : sig ≠ .activate)
    (h : Live { s with ownership := sig.apply s.ownership }) : s.Live := by
  cases sig with
  | activate => exact absurd rfl hne
  | expire => exact absurd rfl h.expired
  | _ => exact h

/-- What is known at a point stays known while the task stands there. -/
theorem Due.mono {s t : GrantTask} (h : s.Due) (hpc : t.pc = s.pc)
    (ho : s.ownership.Le t.ownership) (hr : s.range.Le t.range)
    (hlive : s.Bailed → ¬ s.Live → ¬ t.Live) : t.Due := by
  unfold Due at h ⊢
  rw [hpc]
  split at h
  · exact hr.drainCalled h
  · exact hr.drainCalled h
  · exact hr.drainCalled h
  · exact hr.drainCalled h
  · exact ⟨hr.drainCalled h.1, ho.unload h.2⟩
  · exact ⟨hr.drainCalled h.1, ho.unload h.2⟩
  · next exit hat => exact h.mono ho hr fun hrev => hlive ⟨exit, hrev, .inl hat⟩
  · next exit hat => exact h.mono ho hr fun hrev => hlive ⟨exit, hrev, .inr hat⟩
  · trivial

/-- **The step lemma.** -/
theorem Due.step {s t : GrantTask} {e : Event} (h : s.Due) (hst : s.step e = some t)
    (hc : s.KeepsActive e) : t.Due := by
  cases e with
  | signal sig =>
    cases hst
    refine h.mono rfl (Signal.le_apply _ sig) (.refl _) fun hbailed hnot hlive => ?_
    by_cases hsig : sig = .activate
    · subst hsig
      rcases hc hbailed with hexp | hclosed
      · exact hlive.expired hexp
      · exact hlive.closed hclosed
    · exact hnot (live_of_signal hsig hlive)
  | range e =>
    obtain ⟨range, hrange, rfl⟩ := Option.map_eq_some_iff.1 hst
    have hle := RangeState.le_step hrange
    refine h.mono rfl (.refl _) hle fun _ hnot hlive => hnot ⟨hlive.1, hlive.2.1, ?_⟩
    by_contra hclosed
    exact hlive.closed (hle.closed (by simpa using hclosed))
  | run b now =>
    have h' := h
    unfold Due at h
    cases run_cases hst with
    | unloadRevoked hpc => exact .inl ⟨rfl, hc (.inl hpc)⟩
    | activeRevoked hpc => exact .inl ⟨rfl, hc (.inr hpc)⟩
    | unloadExpired _ hexp | activeExpired _ hexp => exact .inr hexp
    | initExpired _ hexp | revokeExpired _ hexp | drainedExpired _ hexp => exact hexp
    | initClosed _ hclosed | closedAfterDrain _ hclosed => exact hclosed
    | drain => rfl
    | drainReturned hpc | drainedOk hpc | openAfterDrain hpc =>
      rw [hpc] at h
      exact h
    | unload hpc =>
      rw [hpc] at h
      exact ⟨h, rfl⟩
    | unloaded hpc | finish _ hpc | delete hpc =>
      rw [hpc] at h
      exact h
    | _ => trivial

/-- **When no live grant is dropped undrained.** In every run of a grant's task whose steps meet the
condition, `run_grant` returns from a live grant only after its Range was drained and the unload
signalled. -/
theorem servedOut_of_guarded {s : GrantTask} {es : List Event} (hinit : machine.init s)
    (h : machine.Guarded KeepsActive s es) :
    machine.Guarded (fun s e => s.Returns e → s.ServedOut) s es := by
  have hdue : s.Due := by
    unfold Due
    rw [hinit.1]
    trivial
  have hall := Machine.always_of_guarded (I := Due) (fun _ _ _ h hst hc => h.step hst hc) hdue h
  refine hall.guarded ?_
  rintro t e u ht - ⟨b, now, exit, rfl, hpc⟩
  unfold Due at ht
  rw [hpc] at ht
  exact ht.servedOut

/-! ## Two runs -/

/-- A task that starts on a freshly allocated grant. -/
def fresh : GrantTask :=
  { pc := .waitUnload
    ownership := Ownership.new .allocated SystemTime.unixEpoch SystemTime.unixEpoch
    range := .new }

/-- A step of the task, at the epoch. -/
def Event.at (b : Branch) : Event := .run b SystemTime.unixEpoch

/-- A grant is taken over and its load signalled. -/
def takenOver : List Event :=
  [.signal .counterpartUnloaded, .at .unloaded, .at .go, .range .initialized, .at .action, .at .go,
    .at .go]

/-- Its whole life: it is promoted, served, revoked and drained, its unload is signalled, and the
task returns once the counterpart has loaded. -/
def servedRun : List Event :=
  takenOver ++ .signal .activate :: [.at .active, .at .go, .signal .revoke] ++ .at .revoked ::
    [.at .go, .at .go, .range .drainReturn, .at .go, .range .drainClose, .at .action, .at .go,
      .at .go, .at .go, .signal .counterpartLoaded, .at .loaded, .at .go, .at .go]

/-- The task returns from it while the grant is live. -/
theorem servedOut_served :
    machine.Guarded (fun s e => s.Returns e → s.ServedOut) fresh servedRun ∧
      ∃ t, machine.run fresh servedRun = some t ∧ (∃ exit, t.pc = .returned exit) ∧ t.Live := by
  refine ⟨servedOut_of_guarded ⟨rfl, rfl⟩ ?_, _, rfl, ⟨_, rfl⟩, rfl, rfl, rfl⟩
  refine Machine.guarded_append.2 ⟨Machine.guarded_append.2 ⟨?_, fun s hs => ?_⟩, fun s hs => ?_⟩
  · exact Machine.guarded_of_forall (by simp [takenOver, Event.at, KeepsActive])
  · -- the task has not bailed out when the grant is promoted
    cases hs
    refine Machine.guarded_cons.2 fun t ht => ⟨?_, ?_⟩
    · rintro ⟨exit, -, hpc | hpc⟩ <;> cases hpc
    · exact Machine.guarded_of_forall (by simp [Event.at, KeepsActive])
  · -- the revoked branch that it takes is that of step 4
    cases hs
    refine Machine.guarded_cons.2 fun t ht => ⟨?_, ?_⟩
    · rintro (hpc | hpc) <;> cases hpc
    · exact Machine.guarded_of_forall (by simp [Event.at, KeepsActive])

/-- Promoted and revoked in step 3, where the task takes the revoked branch. -/
def racedRun : List Event :=
  [.signal .counterpartUnloaded, .at .unloaded, .at .go, .range .initialized, .at .action, .at .go,
    .at .go, .signal .activate, .signal .revoke, .at .revoked, .at .go]

/-- **A live grant is dropped undrained.** The next step returns from `run_grant` with the grant
active, its lease running, its Range open and never drained. -/
theorem racedRun_not_servedOut :
    machine.init fresh ∧ ∃ t, machine.run fresh racedRun = some t ∧
      t.Returns (.at .go) ∧ (t.step (.at .go)).isSome ∧ ¬ t.ServedOut := by
  refine ⟨⟨rfl, rfl⟩, _, rfl, ⟨.go, _, .step3 .revoked, rfl, rfl⟩, rfl, fun h => ?_⟩
  exact absurd (h ⟨rfl, rfl, rfl⟩).1 (by decide)

end GrantTask

end Splitter
