import Splitter.Dispatcher.Router
import Splitter.Driver.Shutdown

/-!
# Closing a dispatcher

`Dispatcher::drain` and the drop of a `Dispatcher`, next to the driver task that `build` started.
`drain` closes the driver's shutdown latch, waits for the task or for its timeout, and closes the
dispatcher. A drop closes the dispatcher only: the `JoinHandle` in it detaches the task.

`Released` is what a closed dispatcher owes its driver. It is not kept: a drop leaves the driver in
its loop, and so does a drain whose request the driver loses. `released_iff` says exactly in which
runs it is kept.
-/

namespace Splitter

/-- The driver has left its loop, or does so when the running handler returns. -/
def Loop.Leaving (s : Loop) : Prop :=
  match s.pc with
  | .start | .select _ | .heartbeat _ | .handling (.ok _) => False
  | .handling (.error _) | .deregister | .sendClosed | .broken _ | .cleanup _ | .returned _
  | .panicked => True

theorem Loop.Leaving.step [UuidCrate] {s t : Loop} {e : Loop.Event} (h : s.Leaving)
    (hst : s.step e = some t) : t.Leaving := by
  unfold Leaving at h
  cases step_cases hst with
  | start hpc | takeTick _ hpc | takeInbound _ _ hpc | heartbeatSent hpc | heartbeatFailed hpc =>
    rw [hpc] at h
    exact h.elim
  | @handled result now hpc =>
    rw [hpc] at h
    rcases result with (_ | _) | _
    · trivial
    · trivial
    · exact h.elim
  | shutdown | exec => exact h
  | _ => trivial

/-- A driver that is gone has left. -/
theorem Loop.Leaving.of_gone {s : Loop} (h : s.gone = true) : s.Leaving := by
  unfold gone at h
  unfold Leaving
  split at h
  · next hpc => rw [hpc]; trivial
  · next hpc => rw [hpc]; trivial
  · cases h

/-- What the driver may still do by itself, without another shutdown request, to get to the point
where it takes the shutdown branch. -/
def Loop.CanTakeShutdown [UuidCrate] (s : Loop) : Prop :=
  ∃ es t, Loop.Event.shutdown ∉ es ∧ Loop.machine.run s es = some t ∧
    (t.step .takeShutdown).isSome

/-- A request is lost on a driver that does not wait with the branch enabled: each wait it enters
from then on is one without the branch. -/
theorem Loop.lost_step [UuidCrate] {s t : Loop} {e : Loop.Event}
    (h : s.shutdown.isClosed = true ∧ s.pc ≠ .select true) (hst : s.step e = some t) :
    t.shutdown.isClosed = true ∧ t.pc ≠ .select true := by
  obtain ⟨hclosed, hpc⟩ := h
  have henter : ∀ u : Loop, u.shutdown.isClosed = true →
      u.enterSelect.shutdown.isClosed = true ∧ u.enterSelect.pc ≠ .select true := by
    intro u hu
    refine ⟨hu, fun hselect => ?_⟩
    have hselect : Pc.select (!u.shutdown.isClosed) = .select true := hselect
    rw [hu] at hselect
    cases hselect
  cases step_cases hst with
  | start | heartbeatSent => exact henter _ hclosed
  | shutdown => exact ⟨rfl, hpc⟩
  | exec => exact ⟨hclosed, hpc⟩
  | @handled result now =>
    rcases result with (_ | _) | (_ | _)
    · exact ⟨hclosed, nofun⟩
    · exact ⟨hclosed, nofun⟩
    · exact henter _ hclosed
    · exact henter _ hclosed
  | takeInbound item => rcases item with _ | ⟨_ | _⟩ <;> exact ⟨hclosed, nofun⟩
  | deregisterSent ok | closedSent ok => cases ok <;> exact ⟨hclosed, nofun⟩
  | _ => exact ⟨hclosed, nofun⟩

/-- Where the latch is closed, the driver can take the branch only from the wait it is in. -/
theorem Loop.canTakeShutdown_iff [UuidCrate] {s : Loop} (hclosed : s.shutdown.isClosed = true) :
    s.CanTakeShutdown ↔ s.pc = .select true := by
  constructor
  · rintro ⟨es, t, -, hrun, htake⟩
    by_contra hpc
    have hlost := Machine.run_invariant
      (I := fun u : Loop => u.shutdown.isClosed = true ∧ u.pc ≠ .select true)
      (fun _ _ _ h hst => lost_step h hst) ⟨hclosed, hpc⟩ hrun
    exact hlost.2 ((takeShutdown_isSome_iff t).1 htake).1
  · intro hpc
    exact ⟨[], s, List.not_mem_nil, rfl, (takeShutdown_isSome_iff s).2 ⟨hpc, hclosed⟩⟩

/-- The driver has left its loop, or waits with a request that it can take. -/
def Loop.Heard (s : Loop) : Prop :=
  s.Leaving ∨ s.shutdown.isClosed = true ∧ s.pc = .select true

namespace Teardown

/-- Where a dispatcher stands. -/
inductive Phase
  | running
  /-- In `drain`, awaiting the driver task. -/
  | draining
  /-- Closed, by `drain` or by a drop. -/
  | finished
  deriving DecidableEq

end Teardown

/-- A dispatcher and the driver task it started. -/
structure Teardown where
  loop : Loop
  phase : Teardown.Phase
  /-- The dispatcher's `closed` latch. -/
  closed : Latch
  /-- The router, the pool updater and the closed watcher have not been aborted. -/
  tasks : Bool

namespace Teardown

inductive Event
  /-- A step of the driver task, other than a request from outside. -/
  | driver (e : Loop.Event)
  /-- `drain` up to its await: the handle is taken, and the first poll of `JoinHandle::shutdown`
  closes the driver's latch. -/
  | drain
  /-- The driver task has ended, and `drain` with it. -/
  | drained
  /-- The timeout of `drain`. -/
  | timeout
  /-- The dispatcher is dropped, in use or with the future of `drain`. -/
  | drop
  /-- The closed watcher passes the end of the driver on. -/
  | watch

/-- `build` has returned. -/
def initial : Teardown := { loop := .initial, phase := .running, closed := .new, tasks := true }

/-- The last lines of `drain`, and of the drop: the helper tasks are aborted and the latch is
closed. -/
def finish (s : Teardown) : Teardown :=
  { s with phase := .finished, closed := s.closed.close, tasks := false }

def step [UuidCrate] (s : Teardown) : Event → Option Teardown
  | .driver .shutdown => none
  | .driver e => (s.loop.step e).map fun loop => { s with loop }
  | .drain =>
    if s.phase = .running then
      some { s with phase := .draining, loop := { s.loop with shutdown := s.loop.shutdown.close } }
    else none
  | .drained => if s.phase = .draining ∧ s.loop.gone then some s.finish else none
  | .timeout => if s.phase = .draining then some s.finish else none
  | .drop => if s.phase = .finished then none else some s.finish
  | .watch =>
    if s.tasks then s.loop.closed.closed { s with closed := s.closed.close } else none

def machine [UuidCrate] : Machine Teardown Event where
  init s := s = initial
  step := step

/-- One step, by what makes it possible. -/
inductive Step [UuidCrate] : Teardown → Event → Teardown → Prop
  | driver {s : Teardown} {e : Loop.Event} {loop : Loop} (hne : e ≠ .shutdown)
      (hst : s.loop.step e = some loop) : Step s (.driver e) { s with loop }
  | drain {s : Teardown} (hphase : s.phase = .running) :
      Step s .drain
        { s with phase := .draining, loop := { s.loop with shutdown := s.loop.shutdown.close } }
  | drained {s : Teardown} (hphase : s.phase = .draining) (hgone : s.loop.gone = true) :
      Step s .drained s.finish
  | timeout {s : Teardown} (hphase : s.phase = .draining) : Step s .timeout s.finish
  | drop {s : Teardown} (hphase : s.phase ≠ .finished) : Step s .drop s.finish
  | watch {s : Teardown} (hclosed : s.loop.closed.isClosed = true) :
      Step s .watch { s with closed := s.closed.close }

theorem step_cases [UuidCrate] {s t : Teardown} {e : Event} (h : s.step e = some t) :
    Step s e t := by
  cases e with
  | driver e =>
    by_cases he : e = .shutdown
    · subst he
      cases h
    · have h : (s.loop.step e).map (fun loop => { s with loop }) = some t := by
        cases e <;> first | exact h | exact absurd rfl he
      obtain ⟨loop, hst, rfl⟩ := Option.map_eq_some_iff.1 h
      exact .driver he hst
  | drain =>
    simp only [step] at h
    split at h
    · next hphase => cases h; exact .drain hphase
    · cases h
  | drained =>
    simp only [step] at h
    split at h
    · next hphase => cases h; exact .drained hphase.1 hphase.2
    · cases h
  | timeout =>
    simp only [step] at h
    split at h
    · next hphase => cases h; exact .timeout hphase
    · cases h
  | drop =>
    simp only [step] at h
    split at h
    · cases h
    · next hphase => cases h; exact .drop hphase
  | watch =>
    simp only [step] at h
    split at h
    · obtain ⟨hclosed, rfl⟩ := Latch.closed_eq_some.1 h
      exact .watch hclosed
    · cases h

/-- What the phase says of the driver's latch: `drain` closes it, and nothing else. -/
structure Requested (s : Teardown) : Prop where
  running : s.phase = .running → s.loop.shutdown.isClosed = false
  draining : s.phase = .draining → s.loop.shutdown.isClosed = true

theorem Requested.initial : Requested initial := ⟨fun _ => rfl, nofun⟩

section
variable [UuidCrate]

/-- **A closed dispatcher has released its driver**: the driver has left its loop, or it has been
told to exit and can still take that branch. -/
def Released (s : Teardown) : Prop :=
  s.phase = .finished →
    s.loop.Leaving ∨ s.loop.shutdown.isClosed = true ∧ s.loop.CanTakeShutdown

/-- The inbound item ends the driver: the stream fails or ends, or its frame is not handled. -/
def Ends (s : Loop) (env : Env) : Option (Except Status pb.JoinMessage) → Prop
  | some (.ok join) => ∃ fault, (s.driver.handleInbound env join).2 = .error fault
  | _ => True

/-- What a step must meet. A dispatcher in use is dropped only after its driver has left. `drain`
times out, or is dropped, only where the driver has left or stands in a wait it entered before the
request. And once the dispatcher is closed, a driver in that wait takes the shutdown branch before a
heartbeat or a frame it would go on after. -/
def ReleasesDriver (s : Teardown) : Event → Prop
  | .drop => s.loop.Leaving ∨ s.phase = .draining ∧ s.loop.pc = .select true
  | .timeout => s.loop.Leaving ∨ s.loop.pc = .select true
  | .driver (.takeTick _) => s.phase ≠ .finished
  | .driver (.takeInbound item env) => s.phase = .finished → Ends s.loop env item
  | _ => True

/-- A closed dispatcher has released its driver where the driver has heard. -/
theorem released_iff_heard {s : Teardown} : Released s ↔ (s.phase = .finished → s.loop.Heard) := by
  refine forall_congr' fun _ => or_congr_right (and_congr_right fun hclosed => ?_)
  exact Loop.canTakeShutdown_iff hclosed

/-- Only a request closes the latch. -/
theorem shutdown_step {s t : Loop} {e : Loop.Event} (hne : e ≠ .shutdown)
    (hst : s.step e = some t) : t.shutdown = s.shutdown := by
  cases Loop.step_cases hst with
  | shutdown => exact absurd rfl hne
  | @handled result now => rcases result with (_ | _) | (_ | _) <;> rfl
  | takeInbound item => rcases item with _ | ⟨_ | _⟩ <;> rfl
  | _ => first | rfl | (unfold Loop.enqueue; split <;> rfl)

theorem Requested.step {s t : Teardown} {e : Event} (h : Requested s) (hst : s.step e = some t) :
    Requested t := by
  cases step_cases hst with
  | @driver le loop hne hloop =>
    have hshut : loop.shutdown = s.loop.shutdown := shutdown_step hne hloop
    refine ⟨fun hphase => ?_, fun hphase => ?_⟩
    · exact (congrArg Latch.isClosed hshut).trans (h.running hphase)
    · exact (congrArg Latch.isClosed hshut).trans (h.draining hphase)
  | drain => exact ⟨nofun, fun _ => rfl⟩
  | drained | timeout | drop => exact ⟨nofun, nofun⟩
  | watch => exact ⟨h.running, h.draining⟩

/-- A frame makes the driver leave exactly if it ends it. -/
theorem heard_inbound_iff {s : Loop} {env : Env} {item : Option (Except Status pb.JoinMessage)} :
    (s.inbound env item).Heard ↔ Ends s env item := by
  rcases item with _ | ⟨_ | join⟩
  · exact iff_of_true (.inl trivial) trivial
  · exact iff_of_true (.inl trivial) trivial
  · have hpc : (s.inbound env (some (.ok join))).pc =
        .handling (s.driver.handleInbound env join).2 := rfl
    unfold Loop.Heard Loop.Leaving Ends
    rw [hpc]
    rcases hresult : (s.driver.handleInbound env join).2 with fault | ttl
    · exact iff_of_true (.inl trivial) ⟨fault, hresult⟩
    · refine iff_of_false ?_ ?_
      · rintro (hleaving | ⟨-, hselect⟩)
        · exact hleaving
        · cases hselect
      · rintro ⟨fault, hfault⟩
        rw [hresult] at hfault
        cases hfault

/-- **One step of the driver** of a closed dispatcher. -/
theorem heard_driver_iff {s : Teardown} {t : Loop} {e : Loop.Event} (hphase : s.phase = .finished)
    (hne : e ≠ .shutdown) (hst : s.loop.step e = some t) (h : s.loop.Heard) :
    t.Heard ↔ ReleasesDriver s (.driver e) := by
  rcases h with hleaving | ⟨hclosed, hpc⟩
  · refine iff_of_true (.inl (hleaving.step hst)) ?_
    unfold Loop.Leaving at hleaving
    cases Loop.step_cases hst with
    | takeTick _ hpc | takeInbound _ _ hpc =>
      rw [hpc] at hleaving
      exact hleaving.elim
    | _ => trivial
  · cases Loop.step_cases hst with
    | shutdown => exact absurd rfl hne
    | takeShutdown => exact iff_of_true (.inl trivial) trivial
    | takeTick now =>
      refine iff_of_false ?_ fun hopen => hopen hphase
      rintro (hleaving | ⟨-, hselect⟩)
      · exact hleaving
      · cases hselect
    | takeInbound item env =>
      rw [heard_inbound_iff]
      exact ⟨fun hends _ => hends, fun hends => hends hphase⟩
    | exec => exact iff_of_true (.inr ⟨hclosed, hpc⟩) trivial
    | start hpc' | handled _ hpc' | heartbeatSent hpc' | heartbeatFailed hpc'
    | deregisterSent _ hpc' | closedSent _ hpc' | collect _ hpc' | finish hpc' =>
      rw [hpc] at hpc'
      cases hpc'

/-- **One step.** -/
theorem Released.step_iff {s t : Teardown} {e : Event} (hI : Requested s) (h : Released s)
    (hst : s.step e = some t) : Released t ↔ ReleasesDriver s e := by
  rw [released_iff_heard] at h ⊢
  cases step_cases hst with
  | @driver le loop hne hloop =>
    by_cases hphase : s.phase = .finished
    · rw [← heard_driver_iff hphase hne hloop (h hphase)]
      exact ⟨fun hheard => hheard hphase, fun hheard _ => hheard⟩
    · refine iff_of_true (fun hfin => absurd hfin hphase) ?_
      cases le with
      | takeTick => exact hphase
      | takeInbound => exact fun hfin => absurd hfin hphase
      | _ => trivial
  | drain => exact iff_of_true nofun trivial
  | drained _ hgone => exact iff_of_true (fun _ => .inl (.of_gone hgone)) trivial
  | timeout hphase =>
    refine ⟨fun hheard => (hheard rfl).imp_right And.right, fun hc _ => ?_⟩
    exact hc.imp_right fun hpc => ⟨hI.draining hphase, hpc⟩
  | drop hphase =>
    constructor
    · intro hheard
      refine (hheard rfl).imp_right fun ⟨hclosed, hpc⟩ => ⟨?_, hpc⟩
      cases hp : s.phase with
      | running =>
        have hclosed : s.loop.shutdown.isClosed = true := hclosed
        rw [hI.running hp] at hclosed
        cases hclosed
      | draining => rfl
      | finished => exact absurd hp hphase
    · intro hc _
      exact hc.imp_right fun ⟨hdraining, hpc⟩ => ⟨hI.draining hdraining, hpc⟩
  | watch => exact iff_of_true h trivial

/-- **When a closed dispatcher has released its driver.** It has in every state of a run exactly if
the drops, the timeout and the driver's steps meet the condition. -/
theorem released_iff (es : List Event) :
    machine.Always Released initial es ↔ machine.Guarded ReleasesDriver initial es :=
  Machine.always_iff_guarded (I := Requested) (fun _ _ _ h hst => h.step hst)
    (fun _ _ _ hI h hst => h.step_iff hI hst) .initial nofun

end

/-! ## Runs -/

/-- A drain that gets through. -/
def drainRun : List Event :=
  [.driver .start, .drain, .driver .takeShutdown, .driver (.sent true), .driver (.sent true),
    .driver (.collect []), .driver .finish, .drained]

/-- A drain during a heartbeat. Its request is lost, but the heartbeat fails to be sent. -/
def failedRun : List Event :=
  [.driver .start, .driver (.takeTick SystemTime.unixEpoch), .drain, .driver (.sent false),
    .timeout, .driver (.collect []), .driver .finish]

/-- Both release the driver. -/
theorem released_drainRun :
    let := UuidCrate.pair
    machine.Always Released initial drainRun ∧ machine.Always Released initial failedRun := by
  let := UuidCrate.pair
  refine ⟨(released_iff _).2 (Machine.guarded_of_forall ?_), (released_iff _).2 ?_⟩
  · simp [drainRun, ReleasesDriver]
  · refine Machine.guarded_cons.2 fun s₁ h₁ => ⟨trivial, ?_⟩
    cases h₁
    refine Machine.guarded_cons.2 fun s₂ h₂ => ⟨nofun, ?_⟩
    cases h₂
    refine Machine.guarded_cons.2 fun s₃ h₃ => ⟨trivial, ?_⟩
    cases h₃
    refine Machine.guarded_cons.2 fun s₄ h₄ => ⟨trivial, ?_⟩
    cases h₄
    refine Machine.guarded_cons.2 fun s₅ _ => ⟨.inl trivial, Machine.guarded_of_forall ?_⟩
    simp [ReleasesDriver]

/-- **A dropped dispatcher keeps its driver.** Nobody has told the driver to exit, and nobody can
any more. -/
theorem dropped_not_released :
    let := UuidCrate.pair
    ∃ t, machine.run initial [.driver .start, .drop] = some t ∧ ¬ Released t := by
  let := UuidCrate.pair
  refine ⟨_, rfl, fun h => ?_⟩
  rcases h rfl with hleaving | ⟨hclosed, -⟩
  · exact hleaving
  · cases hclosed

end Teardown

end Splitter
