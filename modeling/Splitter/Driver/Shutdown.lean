import Splitter.Driver.Loop

/-!
# The shutdown request

The shutdown branch of the driver's `select!` has the precondition that the latch is still open. It
is there so that the branch is not taken twice, but the branch leaves the loop, so it is never
entered twice; what the precondition does is turn the branch off for a latch that closed while the
driver was elsewhere. `shutdownEnabled_iff`: the branch is enabled in every waiting state with a
closed latch exactly in the runs that never enter `select!` with the latch closed.
-/

namespace Splitter

namespace Loop

/-- A wait without the shutdown branch was entered with the latch closed. -/
def Disarmed (s : Loop) : Prop := s.pc = .select false → s.shutdown.isClosed = true

theorem Disarmed.enterSelect (s : Loop) : Disarmed s.enterSelect := by
  intro hpc
  have hpc : Pc.select (!s.shutdown.isClosed) = .select false := hpc
  show s.shutdown.isClosed = true
  simpa using hpc

section
variable [UuidCrate]

/-- **A shutdown request is not lost**: where the latch is closed and the driver waits, the branch
that deregisters and exits can be taken. -/
def ShutdownEnabled (s : Loop) : Prop :=
  s.shutdown.isClosed = true → ∀ armed, s.pc = .select armed → (s.step .takeShutdown).isSome

/-- The event brings the driver back to its `select!`. -/
def EntersSelect (s : Loop) : Event → Prop
  | .start => s.pc = .start
  | .sent ok => ok = true ∧ ∃ frame, s.pc = .heartbeat frame
  | .handled _ => ∃ ttl, s.pc = .handling (.ok ttl)
  | _ => False

/-- The branch can be taken in a wait that was entered with the latch open. -/
theorem takeShutdown_isSome_iff (s : Loop) :
    (s.step .takeShutdown).isSome ↔ s.pc = .select true ∧ s.shutdown.isClosed = true := by
  constructor
  · intro h
    obtain ⟨t, ht⟩ := Option.isSome_iff_exists.1 h
    cases step_cases ht with
    | takeShutdown hpc hclosed => exact ⟨hpc, hclosed⟩
  · rintro ⟨hpc, hclosed⟩
    simp [step, hpc, Latch.closed, hclosed]

/-- A step outside `select!` and back, or a step that stays where it is. -/
theorem Disarmed.step {s t : Loop} {e : Event} (h : Disarmed s) (hst : s.step e = some t) :
    Disarmed t := by
  cases step_cases hst with
  | start | heartbeatSent => exact .enterSelect _
  | shutdown => exact fun _ => rfl
  | exec => exact h
  | @handled result now =>
    rcases result with (_ | _) | (_ | _)
    · nofun
    · nofun
    · exact .enterSelect _
    · exact .enterSelect _
  | takeInbound item => rcases item with _ | ⟨_ | _⟩ <;> nofun
  | _ => nofun

/-- A driver that is not waiting loses nothing. -/
theorem ShutdownEnabled.of_pc {s : Loop} (h : ∀ armed, s.pc ≠ .select armed) :
    ShutdownEnabled s :=
  fun _ armed hpc => absurd hpc (h armed)

/-- Entering `select!` is safe exactly with the latch open. -/
theorem shutdownEnabled_enterSelect (s : Loop) :
    ShutdownEnabled s.enterSelect ↔ s.shutdown.isClosed = false := by
  unfold ShutdownEnabled
  simp only [takeShutdown_isSome_iff]
  constructor
  · intro h
    by_contra hclosed
    have hc : s.shutdown.isClosed = true := by simpa using hclosed
    have hpc := (h hc _ rfl).1
    have hpc : Pc.select (!s.shutdown.isClosed) = .select true := hpc
    rw [hc] at hpc
    cases hpc
  · intro hopen hclosed
    have hclosed : s.shutdown.isClosed = true := hclosed
    rw [hopen] at hclosed
    cases hclosed

/-- **One step.** It keeps the request exactly if it does not enter `select!` with the latch
closed. -/
theorem ShutdownEnabled.step_iff {s t : Loop} {e : Event} (hI : Disarmed s)
    (h : ShutdownEnabled s) (hst : s.step e = some t) :
    ShutdownEnabled t ↔ (EntersSelect s e → s.shutdown.isClosed = false) := by
  cases step_cases hst with
  | start hpc | heartbeatSent hpc =>
    rw [shutdownEnabled_enterSelect]
    simp [EntersSelect, hpc, enqueue]
  | shutdown =>
    refine iff_of_true (fun _ armed hpc => ?_) fun henters => henters.elim
    have hpc : s.pc = .select armed := hpc
    cases armed with
    | true => exact (takeShutdown_isSome_iff _).2 ⟨hpc, rfl⟩
    | false =>
      have hs := (takeShutdown_isSome_iff s).1 (h (hI hpc) false hpc)
      rw [hpc] at hs
      cases hs.1
  | exec =>
    refine iff_of_true (fun hclosed armed hpc => ?_) fun henters => henters.elim
    exact (takeShutdown_isSome_iff _).2 ((takeShutdown_isSome_iff s).1 (h hclosed armed hpc))
  | @handled result now hpc =>
    rcases result with fault | ttl
    · refine iff_of_true (.of_pc fun armed hselect => ?_) ?_
      · cases fault <;> cases hselect
      · rintro ⟨ttl, httl⟩
        rw [hpc] at httl
        cases httl
    · have henter : EntersSelect s (.handled now) := ⟨ttl, hpc⟩
      cases ttl with
      | none =>
        show ShutdownEnabled s.enterSelect ↔ _
        rw [shutdownEnabled_enterSelect]
        exact ⟨fun hopen _ => hopen, fun hopen => hopen henter⟩
      | some ttl =>
        show ShutdownEnabled { s with heartbeat := heartbeatDelay ttl now }.enterSelect ↔ _
        rw [shutdownEnabled_enterSelect]
        exact ⟨fun hopen _ => hopen, fun hopen => hopen henter⟩
  | takeInbound item _ hpc =>
    refine iff_of_true (.of_pc fun armed hselect => ?_) fun henters => henters.elim
    rcases item with _ | ⟨_ | _⟩ <;> cases hselect
  | heartbeatFailed | takeShutdown | takeTick | collect | finish =>
    exact iff_of_true (.of_pc fun _ hselect => by cases hselect) (by simp [EntersSelect])
  | deregisterSent ok hpc | closedSent ok hpc =>
    exact iff_of_true (.of_pc fun _ hselect => by cases hselect) (by simp [EntersSelect, hpc])

/-- **When a shutdown request is never lost.** In every run of the driver, the request can be taken
in each waiting state with a closed latch exactly if each time the driver enters `select!` the
latch is open. -/
theorem shutdownEnabled_iff (es : List Event) :
    machine.Always ShutdownEnabled initial es ↔
      machine.Guarded (fun s e => EntersSelect s e → s.shutdown.isClosed = false) initial es :=
  Machine.always_iff_guarded (I := Disarmed) (fun _ _ _ h hst => h.step hst)
    (fun _ _ _ hI h hst => h.step_iff hI hst) nofun (.of_pc nofun)

end

/-- **A request during a heartbeat is lost.** The latch closes while a heartbeat is being sent, and
the driver waits on without the branch. -/
theorem shutdown_lost :
    let := UuidCrate.pair
    let es : List Event := [.start, .takeTick SystemTime.unixEpoch, .shutdown, .sent true]
    ∃ t, machine.run initial es = some t ∧ ¬ ShutdownEnabled t := by
  let := UuidCrate.pair
  exact ⟨_, rfl, fun h => absurd (h rfl false rfl) (by decide)⟩

end Loop

end Splitter
