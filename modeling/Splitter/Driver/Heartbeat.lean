import Mathlib.Tactic.Ring
import Splitter.Driver.Independence
import Splitter.Lib.Ticker

/-!
# Heartbeats

The heartbeat branch of `Driver::run` against a clock. The driver's interval skips the ticks it
missed, and each lease the server sends replaces the interval by one whose period is a third of what
is left, at least 250 milliseconds and at most 30 seconds.

`heartbeat_rate`: whatever the server sends and however late the driver runs, it sends at most one
heartbeat for each 250 milliseconds. `heartbeat_in_time`: the next heartbeat is due on the grid of
the last lease, and never further off than the period that lease asked for.
-/

namespace Splitter

/-! ## Frames the driver sends -/

namespace Driver

/-- The handlers leave no frame to be sent. -/
def Frameless (d : Driver) : Prop := ∀ frame, .enqueue frame ∉ d.pending

theorem Frameless.initial : Frameless initial := fun _ h => by cases h

theorem Frameless.append {d d' : Driver} {effects : List Effect} (h : d.Frameless)
    (hpending : d'.pending = d.pending ++ effects) (hnone : ∀ frame, .enqueue frame ∉ effects) :
    d'.Frameless := by
  intro frame hmem
  rw [hpending, List.mem_append] at hmem
  exact hmem.elim (h frame) (hnone frame)

/-- **Every edit.** -/
theorem Frameless.edit {d d' : Driver} (h : d.Frameless) (he : Edit d d') : d'.Frameless := by
  cases he with
  | remove id =>
    unfold removeGrant
    split
    · exact h
    · exact h.append rfl (by simp)
  | enter g shard expiration now => exact h.append rfl (by simp)
  | promote g entry => exact h.append rfl (by simp)
  | revoke g newExpiration entry =>
    refine h.append rfl ?_
    cases newExpiration <;> simp
  | notify target updateState entry =>
    refine h.append rfl ?_
    cases updateState <;> simp [notifyEffects]
  | extend newLease => exact h.append rfl (by simp)
  | publish next => exact h.append rfl (by simp)

end Driver

/-- The frame is a session heartbeat. -/
def isHeartbeat (frame : pb.JoinMessage) : Bool :=
  match frame.msg with
  | some (.session { request := some (.heartbeat _) }) => true
  | _ => false

/-- The heartbeats among the effects carried out. -/
def heartbeats (log : List Effect) : Nat :=
  log.countP fun
    | .enqueue frame => isHeartbeat frame
    | _ => false

/-! ## The driver and its clock -/

/-- The driver, the monotonic clock in nanoseconds, and the instant at which the next tick of its
interval is due. -/
structure Paced where
  loop : Loop
  now : Nat
  due : Nat

namespace Paced

inductive Event
  | loop (e : Loop.Event)
  /-- Time passes. -/
  | elapse (nanos : Nat)

section
variable (next : Nat → Nat → Nat → Nat)

/-- The instant at which the tick after a step is due. A new interval is ticked at once; a tick is
taken when it is due. -/
def rearm (s : Paced) (loop : Loop) : Loop.Event → Option Nat
  | .start => some (next s.now loop.heartbeat.nanos s.now)
  | .takeTick _ => if s.due ≤ s.now then some (next s.due loop.heartbeat.nanos s.now) else none
  | .handled _ =>
    match s.loop.pc with
    | .handling (.ok (some _)) => some (next s.now loop.heartbeat.nanos s.now)
    | _ => some s.due
  | _ => some s.due

variable [UuidCrate]

def step (s : Paced) : Event → Option Paced
  | .loop e =>
    match s.loop.step e with
    | none => none
    | some loop => (s.rearm next loop e).map fun due => { s with loop, due }
  | .elapse nanos => some { s with now := s.now + nanos }

/-- The driver from its spawn at an instant on. -/
def machine (start : Nat) : Machine Paced Event where
  init s := s.loop = .initial ∧ s.now = start
  step := step next

end

/-- The lease that a step takes notice of, with the reading of the clock and the instant. -/
def notices (s : Paced) : Event → List (SystemTime × SystemTime × Nat)
  | .loop (.handled now) =>
    match s.loop.pc with
    | .handling (.ok (some ttl)) => [(ttl, now, s.now)]
    | _ => []
  | _ => []

end Paced

/-! ## The rate -/

/-- The shortest period of the heartbeat interval: 250 milliseconds. -/
def leastPeriod : Nat := 250000000

theorem leastPeriod_le_delay (ttl now : SystemTime) :
    leastPeriod ≤ (heartbeatDelay ttl now).nanos := Nat.le_max_left ..

namespace Loop

/-- The driver leaves frames to its loop, and its interval has no shorter period than the least. -/
structure Steady (s : Loop) : Prop where
  frameless : s.driver.Frameless
  period : leastPeriod ≤ s.heartbeat.nanos

theorem Steady.initial : Steady initial where
  frameless := .initial
  period := by decide

/-- A heartbeat that is being sent. -/
def sending (s : Loop) : Nat :=
  match s.pc with
  | .heartbeat _ => 1
  | _ => 0

/-- The ticks that an event takes. -/
def Event.ticks : Event → Nat
  | .takeTick _ => 1
  | _ => 0

/-- The driver has taken the first tick. -/
def Started (s : Loop) : Prop :=
  match s.pc with
  | .start => False
  | _ => True

theorem heartbeats_append (log effects : List Effect) :
    heartbeats (log ++ effects) = heartbeats log + heartbeats effects := List.countP_append

section
variable [UuidCrate]

theorem Steady.step {s t : Loop} {e : Event} (h : s.Steady) (hst : s.step e = some t) :
    t.Steady where
  frameless := by
    rcases driver_step hst with ⟨eff, rest, hpending, -, hdriver⟩ | ⟨hedits, -⟩
    · rw [hdriver]
      intro frame hmem
      exact h.frameless frame (by rw [hpending]; exact List.mem_cons_of_mem _ hmem)
    · exact hedits.invariant (fun _ _ hd he => hd.edit he) h.frameless
  period := by
    cases step_cases hst with
    | takeInbound item env => rcases item with _ | ⟨_ | _⟩ <;> exact h.period
    | @handled result now =>
      rcases result with (_ | _) | (_ | ttl)
      · exact h.period
      · exact h.period
      · exact h.period
      · exact leastPeriod_le_delay ttl now
    | deregisterSent ok | closedSent ok => cases ok <;> exact h.period
    | _ => exact h.period

/-- The first tick starts the driver, for good. -/
theorem started_step {s t : Loop} {e : Event} (hst : s.step e = some t) :
    t.Started ↔ s.Started ∨ e = .start := by
  have hin : ∀ {pc : Pc}, s.pc = pc → (∀ h : pc = .start, False) → s.Started := by
    intro pc hpc hne
    unfold Started
    split
    · next hstart => exact hne (hpc.symm.trans hstart)
    · trivial
  cases step_cases hst with
  | start hpc => exact iff_of_true trivial (.inr rfl)
  | shutdown | exec => exact ⟨.inl, fun h => h.resolve_right fun h => by cases h⟩
  | takeShutdown hpc | takeTick _ hpc | heartbeatSent hpc | heartbeatFailed hpc | collect _ hpc
  | finish hpc =>
    exact iff_of_true trivial (.inl (hin hpc fun h => by cases h))
  | takeInbound item env hpc =>
    refine iff_of_true ?_ (.inl (hin hpc fun h => by cases h))
    rcases item with _ | ⟨_ | _⟩ <;> trivial
  | @handled result now hpc =>
    refine iff_of_true ?_ (.inl (hin hpc fun h => by cases h))
    rcases result with (_ | _) | (_ | _) <;> trivial
  | deregisterSent ok hpc | closedSent ok hpc =>
    exact iff_of_true trivial (.inl (hin hpc fun h => by cases h))

/-- Ticks are taken in the `select!`. -/
theorem started_of_tick {s t : Loop} {now : SystemTime} (hst : s.step (.takeTick now) = some t) :
    s.Started := by
  cases step_cases hst with
  | takeTick _ hpc =>
    unfold Started
    rw [hpc]
    trivial

/-- Only a tick has a heartbeat sent. -/
theorem heartbeats_step {s t : Loop} {e : Event} (h : s.Steady) (hst : s.step e = some t) :
    heartbeats t.done + t.sending ≤ heartbeats s.done + s.sending + e.ticks := by
  have hone : ∀ eff, heartbeats [eff] ≤ 1 := fun eff => List.countP_le_length
  cases step_cases hst with
  | start hpc | takeShutdown hpc | takeTick _ hpc | collect _ hpc | finish hpc
  | heartbeatFailed hpc => simp [sending, hpc, enterSelect, Event.ticks]
  | shutdown => exact Nat.le_refl _
  | takeInbound item env hpc => rcases item with _ | ⟨_ | _⟩ <;> simp [sending, hpc, inbound]
  | @exec eff rest hpending =>
    have hframe : heartbeats [eff] = 0 := by
      cases eff with
      | enqueue frame => exact absurd (hpending ▸ List.mem_cons_self ..) (h.frameless frame)
      | _ => rfl
    rw [heartbeats_append, hframe]
    exact Nat.le_refl _
  | @handled result now hpc =>
    rcases result with (_ | _) | (_ | _) <;> simp [sending, hpc, afterInbound, enterSelect]
  | @heartbeatSent frame hpc =>
    have hframe := hone (.enqueue frame)
    simp only [enqueue, enterSelect, if_true, heartbeats_append, sending, hpc]
    omega
  | deregisterSent ok hpc | closedSent ok hpc =>
    cases ok with
    | false => simp [sending, hpc, enqueue]
    | true =>
      simp only [enqueue, if_true, heartbeats_append, sending, hpc]
      exact Nat.le_refl _

end

end Loop

namespace Paced

variable {next : Nat → Nat → Nat → Nat} {start : Nat}

/-- The heartbeats sent or being sent fit the time since the start. -/
structure Rate (start : Nat) (s : Paced) : Prop where
  steady : s.loop.Steady
  before : ¬ s.loop.Started → heartbeats s.loop.done + s.loop.sending = 0 ∧ start ≤ s.now
  since : s.loop.Started → Ticker.Budget leastPeriod start
    (heartbeats s.loop.done + s.loop.sending) s.now s.due

/-- The heartbeats sent or being sent fit the time since the start. -/
theorem Rate.spent {s : Paced} (h : s.Rate start) :
    start + (heartbeats s.loop.done + s.loop.sending) * leastPeriod ≤ s.now := by
  by_cases hin : s.loop.Started
  · exact (h.since hin).spent
  · obtain ⟨hnone, hle⟩ := h.before hin
    rw [hnone, Nat.zero_mul]
    exact hle

/-- What a step of the driver does to its interval. -/
inductive Rearmed (next : Nat → Nat → Nat → Nat) (s : Paced) (loop : Loop) :
    Loop.Event → Nat → Prop
  | tick (now : SystemTime) (hlate : s.due ≤ s.now) (hperiod : loop.heartbeat = s.loop.heartbeat) :
      Rearmed next s loop (.takeTick now) (next s.due loop.heartbeat.nanos s.now)
  | start (hbefore : ¬ s.loop.Started) (hperiod : loop.heartbeat = s.loop.heartbeat) :
      Rearmed next s loop .start (next s.now loop.heartbeat.nanos s.now)
  | lease {ttl : SystemTime} (now : SystemTime)
      (hpc : s.loop.pc = .handling (.ok (some ttl)))
      (hperiod : loop.heartbeat = heartbeatDelay ttl now) :
      Rearmed next s loop (.handled now) (next s.now loop.heartbeat.nanos s.now)
  | same {e : Loop.Event} (hne : e ≠ .start) (hticks : e.ticks = 0)
      (hperiod : loop.heartbeat = s.loop.heartbeat) (hnotices : s.notices (.loop e) = []) :
      Rearmed next s loop e s.due

section
variable [UuidCrate]

/-- What a step does to the driver and to the due instant. -/
theorem step_eq_some {s t : Paced} {e : Event} :
    s.step next e = some t ↔
      (∃ e' loop due, e = .loop e' ∧ s.loop.step e' = some loop ∧
          s.rearm next loop e' = some due ∧ t = { s with loop, due }) ∨
        ∃ nanos, e = .elapse nanos ∧ t = { s with now := s.now + nanos } := by
  cases e with
  | loop e =>
    simp only [step]
    cases hloop : s.loop.step e with
    | none => simp [hloop]
    | some loop =>
      cases hdue : s.rearm next loop e with
      | none => simp [hloop, hdue]
      | some due => simp [hloop, hdue, eq_comm]
  | elapse nanos => simp [step, eq_comm]

/-- **Every step of the driver is one of these.** -/
theorem rearm_cases {s : Paced} {loop : Loop} {e : Loop.Event} {due : Nat}
    (hloop : s.loop.step e = some loop) (hdue : s.rearm next loop e = some due) :
    Rearmed next s loop e due := by
  cases Loop.step_cases hloop with
  | start hpc =>
    cases hdue
    refine .start (fun hin => ?_) rfl
    rw [Loop.Started, hpc] at hin
    exact hin
  | takeTick now hpc =>
    obtain ⟨hlate, heq⟩ := Option.ite_none_right_eq_some.1 hdue
    cases heq
    exact .tick now hlate rfl
  | takeInbound item env =>
    cases hdue
    refine .same (fun h => by cases h) rfl ?_ rfl
    rcases item with _ | ⟨_ | _⟩ <;> rfl
  | @handled result now hpc =>
    simp only [rearm, hpc] at hdue
    rcases result with (_ | _) | (_ | ttl)
    · cases hdue
      exact .same (fun h => by cases h) rfl rfl (by simp [notices, hpc])
    · cases hdue
      exact .same (fun h => by cases h) rfl rfl (by simp [notices, hpc])
    · cases hdue
      exact .same (fun h => by cases h) rfl rfl (by simp [notices, hpc])
    · cases hdue
      exact .lease now hpc rfl
  | deregisterSent ok | closedSent ok =>
    cases hdue
    cases ok <;> exact .same (fun h => by cases h) rfl rfl rfl
  | _ =>
    cases hdue
    exact .same (fun h => by cases h) rfl rfl rfl

/-- **The step lemma.** -/
theorem Rate.step {s t : Paced} {e : Event} (h : s.Rate start) (hskips : Ticker.Skips next)
    (hst : s.step next e = some t) : t.Rate start := by
  rcases step_eq_some.1 hst with ⟨e, loop, due, rfl, hloop, hdue, rfl⟩ | ⟨nanos, rfl, rfl⟩
  · have hsteady := h.steady.step hloop
    have hstarted := Loop.started_step hloop
    have hsent := Loop.heartbeats_step h.steady hloop
    have hpos : 0 < loop.heartbeat.nanos := Nat.lt_of_lt_of_le (by decide) hsteady.period
    have hnone : e.ticks = 0 → ¬ loop.Started →
        heartbeats loop.done + loop.sending = 0 ∧ start ≤ s.now := fun hticks hnot => by
      obtain ⟨hzero, hle⟩ := h.before fun hs => hnot (hstarted.2 (.inl hs))
      rw [hticks, hzero] at hsent
      exact ⟨Nat.le_zero.1 hsent, hle⟩
    have hrestart := Ticker.Budget.restart h.spent hskips hpos hsteady.period
    cases rearm_cases hloop hdue with
    | tick now hlate =>
      have hin := Loop.started_of_tick hloop
      have htick := (h.since hin).tick hskips hsteady.period hlate
      exact ⟨hsteady, fun hnot => absurd (hstarted.2 (.inl hin)) hnot, fun _ => htick.mono hsent⟩
    | start => exact ⟨hsteady, hnone rfl, fun _ => hrestart.mono hsent⟩
    | lease => exact ⟨hsteady, hnone rfl, fun _ => hrestart.mono hsent⟩
    | same hne hticks =>
      rw [hticks] at hsent
      exact ⟨hsteady, hnone hticks, fun hin =>
        (h.since ((hstarted.1 hin).resolve_right hne)).mono hsent⟩
  · refine ⟨h.steady, fun hnot => ?_, fun hin => (h.since hin).elapse nanos⟩
    obtain ⟨hzero, hle⟩ := h.before hnot
    exact ⟨hzero, Nat.le_add_right_of_le hle⟩

/-- **The rate of heartbeats.** In every run of the driver against a clock, with an interval that
skips missed ticks, at most one heartbeat is sent for each 250 milliseconds since the start,
whatever leases the server sends and however late the driver runs. -/
theorem heartbeat_rate (hskips : Ticker.Skips next) {es : List Event} {s₀ s : Paced}
    (hinit : (machine next start).init s₀) (hrun : (machine next start).run s₀ es = some s) :
    heartbeats s.loop.done * leastPeriod ≤ s.now - start := by
  obtain ⟨hloop, hnow⟩ := hinit
  have hzero : s₀.Rate start :=
    { steady := by rw [hloop]; exact .initial
      before := fun _ => by rw [hloop, hnow]; exact ⟨rfl, Nat.le_refl _⟩
      since := fun hin => by rw [hloop] at hin; exact hin.elim }
  have h : s.Rate start := Machine.run_invariant (fun _ _ _ h hst => h.step hskips hst) hzero hrun
  have hspent := h.spent
  have hle : heartbeats s.loop.done * leastPeriod ≤
      (heartbeats s.loop.done + s.loop.sending) * leastPeriod :=
    Nat.mul_le_mul_right _ (Nat.le_add_right ..)
  omega

/-! ## The next heartbeat -/

/-- The period of the interval that a lease asks for, or that the driver starts with. -/
def periodFor : Option (SystemTime × SystemTime × Nat) → Duration
  | some (ttl, now, _) => heartbeatDelay ttl now
  | none => Loop.initial.heartbeat

/-- The interval is that of the last lease noticed, and its next tick is due within a period. -/
structure Punctual (s : Paced) (noticed : List (SystemTime × SystemTime × Nat)) : Prop where
  steady : s.loop.Steady
  before : ¬ s.loop.Started → noticed = []
  period : s.loop.heartbeat = periodFor noticed.getLast?
  grid : ∀ ttl now at', noticed.getLast? = some (ttl, now, at') →
    ∃ k, s.due = at' + (k + 1) * s.loop.heartbeat.nanos
  soon : s.loop.Started → s.due ≤ s.now + s.loop.heartbeat.nanos

/-- **The step lemma.** -/
theorem Punctual.step {s t : Paced} {e : Event} {noticed : List (SystemTime × SystemTime × Nat)}
    (h : s.Punctual noticed) (hskips : Ticker.Skips next) (hst : s.step next e = some t) :
    t.Punctual (noticed ++ s.notices e) := by
  rcases step_eq_some.1 hst with ⟨e, loop, due, rfl, hloop, hdue, rfl⟩ | ⟨nanos, rfl, rfl⟩
  · have hsteady := h.steady.step hloop
    have hstarted := Loop.started_step hloop
    have hpos : 0 < loop.heartbeat.nanos := Nat.lt_of_lt_of_le (by decide) hsteady.period
    have hbefore : ¬ loop.Started → noticed = [] :=
      fun hnot => h.before fun hs => hnot (hstarted.2 (.inl hs))
    cases rearm_cases hloop hdue with
    | tick now hlate hperiod =>
      rw [show s.notices (.loop (.takeTick now)) = [] from rfl, List.append_nil]
      refine ⟨hsteady, hbefore, hperiod.trans h.period, fun ttl read at' hlast => ?_, fun _ => ?_⟩
      · obtain ⟨k, hk⟩ := h.grid ttl read at' hlast
        obtain ⟨j, hj⟩ := hskips.grid s.due loop.heartbeat.nanos s.now
        refine ⟨k + 1 + j, ?_⟩
        rw [← hperiod] at hk
        show next _ _ _ = _
        rw [hj, hk]
        ring
      · exact hskips.soon _ _ _ hpos hlate
    | start hnot hperiod =>
      rw [show s.notices (.loop .start) = [] from rfl, List.append_nil]
      refine ⟨hsteady, hbefore, hperiod.trans h.period, fun ttl read at' hlast => ?_, fun _ => ?_⟩
      · rw [h.before hnot] at hlast
        cases hlast
      · exact hskips.soon _ _ _ hpos (Nat.le_refl _)
    | @lease ttl now hpc hperiod =>
      have hnotices : s.notices (.loop (.handled now)) = [(ttl, now, s.now)] := by
        simp [notices, hpc]
      rw [hnotices]
      refine ⟨hsteady, fun hnot => ?_, ?_, fun ttl' read at' hlast => ⟨0, ?_⟩, fun _ => ?_⟩
      · refine absurd (hstarted.2 (.inl ?_)) hnot
        rw [Loop.Started, hpc]
        trivial
      · rw [List.getLast?_concat]
        exact hperiod
      · rw [List.getLast?_concat] at hlast
        cases hlast
        show next _ _ _ = _
        rw [hskips.start hpos]
        ring
      · exact hskips.soon _ _ _ hpos (Nat.le_refl _)
    | same hne hticks hperiod hnotices =>
      rw [hnotices, List.append_nil]
      refine ⟨hsteady, hbefore, hperiod.trans h.period, ?_, fun hin => ?_⟩
      · rw [hperiod]
        exact h.grid
      · rw [hperiod]
        exact h.soon ((hstarted.1 hin).resolve_right hne)
  · rw [show s.notices (.elapse nanos) = [] from rfl, List.append_nil]
    refine ⟨h.steady, h.before, h.period, h.grid, fun hin => ?_⟩
    exact (h.soon hin).trans (Nat.add_le_add_right (Nat.le_add_right _ _) _)

/-- **Heartbeats in time.** In every run of the driver against a clock, once it has taken notice of
a lease: the next heartbeat is due on the grid of the last one, and not further off than the period
it asks for, which is at most 30 seconds, and at most a third of what was left of it if that was
750 milliseconds or more. -/
theorem heartbeat_in_time (hskips : Ticker.Skips next) {es : List Event} {s₀ s : Paced}
    (hinit : (machine next start).init s₀) (hrun : (machine next start).run s₀ es = some s)
    {ttl read : SystemTime} {at' : Nat}
    (hlast : ((machine next start).outputs notices s₀ es).getLast? = some (ttl, read, at')) :
    let period := (heartbeatDelay ttl read).nanos
    (∃ k, s.due = at' + (k + 1) * period) ∧ s.due ≤ s.now + period ∧
      period ≤ 30 * nanosPerSec ∧
        (750000000 ≤ ttl.nanos - read.nanos → 3 * (period : Int) ≤ ttl.nanos - read.nanos) := by
  obtain ⟨hloop, -⟩ := hinit
  have hzero : s₀.Punctual [] :=
    { steady := by rw [hloop]; exact .initial
      before := fun _ => rfl
      period := by rw [hloop]; rfl
      grid := fun _ _ _ hlast => by cases hlast
      soon := fun hin => by rw [hloop] at hin; exact hin.elim }
  have h : s.Punctual ([] ++ (machine next start).outputs notices s₀ es) :=
    Machine.run_outputs (I := Punctual) (fun _ _ _ _ h hst => h.step hskips hst) hzero hrun
  rw [List.nil_append] at h
  have hperiod : s.loop.heartbeat = heartbeatDelay ttl read := by
    rw [h.period, hlast]
    rfl
  have hin : s.loop.Started := by
    by_contra hnot
    rw [h.before hnot] at hlast
    cases hlast
  have hgrid := h.grid ttl read at' hlast
  have hsoon := h.soon hin
  rw [hperiod] at hgrid hsoon
  refine ⟨hgrid, hsoon, ?_, fun hleft => ?_⟩
  · simp only [heartbeatDelay, nanosPerSec]
    omega
  · simp only [heartbeatDelay, nanosPerSec]
    omega

end

/-! ## A run -/

/-- The driver when it is spawned at the start of the clock. -/
def spawned : Paced := { loop := .initial, now := 0, due := 0 }

/-- A heartbeat after a minute, and a lease of nine seconds in answer. -/
def beatRun : List Event :=
  [.loop .start, .elapse (60 * nanosPerSec), .loop (.takeTick SystemTime.unixEpoch),
    .loop (.sent true),
    .loop (.takeInbound
      (some (.ok (wrapSession (.ack (some { seconds := 9, nanos := 0 }))))) Loop.epochEnv),
    .loop (.handled SystemTime.unixEpoch)]

/-- One heartbeat in a minute. -/
theorem heartbeat_rate_beat :
    let := UuidCrate.pair
    ∃ s, (machine Ticker.skip 0).run spawned beatRun = some s ∧ heartbeats s.loop.done = 1 ∧
      heartbeats s.loop.done * leastPeriod ≤ s.now - 0 := by
  let := UuidCrate.pair
  have hend : ((machine Ticker.skip 0).run spawned beatRun).map
      (fun s => heartbeats s.loop.done) = some 1 := by decide +kernel
  obtain ⟨s, hrun, hsent⟩ := Option.map_eq_some_iff.1 hend
  exact ⟨s, hrun, hsent, heartbeat_rate Ticker.skips_skip ⟨rfl, rfl⟩ hrun⟩

/-- The next one is due three seconds after the lease. -/
theorem heartbeat_in_time_beat :
    let := UuidCrate.pair
    ∃ s ttl, (machine Ticker.skip 0).run spawned beatRun = some s ∧
      s.due ≤ s.now + (heartbeatDelay ttl SystemTime.unixEpoch).nanos ∧
        (heartbeatDelay ttl SystemTime.unixEpoch).nanos = 3 * nanosPerSec := by
  let := UuidCrate.pair
  have hend : ((machine Ticker.skip 0).run spawned beatRun).isSome = true := by decide +kernel
  obtain ⟨s, hrun⟩ := Option.isSome_iff_exists.1 hend
  have hlast : (((machine Ticker.skip 0).outputs notices spawned beatRun).getLast?).map
      (fun l => ((heartbeatDelay l.1 l.2.1).nanos, l.2.1, l.2.2)) =
        some (3 * nanosPerSec, SystemTime.unixEpoch, 60 * nanosPerSec) := by decide +kernel
  obtain ⟨⟨ttl, read, at'⟩, hnoticed, hlast⟩ := Option.map_eq_some_iff.1 hlast
  simp only [Prod.mk.injEq] at hlast
  obtain ⟨hperiod, rfl, -⟩ := hlast
  have hinit : (machine Ticker.skip 0).init spawned := ⟨rfl, rfl⟩
  obtain ⟨-, hsoon, -⟩ := heartbeat_in_time Ticker.skips_skip hinit hrun hnoticed
  exact ⟨s, ttl, hrun, hsoon, hperiod⟩

end Paced

end Splitter
