import Splitter.Processor.Task

/-!
# The expiration timer

`spawn_expiration_timer` beside any sequence of `set_expiration` calls. The timer reads its deadline
first and creates its `notified` future later, and `notify_waiters` wakes only the futures that
exist: a notification in between is lost. A lease that was lengthened there is found by the re-check
after the sleep; one that was shortened is not. `onTime_iff` says in which runs the timer never
oversleeps.
-/

namespace Splitter

namespace ExpirationTimer

/-- The points of the timer's loop. -/
inductive Pc
  | check
  | readDeadline
  | readNow (deadline : SystemTime)
  /-- About to enter the `select!`, with the time to sleep computed. -/
  | select (deadline : SystemTime)
  /-- In the `select!`, sleeping to a deadline. `woken` is the wake-up of its `notified` future. -/
  | parked (deadline : SystemTime) (woken : Bool)
  | recheck
  | recheckNow (deadline : SystemTime)
  | expire
  | returned
  deriving DecidableEq

end ExpirationTimer

/-- The timer of a grant, with the ownership it shares with the driver. -/
structure ExpirationTimer where
  pc : ExpirationTimer.Pc
  ownership : Ownership
  /-- A `set_expiration` has written its deadline and has not notified yet. -/
  notifying : Bool
  deriving DecidableEq

namespace ExpirationTimer

/-- A step of the timer. -/
inductive Act
  /-- Up to the next point, with the clock it may read. -/
  | advance (now : SystemTime)
  /-- The branch of the sleep. -/
  | slept
  /-- The branch of `notified`. -/
  | notified

/-- What can happen to a timer and its ownership. -/
inductive Event
  | timer (act : Act)
  /-- `set_expiration` writes the deadline. -/
  | write (deadline : SystemTime)
  /-- `set_expiration` calls `notify_waiters`. -/
  | notifyWaiters
  /-- The driver expires the ownership. -/
  | expire
  /-- The driver aborts the timer, which takes hold where it awaits. -/
  | abort

def goto (s : ExpirationTimer) (pc : Pc) : ExpirationTimer := { s with pc }

/-- A step of `spawn_expiration_timer`. When the sleep ends is left open. -/
def run (s : ExpirationTimer) : Act → Option ExpirationTimer
  | .advance now =>
    match s.pc with
    | .check => some (s.goto (if s.ownership.expired.isClosed then .returned else .readDeadline))
    | .readDeadline => some (s.goto (.readNow s.ownership.expiration))
    | .readNow deadline =>
      some (s.goto (if (deadline.remaining now).nanos = 0 then .expire else .select deadline))
    | .select deadline => some (s.goto (.parked deadline false))
    | .recheck => some (s.goto (.recheckNow s.ownership.expiration))
    | .recheckNow deadline =>
      some (s.goto (if deadline.nanos ≤ now.nanos then .expire else .check))
    | .expire => some { s with ownership := s.ownership.expire, pc := .returned }
    | .parked _ _ | .returned => none
  | .slept =>
    match s.pc with
    | .parked _ _ => some (s.goto .recheck)
    | _ => none
  | .notified =>
    match s.pc with
    | .parked _ true => some (s.goto .check)
    | _ => none

/-- `Notify::notify_waiters`: it stores no permit and wakes the futures that exist. -/
def Pc.wake : Pc → Pc
  | .parked deadline _ => .parked deadline true
  | pc => pc

def step (s : ExpirationTimer) : Event → Option ExpirationTimer
  | .timer act => s.run act
  | .write deadline =>
    if s.notifying then none
    else some { s with ownership := s.ownership.setExpiration deadline, notifying := true }
  | .notifyWaiters =>
    if s.notifying then some { s with pc := s.pc.wake, notifying := false } else none
  | .expire => some { s with ownership := s.ownership.expire }
  | .abort =>
    match s.pc with
    | .parked _ _ => some (s.goto .returned)
    | _ => none

/-- The timer starts when its assignment is made, before any `set_expiration`. -/
def machine : Machine ExpirationTimer Event where
  init s := s.pc = .check ∧ s.notifying = false
  step := step

/-! ## What the timer owes -/

/-- A timer that is parked with no `set_expiration` under way sleeps to a deadline that is not later
than the expiration, or has been woken. -/
def Covers (s : ExpirationTimer) : Prop :=
  ∀ deadline woken, s.pc = .parked deadline woken → s.notifying = false →
    deadline.nanos ≤ s.ownership.expiration.nanos ∨ woken = true

/-- The timer does not oversleep, here or wherever it gets by steps of its own. -/
def OnTime (s : ExpirationTimer) : Prop :=
  ∀ (acts : List Act) t, machine.run s (acts.map .timer) = some t → t.Covers

/-- The deadline the timer has read, until its `notified` future exists. -/
def Pc.carried : Pc → Option SystemTime
  | .readNow deadline | .select deadline => some deadline
  | _ => none

/-- What a step must meet: no notification of an earlier deadline between the timer's reading of the
deadline and the creation of its `notified` future. -/
def Heard (s : ExpirationTimer) : Event → Prop
  | .notifyWaiters => ∀ deadline, s.pc.carried = some deadline →
      deadline.nanos ≤ s.ownership.expiration.nanos
  | _ => True

/-! ## The invariant -/

/-- With no `set_expiration` under way, the deadline the timer has read is not later than the
expiration, unless the timer has been woken. -/
def Current (s : ExpirationTimer) : Prop :=
  s.notifying = false →
    match s.pc with
    | .readNow deadline | .select deadline => deadline.nanos ≤ s.ownership.expiration.nanos
    | .parked deadline woken => deadline.nanos ≤ s.ownership.expiration.nanos ∨ woken = true
    | _ => True

variable {s t : ExpirationTimer}

theorem Current.covers (h : s.Current) : s.Covers := by
  intro deadline woken hpc hnot
  have := h hnot
  rwa [hpc] at this

/-- The timer's own steps keep the invariant. -/
theorem Current.run {act : Act} (h : s.Current) (hrun : s.run act = some t) : t.Current := by
  obtain ⟨pc, o, notifying⟩ := s
  cases act with
  | advance now =>
    cases pc with
    | parked | returned => cases hrun
    | readDeadline =>
      cases hrun
      exact fun _ => Int.le_refl o.expiration.nanos
    | readNow deadline =>
      cases hrun
      intro hnot
      by_cases hzero : (deadline.remaining now).nanos = 0
      · simp [goto, hzero]
      · simpa [goto, hzero] using h hnot
    | select deadline =>
      cases hrun
      exact fun hnot => .inl (h hnot)
    | check =>
      cases hrun
      intro _
      by_cases hexp : o.expired.isClosed = true
      · simp [goto, hexp]
      · simp [goto, hexp]
    | recheckNow deadline =>
      cases hrun
      intro _
      by_cases hpast : deadline.nanos ≤ now.nanos
      · simp [goto, hpast]
      · simp [goto, hpast]
    | recheck | expire =>
      cases hrun
      exact fun _ => trivial
  | slept =>
    cases pc with
    | parked deadline woken =>
      cases hrun
      exact fun _ => trivial
    | _ => cases hrun
  | notified =>
    cases pc with
    | parked deadline woken =>
      cases woken with
      | true =>
        cases hrun
        exact fun _ => trivial
      | false => cases hrun
    | _ => cases hrun

/-- **One step** from the invariant leads to it exactly if it meets the condition. -/
theorem current_step_iff {e : Event} (h : s.Current) (hst : s.step e = some t) :
    t.Current ↔ s.Heard e := by
  cases e with
  | timer act => exact iff_of_true (h.run hst) trivial
  | write deadline =>
    simp only [step] at hst
    split at hst
    · cases hst
    · cases hst
      exact iff_of_true nofun trivial
  | expire =>
    cases hst
    exact iff_of_true h trivial
  | abort =>
    simp only [step] at hst
    split at hst
    · cases hst
      exact iff_of_true (fun _ => trivial) trivial
    · cases hst
  | notifyWaiters =>
    simp only [step] at hst
    split at hst
    · obtain ⟨pc, o, notifying⟩ := s
      cases hst
      cases pc with
      | readNow deadline | select deadline =>
        constructor
        · rintro hcur d hd
          cases hd
          exact hcur rfl
        · intro hheard _
          exact hheard _ rfl
      | parked deadline woken => exact iff_of_true (fun _ => .inr rfl) fun _ hd => by cases hd
      | _ => exact iff_of_true (fun _ => trivial) fun _ hd => by cases hd
    · cases hst

/-- A timer that has read a deadline the clock has not reached goes to sleep on it. -/
theorem exists_park {deadline now : SystemTime} (hpc : s.pc.carried = some deadline)
    (hlate : now.nanos < deadline.nanos) :
    ∃ acts : List Act, machine.run s (acts.map .timer) = some (s.goto (.parked deadline false)) := by
  obtain ⟨pc, o, notifying⟩ := s
  cases pc with
  | readNow d =>
    cases hpc
    have hne : (deadline.remaining now).nanos ≠ 0 := by
      simp only [SystemTime.remaining]
      omega
    refine ⟨[.advance now, .advance now], ?_⟩
    simp [Machine.run, machine, step, ExpirationTimer.run, hne, goto]
  | select d =>
    cases hpc
    exact ⟨[.advance now], rfl⟩
  | _ => cases hpc

/-- The timer stays on time by itself exactly where the invariant holds. -/
theorem onTime_iff_current : s.OnTime ↔ s.Current := by
  constructor
  · intro h hnot
    have hcarried : ∀ deadline, s.pc.carried = some deadline →
        deadline.nanos ≤ s.ownership.expiration.nanos := by
      intro deadline hpc
      by_contra hlate
      obtain ⟨acts, hrun⟩ := exists_park hpc (Int.not_le.1 hlate)
      rcases h acts _ hrun deadline false rfl hnot with hle | hwoken
      · exact hlate hle
      · cases hwoken
    obtain ⟨pc, o, notifying⟩ := s
    cases pc with
    | readNow deadline | select deadline => exact hcarried deadline rfl
    | parked deadline woken => exact h [] _ rfl deadline woken rfl hnot
    | _ => trivial
  · intro h acts
    induction acts generalizing s with
    | nil =>
      rintro t ⟨⟩
      exact h.covers
    | cons act acts ih =>
      intro t hrun
      obtain ⟨u, hst, hrun⟩ := machine.run_cons_eq_some.1 hrun
      exact ih (Current.run h hst) t hrun

/-- **When the timer never oversleeps.** The runs in which it is on time in every state are those in
which no shortened lease is notified unheard, and in them it covers the lease wherever it is
parked. -/
theorem onTime_iff {es : List Event} (hinit : machine.init s) :
    (machine.Always OnTime s es ↔ machine.Guarded Heard s es) ∧
      (machine.Guarded Heard s es → machine.Always Covers s es) := by
  have hiff : machine.Always OnTime s es ↔ machine.Guarded Heard s es := by
    refine Machine.always_iff_guarded_of_step ?_ ?_
    · intro s e t hs hst
      rw [onTime_iff_current] at hs ⊢
      exact current_step_iff hs hst
    · rw [onTime_iff_current]
      intro _
      rw [hinit.1]
      trivial
  exact ⟨hiff, fun h => (hiff.2 h).mono fun t ht => ht [] t rfl⟩

/-! ## Two runs -/

/-- A timer that is started on a lease of ten nanoseconds. -/
def started : ExpirationTimer :=
  { pc := .check
    ownership := Ownership.new .active ⟨10, by decide, by decide⟩ SystemTime.unixEpoch
    notifying := false }

/-- The timer's next step, at the epoch. -/
def Event.next : Event := .timer (.advance SystemTime.unixEpoch)

/-- A revoke shortens the lease of a timer that sleeps. -/
def sleepingRun : List Event := [.next, .next, .next, .next, .write SystemTime.unixEpoch]

/-- The timer is woken. -/
theorem onTime_woken : machine.Always Covers started (sleepingRun ++ [.notifyWaiters]) := by
  refine (onTime_iff ⟨rfl, rfl⟩).2 (Machine.guarded_append.2 ⟨?_, ?_⟩)
  · refine Machine.guarded_of_forall fun e he s => ?_
    simp only [sleepingRun, List.mem_cons, List.not_mem_nil, or_false] at he
    rcases he with rfl | rfl | rfl | rfl | rfl <;> trivial
  · rintro t ⟨⟩
    refine Machine.guarded_cons.2 fun u _ => ⟨?_, Machine.guarded_nil⟩
    intro deadline hd
    cases hd

/-- The same revoke, between the timer's reading of the deadline and its `select!`. -/
def missedRun : List Event :=
  [.next, .next, .write SystemTime.unixEpoch, .notifyWaiters, .next, .next]

/-- **A shortened lease is overslept.** The timer sleeps to the old deadline, the lease has ended,
and nothing is there to wake it. -/
theorem missedRun_overslept : machine.init started ∧ ¬ machine.Always Covers started missedRun := by
  refine ⟨⟨rfl, rfl⟩, fun h => ?_⟩
  have hlast : Covers _ := h.last (t := (machine.run started missedRun).get rfl) rfl
  rcases hlast _ _ rfl rfl with hle | hwoken
  · exact absurd hle (by decide)
  · cases hwoken

end ExpirationTimer

end Splitter
