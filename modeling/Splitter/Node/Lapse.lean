import Splitter.Node.Timer

/-!
# Leases that are cut short

The expiration timer beside a clock that does not go back. Before it expires the ownership it has
read the lease and found that the clock is past it, but a `set_expiration` may have written a later
lease since, and the timer does not look again. `early_iff`: the runs in which the timer expires no
lease that has not ended are those in which no such lease is written past its last look, and in
which the clock does not pass what it has read of a lease that is longer by now.
-/

namespace Splitter

namespace ExpirationTimer

/-- Where the timer has read a deadline that it compares with the clock next. -/
def Pc.looked : Pc → Option SystemTime
  | .readNow deadline | .recheckNow deadline => some deadline
  | _ => none

end ExpirationTimer

/-- A timer and the clock it reads. -/
structure ClockedTimer where
  timer : ExpirationTimer
  now : SystemTime

namespace ClockedTimer

open ExpirationTimer (Act Pc)

inductive Event
  | timer (e : ExpirationTimer.Event)
  | elapse (now : SystemTime)

/-- What a step of the timer reads is the clock. -/
def Reads (now : SystemTime) : ExpirationTimer.Event → Prop
  | .timer (.advance read) => read = now
  | _ => True

instance (now : SystemTime) : (e : ExpirationTimer.Event) → Decidable (Reads now e)
  | .timer (.advance read) => inferInstanceAs (Decidable (read = now))
  | .timer .slept | .timer .notified | .write _ | .notifyWaiters | .expire | .abort => isTrue trivial

def step (s : ClockedTimer) : Event → Option ClockedTimer
  | .timer e => if Reads s.now e then (s.timer.step e).map fun timer => { s with timer } else none
  | .elapse now => if s.now.nanos ≤ now.nanos then some { s with now } else none

/-- The timer of an assignment, at whatever time it is spawned. -/
def machine : Machine ClockedTimer Event where
  init s := ExpirationTimer.machine.init s.timer
  step := step

/-! ## What the timer owes -/

/-- The timer does not expire a lease that has not ended. -/
def NotEarly (s : ClockedTimer) : Event → Prop
  | .timer (.timer _) =>
    s.timer.pc = .expire → s.timer.ownership.expiration.nanos ≤ s.now.nanos
  | _ => True

/-- Steps of the timer alone. -/
def own (acts : List Act) : List Event := acts.map fun act => .timer (.timer act)

/-- It does not, whatever steps of its own it takes at once. -/
def Safe (s : ClockedTimer) : Prop := ∀ acts, machine.Guarded NotEarly s (own acts)

/-- What a step must meet. A lease is written after the timer has found the clock past the old one
only if it has ended too, and the clock passes a deadline that the timer has read only if the lease
has not become longer since. -/
def Heeded (s : ClockedTimer) : Event → Prop
  | .timer (.write deadline) =>
    (s.timer.pc = .expire → deadline.nanos ≤ s.now.nanos) ∧
      ∀ read, s.timer.pc.looked = some read → read.nanos ≤ s.now.nanos →
        deadline.nanos ≤ s.now.nanos
  | .elapse now => ∀ read, s.timer.pc.looked = some read → read.nanos ≤ now.nanos →
      s.timer.ownership.expiration.nanos ≤ now.nanos
  | _ => True

/-! ## The invariant -/

/-- Where the timer is to expire the ownership, or will on its next look at the clock, the lease has
ended. -/
structure Ended (s : ClockedTimer) : Prop where
  expire : s.timer.pc = .expire → s.timer.ownership.expiration.nanos ≤ s.now.nanos
  looked : ∀ read, s.timer.pc.looked = some read → read.nanos ≤ s.now.nanos →
    s.timer.ownership.expiration.nanos ≤ s.now.nanos

variable {s t : ClockedTimer}

/-- What a step does to the timer and to the clock. -/
theorem step_cases {e : Event} (hst : s.step e = some t) :
    (∃ e' timer, e = .timer e' ∧ Reads s.now e' ∧ s.timer.step e' = some timer ∧
        t = { s with timer }) ∨
      ∃ now, e = .elapse now ∧ s.now.nanos ≤ now.nanos ∧ t = { s with now } := by
  cases e with
  | timer e =>
    obtain ⟨hreads, hst⟩ := Option.ite_none_right_eq_some.1 hst
    obtain ⟨timer, htimer, rfl⟩ := Option.map_eq_some_iff.1 hst
    exact .inl ⟨e, timer, rfl, hreads, htimer, rfl⟩
  | elapse now =>
    obtain ⟨hle, heq⟩ := Option.ite_none_right_eq_some.1 hst
    cases heq
    exact .inr ⟨now, rfl, hle, rfl⟩

/-- The lease has ended wherever the timer has not read it. -/
theorem Ended.of_unread {timer : ExpirationTimer} {now : SystemTime} (hexpire : timer.pc ≠ .expire)
    (hlooked : timer.pc.looked = none) : Ended { timer, now } where
  expire h := absurd h hexpire
  looked read h := by
    rw [hlooked] at h
    cases h

/-- A deadline that the clock has passed leaves no time to sleep. -/
theorem remaining_eq_zero {deadline now : SystemTime} :
    (deadline.remaining now).nanos = 0 ↔ deadline.nanos ≤ now.nanos := by
  simp only [SystemTime.remaining]
  omega

/-- The timer's own steps. -/
theorem Ended.run {act : Act} {timer : ExpirationTimer} (h : s.Ended)
    (hreads : Reads s.now (.timer act)) (hrun : s.timer.run act = some timer) :
    Ended { s with timer } := by
  obtain ⟨⟨pc, o, notifying⟩, now⟩ := s
  cases act with
  | advance read =>
    cases (show read = now from hreads)
    cases pc with
    | parked | returned => cases hrun
    | check =>
      cases hrun
      by_cases hexp : o.expired.isClosed = true
      · rw [if_pos hexp]
        exact .of_unread (fun h => by cases h) rfl
      · rw [if_neg hexp]
        exact .of_unread (fun h => by cases h) rfl
    | readDeadline | recheck =>
      cases hrun
      refine ⟨fun h => (by cases h), fun read hread hle => ?_⟩
      cases hread
      exact hle
    | readNow deadline =>
      cases hrun
      by_cases hzero : (deadline.remaining now).nanos = 0
      · rw [if_pos hzero]
        have hle := h.looked deadline rfl (remaining_eq_zero.1 hzero)
        exact ⟨fun _ => hle, fun _ hread => by cases hread⟩
      · rw [if_neg hzero]
        exact .of_unread (fun h => by cases h) rfl
    | recheckNow deadline =>
      cases hrun
      by_cases hpast : deadline.nanos ≤ now.nanos
      · rw [if_pos hpast]
        exact ⟨fun _ => h.looked deadline rfl hpast, fun _ hread => by cases hread⟩
      · rw [if_neg hpast]
        exact .of_unread (fun h => by cases h) rfl
    | select | expire =>
      cases hrun
      exact .of_unread (fun h => by cases h) rfl
  | slept =>
    cases pc with
    | parked deadline woken =>
      cases hrun
      exact .of_unread (fun h => by cases h) rfl
    | _ => cases hrun
  | notified =>
    cases pc with
    | parked deadline woken =>
      cases woken with
      | true =>
        cases hrun
        exact .of_unread (fun h => by cases h) rfl
      | false => cases hrun
    | _ => cases hrun

/-- **One step** from the invariant leads to it exactly if it meets the condition. -/
theorem ended_step_iff {e : Event} (h : s.Ended) (hst : s.step e = some t) :
    t.Ended ↔ s.Heeded e := by
  rcases step_cases hst with ⟨e, timer, rfl, hreads, htimer, rfl⟩ | ⟨now, rfl, hle, rfl⟩
  · cases e with
    | timer act => exact iff_of_true (h.run hreads htimer) trivial
    | write deadline =>
      simp only [ExpirationTimer.step] at htimer
      split at htimer
      · cases htimer
      · cases htimer
        exact ⟨fun ht => ⟨ht.expire, ht.looked⟩, fun hc => ⟨hc.1, hc.2⟩⟩
    | expire =>
      cases htimer
      exact iff_of_true ⟨h.expire, h.looked⟩ trivial
    | notifyWaiters =>
      simp only [ExpirationTimer.step] at htimer
      split at htimer
      · cases htimer
        refine iff_of_true ?_ trivial
        obtain ⟨⟨pc, o, notifying⟩, now⟩ := s
        cases pc with
        | parked => exact .of_unread (fun h => by cases h) rfl
        | _ => exact ⟨h.expire, h.looked⟩
      · cases htimer
    | abort =>
      simp only [ExpirationTimer.step] at htimer
      split at htimer
      · cases htimer
        exact iff_of_true (.of_unread (fun h => by cases h) rfl) trivial
      · cases htimer
  · exact ⟨fun ht read hread hpast => ht.looked read hread hpast,
      fun hc => ⟨fun hpc => Int.le_trans (h.expire hpc) hle, hc⟩⟩

/-- A timer that is to expire the ownership can do so at once. -/
theorem Safe.expire (h : s.Safe) (hpc : s.timer.pc = .expire) :
    s.timer.ownership.expiration.nanos ≤ s.now.nanos := by
  have hst : machine.step s (.timer (.timer (.advance s.now))) =
      some { s with
        timer := { s.timer with ownership := s.timer.ownership.expire, pc := .returned } } := by
    simp [machine, step, Reads, ExpirationTimer.step, ExpirationTimer.run, hpc]
  exact (Machine.guarded_cons.1 (h [.advance s.now]) _ hst).1 hpc

/-- A timer that has read a deadline the clock has passed comes to expire the ownership. -/
theorem exists_expire {read : SystemTime} (hread : s.timer.pc.looked = some read)
    (hpast : read.nanos ≤ s.now.nanos) :
    machine.step s (.timer (.timer (.advance s.now))) =
      some { s with timer := s.timer.goto .expire } := by
  obtain ⟨⟨pc, o, notifying⟩, now⟩ := s
  cases pc with
  | readNow deadline =>
    cases hread
    have hzero : (read.remaining now).nanos = 0 := remaining_eq_zero.2 hpast
    simp [machine, step, Reads, ExpirationTimer.step, ExpirationTimer.run, hzero]
  | recheckNow deadline =>
    cases hread
    have hpast : read.nanos ≤ now.nanos := hpast
    simp [machine, step, Reads, ExpirationTimer.step, ExpirationTimer.run, hpast]
  | _ => cases hread

/-- The timer is safe by itself exactly where the invariant holds. -/
theorem safe_iff_ended : s.Safe ↔ s.Ended := by
  constructor
  · intro h
    refine ⟨h.expire, fun read hread hpast => ?_⟩
    have hsafe : Safe { s with timer := s.timer.goto .expire } := fun acts =>
      (Machine.guarded_cons.1 (h (.advance s.now :: acts)) _ (exists_expire hread hpast)).2
    exact hsafe.expire rfl
  · intro h acts
    induction acts generalizing s with
    | nil => exact Machine.guarded_nil
    | cons act acts ih =>
      refine Machine.guarded_cons.2 fun t hst => ?_
      have hst : s.step (.timer (.timer act)) = some t := hst
      exact ⟨h.expire, ih ((ended_step_iff h hst).2 trivial)⟩

/-- **When the timer is never early.** The runs in which it is safe in every state are those whose
steps all meet the condition, and in them it expires no lease that has not ended. -/
theorem early_iff {es : List Event} (hinit : machine.init s) :
    (machine.Always Safe s es ↔ machine.Guarded Heeded s es) ∧
      (machine.Guarded Heeded s es → machine.Guarded NotEarly s es) := by
  have hended : s.Ended := by
    refine .of_unread ?_ ?_
    · rw [hinit.1]
      exact fun h => by cases h
    · rw [hinit.1]
      rfl
  have hiff : machine.Always Safe s es ↔ machine.Guarded Heeded s es := by
    refine Machine.always_iff_guarded_of_step (fun s e t hs hst => ?_) (safe_iff_ended.2 hended)
    rw [safe_iff_ended] at hs ⊢
    exact ended_step_iff hs hst
  refine ⟨hiff, fun h => (hiff.2 h).guarded fun t e u ht _ => ?_⟩
  cases e with
  | elapse now => trivial
  | timer e =>
    cases e with
    | timer act => exact (safe_iff_ended.1 ht).expire
    | _ => trivial

/-! ## An extension -/

/-- A reading of the clock a few nanoseconds past the epoch. -/
def clock (n : Nat) : SystemTime where
  nanos := ((n % 32 : Nat) : Int)
  lower := by
    unfold nanosPerSec
    omega
  upper := by
    unfold nanosPerSec
    omega

/-- A timer on a lease of ten nanoseconds that sleeps it through. -/
def sleptRun : List Event :=
  [.timer .next, .timer .next, .timer .next, .timer .next,
    .elapse (clock 10), .timer (.timer .slept)]

/-- A lease of twenty nanoseconds. -/
def extension : Event := .timer (.write (clock 20))

/-- The timer's next step, ten nanoseconds past the epoch. -/
def lapsed : Event := .timer (.timer (.advance (clock 10)))

/-- The timer at the epoch. -/
def spawned : ClockedTimer := { timer := .started, now := SystemTime.unixEpoch }

/-- The lease is extended before the timer looks at it again. -/
theorem early_iff_extended :
    machine.Guarded NotEarly spawned (sleptRun ++ [extension, lapsed, lapsed]) := by
  refine (early_iff ⟨rfl, rfl⟩).2 (Machine.guarded_append.2 ⟨?_, ?_⟩)
  · iterate 4
      refine Machine.guarded_cons.2 fun t ht => ⟨trivial, ?_⟩
      cases ht
    refine Machine.guarded_cons.2 fun t ht => ⟨fun read hread => (by cases hread), ?_⟩
    cases ht
    exact Machine.guarded_cons.2 fun t ht => ⟨trivial, Machine.guarded_nil⟩
  · rintro t ⟨⟩
    refine Machine.guarded_cons.2 fun t ht =>
      ⟨⟨fun h => (by cases h), fun read hread => (by cases hread)⟩, ?_⟩
    cases ht
    exact Machine.guarded_of_forall fun e he s => by
      rcases List.mem_pair.1 he with rfl | rfl <;> trivial

/-- **An extension is lost.** It is written when the timer has found the old lease ended, and the
timer expires the ownership all the same. -/
theorem extension_lost :
    ¬ machine.Guarded NotEarly spawned (sleptRun ++ [lapsed, lapsed, extension, lapsed]) := by
  intro h
  have hlast := h (sleptRun ++ [lapsed, lapsed, extension]) lapsed _ _ (List.prefix_refl _) rfl rfl
  exact absurd (hlast rfl) (by decide)

end ClockedTimer

end Splitter
