import Splitter.Error
import Splitter.Lib.Backoff
import Splitter.Lib.Machine

/-!
# The retry loop

`retry.rs`: `retry_ownership` calls an operation until it ends in something other than an ownership
error or the timeout is over, and sleeps between the calls. The loop is a machine whose events are
the calls, each with its outcome and the time it takes; what the clock's types cannot hold is a
panic. `run_retried` gives the state after any number of retries in closed form.
-/

namespace Splitter

/-- `OwnershipBackoff`, over a type of durations. -/
structure OwnershipBackoff (D : Type) where
  initial : D
  max : D
  timeout : D

namespace OwnershipBackoff

/-- `OwnershipBackoff::new`. -/
def new (timeout : Duration) : OwnershipBackoff Duration :=
  { initial := Duration.fromSecs 1 (by decide)
    max := Duration.fromSecs 5 (by decide)
    timeout }

/-- The durations in nanoseconds. -/
def nanos (b : OwnershipBackoff Duration) : OwnershipBackoff Nat :=
  { initial := b.initial.nanos, max := b.max.nanos, timeout := b.timeout.nanos }

/-- The delay before the `k`-th retry, were there no deadline. -/
def delay (b : OwnershipBackoff Nat) (k : Nat) : Nat := Backoff.delay b.initial b.max k

end OwnershipBackoff

/-- What the types of a clock hold, in nanoseconds: the instants, counted from the origin of the
clock, and the durations. -/
structure ClockRange where
  instant : Nat → Bool
  duration : Nat → Bool

/-- A clock whose arithmetic never fails. -/
def ClockRange.ideal : ClockRange := ⟨fun _ => true, fun _ => true⟩

/-- `std::time` on Linux: the seconds of an `Instant` fit a signed 64-bit field, those of a
`Duration` an unsigned one. -/
def ClockRange.std : ClockRange :=
  { instant := fun n => decide (n < 2 ^ 63 * nanosPerSec)
    duration := fun n => decide (n < 2 ^ 64 * nanosPerSec) }

/-- One call of the operation. How long a call takes includes what the sleep before it ran late. -/
structure Attempt (T : Type) where
  outcome : Except ClientError T
  duration : Nat

/-- The call ended in an error worth a retry. -/
def Attempt.owned {T : Type} (a : Attempt T) : Bool :=
  match a.outcome with
  | .ok _ => false
  | .error e => e.isOwnership

/-- Where the loop stands between two calls. -/
inductive Retry.Pc (T : Type)
  | attempting
  | returned (result : Except ClientError T)
  | panicked

/-- The local state of `retry_ownership`, with the instants of its calls and the sleeps so far. -/
structure Retry (T : Type) where
  now : Nat
  deadline : Nat
  delay : Nat
  pc : Retry.Pc T
  called : List Nat
  slept : List Nat

variable {T : Type}

namespace Retry

/-- The head of `retry_ownership`: `Instant::now() + backoff.timeout`. -/
def enter (c : ClockRange) (b : OwnershipBackoff Nat) (now : Nat) : Retry T :=
  { now
    deadline := now + b.timeout
    delay := b.initial
    pc := if c.instant (now + b.timeout) then .attempting else .panicked
    called := []
    slept := [] }

/-- The loop body, from the call of the operation to the end of the sleep. -/
def attempt (c : ClockRange) (b : OwnershipBackoff Nat) (s : Retry T) (a : Attempt T) : Retry T :=
  let now := s.now + a.duration
  let s := { s with now, called := s.called ++ [s.now] }
  if a.owned = false then { s with pc := .returned a.outcome }
  else if s.deadline ≤ now then { s with pc := .returned a.outcome }
  else
    let remaining := s.deadline - now
    let sleepFor := min s.delay remaining
    let s := { s with now := now + sleepFor, slept := s.slept ++ [sleepFor] }
    if c.duration (s.delay * 2) then { s with delay := min (s.delay * 2) b.max }
    else { s with pc := .panicked }

end Retry

/-- `retry_ownership`, as the machine whose events are the calls of the operation. -/
def retryOwnership (c : ClockRange) (b : OwnershipBackoff Nat) : Machine (Retry T) (Attempt T) where
  init s := ∃ now, s = Retry.enter c b now
  step s a :=
    match s.pc with
    | .attempting => some (s.attempt c b a)
    | _ => none

/-- While the loop runs, every call is a step. -/
theorem retryOwnership_step {c : ClockRange} {b : OwnershipBackoff Nat} {s : Retry T}
    (h : s.pc = .attempting) (a : Attempt T) :
    (retryOwnership c b).step s a = some (s.attempt c b a) := by
  simp only [retryOwnership, h]

/-- A step is taken only while the loop runs. -/
theorem attempting_of_step {c : ClockRange} {b : OwnershipBackoff Nat} {s t : Retry T}
    {a : Attempt T} (h : (retryOwnership c b).step s a = some t) :
    s.pc = .attempting ∧ t = s.attempt c b a := by
  simp only [retryOwnership] at h
  split at h
  · next hpc => exact ⟨hpc, (Option.some.inj h).symm⟩
  · cases h

/-! ## The state after retries -/

section
variable (c : ClockRange) (b : OwnershipBackoff Nat) (op : Nat → Attempt T) (start : Nat)

/-- How long the first `n` calls and the delays after them take, were there no deadline. -/
def elapsed : Nat → Nat
  | 0 => 0
  | n + 1 => elapsed n + (op n).duration + b.delay n

/-- The `n`-th call is retried: it ends in an ownership error before the deadline, and the delay can
be doubled. -/
def Retried (n : Nat) : Prop :=
  (op n).owned = true ∧ elapsed b op n + (op n).duration < b.timeout ∧
    c.duration (b.delay n * 2) = true

/-- The loop after the first `n` calls, all of them retried. -/
def afterRetries (n : Nat) : Retry T :=
  { now := start + min (elapsed b op n) b.timeout
    deadline := start + b.timeout
    delay := b.delay n
    pc := .attempting
    called := (List.range n).map fun k => start + min (elapsed b op k) b.timeout
    slept := (List.range n).map fun k =>
      min (b.delay k) (b.timeout - (elapsed b op k + (op k).duration)) }

end

variable {c : ClockRange} {b : OwnershipBackoff Nat} {op : Nat → Attempt T} {start n : Nat}

/-- Calls and delays only add up. -/
theorem elapsed_mono (b : OwnershipBackoff Nat) {k : Nat} (h : k < n) :
    elapsed b op k + (op k).duration ≤ elapsed b op n := by
  induction n with
  | zero => exact absurd h (Nat.not_lt_zero k)
  | succ n ih =>
    rw [elapsed]
    rcases Nat.lt_succ_iff_lt_or_eq.1 h with hlt | rfl
    · have hle := ih hlt
      omega
    · exact Nat.le_add_right ..

/-- The delays are part of what passes. -/
theorem total_le_elapsed (n : Nat) : Backoff.total b.initial b.max n ≤ elapsed b op n := by
  induction n with
  | zero => exact Nat.le_refl _
  | succ n ih =>
    rw [Backoff.total_succ, elapsed, OwnershipBackoff.delay]
    omega

/-- A call that is not retried although the delay can be doubled is not worth it, or ends at the
deadline. -/
theorem last_of_not_retried (hdouble : c.duration (b.delay n * 2) = true)
    (h : ¬ Retried c b op n) :
    (op n).owned = false ∨ b.timeout ≤ elapsed b op n + (op n).duration := by
  rcases Bool.eq_false_or_eq_true (op n).owned with howned | howned
  · exact .inr (Nat.le_of_not_lt fun htime => h ⟨howned, htime, hdouble⟩)
  · exact .inl howned

/-- A retried call leads to the next of these states. -/
theorem attempt_afterRetries (h : Retried c b op n) :
    (afterRetries b op start n).attempt c b (op n) = afterRetries b op start (n + 1) := by
  obtain ⟨howned, htime, hdouble⟩ := h
  have hmin : min (elapsed b op n) b.timeout = elapsed b op n := by omega
  unfold Retry.attempt
  rw [if_neg (by rw [howned]; decide), if_neg (by simp only [afterRetries, hmin]; omega)]
  simp only [afterRetries, hdouble, if_true, List.range_succ, List.map_append, List.map_cons,
    List.map_nil, hmin, elapsed, Retry.mk.injEq, List.append_cancel_left_eq, List.cons.injEq,
    and_true, true_and]
  refine ⟨by omega, rfl, by omega⟩

/-- A call that is not worth a retry, or ends at the deadline, is the last. -/
theorem attempt_returns
    (h : (op n).owned = false ∨ b.timeout ≤ elapsed b op n + (op n).duration) :
    (afterRetries b op start n).attempt c b (op n) =
      { afterRetries b op start n with
        now := start + min (elapsed b op n) b.timeout + (op n).duration
        pc := .returned (op n).outcome
        called := (List.range (n + 1)).map fun k => start + min (elapsed b op k) b.timeout } := by
  unfold Retry.attempt
  split
  · simp only [afterRetries, List.range_succ, List.map_append, List.map_cons, List.map_nil]
  · next howned =>
    have hlate := h.resolve_left howned
    rw [if_pos (by simp only [afterRetries]; omega)]
    simp only [afterRetries, List.range_succ, List.map_append, List.map_cons, List.map_nil]

/-- A call that would be retried panics where the delay cannot be doubled. -/
theorem attempt_panics (howned : (op n).owned = true)
    (htime : elapsed b op n + (op n).duration < b.timeout)
    (hdouble : c.duration (b.delay n * 2) = false) :
    ((afterRetries b op start n).attempt c b (op n)).pc = .panicked := by
  have hmin : min (elapsed b op n) b.timeout = elapsed b op n := by omega
  unfold Retry.attempt
  rw [if_neg (by rw [howned]; decide), if_neg (by simp only [afterRetries, hmin]; omega)]
  simp only [afterRetries, hdouble, Bool.false_eq_true, if_false]

/-- Where the deadline is an instant, the loop starts with no call retried. -/
theorem enter_eq (hstart : c.instant (start + b.timeout) = true) :
    Retry.enter c b start = afterRetries b op start 0 := by
  simp only [Retry.enter, hstart, if_true, afterRetries, elapsed, Nat.zero_min, Nat.add_zero,
    List.range_zero, List.map_nil]
  rfl

/-- **The loop under way**: as long as its calls are retried, the run goes on. -/
theorem run_retried (hstart : c.instant (start + b.timeout) = true)
    (h : ∀ k < n, Retried c b op k) :
    (retryOwnership c b).run (.enter c b start) ((List.range n).map op) =
      some (afterRetries b op start n) := by
  induction n with
  | zero => exact congrArg some (enter_eq hstart)
  | succ n ih =>
    have hrun := ih fun k hk => h k (Nat.lt_succ_of_lt hk)
    rw [List.range_succ, List.map_append, List.map_cons, List.map_nil]
    refine (Machine.run_concat_eq_some _).2 ⟨_, hrun, ?_⟩
    rw [retryOwnership_step rfl, attempt_afterRetries (h n n.lt_succ_self)]

/-- The call after retried ones is a step from their closed form. -/
theorem run_next (hstart : c.instant (start + b.timeout) = true)
    (h : ∀ k < n, Retried c b op k) :
    (retryOwnership c b).run (.enter c b start) ((List.range (n + 1)).map op) =
      some ((afterRetries b op start n).attempt c b (op n)) := by
  rw [List.range_succ, List.map_append, List.map_cons, List.map_nil]
  exact (Machine.run_concat_eq_some _).2 ⟨_, run_retried hstart h, retryOwnership_step rfl _⟩

/-- A call that is not retried ends the loop. -/
theorem attempt_ends (h : ¬ Retried c b op n) :
    ((afterRetries b op start n).attempt c b (op n)).pc ≠ .attempting := by
  intro hpc
  rcases Bool.eq_false_or_eq_true (op n).owned with howned | howned
  · rcases Nat.lt_or_ge (elapsed b op n + (op n).duration) b.timeout with htime | htime
    · have hdouble : c.duration (b.delay n * 2) = false := by
        rw [Bool.eq_false_iff]
        exact fun hd => h ⟨howned, htime, hd⟩
      rw [attempt_panics howned htime hdouble] at hpc
      cases hpc
    · rw [attempt_returns (.inr htime)] at hpc
      cases hpc
  · rw [attempt_returns (.inl howned)] at hpc
    cases hpc

/-- **What a run is.** Its calls were all retried, or all but the last. -/
theorem retried_of_run {s : Retry T}
    (hrun : (retryOwnership c b).run (.enter c b start) ((List.range (n + 1)).map op) = some s) :
    c.instant (start + b.timeout) = true ∧ ∀ k < n, Retried c b op k := by
  induction n generalizing s with
  | zero =>
    obtain ⟨t, ht, hst⟩ := (retryOwnership c b).run_cons_eq_some.1 hrun
    refine ⟨?_, fun k hk => absurd hk (Nat.not_lt_zero k)⟩
    have hpc := (attempting_of_step ht).1
    unfold Retry.enter at hpc
    by_contra hstart
    simp only [hstart, if_false] at hpc
    cases hpc
  | succ n ih =>
    rw [List.range_succ, List.map_append, List.map_cons, List.map_nil] at hrun
    obtain ⟨t, ht, hst⟩ := (Machine.run_concat_eq_some _).1 hrun
    obtain ⟨hstart, hretried⟩ := ih ht
    refine ⟨hstart, fun k hk => ?_⟩
    rcases Nat.lt_succ_iff_lt_or_eq.1 hk with hlt | rfl
    · exact hretried k hlt
    · -- the run goes on after the call, so the call was retried
      rw [run_next hstart hretried] at ht
      cases ht
      by_contra hend
      exact attempt_ends hend (attempting_of_step hst).1

end Splitter
