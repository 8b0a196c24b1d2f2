import Splitter.Routing.Proxy

/-!
# Overflow in the retry arithmetic

The loop of `retry_ownership` on the standard library's types: the deadline is an `Instant`, and the
delay is doubled as a `Duration` before it is cut at the cap. `retry_arithmetic_iff` says for which
backoffs neither can panic, in any run, and that with the default delays only the deadline can.
-/

namespace Splitter

/-- The first instant past the range of the clock, and the first delay that cannot be doubled. -/
def clockEnd : Nat := 2 ^ 63 * nanosPerSec

/-- A sum of instant and duration is an instant below the end of the range. -/
theorem instant_std {n : Nat} : ClockRange.std.instant n = true ↔ n < clockEnd := decide_eq_true_iff

/-- A delay can be doubled below the same bound. -/
theorem duration_std {n : Nat} : ClockRange.std.duration (n * 2) = true ↔ n < clockEnd := by
  have hdecide : ClockRange.std.duration (n * 2) = true ↔ n * 2 < 2 ^ 64 * nanosPerSec :=
    decide_eq_true_iff
  rw [hdecide, clockEnd]
  unfold nanosPerSec
  omega

/-- No run of the loop panics: whatever the operation returns, and however long its calls take. -/
def NeverPanics (b : OwnershipBackoff Duration) (start : Nat) : Prop :=
  ∀ (T : Type) (op : Nat → Attempt T) (n : Nat) (s : Retry T),
    (retryOwnership .std b.nanos).run (.enter .std b.nanos start) ((List.range n).map op) = some s →
      s.pc.course ≠ .panicked

/-- No run of `handle_with_retry` panics: whatever its proxies and closures do. -/
def HandlingNeverPanics (timeout : Duration) (start : Nat) : Prop :=
  ∀ (Key Client Value Req Resp : Type) (key : Key) (req : Req)
    (xs : Nat → Handling Key Client Value Req Resp) (n : Nat) (s : Retry Resp),
    handleWithRetry timeout start key req xs n = some s → s.pc.course ≠ .panicked

/-- The delay gets to where it cannot be doubled, before the sleeps in front of it use up the
timeout. -/
def Overflows (b : OwnershipBackoff Nat) : Prop :=
  ∃ k, clockEnd ≤ b.initial * 2 ^ k ∧ b.initial * (2 ^ k - 1) < b.timeout ∧
    (k = 0 ∨ clockEnd ≤ b.max)

section
variable {T : Type} {b : OwnershipBackoff Nat} {op : Nat → Attempt T} {start n : Nat}

/-- A deadline that is not an instant is a panic before the first call. -/
theorem enter_panics (h : ¬ start + b.timeout < clockEnd) :
    (Retry.enter .std b start : Retry T).pc.course = .panicked := by
  have hinstant : ClockRange.std.instant (start + b.timeout) = false := by
    rw [Bool.eq_false_iff]
    exact fun hi => h (instant_std.1 hi)
  rw [Retry.enter, hinstant]
  rfl

/-- An operation that never takes any time and always fails. -/
def neverOwned (_ : Nat) : Attempt Unit := ⟨.error .notOwned, 0⟩

/-- Of calls that take no time, the delays are all that passes. -/
theorem elapsed_neverOwned (n : Nat) :
    elapsed b neverOwned n = Backoff.total b.initial b.max n := by
  induction n with
  | zero => rfl
  | succ n ih =>
    rw [elapsed, ih, Backoff.total_succ]
    rfl

/-- A loop that panics was at a delay that cannot be doubled. -/
theorem overflows_of_panicked (hretried : ∀ k < n, Retried .std b op k)
    (hpanic : ((afterRetries b op start n).attempt .std b (op n)).pc.course = .panicked) :
    Overflows b := by
  by_cases hend : (op n).owned = false ∨ b.timeout ≤ elapsed b op n + (op n).duration
  · rw [course_attempt hend] at hpanic
    cases hout : (op n).outcome with
    | ok v => rw [hout] at hpanic; cases hpanic
    | error e => rw [hout] at hpanic; cases hpanic
  · obtain ⟨howned, htime⟩ := not_or.1 hend
    by_cases hdouble : ClockRange.std.duration (b.delay n * 2) = true
    · have hlast : Retried .std b op n :=
        ⟨by rw [← Bool.not_eq_false]; exact howned, Nat.lt_of_not_le htime, hdouble⟩
      rw [attempt_afterRetries hlast] at hpanic
      cases hpanic
    · rw [duration_std] at hdouble
      refine Backoff.exists_large_iff.1 ⟨n, fun k hk => duration_std.1 (hretried k hk).2.2, ?_,
        Nat.le_of_not_lt hdouble⟩
      have hle : Backoff.total b.initial b.max n ≤ elapsed b op n := total_le_elapsed n
      omega

/-- A delay that cannot be doubled is reached by an operation that fails at once. -/
theorem panics_of_overflows (hstart : start + b.timeout < clockEnd) (h : Overflows b) :
    ∃ n s, (retryOwnership .std b).run (.enter .std b start) ((List.range n).map neverOwned) =
      some s ∧ s.pc.course = .panicked := by
  obtain ⟨n, hbelow, htime, hlarge⟩ := Backoff.exists_large_iff.2 h
  have hretried : ∀ k < n, Retried .std b neverOwned k := fun k hk => by
    have hmono : elapsed b neverOwned k + (neverOwned k).duration ≤ elapsed b neverOwned n :=
      elapsed_mono b hk
    rw [elapsed_neverOwned n] at hmono
    exact ⟨rfl, by omega, duration_std.2 (hbelow k hk)⟩
  have htime' : elapsed b neverOwned n + (neverOwned n).duration < b.timeout := by
    rw [elapsed_neverOwned]
    exact htime
  have hdouble : ClockRange.std.duration (b.delay n * 2) = false := by
    rw [Bool.eq_false_iff]
    exact fun hd => absurd (duration_std.1 hd) (Nat.not_lt_of_le hlarge)
  refine ⟨n + 1, _, run_next (instant_std.2 hstart) hretried, ?_⟩
  rw [attempt_panics rfl htime' hdouble]
  rfl

end

/-- **One backoff.** No run panics exactly if the deadline is an instant and the delays stay where
they can be doubled. -/
theorem neverPanics_iff (b : OwnershipBackoff Duration) (start : Nat) :
    NeverPanics b start ↔ start + b.timeout.nanos < clockEnd ∧ ¬ Overflows b.nanos := by
  constructor
  · intro h
    have hstart : start + b.timeout.nanos < clockEnd := by
      by_contra hlate
      exact h Unit neverOwned 0 _ rfl (enter_panics hlate)
    refine ⟨hstart, fun hover => ?_⟩
    obtain ⟨n, s, hrun, hpanic⟩ := panics_of_overflows hstart hover
    exact h Unit neverOwned n s hrun hpanic
  · rintro ⟨hstart, hover⟩ T op n s hrun hpanic
    have hinstant : ClockRange.std.instant (start + b.nanos.timeout) = true := instant_std.2 hstart
    cases n with
    | zero =>
      cases hrun
      have henter : Retry.enter .std b.nanos start = afterRetries b.nanos op start 0 :=
        enter_eq hinstant
      rw [henter] at hpanic
      cases hpanic
    | succ n =>
      obtain ⟨-, hretried⟩ := retried_of_run hrun
      rw [run_next hinstant hretried] at hrun
      cases hrun
      exact hover (overflows_of_panicked hretried hpanic)

/-- The default delays stay where they can be doubled. -/
theorem not_overflows_new (timeout : Duration) :
    ¬ Overflows (OwnershipBackoff.new timeout).nanos := by
  rintro ⟨k, hlarge, -, rfl | hcap⟩
  · have hsecond : ¬ clockEnd ≤ nanosPerSec * 2 ^ 0 := by decide
    rw [← Nat.one_mul nanosPerSec] at hsecond
    exact hsecond hlarge
  · have hfive : ¬ clockEnd ≤ 5 * nanosPerSec := by decide
    exact hfive hcap

/-- Where the deadline is not an instant, `handle_with_retry` panics before its first attempt. -/
theorem panics_at_deadline {timeout : Duration} {start : Nat}
    (h : ¬ start + timeout.nanos < clockEnd) : ¬ HandlingNeverPanics timeout start := by
  intro hnever
  exact hnever Unit Unit Unit Unit Unit () () (fun n => atOwner (neverOwned n)) 0 _ rfl
    (enter_panics h)

/-- **Retry arithmetic.** `handle_with_retry` never panics exactly if its deadline is an instant,
and `retry_ownership` exactly if, besides, the delay does not get to where it cannot be doubled
within the timeout. -/
theorem retry_arithmetic_iff (start : Nat) :
    (∀ timeout : Duration, HandlingNeverPanics timeout start ↔ start + timeout.nanos < clockEnd) ∧
      ∀ b : OwnershipBackoff Duration, NeverPanics b start ↔
        start + b.timeout.nanos < clockEnd ∧ ¬ Overflows b.nanos := by
  refine ⟨fun timeout => ⟨fun h => ?_, fun h => ?_⟩, fun b => neverPanics_iff b start⟩
  · by_contra hlate
    exact panics_at_deadline hlate h
  · have hnever : NeverPanics (OwnershipBackoff.new timeout) start :=
      (neverPanics_iff _ start).2 ⟨h, not_overflows_new timeout⟩
    intro Key Client Value Req Resp key req xs n s hrun
    exact hnever Resp (fun k => (xs k).attempt key req) n s hrun

/-! ## A practically infinite timeout -/

/-- `Duration::MAX`. -/
def Duration.max : Duration := ⟨2 ^ 64 * nanosPerSec - 1, by decide⟩

/-- **The largest timeout panics.** The loop does not get to its first call. -/
theorem max_timeout_panics : ¬ HandlingNeverPanics Duration.max 0 :=
  panics_at_deadline (by decide)

end Splitter
