import Mathlib.Algebra.Ring.Nat
import Mathlib.Data.Nat.Find

/-!
# Exponential backoff

Delays that start with an initial one and double up to a cap (`delay`), and their sums (`total`).
Where the cap is not below the initial delay the `k`-th is the smaller of `initial * 2 ^ k` and the
cap (`delay_eq`), and `k` delays add up to at least `k` initial ones (`mul_le_total`).
`exists_large_iff` says when a delay gets to a bound before the delays in front of it add up to a
given time.
-/

namespace Backoff

variable {initial cap : Nat}

/-- The `k`-th delay. -/
def delay (initial cap : Nat) : Nat → Nat
  | 0 => initial
  | k + 1 => min (delay initial cap k * 2) cap

/-- The sum of the first `k` delays. -/
def total (initial cap : Nat) : Nat → Nat
  | 0 => 0
  | k + 1 => total initial cap k + delay initial cap k

@[simp] theorem delay_zero : delay initial cap 0 = initial := rfl

theorem delay_succ (k : Nat) : delay initial cap (k + 1) = min (delay initial cap k * 2) cap := rfl

@[simp] theorem total_zero : total initial cap 0 = 0 := rfl

theorem total_succ (k : Nat) :
    total initial cap (k + 1) = total initial cap k + delay initial cap k := rfl

/-! ## Closed forms -/

/-- After the first delay, the cap is applied to the power itself. -/
theorem delay_succ_eq (k : Nat) :
    delay initial cap (k + 1) = min (initial * 2 ^ (k + 1)) cap := by
  induction k with
  | zero => rfl
  | succ k ih =>
    have hpow : initial * 2 ^ (k + 1 + 1) = initial * 2 ^ (k + 1) * 2 := by
      rw [Nat.pow_succ 2 (k + 1), Nat.mul_assoc]
    rw [delay_succ, ih, hpow]
    omega

/-- **The closed form** of a delay. -/
theorem delay_eq (h : initial ≤ cap) (k : Nat) :
    delay initial cap k = min (initial * 2 ^ k) cap := by
  cases k with
  | zero => rw [delay_zero, Nat.pow_zero, Nat.mul_one, Nat.min_eq_left h]
  | succ k => exact delay_succ_eq k

/-- As long as the power is below the cap, the delay is the power. -/
theorem delay_eq_pow {k : Nat} (h : initial * 2 ^ k ≤ cap) :
    delay initial cap k = initial * 2 ^ k := by
  cases k with
  | zero => rw [delay_zero, Nat.pow_zero, Nat.mul_one]
  | succ k => rw [delay_succ_eq, Nat.min_eq_left h]

/-- As long as the powers are below the cap, they add up to the next one less the first. -/
theorem total_eq_pow {k : Nat} (h : ∀ i < k, initial * 2 ^ i ≤ cap) :
    total initial cap k = initial * (2 ^ k - 1) := by
  induction k with
  | zero => rw [total_zero, Nat.pow_zero, Nat.sub_self, Nat.mul_zero]
  | succ k ih =>
    have hpow : 2 ^ (k + 1) - 1 = 2 ^ k - 1 + 2 ^ k := by
      have hpos := Nat.two_pow_pos k
      omega
    rw [total_succ, ih fun i hi => h i (Nat.lt_succ_of_lt hi), delay_eq_pow (h k k.lt_succ_self),
      hpow, Nat.mul_add]

/-! ## Bounds -/

/-- No delay is above both the first one and the cap. -/
theorem delay_le (k : Nat) : delay initial cap k ≤ max initial cap := by
  cases k with
  | zero => exact Nat.le_max_left ..
  | succ k => exact Nat.le_trans (Nat.min_le_right ..) (Nat.le_max_right ..)

/-- No delay is below the first one, where the cap is not. -/
theorem le_delay (h : initial ≤ cap) (k : Nat) : initial ≤ delay initial cap k := by
  rw [delay_eq h]
  exact Nat.le_min.2 ⟨Nat.le_mul_of_pos_right initial (Nat.two_pow_pos k), h⟩

/-- `k` delays take at least `k` times the first one. -/
theorem mul_le_total (h : initial ≤ cap) (k : Nat) : k * initial ≤ total initial cap k := by
  induction k with
  | zero => rw [Nat.zero_mul, total_zero]
  | succ k ih =>
    rw [Nat.succ_mul, total_succ]
    exact Nat.add_le_add ih (le_delay h k)

/-! ## Delays that get large -/

/-- **When a delay gets large.** The first delay that is not below the bound comes before the time
is over exactly if the powers get there in time, and are not held back by the cap. -/
theorem exists_large_iff {bound time : Nat} :
    (∃ n, (∀ i < n, delay initial cap i < bound) ∧ total initial cap n < time ∧
        bound ≤ delay initial cap n) ↔
      ∃ k, bound ≤ initial * 2 ^ k ∧ initial * (2 ^ k - 1) < time ∧ (k = 0 ∨ bound ≤ cap) := by
  constructor
  · rintro ⟨n, hbelow, htime, hlarge⟩
    cases n with
    | zero =>
      refine ⟨0, ?_, ?_, .inl rfl⟩
      · rw [Nat.pow_zero, Nat.mul_one]
        exact hlarge
      · rw [Nat.pow_zero, Nat.sub_self, Nat.mul_zero]
        exact htime
    | succ n =>
      rw [delay_succ_eq] at hlarge
      have hcap : bound ≤ cap := Nat.le_trans hlarge (Nat.min_le_right ..)
      -- the delays before are below the bound, so the cap did not hold them back
      have hpow : ∀ i < n + 1, initial * 2 ^ i ≤ cap := by
        intro i hi
        have hlt := hbelow i hi
        cases i with
        | zero =>
          rw [Nat.pow_zero, Nat.mul_one]
          exact Nat.le_of_lt (Nat.lt_of_lt_of_le hlt hcap)
        | succ i =>
          rw [delay_succ_eq] at hlt
          omega
      rw [total_eq_pow hpow] at htime
      exact ⟨n + 1, Nat.le_trans hlarge (Nat.min_le_left ..), htime, .inr hcap⟩
  · rintro ⟨k, hk⟩
    -- the least such `k`: the powers before are below the bound
    have hex : ∃ k, bound ≤ initial * 2 ^ k := ⟨k, hk.1⟩
    have hle : Nat.find hex ≤ k := Nat.find_min' hex hk.1
    obtain ⟨-, htime, hcap⟩ := hk
    have hbelow : ∀ i < Nat.find hex, initial * 2 ^ i < bound := fun i hi =>
      Nat.lt_of_not_le (Nat.find_min hex hi)
    have hcap : Nat.find hex = 0 ∨ bound ≤ cap := hcap.imp_left fun h => by omega
    have hpow : ∀ i < Nat.find hex, initial * 2 ^ i ≤ cap := fun i hi =>
      hcap.elim (fun h => absurd hi (by omega)) fun h =>
        Nat.le_of_lt (Nat.lt_of_lt_of_le (hbelow i hi) h)
    refine ⟨Nat.find hex, fun i hi => ?_, ?_, ?_⟩
    · rw [delay_eq_pow (hpow i hi)]
      exact hbelow i hi
    · rw [total_eq_pow hpow]
      exact Nat.lt_of_le_of_lt
        (Nat.mul_le_mul_left _
          (Nat.sub_le_sub_right (Nat.pow_le_pow_right (by decide) hle) 1)) htime
    · have hreached := Nat.find_spec hex
      rcases hcap with hzero | hcap
      · rw [hzero, Nat.pow_zero, Nat.mul_one] at hreached
        rw [hzero]
        exact hreached
      · cases hk : Nat.find hex with
        | zero =>
          rw [hk, Nat.pow_zero, Nat.mul_one] at hreached
          exact hreached
        | succ k' =>
          rw [hk] at hreached
          rw [delay_succ_eq]
          exact Nat.le_min.2 ⟨hreached, hcap⟩

end Backoff
