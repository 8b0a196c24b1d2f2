import Mathlib.Algebra.Ring.Nat

/-!
# Tickers

A ticker has an instant at which its next tick is due, and a period. A tick may be taken late, and
the ticks missed by then are skipped: `Skips` is what the next due instant must be, the first point
of the ticker's grid after the tick. A restart puts the due instant a period after now.

`Budget` is the rate this leads to: where no period is shorter than `least`, there is at most one
tick for each `least` of the time that has passed, however late ticks are taken and however often
the ticker is restarted.
-/

namespace Ticker

/-- After a tick that was due and is taken now, the next one is due at the next point of the grid. -/
structure Skips (next : Nat → Nat → Nat → Nat) : Prop where
  grid : ∀ due period now, ∃ k, next due period now = due + (k + 1) * period
  later : ∀ due period now, 0 < period → due ≤ now → now < next due period now
  soon : ∀ due period now, 0 < period → due ≤ now → next due period now ≤ now + period

/-- The next point of the grid after now. -/
def skip (due period now : Nat) : Nat := due + ((now - due) / period + 1) * period

theorem skips_skip : Skips skip where
  grid due period now := ⟨(now - due) / period, rfl⟩
  later due period now hpos hdue := by
    have hlt := Nat.lt_div_mul_add (a := now - due) hpos
    unfold skip
    rw [Nat.add_mul, Nat.one_mul]
    omega
  soon due period now hpos hdue := by
    have hle := Nat.div_mul_le_self (now - due) period
    unfold skip
    rw [Nat.add_mul, Nat.one_mul]
    omega

/-- A ticker that starts now has its next tick a period later. -/
theorem Skips.start {next : Nat → Nat → Nat → Nat} (h : Skips next) {period : Nat}
    (hpos : 0 < period) (now : Nat) : next now period now = now + period := by
  obtain ⟨k, hk⟩ := h.grid now period now
  have hsoon := h.soon now period now hpos (Nat.le_refl _)
  have hle : period ≤ (k + 1) * period := Nat.le_mul_of_pos_left _ (Nat.succ_pos k)
  omega

/-! ## The rate of ticks -/

/-- The ticks taken since the start, and the next one, fit the time that has passed. -/
structure Budget (least start ticks now due : Nat) : Prop where
  spent : start + ticks * least ≤ now
  next : start + (ticks + 1) * least ≤ due

namespace Budget

variable {least start ticks now due period : Nat} {next : Nat → Nat → Nat → Nat}

/-- Fewer ticks were taken. -/
theorem mono (h : Budget least start ticks now due) {ticks' : Nat} (hle : ticks' ≤ ticks) :
    Budget least start ticks' now due where
  spent := Nat.le_trans (Nat.add_le_add_left (Nat.mul_le_mul_right least hle) start) h.spent
  next := Nat.le_trans
    (Nat.add_le_add_left (Nat.mul_le_mul_right least (Nat.succ_le_succ hle)) start) h.next

/-- Time passes. -/
theorem elapse (h : Budget least start ticks now due) (d : Nat) :
    Budget least start ticks (now + d) due where
  spent := Nat.le_add_right_of_le h.spent
  next := h.next

/-- A tick is taken. -/
theorem tick (h : Budget least start ticks now due) (hskips : Skips next) (hleast : least ≤ period)
    (hdue : due ≤ now) : Budget least start (ticks + 1) now (next due period now) where
  spent := Nat.le_trans h.next hdue
  next := by
    obtain ⟨k, hk⟩ := hskips.grid due period now
    have hle : period ≤ (k + 1) * period := Nat.le_mul_of_pos_left _ (Nat.succ_pos k)
    have hnext := h.next
    rw [hk, Nat.add_mul (ticks + 1), Nat.one_mul]
    omega

/-- The ticker is restarted. -/
theorem restart (hspent : start + ticks * least ≤ now) (hskips : Skips next) (hpos : 0 < period)
    (hleast : least ≤ period) : Budget least start ticks now (next now period now) where
  spent := hspent
  next := by
    rw [hskips.start hpos, Nat.add_mul, Nat.one_mul]
    omega

end Budget

end Ticker
