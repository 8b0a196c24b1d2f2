import Splitter.Retry.Loop

/-!
# The retry schedule

On a clock whose arithmetic never fails: a retry loop whose first delay is positive and not above
the cap ends after a bounded number of calls, with the outcome of the last one, and its sleeps are
the doubled delays, cut at the cap and at the deadline (`retry_schedule`).
-/

namespace Splitter

variable {T : Type} {b : OwnershipBackoff Nat} {op : Nat → Attempt T} {start : Nat}

/-- **The loop ends.** Within the bound some call is not retried. -/
theorem exists_not_retried (hpos : 0 < b.initial) (hcap : b.initial ≤ b.max)
    (op : Nat → Attempt T) :
    ∃ n, n ≤ 1 + b.timeout / b.initial ∧ (∀ k < n, Retried .ideal b op k) ∧
      ¬ Retried .ideal b op n := by
  classical
  have hlast : ¬ Retried .ideal b op (b.timeout / b.initial + 1) := by
    rintro ⟨-, htime, -⟩
    have hmul : (b.timeout / b.initial + 1) * b.initial ≤
        elapsed b op (b.timeout / b.initial + 1) :=
      Nat.le_trans (Backoff.mul_le_total hcap _) (total_le_elapsed _)
    have hover : b.timeout < (b.timeout / b.initial + 1) * b.initial := by
      rw [Nat.mul_comm]
      exact Nat.lt_mul_div_succ b.timeout hpos
    omega
  have hex : ∃ n, ¬ Retried .ideal b op n := ⟨_, hlast⟩
  refine ⟨Nat.find hex, ?_, fun k hk => not_not.1 (Nat.find_min hex hk), Nat.find_spec hex⟩
  rw [Nat.add_comm]
  exact Nat.find_min' hex hlast

/-- What `retry_ownership` has done when it returns after `n + 1` calls. -/
structure Scheduled (b : OwnershipBackoff Nat) (op : Nat → Attempt T) (start n : Nat)
    (s : Retry T) : Prop where
  result : s.pc = .returned (op n).outcome
  retried : ∀ k < n, (op k).owned = true
  calls : s.called.length = n + 1
  sleeps : s.slept.length = n
  first : s.called[0]? = some start
  /-- A call starts when the sleep after the one before it ends. -/
  next : ∀ k < n, ∃ t d, s.called[k]? = some t ∧ s.slept[k]? = some d ∧
    s.called[k + 1]? = some (t + (op k).duration + d)
  inTime : ∀ t ∈ s.called, t ≤ start + b.timeout
  schedule : ∀ k < n, ∃ t, s.called[k]? = some t ∧
    s.slept[k]? = some (min (min (b.initial * 2 ^ k) b.max)
      (start + b.timeout - (t + (op k).duration)))
  atDeadline : (op n).owned = true →
    ∃ t, s.called[n]? = some t ∧ start + b.timeout ≤ t + (op n).duration

/-- When the calls of a loop start that has not returned before the last of them. -/
theorem called_get (b : OwnershipBackoff Nat) (op : Nat → Attempt T) (start : Nat) {k n : Nat}
    (hk : k < n) :
    ((List.range n).map fun k => start + min (elapsed b op k) b.timeout)[k]? =
      some (start + min (elapsed b op k) b.timeout) := by
  simp only [List.getElem?_map, List.getElem?_range hk, Option.map_some]

/-- The sleeps after them. -/
theorem slept_get (start : Nat) {k n : Nat} (hk : k < n) :
    (afterRetries b op start n).slept[k]? =
      some (min (b.delay k) (b.timeout - (elapsed b op k + (op k).duration))) := by
  simp only [afterRetries, List.getElem?_map, List.getElem?_range hk, Option.map_some]

/-- **Retry schedule.** Every sequence of outcomes and durations has a last call within
`2 + timeout / initial`, and the loop returns its outcome. All earlier calls ended in ownership
errors, an ownership error is returned only at the deadline, the `k`-th sleep is the doubled delay
cut at the cap and at the deadline, and no call starts after the deadline. -/
theorem retry_schedule (hpos : 0 < b.initial) (hcap : b.initial ≤ b.max) (op : Nat → Attempt T)
    (start : Nat) :
    ∃ n s, n + 1 ≤ 2 + b.timeout / b.initial ∧
      (retryOwnership .ideal b).run (.enter .ideal b start) ((List.range (n + 1)).map op) = some s ∧
      Scheduled b op start n s := by
  obtain ⟨n, hn, hretried, hend⟩ := exists_not_retried hpos hcap op
  have hlast := last_of_not_retried rfl hend
  have hcalled : ∀ k < n, elapsed b op k + (op k).duration < b.timeout := fun k hk =>
    (hretried k hk).2.1
  refine ⟨n, _, by omega, run_next rfl hretried, ?_⟩
  rw [attempt_returns hlast]
  refine ⟨rfl, fun k hk => (hretried k hk).1, by simp only [List.length_map, List.length_range],
    by simp only [afterRetries, List.length_map, List.length_range], ?_, fun k hk => ?_,
    fun t ht => ?_, fun k hk => ?_, fun howned => ?_⟩
  · have hfirst := called_get b op start n.succ_pos
    simpa only [elapsed, Nat.zero_min, Nat.add_zero] using hfirst
  · refine ⟨_, _, called_get b op start (Nat.lt_succ_of_lt hk), slept_get start hk, ?_⟩
    have htime := hcalled k hk
    have hnext := called_get b op start (Nat.succ_lt_succ hk)
    rw [hnext, elapsed]
    congr 1
    omega
  · obtain ⟨k, -, rfl⟩ := List.mem_map.1 ht
    exact Nat.add_le_add_left (Nat.min_le_right ..) start
  · refine ⟨_, called_get b op start (Nat.lt_succ_of_lt hk), ?_⟩
    have htime := hcalled k hk
    have hdelay : b.delay k = min (b.initial * 2 ^ k) b.max := Backoff.delay_eq hcap k
    rw [slept_get start hk, hdelay]
    congr 1
    omega
  · refine ⟨_, called_get b op start n.lt_succ_self, ?_⟩
    have hlate := hlast.resolve_left (by rw [howned]; decide)
    omega

/-- Two slow calls of a service that has moved, within four seconds. -/
def moved : Nat → Attempt Unit := fun _ => ⟨.error .notOwned, 2⟩

/-- With delays from one up to five, it is called at most six times. -/
theorem moved_scheduled :
    ∃ n s, n + 1 ≤ 6 ∧ (retryOwnership .ideal ⟨1, 5, 4⟩).run (.enter .ideal ⟨1, 5, 4⟩ 0)
        ((List.range (n + 1)).map moved) = some s ∧ Scheduled ⟨1, 5, 4⟩ moved 0 n s :=
  retry_schedule (b := ⟨1, 5, 4⟩) (by decide) (by decide) moved 0

end Splitter
