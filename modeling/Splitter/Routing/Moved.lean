import Splitter.Retry.Schedule
import Splitter.Routing.Proxy

/-!
# A shard that has moved

What a caller of `handle_with_retry` sees of a shard that changes hands. What an attempt meets
depends on when it is made (`World`), and from some instant on it is no ownership error any more.
`moved_answered`: the caller is answered by an attempt made at most five seconds, and the length of
one attempt, after that instant, unless its timeout is shorter than that.
-/

namespace Splitter

section
variable {T : Type} {c : ClockRange} {b : OwnershipBackoff Nat} {op : Nat → Attempt T}
  {start settled longest : Nat}

/-- The instant of the `n`-th call, if all before it are retried. -/
def callAt (b : OwnershipBackoff Nat) (op : Nat → Attempt T) (start n : Nat) : Nat :=
  start + min (elapsed b op n) b.timeout

/-- Where delays can be doubled, a retried call is one worth a retry that ends before the
deadline. -/
theorem retried_iff_ideal (hdouble : ∀ n, c.duration (b.delay n * 2) = true) {n : Nat} :
    Retried c b op n ↔ Retried .ideal b op n :=
  and_congr_right fun _ => and_congr_right fun _ => iff_of_true (hdouble n) rfl

/-- A call worth a retry is made before the shard has settled, and with time left. -/
theorem callAt_of_owned
    (hsettled : ∀ n, settled ≤ callAt b op start n → (op n).owned = false)
    (hleft : settled ≤ start + b.timeout) {n : Nat} (howned : (op n).owned = true) :
    start + elapsed b op n < settled := by
  have hbefore : ¬ settled ≤ callAt b op start n := fun hle => by
    rw [hsettled n hle] at howned
    cases howned
  unfold callAt at hbefore
  omega

/-- **The loop answers.** Once no call ends in an ownership error any more, one more call is made,
at most a delay after the last one that did. -/
theorem answered_of_settled (hpos : 0 < b.initial) (hcap : b.initial ≤ b.max)
    (hdouble : ∀ n, c.duration (b.delay n * 2) = true)
    (hstart : c.instant (start + b.timeout) = true)
    (hlongest : ∀ n, (op n).duration ≤ longest)
    (hsettled : ∀ n, settled ≤ callAt b op start n → (op n).owned = false)
    (hleft : settled + longest ≤ start + b.timeout) :
    ∃ n s, (retryOwnership c b).run (.enter c b start) ((List.range (n + 1)).map op) = some s ∧
      s.pc = .returned (op n).outcome ∧ (op n).owned = false ∧
        callAt b op start n ≤ max start (settled + longest + b.max) ∧
          s.now = callAt b op start n + (op n).duration := by
  have hbefore := fun {n : Nat} (h : (op n).owned = true) =>
    callAt_of_owned hsettled (Nat.le_trans (Nat.le_add_right ..) hleft) h
  obtain ⟨n, -, hretried, hend⟩ := exists_not_retried hpos hcap op
  have hlast := last_of_not_retried (hdouble n) ((retried_iff_ideal hdouble).not.2 hend)
  have hrun := run_next hstart fun k hk => (retried_iff_ideal hdouble).2 (hretried k hk)
  rw [attempt_returns hlast] at hrun
  have howned : (op n).owned = false := by
    by_contra howned
    have hlt := hbefore (by simpa using howned)
    have hlate := hlast.resolve_left howned
    have hle := hlongest n
    omega
  refine ⟨n, _, hrun, rfl, howned, ?_, rfl⟩
  cases n with
  | zero => exact Nat.le_trans (Nat.le_of_eq (by simp [callAt, elapsed])) (Nat.le_max_left ..)
  | succ k =>
    have hlt := hbefore (hretried k k.lt_succ_self).1
    have hle := hlongest k
    have hdelay : b.delay k ≤ b.max :=
      Nat.le_trans (Backoff.delay_le k) (Nat.max_le.2 ⟨hcap, Nat.le_refl _⟩)
    refine Nat.le_trans ?_ (Nat.le_max_right ..)
    unfold callAt
    rw [elapsed]
    omega

end

/-! ## The callers of a shard -/

variable {Key Client Value Req Resp : Type}

/-- What an attempt meets, by the instant at which it is made. -/
abbrev World (Key Client Value Req Resp : Type) := Nat → Handling Key Client Value Req Resp

namespace World

variable (world : World Key Client Value Req Resp) (b : OwnershipBackoff Nat) (start : Nat)

/-- How long the attempts so far and the delays after them take, were there no deadline. -/
def spent : Nat → Nat
  | 0 => 0
  | n + 1 => spent n + (world (start + min (spent n) b.timeout)).duration + b.delay n

/-- The instant of an attempt. -/
def instant (n : Nat) : Nat := start + min (world.spent b start n) b.timeout

/-- What the attempts of a call meet. -/
def met (n : Nat) : Handling Key Client Value Req Resp := world (world.instant b start n)

variable (key : Key) (req : Req)

theorem elapsed_met (n : Nat) :
    elapsed b (fun k => (world.met b start k).attempt key req) n = world.spent b start n := by
  induction n with
  | zero => rfl
  | succ n ih =>
    rw [elapsed, spent, ih]
    rfl

theorem callAt_met (n : Nat) :
    callAt b (fun k => (world.met b start k).attempt key req) start n = world.instant b start n := by
  rw [callAt, elapsed_met, instant]

end World

/-- The longest delay: five seconds. -/
def longestDelay : Nat := 5 * nanosPerSec

/-- **A moved shard is answered for.** Where no attempt that is made at or after an instant ends in
an ownership error, no attempt takes longer than `longest`, and the timeout leaves time for one
attempt after the instant: `handle_with_retry` returns what an attempt comes to that is made at most
`longest` and five seconds after the instant, or at once, and that is no ownership error. -/
theorem moved_answered {timeout : Duration} {start settled longest : Nat}
    {world : World Key Client Value Req Resp} {key : Key} {req : Req}
    (hstart : ClockRange.std.instant (start + timeout.nanos) = true)
    (hlongest : ∀ t, (world t).duration ≤ longest)
    (hsettled : ∀ t, settled ≤ t → ((world t).attempt key req).owned = false)
    (hleft : settled + longest ≤ start + timeout.nanos) :
    ∃ n s t, handleWithRetry timeout start key req
        (world.met (OwnershipBackoff.new timeout).nanos start) (n + 1) = some s ∧
      s.pc = .returned ((world t).attempt key req).outcome ∧
        ((world t).attempt key req).owned = false ∧
          t ≤ max start (settled + longest + longestDelay) ∧
            s.now ≤ max start (settled + longest + longestDelay) + longest := by
  set b := (OwnershipBackoff.new timeout).nanos with hb
  have hdouble : ∀ n, ClockRange.std.duration (b.delay n * 2) = true := double_default timeout
  have hsettled : ∀ n, settled ≤ callAt b (fun k => (world.met b start k).attempt key req) start n →
      ((world.met b start n).attempt key req).owned = false := fun n hle =>
    hsettled _ (by rwa [World.callAt_met] at hle)
  obtain ⟨n, s, hrun, hpc, howned, hat, hnow⟩ := answered_of_settled
    (show 0 < 1 * nanosPerSec by decide) (show 1 * nanosPerSec ≤ 5 * nanosPerSec by decide) hdouble
    hstart (fun n => hlongest (world.instant b start n)) hsettled hleft
  rw [World.callAt_met] at hat hnow
  have hle := hlongest (world.instant b start n)
  have hnow : s.now = world.instant b start n + (world (world.instant b start n)).duration := hnow
  exact ⟨n, s, world.instant b start n, hrun, hpc, howned, hat,
    by rw [hnow]; exact Nat.add_le_add hat hle⟩

/-- A shard that settles at an instant, and whose attempts take a second. -/
def settlesAt (settled : Nat) : World Unit Unit Unit Unit Unit := fun t =>
  atOwner ⟨if settled ≤ t then .ok () else .error .notOwned, nanosPerSec⟩

/-- A shard that settles after two seconds is answered for within nine, of a timeout of ten. -/
theorem moved_answered_twoSeconds :
    ∃ n s t, handleWithRetry tenSeconds 0 () ()
        ((settlesAt (2 * nanosPerSec)).met (OwnershipBackoff.new tenSeconds).nanos 0) (n + 1) = some s ∧
      s.pc = .returned ((settlesAt (2 * nanosPerSec) t).attempt () ()).outcome ∧
        ((settlesAt (2 * nanosPerSec) t).attempt () ()).owned = false ∧
          t ≤ max 0 (2 * nanosPerSec + nanosPerSec + longestDelay) ∧
            s.now ≤ max 0 (2 * nanosPerSec + nanosPerSec + longestDelay) + nanosPerSec := by
  refine moved_answered (by decide) (fun _ => Nat.le_refl _) (fun t ht => ?_) (by decide)
  show Attempt.owned ⟨if 2 * nanosPerSec ≤ t then .ok () else .error .notOwned, nanosPerSec⟩ = false
  rw [if_pos ht]
  rfl

end Splitter
