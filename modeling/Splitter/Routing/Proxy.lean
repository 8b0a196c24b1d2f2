import Splitter.Retry.Loop

/-!
# Routing a request

`proxy.rs`: one attempt goes to the local owner of a key or to the client of a remote one, and
`handle_with_retry` repeats it. A handler should be retried alike wherever it runs. A remote caller
sees a handler's errors as statuses, which it takes some of for ownership errors:
`transparent_iff` says for which results the two runs are the same.
-/

namespace Splitter

variable {Key Client Value Req Resp : Type}

/-- `Proxy`, the two of its operations that `handle` calls. -/
structure Proxy (Key Client Value : Type) where
  resolve : Key → Except ClientError Client
  lookup : Key → List GrantState → Option Value

/-- `handle`. -/
def handle (proxy : Proxy Key Client Value) (key : Key) (req : Req)
    (remote : Client → Req → Except Status Resp) («local» : Value → Req → Except ClientError Resp) :
    Except ClientError Resp :=
  match proxy.lookup key [.active] with
  | some v => «local» v req
  | none =>
    match proxy.resolve key with
    | .ok client => (remote client req).mapError ClientError.fromGrpc
    | .error .noResolution =>
      match proxy.lookup key [] with
      | some v => «local» v req
      | none => .error .notOwned
    | .error e => .error e

/-- What one attempt of `handle_with_retry` meets: the proxy, the closures and how long they take.
-/
structure Handling (Key Client Value Req Resp : Type) where
  proxy : Proxy Key Client Value
  remote : Client → Req → Except Status Resp
  «local» : Value → Req → Except ClientError Resp
  duration : Nat

/-- The attempt, `handle` on what it meets. -/
def Handling.attempt (x : Handling Key Client Value Req Resp) (key : Key) (req : Req) :
    Attempt Resp :=
  { outcome := handle x.proxy key req x.remote x.local, duration := x.duration }

/-- `handle_with_retry`: the loop with the default delays, up to the attempt with that number. -/
def handleWithRetry (timeout : Duration) (start : Nat) (key : Key) (req : Req)
    (xs : Nat → Handling Key Client Value Req Resp) (n : Nat) : Option (Retry Resp) :=
  (retryOwnership .std (OwnershipBackoff.new timeout).nanos).run
    (.enter .std (OwnershipBackoff.new timeout).nanos start)
    ((List.range n).map fun k => (xs k).attempt key req)

/-! ## A handler in two places -/

/-- The attempt is served by the local closure, for an active grant or, where nothing resolves, for
any: the handler's result is the attempt's. -/
structure Handling.Local (x : Handling Key Client Value Req Resp) (key : Key) (req : Req)
    (a : Attempt Resp) : Prop where
  owner : ∃ v, x.local v req = a.outcome ∧
    (x.proxy.lookup key [.active] = some v ∨
      x.proxy.lookup key [.active] = none ∧ x.proxy.resolve key = .error .noResolution ∧
        x.proxy.lookup key [] = some v)
  duration : x.duration = a.duration

/-- The attempt is served by a peer, whose handler's result travels as a status. -/
structure Handling.Remote (x : Handling Key Client Value Req Resp) (key : Key) (req : Req)
    (a : Attempt Resp) : Prop where
  unowned : x.proxy.lookup key [.active] = none
  peer : ∃ client, x.proxy.resolve key = .ok client ∧
    x.remote client req = a.outcome.mapError ClientError.intoGrpc
  duration : x.duration = a.duration

/-- An attempt as the caller of a peer sees it. -/
def Attempt.recovered (a : Attempt Resp) : Attempt Resp :=
  { a with outcome := (a.outcome.mapError ClientError.intoGrpc).mapError ClientError.fromGrpc }

variable {x : Handling Key Client Value Req Resp} {key : Key} {req : Req} {a : Attempt Resp}

/-- A local attempt ends as the handler does. -/
theorem Handling.Local.attempt_eq (h : x.Local key req a) : x.attempt key req = a := by
  obtain ⟨⟨v, hv, howner⟩, hduration⟩ := h
  have hhandle : handle x.proxy key req x.remote x.local = a.outcome := by
    unfold handle
    rcases howner with hactive | ⟨hactive, hresolve, hany⟩
    · rw [hactive]
      exact hv
    · rw [hactive, hresolve]
      simp only [hany]
      exact hv
  rw [attempt, hhandle, hduration]

/-- A remote attempt ends as the handler does, seen through a status. -/
theorem Handling.Remote.attempt_eq (h : x.Remote key req a) : x.attempt key req = a.recovered := by
  obtain ⟨hactive, ⟨client, hresolve, hremote⟩, hduration⟩ := h
  have hhandle : handle x.proxy key req x.remote x.local = a.recovered.outcome := by
    unfold handle
    rw [hactive, hresolve]
    simp only [hremote]
    rfl
  rw [attempt, hhandle, hduration]
  rfl

/-- The attempt ends in an error that a caller of a peer takes for an ownership error. -/
def Attempt.misread (a : Attempt Resp) : Bool :=
  match a.outcome with
  | .ok _ => false
  | .error e => e.misread

/-- **One attempt, seen from both sides.** -/
theorem Attempt.owned_recovered (a : Attempt Resp) :
    a.recovered.owned = (a.owned || a.misread) := by
  obtain ⟨outcome, duration⟩ := a
  cases outcome with
  | ok v => rfl
  | error e => exact ClientError.isOwnership_recovered e

/-- A misread attempt is not worth a retry. -/
theorem Attempt.owned_of_misread {a : Attempt Resp} (h : a.misread = true) : a.owned = false := by
  obtain ⟨outcome, duration⟩ := a
  cases outcome with
  | ok v => rfl
  | error e => exact ClientError.isOwnership_of_misread h

/-! ## Two runs -/

/-- How far a retry has come. -/
inductive Course
  | running | success | failure | panicked
  deriving DecidableEq

/-- The course of a loop. -/
def Retry.Pc.course {T : Type} : Retry.Pc T → Course
  | .attempting => .running
  | .returned (.ok _) => .success
  | .returned (.error _) => .failure
  | .panicked => .panicked

/-- The two retries take the same course: after any number of attempts both still run, or both
have returned success or failure at that attempt, or neither makes that many. -/
def Transparent (locals remotes : Nat → Option (Retry Resp)) : Prop :=
  ∀ n, (locals n).map (·.pc.course) = (remotes n).map (·.pc.course)

section
variable {op : Nat → Attempt Resp}

/-- The way through a status takes no time. -/
theorem elapsed_recovered (b : OwnershipBackoff Nat) (n : Nat) :
    elapsed b (fun k => (op k).recovered) n = elapsed b op n := by
  induction n with
  | zero => rfl
  | succ n ih =>
    rw [elapsed, elapsed, ih]
    rfl

/-- The default delays can be doubled. -/
theorem double_default (timeout : Duration) (n : Nat) :
    ClockRange.std.duration ((OwnershipBackoff.new timeout).nanos.delay n * 2) = true := by
  have hmax : max (1 * nanosPerSec) (5 * nanosPerSec) ≤ 5 * nanosPerSec := by decide
  have hle : (OwnershipBackoff.new timeout).nanos.delay n ≤ 5 * nanosPerSec :=
    Nat.le_trans (Backoff.delay_le n) hmax
  have hlt : (OwnershipBackoff.new timeout).nanos.delay n * 2 < 2 ^ 64 * nanosPerSec := by
    unfold nanosPerSec at *
    omega
  exact decide_eq_true hlt

variable {timeout : Duration} {n : Nat}

/-- With the default delays a call is retried if it is worth it and ends before the deadline. -/
theorem retried_default :
    Retried .std (OwnershipBackoff.new timeout).nanos op n ↔
      (op n).owned = true ∧
        elapsed (OwnershipBackoff.new timeout).nanos op n + (op n).duration < timeout.nanos :=
  ⟨fun h => ⟨h.1, h.2.1⟩, fun h => ⟨h.1, h.2, double_default timeout n⟩⟩

/-- The caller of a peer retries what is worth it to the peer, and what is misread. -/
theorem retried_recovered :
    Retried .std (OwnershipBackoff.new timeout).nanos (fun k => (op k).recovered) n ↔
      ((op n).owned = true ∨ (op n).misread = true) ∧
        elapsed (OwnershipBackoff.new timeout).nanos op n + (op n).duration < timeout.nanos := by
  rw [retried_default, elapsed_recovered, Attempt.owned_recovered, Bool.or_eq_true]
  exact Iff.rfl

/-- No attempt before the deadline that follows attempts worth a retry is misread. -/
def ReadRight (timeout : Duration) (op : Nat → Attempt Resp) : Prop :=
  ∀ n, (∀ k < n, (op k).owned = true) →
    elapsed (OwnershipBackoff.new timeout).nanos op n + (op n).duration < timeout.nanos →
    (op n).misread = false

/-- Where no attempt is misread the caller of a peer retries the attempts the peer would. -/
theorem ReadRight.retried (h : ReadRight timeout op)
    (hremote : ∀ k < n,
      Retried .std (OwnershipBackoff.new timeout).nanos (fun k => (op k).recovered) k) :
    ∀ k < n, Retried .std (OwnershipBackoff.new timeout).nanos op k := by
  intro k
  induction k using Nat.strong_induction_on with
  | h k ih =>
    intro hk
    obtain ⟨howned, htime⟩ := retried_recovered.1 (hremote k hk)
    have hearlier : ∀ i < k, (op i).owned = true := fun i hi =>
      (ih i hi (Nat.lt_trans hi hk)).1
    have hright := h k hearlier htime
    refine retried_default.2 ⟨howned.resolve_right ?_, htime⟩
    rw [hright]
    decide

/-- The course at the end of an attempt that is not retried. -/
theorem course_attempt {b : OwnershipBackoff Nat} {start : Nat}
    (h : (op n).owned = false ∨ b.timeout ≤ elapsed b op n + (op n).duration) :
    ((afterRetries b op start n).attempt .std b (op n)).pc.course =
      Retry.Pc.course (.returned (op n).outcome) := by
  rw [attempt_returns h]

/-- A status does not make a success of a failure. -/
theorem course_recovered (a : Attempt Resp) :
    Retry.Pc.course (.returned a.recovered.outcome) = Retry.Pc.course (.returned a.outcome) := by
  obtain ⟨outcome, duration⟩ := a
  cases outcome with
  | ok v => rfl
  | error e => rfl

/-- What `handle_with_retry` does over attempts that end as those of `op`. -/
def courseOf (timeout : Duration) (start : Nat) (op : Nat → Attempt Resp) (n : Nat) :
    Option Course :=
  ((retryOwnership .std (OwnershipBackoff.new timeout).nanos).run
    (.enter .std (OwnershipBackoff.new timeout).nanos start)
    ((List.range n).map op)).map (·.pc.course)

/-- Where the deadline is not an instant, or an earlier attempt is not retried, that many attempts
are not made. -/
theorem courseOf_none {start : Nat}
    (h : ¬ (ClockRange.std.instant (start + timeout.nanos) = true ∧
      ∀ k < n, Retried .std (OwnershipBackoff.new timeout).nanos op k)) :
    courseOf timeout start op (n + 1) = none := by
  unfold courseOf
  cases hrun : (retryOwnership .std (OwnershipBackoff.new timeout).nanos).run
      (.enter .std (OwnershipBackoff.new timeout).nanos start)
      ((List.range (n + 1)).map op) with
  | none => rfl
  | some s => exact absurd (retried_of_run hrun) h

/-- Attempts that are read right make both retries take the same course. -/
theorem courseOf_recovered {start : Nat}
    (hstart : ClockRange.std.instant (start + timeout.nanos) = true) (h : ReadRight timeout op)
    (n : Nat) :
    courseOf timeout start op n = courseOf timeout start (fun k => (op k).recovered) n := by
  cases n with
  | zero => rfl
  | succ n =>
    by_cases hlocal : ∀ k < n, Retried .std (OwnershipBackoff.new timeout).nanos op k
    · have hremote : ∀ k < n, Retried .std (OwnershipBackoff.new timeout).nanos
          (fun k => (op k).recovered) k := fun k hk => by
        obtain ⟨howned, htime⟩ := retried_default.1 (hlocal k hk)
        exact retried_recovered.2 ⟨.inl howned, htime⟩
      unfold courseOf
      rw [run_next hstart hlocal, run_next hstart hremote, Option.map_some, Option.map_some]
      congr 1
      by_cases hretried : Retried .std (OwnershipBackoff.new timeout).nanos op n
      · -- both go on
        have hretried' := retried_recovered.2
          ⟨.inl hretried.1, (retried_default.1 hretried).2⟩
        rw [attempt_afterRetries hretried, attempt_afterRetries hretried']
        rfl
      · -- both end: at the deadline, or in an error that neither takes for an ownership error
        have hlast := last_of_not_retried (double_default timeout n) hretried
        have hlast' : (op n).recovered.owned = false ∨
            (OwnershipBackoff.new timeout).nanos.timeout ≤
              elapsed (OwnershipBackoff.new timeout).nanos (fun k => (op k).recovered) n +
                (op n).recovered.duration := by
          rw [elapsed_recovered, Attempt.owned_recovered]
          rcases Nat.lt_or_ge (elapsed (OwnershipBackoff.new timeout).nanos op n +
              (op n).duration) (OwnershipBackoff.new timeout).nanos.timeout with htime | htime
          · have howned := hlast.resolve_right (Nat.not_le_of_lt htime)
            have hright := h n (fun k hk => (hlocal k hk).1) htime
            left
            rw [howned, hright]
            rfl
          · exact .inr htime
        rw [course_attempt hlast, course_attempt hlast', course_recovered]
    · -- neither makes so many attempts
      rw [courseOf_none fun hrun => hlocal hrun.2,
        courseOf_none fun hrun => hlocal (h.retried hrun.2)]

/-- A misread attempt ends the retry where the handler runs, and not the retry of the caller. -/
theorem readRight_of_courseOf {start : Nat}
    (hstart : ClockRange.std.instant (start + timeout.nanos) = true)
    (h : ∀ n, courseOf timeout start op n =
      courseOf timeout start (fun k => (op k).recovered) n) : ReadRight timeout op := by
  intro n hearlier htime
  rw [Bool.eq_false_iff]
  intro hmisread
  have hlocal : ∀ k < n, Retried .std (OwnershipBackoff.new timeout).nanos op k := fun k hk => by
    have hle : elapsed (OwnershipBackoff.new timeout).nanos op k + (op k).duration ≤ _ :=
      elapsed_mono (OwnershipBackoff.new timeout).nanos hk
    exact retried_default.2 ⟨hearlier k hk, by omega⟩
  have hremote : ∀ k < n + 1, Retried .std (OwnershipBackoff.new timeout).nanos
      (fun k => (op k).recovered) k := by
    intro k hk
    rcases Nat.lt_succ_iff_lt_or_eq.1 hk with hlt | rfl
    · obtain ⟨howned, hlt⟩ := retried_default.1 (hlocal k hlt)
      exact retried_recovered.2 ⟨.inl howned, hlt⟩
    · exact retried_recovered.2 ⟨.inr hmisread, htime⟩
  have hcourse := h (n + 1)
  unfold courseOf at hcourse
  rw [run_next hstart hlocal, run_retried hstart hremote, Option.map_some, Option.map_some,
    course_attempt (.inl (Attempt.owned_of_misread hmisread))] at hcourse
  cases hout : (op n).outcome with
  | ok v => rw [hout] at hcourse; cases hcourse
  | error e => rw [hout] at hcourse; cases hcourse

end

/-- **Location transparency.** A handler's results, with the times they take, make the retry over
local attempts and the retry over a peer's take the same course exactly if no result that follows
ownership errors is misread before the deadline, or the deadline cannot be formed. -/
theorem transparent_iff {timeout : Duration} {start : Nat} {op : Nat → Attempt Resp}
    {locals remotes : Nat → Handling Key Client Value Req Resp}
    (hlocal : ∀ n, (locals n).Local key req (op n))
    (hremote : ∀ n, (remotes n).Remote key req (op n)) :
    Transparent (handleWithRetry timeout start key req locals)
        (handleWithRetry timeout start key req remotes) ↔
      (start + timeout.nanos < 2 ^ 63 * nanosPerSec → ReadRight timeout op) := by
  have hlocals : (fun n => (locals n).attempt key req) = op :=
    funext fun n => (hlocal n).attempt_eq
  have hremotes : (fun n => (remotes n).attempt key req) = fun n => (op n).recovered :=
    funext fun n => (hremote n).attempt_eq
  have hcourse : Transparent (handleWithRetry timeout start key req locals)
      (handleWithRetry timeout start key req remotes) ↔
        ∀ n, courseOf timeout start op n =
          courseOf timeout start (fun k => (op k).recovered) n := by
    unfold Transparent handleWithRetry courseOf
    rw [hlocals, hremotes]
  have hinstant : ClockRange.std.instant (start + timeout.nanos) = true ↔
      start + timeout.nanos < 2 ^ 63 * nanosPerSec := decide_eq_true_iff
  rw [hcourse, ← hinstant]
  constructor
  · intro h hstart
    exact readRight_of_courseOf hstart h
  · intro h n
    rcases Bool.eq_false_or_eq_true (ClockRange.std.instant (start + timeout.nanos)) with hs | hs
    · exact courseOf_recovered hs (h hs) n
    · cases n with
      | zero => rfl
      | succ n =>
        have hnot : ¬ ClockRange.std.instant (start + timeout.nanos) = true := by
          rw [hs]
          decide
        rw [courseOf_none fun hrun => hnot hrun.1, courseOf_none fun hrun => hnot hrun.1]

/-! ## A handler that was revoked -/

/-- An attempt at the owner of a key. -/
def atOwner (a : Attempt Unit) : Handling Unit Unit Unit Unit Unit :=
  { proxy := { resolve := fun _ => .error .noResolution, lookup := fun _ _ => some () }
    remote := fun _ _ => .ok ()
    «local» := fun _ _ => a.outcome
    duration := a.duration }

/-- An attempt at a peer of the owner. -/
def atPeer (a : Attempt Unit) : Handling Unit Unit Unit Unit Unit :=
  { proxy := { resolve := fun _ => .ok (), lookup := fun _ _ => none }
    remote := fun _ _ => a.outcome.mapError ClientError.intoGrpc
    «local» := fun _ _ => .ok ()
    duration := a.duration }

theorem atOwner_local (a : Attempt Unit) : (atOwner a).Local () () a :=
  ⟨⟨(), rfl, .inl rfl⟩, rfl⟩

theorem atPeer_remote (a : Attempt Unit) : (atPeer a).Remote () () a :=
  ⟨rfl, ⟨(), rfl, rfl⟩, rfl⟩

/-- A handler that fails once, and then succeeds. -/
def failsOnce (e : ClientError) (n : Nat) : Attempt Unit :=
  if n = 0 then ⟨.error e, 0⟩ else ⟨.ok (), 0⟩

/-- Ten seconds. -/
def tenSeconds : Duration := Duration.fromSecs 10 (by decide)

/-- **A revoked handler is retried by a peer.** The retry at the owner fails at the first attempt,
the one at the peer goes on and succeeds at the second. -/
theorem revoked_not_transparent :
    (handleWithRetry tenSeconds 0 () () (fun n => atOwner (failsOnce .revoked n)) 1).map
        (·.pc.course) = some .failure ∧
      (handleWithRetry tenSeconds 0 () () (fun n => atPeer (failsOnce .revoked n)) 2).map
        (·.pc.course) = some .success ∧
      ¬ Transparent (handleWithRetry tenSeconds 0 () () fun n => atOwner (failsOnce .revoked n))
        (handleWithRetry tenSeconds 0 () () fun n => atPeer (failsOnce .revoked n)) := by
  refine ⟨by decide, by decide, fun h => ?_⟩
  exact absurd (h 1) (by decide)

/-- A handler that has moved is retried in both places. -/
theorem moved_transparent :
    Transparent (handleWithRetry tenSeconds 0 () () fun n => atOwner (failsOnce .notOwned n))
      (handleWithRetry tenSeconds 0 () () fun n => atPeer (failsOnce .notOwned n)) := by
  refine (transparent_iff (fun n => atOwner_local (failsOnce .notOwned n))
    fun n => atPeer_remote (failsOnce .notOwned n)).2 fun _ n _ _ => ?_
  unfold failsOnce
  split
  · rfl
  · rfl

end Splitter
