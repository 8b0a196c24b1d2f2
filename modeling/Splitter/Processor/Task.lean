import Splitter.Lib.HashMap
import Splitter.Lib.Machine
import Splitter.Ownership

/-!
# The task of one grant

`Processor::run_grant` as a coroutine over the grant's `Ownership` and `Range`: a program counter
for each point where the task can be suspended or another task can look at memory, and a step that
runs from one to the next. At a `select!` any ready branch can be taken. The user's `Range` is an
environment that closes its latches and returns from `drain` when it likes.

`Run` lists the steps with what makes each possible.
-/

namespace Splitter

/-- What the processor sees of a user's `Range`. -/
structure RangeState where
  initialized : Latch
  /-- The latch the Range closes when it terminates on its own. -/
  closed : Latch
  /-- The timeout `drain` was called with. -/
  drainCalled : Option Duration
  /-- `drain` has returned its reader. -/
  drainReturned : Bool
  /-- The latch whose reader `drain` returns. -/
  drained : Latch
  /-- `close` has been called. -/
  closeCalled : Bool
  deriving DecidableEq

/-- A Range that was just built. -/
def RangeState.new : RangeState :=
  { initialized := .new, closed := .new, drainCalled := none, drainReturned := false
    drained := .new, closeCalled := false }

/-- `deadline.duration_since(now).unwrap_or(Duration::ZERO)`. -/
def SystemTime.remaining (deadline now : SystemTime) : Duration :=
  { nanos := (deadline.nanos - now.nanos).toNat
    bound := by
      have := deadline.upper
      have := now.lower
      unfold nanosPerSec at *
      omega }

/-- What a user's Range can do. -/
inductive RangeEvent
  | initialized
  /-- It terminates on its own. -/
  | closeItself
  /-- The call of `drain` returns its reader. -/
  | drainReturn
  /-- The latch of that reader closes. -/
  | drainClose
  deriving DecidableEq

namespace RangeState

def step (r : RangeState) : RangeEvent → Option RangeState
  | .initialized => some { r with initialized := r.initialized.close }
  | .closeItself => some { r with closed := r.closed.close }
  | .drainReturn => if r.drainCalled.isSome then some { r with drainReturned := true } else none
  | .drainClose =>
    if r.drainCalled.isSome then some { r with drained := r.drained.close } else none

/-- What has happened to a Range stays so. -/
structure Le (r r' : RangeState) : Prop where
  initialized : r.initialized.isClosed = true → r'.initialized.isClosed = true
  closed : r.closed.isClosed = true → r'.closed.isClosed = true
  drainCalled : r.drainCalled.isSome = true → r'.drainCalled.isSome = true
  drainReturned : r.drainReturned = true → r'.drainReturned = true
  drained : r.drained.isClosed = true → r'.drained.isClosed = true

theorem Le.refl (r : RangeState) : r.Le r := ⟨id, id, id, id, id⟩

theorem le_step {r r' : RangeState} {e : RangeEvent} (h : r.step e = some r') : r.Le r' := by
  cases e with
  | initialized => cases h; exact { Le.refl r with initialized := fun _ => rfl }
  | closeItself => cases h; exact { Le.refl r with closed := fun _ => rfl }
  | drainReturn =>
    simp only [step] at h
    split at h
    · cases h; exact { Le.refl r with drainReturned := fun _ => rfl }
    · cases h
  | drainClose =>
    simp only [step] at h
    split at h
    · cases h; exact { Le.refl r with drained := fun _ => rfl }
    · cases h

end RangeState

/-- What the driver and the user can do to an ownership, next to its task. -/
inductive Signal
  | activate
  | revoke
  | expire
  | counterpartLoaded
  | counterpartUnloaded
  | setExpiration (deadline : SystemTime)
  | requestRevoke
  deriving DecidableEq

namespace Signal

def apply (o : Ownership) : Signal → Ownership
  | .activate => o.activate
  | .revoke => o.revoke
  | .expire => o.expire
  | .counterpartLoaded => o.counterpartLoaded
  | .counterpartUnloaded => o.counterpartUnloaded
  | .setExpiration deadline => o.setExpiration deadline
  | .requestRevoke => o.requestRevoke

theorem le_apply (o : Ownership) (sig : Signal) : o.Le (sig.apply o) := by
  cases sig with
  | activate => exact o.le_activate
  | revoke => exact o.le_revoke
  | expire => exact o.le_expire
  | counterpartLoaded => exact o.le_counterpartLoaded
  | counterpartUnloaded => exact o.le_counterpartUnloaded
  | setExpiration deadline => exact o.le_setExpiration deadline
  | requestRevoke => exact o.le_requestRevoke

end Signal

/-! ## The grant map -/

structure GrantMap.Entry (T : Type) where
  shard : Shard
  state : GrantState
  value : T
  deriving DecidableEq

/-- `grant_map.rs`: the processor's grants, by id. -/
abbrev GrantMap (T : Type) := HashMap GrantId (GrantMap.Entry T)

namespace GrantMap

variable {T : Type} (m : GrantMap T) (id : GrantId)

def write (shard : Shard) (state : GrantState) (value : T) : GrantMap T :=
  AList.insert id { shard, state, value : Entry T } m

def allocated (shard : Shard) (value : T) : GrantMap T := m.write id shard .allocated value

def loaded (shard : Shard) (value : T) : GrantMap T := m.write id shard .allocatedLoaded value

def activate (shard : Shard) (value : T) : GrantMap T := m.write id shard .active value

def revoke (shard : Shard) (value : T) : GrantMap T := m.write id shard .revoked value

def unloaded (shard : Shard) (value : T) : GrantMap T := m.write id shard .revokedUnloaded value

def delete : GrantMap T := AList.erase id m

end GrantMap

/-! ## The task -/

namespace GrantTask

/-- Where `run_grant` returns, with the error its message reports. -/
inductive Exit
  | step1 (e : ClientError)
  | init (e : ClientError)
  | closedDuringInit
  | step3 (e : ClientError)
  | step4 (e : ClientError)
  | drain (e : ClientError)
  | closedAfterDrain
  | finished (result : Except ClientError Unit)
  deriving DecidableEq

/-- The points of `run_grant`. The last three are the drop of `GrantCleanup` and the return. -/
inductive Pc
  | waitUnload
  | allocated
  | waitInit
  | load
  | loaded
  | waitActive
  | activate
  | waitRevoke
  | revoke
  | drain
  | draining
  | waitDrained
  | checkClosed
  | unload
  | unloaded
  | waitLoad
  | delete (exit : Exit)
  | close (exit : Exit)
  | returned (exit : Exit)
  deriving DecidableEq

/-- The `GrantMap` operation of the step from a point, if it has one. -/
def Pc.mapOp {T : Type} (id : GrantId) (shard : Shard) (value : T) :
    Pc → Option (GrantMap T → GrantMap T)
  | .allocated => some fun m => m.allocated id shard value
  | .loaded => some fun m => m.loaded id shard value
  | .activate => some fun m => m.activate id shard value
  | .revoke => some fun m => m.revoke id shard value
  | .unloaded => some fun m => m.unloaded id shard value
  | .delete _ => some fun m => m.delete id
  | _ => none

end GrantTask

/-- A grant's task, with the memory it shares. -/
structure GrantTask where
  pc : GrantTask.Pc
  ownership : Ownership
  range : RangeState
  deriving DecidableEq

namespace GrantTask

open Ownership (Branch)

def goto (s : GrantTask) (pc : Pc) : GrantTask := { s with pc }

/-- A step that does not wait. -/
def straight (b : Branch) (t : GrantTask) : Option GrantTask :=
  if b = .go then some t else none

/-- A wait with its two continuations. -/
def wait (result : Option (Except ClientError Unit)) (ok : GrantTask)
    (err : ClientError → GrantTask) : Option GrantTask :=
  result.map fun
    | .ok () => ok
    | .error e => err e

/-- `run_grant`, one step: the branch a `select!` takes, and the reading of the clock where the
step makes one. -/
def run (s : GrantTask) (b : Branch) (now : SystemTime) : Option GrantTask :=
  let o := s.ownership
  let bail (exit : Exit) : GrantTask := s.goto (.delete exit)
  match s.pc with
  | .waitUnload => wait (o.waitForUnload b) (s.goto .allocated) fun e => bail (.step1 e)
  | .allocated => straight b (s.goto .waitInit)
  | .waitInit =>
    match b with
    | .closed => s.range.closed.closed (bail .closedDuringInit)
    | b => wait (o.waitForAction s.range.initialized b) (s.goto .load) fun e => bail (.init e)
  | .load => straight b { s with ownership := o.load, pc := .loaded }
  | .loaded => straight b (s.goto .waitActive)
  | .waitActive => wait (o.waitForActive b) (s.goto .activate) fun e => bail (.step3 e)
  | .activate => straight b (s.goto .waitRevoke)
  | .waitRevoke => wait (o.waitForRevoke b) (s.goto .revoke) fun e => bail (.step4 e)
  | .revoke => straight b (s.goto .drain)
  | .drain =>
    straight b
      { s with
        range := { s.range with drainCalled := some (o.expiration.remaining now) }
        pc := .draining }
  | .draining => if s.range.drainReturned then straight b (s.goto .waitDrained) else none
  | .waitDrained =>
    wait (o.waitForAction s.range.drained b) (s.goto .checkClosed) fun e => bail (.drain e)
  | .checkClosed =>
    straight b (if s.range.closed.isClosed then bail .closedAfterDrain else s.goto .unload)
  | .unload => straight b { s with ownership := o.unload, pc := .unloaded }
  | .unloaded => straight b (s.goto .waitLoad)
  | .waitLoad =>
    wait (o.waitForLoad b) (bail (.finished (.ok ()))) fun e => bail (.finished (.error e))
  | .delete exit => straight b (s.goto (.close exit))
  | .close exit =>
    straight b { s with range := { s.range with closeCalled := true }, pc := .returned exit }
  | .returned _ => none

/-! ## The steps as a relation -/

/-- One step of `run_grant`, by what makes it possible. -/
inductive Run : GrantTask → Branch → GrantTask → Prop
  | unloadOk {s : GrantTask} {b : Branch} (hpc : s.pc = .waitUnload)
      (hclosed : s.ownership.active.isClosed = true ∨ s.ownership.loader.unloaded.isClosed = true) :
      Run s b (s.goto .allocated)
  | unloadRevoked {s : GrantTask} (hpc : s.pc = .waitUnload)
      (hclosed : s.ownership.revoked.isClosed = true) :
      Run s .revoked (s.goto (.delete (.step1 .revoked)))
  | unloadExpired {s : GrantTask} (hpc : s.pc = .waitUnload)
      (hclosed : s.ownership.expired.isClosed = true) :
      Run s .expired (s.goto (.delete (.step1 .expired)))
  | allocated {s : GrantTask} (hpc : s.pc = .allocated) : Run s .go (s.goto .waitInit)
  | initOk {s : GrantTask} (hpc : s.pc = .waitInit)
      (hclosed : s.range.initialized.isClosed = true) : Run s .action (s.goto .load)
  | initExpired {s : GrantTask} (hpc : s.pc = .waitInit)
      (hclosed : s.ownership.expired.isClosed = true) :
      Run s .expired (s.goto (.delete (.init .expired)))
  | initClosed {s : GrantTask} (hpc : s.pc = .waitInit)
      (hclosed : s.range.closed.isClosed = true) :
      Run s .closed (s.goto (.delete .closedDuringInit))
  | load {s : GrantTask} (hpc : s.pc = .load) :
      Run s .go { s with ownership := s.ownership.load, pc := .loaded }
  | loaded {s : GrantTask} (hpc : s.pc = .loaded) : Run s .go (s.goto .waitActive)
  | activeOk {s : GrantTask} (hpc : s.pc = .waitActive)
      (hclosed : s.ownership.active.isClosed = true) : Run s .active (s.goto .activate)
  | activeRevoked {s : GrantTask} (hpc : s.pc = .waitActive)
      (hclosed : s.ownership.revoked.isClosed = true) :
      Run s .revoked (s.goto (.delete (.step3 .revoked)))
  | activeExpired {s : GrantTask} (hpc : s.pc = .waitActive)
      (hclosed : s.ownership.expired.isClosed = true) :
      Run s .expired (s.goto (.delete (.step3 .expired)))
  | activate {s : GrantTask} (hpc : s.pc = .activate) : Run s .go (s.goto .waitRevoke)
  | revokeOk {s : GrantTask} (hpc : s.pc = .waitRevoke)
      (hclosed : s.ownership.revoked.isClosed = true) : Run s .revoked (s.goto .revoke)
  | revokeExpired {s : GrantTask} (hpc : s.pc = .waitRevoke)
      (hclosed : s.ownership.expired.isClosed = true) :
      Run s .expired (s.goto (.delete (.step4 .expired)))
  | revoke {s : GrantTask} (hpc : s.pc = .revoke) : Run s .go (s.goto .drain)
  | drain {s : GrantTask} (timeout : Duration) (hpc : s.pc = .drain) :
      Run s .go { s with range := { s.range with drainCalled := some timeout }, pc := .draining }
  | drainReturned {s : GrantTask} (hpc : s.pc = .draining)
      (hreturned : s.range.drainReturned = true) : Run s .go (s.goto .waitDrained)
  | drainedOk {s : GrantTask} (hpc : s.pc = .waitDrained)
      (hclosed : s.range.drained.isClosed = true) : Run s .action (s.goto .checkClosed)
  | drainedExpired {s : GrantTask} (hpc : s.pc = .waitDrained)
      (hclosed : s.ownership.expired.isClosed = true) :
      Run s .expired (s.goto (.delete (.drain .expired)))
  | closedAfterDrain {s : GrantTask} (hpc : s.pc = .checkClosed)
      (hclosed : s.range.closed.isClosed = true) : Run s .go (s.goto (.delete .closedAfterDrain))
  | openAfterDrain {s : GrantTask} (hpc : s.pc = .checkClosed)
      (hopen : s.range.closed.isClosed = false) : Run s .go (s.goto .unload)
  | unload {s : GrantTask} (hpc : s.pc = .unload) :
      Run s .go { s with ownership := s.ownership.unload, pc := .unloaded }
  | unloaded {s : GrantTask} (hpc : s.pc = .unloaded) : Run s .go (s.goto .waitLoad)
  | finish {s : GrantTask} {b : Branch} (result : Except ClientError Unit)
      (hpc : s.pc = .waitLoad) : Run s b (s.goto (.delete (.finished result)))
  | delete {s : GrantTask} {exit : Exit} (hpc : s.pc = .delete exit) :
      Run s .go (s.goto (.close exit))
  | close {s : GrantTask} {exit : Exit} (hpc : s.pc = .close exit) :
      Run s .go { s with range := { s.range with closeCalled := true }, pc := .returned exit }

theorem straight_eq_some {b : Branch} {t u : GrantTask} :
    straight b t = some u ↔ b = .go ∧ t = u := by
  unfold straight
  split <;> simp_all

/-- A wait ends in one of its two continuations. -/
theorem wait_eq_some {result : Option (Except ClientError Unit)} {ok u : GrantTask}
    {err : ClientError → GrantTask} :
    wait result ok err = some u ↔
      result = some (.ok ()) ∧ ok = u ∨ ∃ e, result = some (.error e) ∧ err e = u := by
  unfold wait
  rcases result with _ | (e | _) <;> simp

/-- **Every step of `run_grant` is one of these.** -/
theorem run_cases {s t : GrantTask} {b : Branch} {now : SystemTime} (h : s.run b now = some t) :
    Run s b t := by
  unfold run at h
  split at h
  · next hpc =>
    rcases wait_eq_some.1 h with ⟨hok, rfl⟩ | ⟨e, herr, rfl⟩
    · exact .unloadOk hpc (Ownership.waitForUnload_ok hok)
    · rcases Ownership.waitForUnload_error herr with ⟨rfl, rfl, hc⟩ | ⟨rfl, rfl, hc⟩
      · exact .unloadRevoked hpc hc
      · exact .unloadExpired hpc hc
  · next hpc =>
    obtain ⟨rfl, rfl⟩ := straight_eq_some.1 h
    exact .allocated hpc
  · next hpc =>
    split at h
    · obtain ⟨hc, rfl⟩ := Latch.closed_eq_some.1 h
      exact .initClosed hpc hc
    · rcases wait_eq_some.1 h with ⟨hok, rfl⟩ | ⟨e, herr, rfl⟩
      · obtain ⟨rfl, hc⟩ := Ownership.waitForAction_ok hok
        exact .initOk hpc hc
      · obtain ⟨rfl, rfl, hc⟩ := Ownership.waitForAction_error herr
        exact .initExpired hpc hc
  · next hpc =>
    obtain ⟨rfl, rfl⟩ := straight_eq_some.1 h
    exact .load hpc
  · next hpc =>
    obtain ⟨rfl, rfl⟩ := straight_eq_some.1 h
    exact .loaded hpc
  · next hpc =>
    rcases wait_eq_some.1 h with ⟨hok, rfl⟩ | ⟨e, herr, rfl⟩
    · obtain ⟨rfl, hc⟩ := Ownership.waitForActive_ok hok
      exact .activeOk hpc hc
    · rcases Ownership.waitForActive_error herr with ⟨rfl, rfl, hc⟩ | ⟨rfl, rfl, hc⟩
      · exact .activeRevoked hpc hc
      · exact .activeExpired hpc hc
  · next hpc =>
    obtain ⟨rfl, rfl⟩ := straight_eq_some.1 h
    exact .activate hpc
  · next hpc =>
    rcases wait_eq_some.1 h with ⟨hok, rfl⟩ | ⟨e, herr, rfl⟩
    · obtain ⟨rfl, hc⟩ := Ownership.waitForRevoke_ok hok
      exact .revokeOk hpc hc
    · obtain ⟨rfl, rfl, hc⟩ := Ownership.waitForRevoke_error herr
      exact .revokeExpired hpc hc
  · next hpc =>
    obtain ⟨rfl, rfl⟩ := straight_eq_some.1 h
    exact .revoke hpc
  · next hpc =>
    obtain ⟨rfl, rfl⟩ := straight_eq_some.1 h
    exact .drain _ hpc
  · next hpc =>
    split at h
    · next hreturned =>
      obtain ⟨rfl, rfl⟩ := straight_eq_some.1 h
      exact .drainReturned hpc hreturned
    · cases h
  · next hpc =>
    rcases wait_eq_some.1 h with ⟨hok, rfl⟩ | ⟨e, herr, rfl⟩
    · obtain ⟨rfl, hc⟩ := Ownership.waitForAction_ok hok
      exact .drainedOk hpc hc
    · obtain ⟨rfl, rfl, hc⟩ := Ownership.waitForAction_error herr
      exact .drainedExpired hpc hc
  · next hpc =>
    obtain ⟨rfl, rfl⟩ := straight_eq_some.1 h
    split
    · next hc => exact .closedAfterDrain hpc hc
    · next hopen => exact .openAfterDrain hpc (Bool.eq_false_iff.2 hopen)
  · next hpc =>
    obtain ⟨rfl, rfl⟩ := straight_eq_some.1 h
    exact .unload hpc
  · next hpc =>
    obtain ⟨rfl, rfl⟩ := straight_eq_some.1 h
    exact .unloaded hpc
  · next hpc =>
    rcases wait_eq_some.1 h with ⟨-, rfl⟩ | ⟨e, -, rfl⟩
    · exact .finish _ hpc
    · exact .finish _ hpc
  · next hpc =>
    obtain ⟨rfl, rfl⟩ := straight_eq_some.1 h
    exact .delete hpc
  · next hpc =>
    obtain ⟨rfl, rfl⟩ := straight_eq_some.1 h
    exact .close hpc
  · cases h

/-- The task only closes latches. -/
theorem le_run {s t : GrantTask} {b : Branch} {now : SystemTime} (h : s.run b now = some t) :
    s.ownership.Le t.ownership := by
  cases run_cases h with
  | load => exact s.ownership.le_load
  | unload => exact s.ownership.le_unload
  | _ => exact .refl _

end GrantTask

end Splitter
