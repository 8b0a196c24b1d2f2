import Splitter.Processor.Handover

/-!
# A task's hold on its entry

A task holds an entry of the grant map from its first write to its clean-up. `holding_run` says what
each step does to the map and to the hold, and `exists_leave` that a task that has expired can
always get to its clean-up, by steps of its own and the return of `drain`.
-/

namespace Splitter

namespace GrantTask

open Ownership (Branch)

/-- The task has written its entry and its clean-up has not deleted it yet. -/
def Pc.Holding : Pc → Prop
  | .waitUnload | .allocated | .delete (.step1 _) | .close _ | .returned _ => False
  | _ => True

/-- The next step is the first of the task on the grant map: the first write, or the clean-up of a
task that wrote nothing. -/
def Pc.Enters : Pc → Prop
  | .allocated | .delete (.step1 _) => True
  | _ => False

/-- What a step of `run_grant` does to the grant map, and to the task's hold on its entry. -/
theorem holding_run {s t : GrantTask} {b : Branch} {now : SystemTime} (h : s.run b now = some t)
    (id : GrantId) (shard : Shard) (r : OwnershipRef) :
    s.pc.mapOp id shard r = none ∧ (t.pc.Holding ↔ s.pc.Holding) ∨
      (s.pc.Holding ∨ s.pc.Enters) ∧
        ((∃ state, s.pc.mapOp id shard r = some fun m => m.write id shard state r) ∨
          s.pc.mapOp id shard r = some (fun m => m.delete id) ∧ ¬ t.pc.Holding) := by
  cases run_cases h with
  | unloadOk hpc | unloadRevoked hpc | unloadExpired hpc | initOk hpc | initExpired hpc
  | initClosed hpc | load hpc | activeOk hpc | activeRevoked hpc | activeExpired hpc
  | revokeOk hpc | revokeExpired hpc | drain _ hpc | drainReturned hpc | drainedOk hpc
  | drainedExpired hpc | closedAfterDrain hpc | openAfterDrain hpc | unload hpc | finish _ hpc
  | close hpc =>
    left
    rw [hpc]
    exact ⟨rfl, Iff.rfl⟩
  | allocated hpc =>
    right
    rw [hpc]
    exact ⟨.inr trivial, .inl ⟨_, rfl⟩⟩
  | loaded hpc | activate hpc | revoke hpc | unloaded hpc =>
    right
    rw [hpc]
    exact ⟨.inl trivial, .inl ⟨_, rfl⟩⟩
  | @delete exit hpc =>
    right
    rw [hpc]
    refine ⟨?_, .inr ⟨rfl, fun hold => hold⟩⟩
    cases exit with
    | step1 e => exact .inr trivial
    | _ => exact .inl trivial

/-- The entry of another id is left alone. -/
theorem lookup_mapOp {pc : Pc} {id k : GrantId} (hk : k ≠ id) (shard : Shard)
    (r : OwnershipRef) (m : GrantMap OwnershipRef) :
    (((pc.mapOp id shard r).getD fun m => m) m).lookup k = m.lookup k := by
  cases pc with
  | allocated | loaded | activate | revoke | unloaded => exact AList.lookup_insert_ne hk
  | delete exit => exact AList.lookup_erase_ne hk
  | _ => rfl

/-! ## The way out -/

/-- How far an expired task is from its clean-up, at most. -/
def stepsLeft (s : GrantTask) : Nat :=
  match s.pc with
  | .waitInit | .waitActive | .waitRevoke | .waitDrained | .waitLoad => 1
  | .loaded | .activate | .unloaded => 2
  | .load | .unload => 3
  | .draining => if s.range.drainReturned then 2 else 3
  | .drain | .checkClosed => 4
  | .revoke => 5
  | _ => 0

/-- An event of the task itself or of its Range. -/
def Event.Own : Event → Prop
  | .signal _ => False
  | _ => True

/-- An expired task that holds an entry can come closer to its clean-up. -/
theorem progress {s : GrantTask} (hev : s.Evidence) (hexp : s.ownership.expired.isClosed = true)
    (hold : s.pc.Holding) (hleft : s.stepsLeft ≠ 0) :
    ∃ e t, e.Own ∧ s.step e = some t ∧ t.pc.Holding ∧ t.stepsLeft < s.stepsLeft := by
  have hknows := hev.knows
  obtain ⟨pc, o, range⟩ := s
  cases pc with
  | waitUnload | allocated | returned | close => exact hold.elim
  | delete exit => exact absurd rfl hleft
  | waitInit | waitActive | waitRevoke | waitDrained | waitLoad =>
    obtain ⟨active, revoked, ⟨expired⟩, request, loader, unloader, expiration⟩ := o
    cases (show expired = true from hexp)
    exact ⟨.at .expired, _, trivial, rfl, trivial, Nat.zero_lt_one⟩
  | load | loaded | activate | revoke | unload | unloaded =>
    exact ⟨.at .go, _, trivial, rfl, trivial, by simp [stepsLeft, goto]⟩
  | drain =>
    refine ⟨.at .go, _, trivial, rfl, trivial, ?_⟩
    simp only [stepsLeft]
    split <;> omega
  | draining =>
    have hcalled : range.drainCalled.isSome = true := hknows.2
    cases hreturned : range.drainReturned with
    | true =>
      refine ⟨.at .go, { pc := .waitDrained, ownership := o, range }, trivial, ?_, trivial, ?_⟩
      · simp [Event.at, step, run, hreturned, straight, goto]
      · simp [stepsLeft, hreturned]
    | false =>
      refine ⟨.range .drainReturn,
        { pc := .draining, ownership := o, range := { range with drainReturned := true } }, trivial,
        ?_, trivial, ?_⟩
      · simp [step, RangeState.step, hcalled]
      · simp [stepsLeft, hreturned]
  | checkClosed =>
    cases hclosed : range.closed.isClosed with
    | true =>
      refine ⟨.at .go, { pc := .delete .closedAfterDrain, ownership := o, range }, trivial, ?_,
        trivial, ?_⟩
      · simp [Event.at, step, run, straight, hclosed, goto]
      · simp [stepsLeft]
    | false =>
      refine ⟨.at .go, { pc := .unload, ownership := o, range }, trivial, ?_, trivial, ?_⟩
      · simp [Event.at, step, run, straight, hclosed, goto]
      · simp [stepsLeft]

/-- A task that is no step from its clean-up stands at it. -/
theorem at_delete {s : GrantTask} (hold : s.pc.Holding) (hleft : s.stepsLeft = 0) :
    ∃ exit, s.pc = .delete exit := by
  unfold stepsLeft at hleft
  cases hpc : s.pc with
  | delete exit => exact ⟨exit, rfl⟩
  | waitUnload | allocated | close | returned =>
    rw [hpc] at hold
    exact hold.elim
  | draining =>
    rw [hpc] at hleft
    simp only at hleft
    split at hleft <;> cases hleft
  | _ =>
    rw [hpc] at hleft
    cases hleft

/-- An expired task stays expired. -/
theorem expired_step {s t : GrantTask} {e : Event} (hst : s.step e = some t)
    (hexp : s.ownership.expired.isClosed = true) : t.ownership.expired.isClosed = true := by
  cases e with
  | signal sig =>
    cases hst
    exact (Signal.le_apply _ sig).expired hexp
  | range e =>
    obtain ⟨range, -, rfl⟩ := Option.map_eq_some_iff.1 hst
    exact hexp
  | run b now => exact (le_run hst).expired hexp

/-- **An expired task can leave**, from any point where it holds an entry, whatever is closed
besides. -/
theorem exists_leave {s : GrantTask} (hev : s.Evidence) (hexp : s.ownership.expired.isClosed = true)
    (hold : s.pc.Holding) :
    ∃ es t exit, (∀ e ∈ es, e.Own) ∧ machine.run s es = some t ∧ t.pc = .delete exit := by
  induction hleft : s.stepsLeft using Nat.strong_induction_on generalizing s with
  | _ n ih =>
    subst hleft
    by_cases hzero : s.stepsLeft = 0
    · obtain ⟨exit, hpc⟩ := at_delete hold hzero
      exact ⟨[], s, exit, by simp, rfl, hpc⟩
    · obtain ⟨e, u, hown, hst, holdu, hlt⟩ := progress hev hexp hold hzero
      obtain ⟨es, t, exit, hes, hrun, hpc⟩ :=
        ih u.stepsLeft hlt (hev.step hst) (expired_step hst hexp) holdu rfl
      refine ⟨e :: es, t, exit, ?_, ?_, hpc⟩
      · simpa using ⟨hown, hes⟩
      · exact (machine.run_cons_eq_some).2 ⟨u, hst, hrun⟩

end GrantTask

end Splitter
