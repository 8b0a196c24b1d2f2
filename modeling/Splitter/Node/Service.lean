import Splitter.Node.Graceful
import Splitter.Node.Release

/-!
# A grant is served without delay

What holds `run_grant` up. A task whose grant has not expired, whose Range has not closed itself and
whose revoke does not come before the task awaits it goes straight through the five steps: each of
its steps is the next one of the way, and it stands still only where the one thing it awaits there
has not happened (`Waits`). `onward` says so of the task of every assignment in every run of a node.
-/

namespace Splitter

namespace GrantTask

open Ownership (Branch)

/-- The task has not bailed out. -/
def Pc.Straight : Pc → Prop
  | .delete exit | .close exit | .returned exit => exit = .finished (.ok ())
  | _ => True

/-- What the task awaits has not happened, or it has returned. -/
def Waits (s : GrantTask) : Prop :=
  match s.pc with
  | .waitUnload =>
    s.ownership.active.isClosed = false ∧ s.ownership.loader.unloaded.isClosed = false
  | .waitInit => s.range.initialized.isClosed = false
  | .waitActive => s.ownership.active.isClosed = false
  | .waitRevoke => s.ownership.revoked.isClosed = false
  | .draining => s.range.drainReturned = false
  | .waitDrained => s.range.drained.isClosed = false
  | .waitLoad => s.ownership.unloader.loaded.isClosed = false
  | .returned _ => True
  | _ => False

/-- The task has come to the wait for its revoke. -/
def Served (s : GrantTask) : Prop := s.pc.ahead ≤ Pc.waitRevoke.ahead

/-- The grant is the task's to serve, and a revoke has not come before the task awaits it. -/
structure Undisturbed (s : GrantTask) : Prop where
  live : s.ownership.expired.isClosed = false
  running : s.range.closed.isClosed = false
  inTurn : s.ownership.revoked.isClosed = false ∨ s.Served

/-- The event is a step of `run_grant`. -/
def Event.isRun : Event → Bool
  | .run _ _ => true
  | _ => false

variable {s t : GrantTask} {b : Branch} {now : SystemTime}

theorem Undisturbed.not_expired (h : s.Undisturbed) : s.ownership.expired.isClosed ≠ true := by
  rw [h.live]
  exact Bool.false_ne_true

theorem Undisturbed.not_closed (h : s.Undisturbed) : s.range.closed.isClosed ≠ true := by
  rw [h.running]
  exact Bool.false_ne_true

/-- Before the task awaits a revoke there is none. -/
theorem Undisturbed.not_revoked (h : s.Undisturbed)
    (hpc : Pc.waitRevoke.ahead < s.pc.ahead) : s.ownership.revoked.isClosed ≠ true := by
  rcases h.inTurn with hrev | hserved
  · rw [hrev]
    exact Bool.false_ne_true
  · exact absurd hserved (Nat.not_le.2 hpc)

/-- The wait for the counterpart ends without an error. -/
theorem ok_of_waitLoad (h : s.Undisturbed) (hpc : s.pc = .waitLoad)
    (hrun : s.run b now = some t) : t = s.goto (.delete (.finished (.ok ()))) := by
  simp only [run, hpc] at hrun
  rcases wait_eq_some.1 hrun with ⟨-, rfl⟩ | ⟨e, herr, -⟩
  · rfl
  · cases b with
    | expired => exact absurd (Latch.closed_eq_some.1 herr).1 h.not_expired
    | loaded => cases (Latch.closed_eq_some.1 herr).2
    | _ => cases herr

/-- **Every step is the next one of the way.** -/
theorem straight_run (h : s.Undisturbed) (hs : s.pc.Straight) (hrun : s.run b now = some t) :
    t.pc.Straight ∧ t.pc.ahead + 1 = s.pc.ahead := by
  cases run_cases hrun with
  | unloadOk hpc | allocated hpc | initOk hpc | load hpc | loaded hpc | activeOk hpc | activate hpc
  | revokeOk hpc | revoke hpc | drain _ hpc | drainReturned hpc | drainedOk hpc
  | openAfterDrain hpc | unload hpc | unloaded hpc =>
    rw [hpc]
    exact ⟨trivial, rfl⟩
  | finish _ hpc =>
    have hok := ok_of_waitLoad h hpc hrun
    rw [hok, hpc]
    exact ⟨rfl, rfl⟩
  | delete hpc | close hpc =>
    rw [hpc] at hs ⊢
    exact ⟨hs, rfl⟩
  | unloadRevoked hpc hclosed | activeRevoked hpc hclosed =>
    exact absurd hclosed (h.not_revoked (by rw [hpc]; decide))
  | unloadExpired _ hclosed | initExpired _ hclosed | activeExpired _ hclosed
  | revokeExpired _ hclosed | drainedExpired _ hclosed => exact absurd hclosed h.not_expired
  | initClosed _ hclosed | closedAfterDrain _ hclosed => exact absurd hclosed h.not_closed

/-- A branch cannot be taken exactly while its latch is open. -/
theorem closed_eq_none {α : Type} {l : Latch} {a : α} :
    l.closed a = none ↔ l.isClosed = false := by
  unfold Latch.closed
  split
  · next hc => exact ⟨fun h => (by cases h), fun h => (by rw [h] at hc; cases hc)⟩
  · next hopen => exact ⟨fun _ => Bool.eq_false_iff.2 hopen, fun _ => rfl⟩

theorem wait_eq_none {result : Option (Except ClientError Unit)} {ok : GrantTask}
    {err : ClientError → GrantTask} : wait result ok err = none ↔ result = none :=
  Option.map_eq_none_iff

/-- A step that does not wait can be taken. -/
theorem not_stands {u : GrantTask} (hrun : s.run .go SystemTime.unixEpoch = some u) :
    ¬ ∀ b now, s.run b now = none := fun h => by
  rw [h] at hrun
  cases hrun

/-- **What holds it up.** The task cannot take a step exactly where what it awaits has not
happened. -/
theorem stands_iff (h : s.Undisturbed) : (∀ b now, s.run b now = none) ↔ s.Waits := by
  have hlive := h.live
  cases hpc : s.pc with
  | waitUnload =>
    have hrev := Bool.eq_false_iff.2 (h.not_revoked (by rw [hpc]; decide))
    simp only [run, hpc, Waits, wait_eq_none]
    constructor
    · intro hnone
      exact ⟨closed_eq_none.1 (hnone .active SystemTime.unixEpoch),
        closed_eq_none.1 (hnone .unloaded SystemTime.unixEpoch)⟩
    · rintro ⟨hactive, hunloaded⟩ b now
      cases b with
      | active => exact closed_eq_none.2 hactive
      | unloaded => exact closed_eq_none.2 hunloaded
      | revoked => exact closed_eq_none.2 hrev
      | expired => exact closed_eq_none.2 hlive
      | _ => rfl
  | waitInit =>
    simp only [Waits, hpc]
    constructor
    · intro hnone
      have haction := hnone .action SystemTime.unixEpoch
      simp only [run, hpc] at haction
      exact closed_eq_none.1 (wait_eq_none.1 haction)
    · intro hinit b now
      simp only [run, hpc]
      cases b with
      | closed => exact closed_eq_none.2 h.running
      | action => exact wait_eq_none.2 (closed_eq_none.2 hinit)
      | expired => exact wait_eq_none.2 (closed_eq_none.2 hlive)
      | _ => rfl
  | waitActive =>
    have hrev := Bool.eq_false_iff.2 (h.not_revoked (by rw [hpc]; decide))
    simp only [run, hpc, Waits, wait_eq_none]
    constructor
    · intro hnone
      exact closed_eq_none.1 (hnone .active SystemTime.unixEpoch)
    · intro hactive b now
      cases b with
      | active => exact closed_eq_none.2 hactive
      | revoked => exact closed_eq_none.2 hrev
      | expired => exact closed_eq_none.2 hlive
      | _ => rfl
  | waitRevoke =>
    simp only [run, hpc, Waits, wait_eq_none]
    constructor
    · intro hnone
      exact closed_eq_none.1 (hnone .revoked SystemTime.unixEpoch)
    · intro hrevoked b now
      cases b with
      | revoked => exact closed_eq_none.2 hrevoked
      | expired => exact closed_eq_none.2 hlive
      | _ => rfl
  | draining =>
    simp only [run, hpc, Waits]
    cases hret : s.range.drainReturned with
    | false => exact iff_of_true (fun _ _ => rfl) rfl
    | true =>
      refine iff_of_false (fun hnone => ?_) (by decide)
      cases hnone .go SystemTime.unixEpoch
  | waitDrained =>
    simp only [run, hpc, Waits, wait_eq_none]
    constructor
    · intro hnone
      exact closed_eq_none.1 (hnone .action SystemTime.unixEpoch)
    · intro hdrained b now
      cases b with
      | action => exact closed_eq_none.2 hdrained
      | expired => exact closed_eq_none.2 hlive
      | _ => rfl
  | waitLoad =>
    simp only [run, hpc, Waits, wait_eq_none]
    constructor
    · intro hnone
      exact closed_eq_none.1 (hnone .loaded SystemTime.unixEpoch)
    · intro hloaded b now
      cases b with
      | loaded => exact closed_eq_none.2 hloaded
      | expired => exact closed_eq_none.2 hlive
      | _ => rfl
  | returned exit =>
    refine iff_of_true (fun b now => ?_) (by simp only [Waits, hpc])
    simp only [run, hpc]
  | allocated | load | loaded | activate | revoke | drain | checkClosed | unload | unloaded
  | delete | close =>
    refine iff_of_false (not_stands (by simp only [run, hpc]; rfl)) ?_
    simp only [Waits, hpc, not_false_eq_true]

/-! ## Runs of the task -/

/-- What has happened to the Range stays so. -/
theorem closed_step {e : Event} (hst : s.step e = some t) (h : s.range.closed.isClosed = true) :
    t.range.closed.isClosed = true := by
  cases e with
  | signal sig =>
    cases hst
    exact h
  | range e =>
    obtain ⟨range, hrange, rfl⟩ := Option.map_eq_some_iff.1 hst
    exact (RangeState.le_step hrange).closed h
  | run b now =>
    cases run_cases hst with
    | _ => exact h

/-- A latch that is open in the end was open before. -/
theorem open_of_mono {l l' : Latch} (hmono : l.isClosed = true → l'.isClosed = true)
    (h : l'.isClosed = false) : l.isClosed = false := by
  cases hl : l.isClosed with
  | false => rfl
  | true =>
    rw [hmono hl] at h
    cases h

/-- A run only closes latches. -/
theorem le_of_run {es : List Event} (hrun : machine.run s es = some t) :
    s.ownership.Le t.ownership ∧
      (s.range.closed.isClosed = true → t.range.closed.isClosed = true) :=
  Machine.run_invariant
    (I := fun u : GrantTask => s.ownership.Le u.ownership ∧
      (s.range.closed.isClosed = true → u.range.closed.isClosed = true))
    (fun _ _ _ h hst => ⟨h.1.trans (le_step hst), fun hc => closed_step hst (h.2 hc)⟩)
    ⟨.refl _, fun hc => hc⟩ hrun

/-- An event of the driver, the user or the Range leaves the task where it is. -/
theorem pc_step {e : Event} (hst : s.step e = some t) (he : e.isRun = false) : t.pc = s.pc := by
  cases e with
  | signal sig =>
    cases hst
    rfl
  | range e =>
    obtain ⟨range, -, rfl⟩ := Option.map_eq_some_iff.1 hst
    rfl
  | run b now => cases he

/-- **Straight on.** A run that leaves the grant the task's to serve has gone straight. -/
theorem onward_run {es : List Event} (hrun : machine.run s es = some t) (hs : s.pc.Straight)
    (hlive : t.ownership.expired.isClosed = false) (hrunning : t.range.closed.isClosed = false)
    (hrev : t.ownership.revoked.isClosed = false ∨ s.Served) :
    t.pc.Straight ∧ t.Undisturbed ∧ t.pc.ahead + es.countP Event.isRun = s.pc.ahead := by
  induction es generalizing s with
  | nil =>
    cases hrun
    exact ⟨hs, ⟨hlive, hrunning, hrev⟩, rfl⟩
  | cons e es ih =>
    obtain ⟨hle, hclosed⟩ := le_of_run hrun
    have hundisturbed : s.Undisturbed :=
      ⟨open_of_mono hle.expired hlive, open_of_mono hclosed hrunning,
        hrev.imp_left (open_of_mono hle.revoked)⟩
    obtain ⟨u, hst, hrun⟩ := machine.run_cons_eq_some.1 hrun
    have hst : s.step e = some u := hst
    have hnext : u.pc.Straight ∧ u.pc.ahead + (if e.isRun then 1 else 0) = s.pc.ahead := by
      cases he : e.isRun with
      | false =>
        rw [pc_step hst he]
        exact ⟨hs, rfl⟩
      | true =>
        cases e with
        | run b now => exact straight_run hundisturbed hs hst
        | _ => cases he
    obtain ⟨hu, hahead⟩ := hnext
    have hserved : s.Served → u.Served := fun h => by
      unfold Served at h ⊢
      omega
    obtain ⟨ht, hdone, hcount⟩ := ih hrun hu (hrev.imp_right hserved)
    refine ⟨ht, hdone, ?_⟩
    rw [List.countP_cons]
    omega

end GrantTask

namespace Node

/-! ## The tasks of a node -/

variable {s t : Node} {r : OwnershipRef} {task next : GrantTask}

/-- The steps of `run_grant` for an assignment are those of its task. -/
theorem isRunOf_eq (s : Node) (r : OwnershipRef) (e : Event) :
    e.isRunOf r = (s.taskEvent r e).any GrantTask.Event.isRun := by
  cases e with
  | run k b now =>
    by_cases hk : r = k
    · simp [Event.isRunOf, taskEvent, hk, GrantTask.Event.isRun]
    · simp [Event.isRunOf, taskEvent, hk, Ne.symm hk]
  | driver e =>
    simp only [Event.isRunOf, taskEvent]
    split
    · split
      · rfl
      · rfl
    · rfl
  | timer k | requestRevoke k | range k =>
    simp only [Event.isRunOf, taskEvent]
    split
    · rfl
    · rfl
  | dispatch | build | watcher => rfl

section
variable [UuidCrate]

/-- **What a node does is, for the task of each assignment, a run of the task alone.** -/
theorem task_run {fs : List Event} (hsound : s.Sound) (hrun : machine.run s fs = some t)
    (htask : s.grantTask r = some task) :
    ∃ es next, GrantTask.machine.run task es = some next ∧ t.grantTask r = some next ∧
      es.countP GrantTask.Event.isRun = fs.countP (Event.isRunOf r) := by
  induction fs generalizing s task with
  | nil =>
    cases hrun
    exact ⟨[], task, rfl, htask, rfl⟩
  | cons e fs ih =>
    obtain ⟨u, hst, hrun⟩ := machine.run_cons_eq_some.1 hrun
    have hst : s.step e = some u := hst
    obtain ⟨mid, hmid, hfollows⟩ := grantTask_step hsound.grounded htask hst
    obtain ⟨es, next, hes, hnext, hcount⟩ := ih (hsound.step hst) hrun hmid
    rw [List.countP_cons, isRunOf_eq s r e]
    split at hfollows
    · next ev hev =>
      have hevs := GrantTask.machine.run_cons_eq_some.2 ⟨mid, hfollows, hes⟩
      refine ⟨ev :: es, next, hevs, hnext, ?_⟩
      rw [List.countP_cons, hcount, hev]
      rfl
    · next hev =>
      subst hfollows
      refine ⟨es, next, hes, hnext, ?_⟩
      rw [hcount, hev]
      rfl

/-- **Straight on.** In every run of a node, from any state in which the task of an assignment has
not bailed out to any state in which the grant has not expired, its Range has not closed itself, and
either there is no revoke or the task had come to the wait for it: every step the task has taken was
the next one of its way, and it cannot take another one exactly where what it awaits has not
happened. -/
theorem onward {es fs : List Event} (hrun : machine.run initial es = some s)
    (hrest : machine.run s fs = some t) (htask : s.grantTask r = some task)
    (hstraight : task.pc.Straight) (hnext : t.grantTask r = some next)
    (hlive : next.ownership.expired.isClosed = false)
    (hrunning : next.range.closed.isClosed = false)
    (hrev : next.ownership.revoked.isClosed = false ∨ task.Served) :
    next.pc.Straight ∧ next.pc.ahead + fs.countP (Event.isRunOf r) = task.pc.ahead ∧
      ((∀ b now, next.run b now = none) ↔ next.Waits) := by
  obtain ⟨evs, next', hevs, hnext', hcount⟩ := task_run (registered_run hrun).sound hrest htask
  cases hnext'.symm.trans hnext
  obtain ⟨hs, hundisturbed, hahead⟩ :=
    GrantTask.onward_run hevs hstraight hlive hrunning hrev
  exact ⟨hs, by rw [← hcount]; exact hahead, GrantTask.stands_iff hundisturbed⟩

end

/-! ## A grant that is taken over -/

/-- Seven steps after its Range is built the task awaits the revoke. -/
theorem onward_served :
    let := UuidCrate.pair
    ∃ s t next, machine.run initial (lifeRun.take 8) = some s ∧
      machine.run s ((lifeRun.take 24).drop 8) = some t ∧ t.grantTask 0 = some next ∧
        next.pc.ahead + 7 = 18 ∧ ((∀ b now, next.run b now = none) ↔ next.Waits) := by
  let := UuidCrate.pair
  have hstart : (machine.run initial (lifeRun.take 8)).map (fun s =>
      decide ((s.grantTask 0).map (·.pc) = some .waitUnload)) = some true := by decide +kernel
  obtain ⟨s, hrun, hs⟩ := Option.map_eq_some_iff.1 hstart
  obtain ⟨task, htask, hpc⟩ := Option.map_eq_some_iff.1 (of_decide_eq_true hs)
  have hend : ((machine.run initial (lifeRun.take 8)).bind fun s =>
      (machine.run s ((lifeRun.take 24).drop 8)).bind fun t => (t.grantTask 0).map fun next =>
        (next.ownership.expired.isClosed, next.range.closed.isClosed,
          next.ownership.revoked.isClosed)) = some (false, false, false) := by decide +kernel
  rw [hrun, Option.bind_some] at hend
  obtain ⟨t, hrest, hend⟩ := Option.bind_eq_some_iff.1 hend
  obtain ⟨next, hnext, hopen⟩ := Option.map_eq_some_iff.1 hend
  obtain ⟨hlive, hopen⟩ := Prod.mk.inj hopen
  obtain ⟨hrunning, hrevoked⟩ := Prod.mk.inj hopen
  obtain ⟨-, hahead, hwaits⟩ := onward hrun hrest htask (by rw [hpc]; trivial) hnext hlive
    hrunning (.inl hrevoked)
  rw [hpc] at hahead
  exact ⟨s, t, next, hrun, hrest, hnext, hahead, hwaits⟩

end Node

end Splitter
