import Splitter.Driver.Helpers
import Splitter.Node.Registry
import Splitter.Processor.Expiry

/-!
# What a node lets go of

The table of the driver is the account of everything a node holds for its assignments, also the
table as the driver left it when an error made it return early. `no_leak`: whenever the driver has
nothing to carry out, an assignment has helpers that run exactly if it is in the table; any other
has its helpers aborted and its ownership expired. `settles`: once the driver has cleaned up and
returned, that is so of every assignment, and nobody but a user's `drain` that has not returned
keeps an entry in the grant map.
-/

namespace Splitter

/-! ## The way to the return -/

namespace GrantTask

/-- The number of steps `run_grant` still takes on its longest way from a point. -/
def Pc.ahead : Pc → Nat
  | .waitUnload => 18
  | .allocated => 17
  | .waitInit => 16
  | .load => 15
  | .loaded => 14
  | .waitActive => 13
  | .activate => 12
  | .waitRevoke => 11
  | .revoke => 10
  | .drain => 9
  | .draining => 8
  | .waitDrained => 7
  | .checkClosed => 6
  | .unload => 5
  | .unloaded => 4
  | .waitLoad => 3
  | .delete _ => 2
  | .close _ => 1
  | .returned _ => 0

variable {s t : GrantTask} {b : Ownership.Branch} {now : SystemTime}

/-- There is no way back. -/
theorem ahead_run (hrun : s.run b now = some t) : t.pc.ahead < s.pc.ahead := by
  cases run_cases hrun with
  | unloadOk hpc | unloadRevoked hpc | unloadExpired hpc | allocated hpc | initOk hpc
  | initExpired hpc | initClosed hpc | load hpc | loaded hpc | activeOk hpc | activeRevoked hpc
  | activeExpired hpc | activate hpc | revokeOk hpc | revokeExpired hpc | revoke hpc | drain _ hpc
  | drainReturned hpc | drainedOk hpc | drainedExpired hpc | closedAfterDrain hpc
  | openAfterDrain hpc | unload hpc | unloaded hpc | finish _ hpc | delete hpc | close hpc =>
    rw [hpc]
    simp [goto, Pc.ahead]

/-- An expired task that has not returned takes a step, or it waits for `drain` to return. -/
theorem moves_or_drains (hexp : s.ownership.expired.isClosed = true) :
    (∃ exit, s.pc = .returned exit) ∨ (∃ b now t, s.run b now = some t) ∨
      s.pc = .draining ∧ s.range.drainReturned = false := by
  cases hpc : s.pc with
  | returned exit => exact .inl ⟨exit, rfl⟩
  | waitUnload | waitInit | waitActive | waitRevoke | waitDrained | waitLoad =>
    have hawaits : ∃ w, s.awaits = some w := by
      unfold awaits
      rw [hpc]
      exact ⟨_, rfl⟩
    obtain ⟨w, hw⟩ := hawaits
    obtain ⟨t, hrun, -⟩ := run_of_poll hw (Ownership.Wait.poll_expired hexp) SystemTime.unixEpoch
    exact .inr (.inl ⟨.expired, SystemTime.unixEpoch, t, hrun⟩)
  | draining =>
    cases hret : s.range.drainReturned with
    | false => exact .inr (.inr ⟨rfl, rfl⟩)
    | true =>
      exact .inr (.inl ⟨.go, SystemTime.unixEpoch, _, by simp only [run, hpc, hret]; rfl⟩)
  | _ => exact .inr (.inl ⟨.go, SystemTime.unixEpoch, _, by simp only [run, hpc]; rfl⟩)

end GrantTask

namespace Node

variable {s t : Node} {r : OwnershipRef}

/-! ## The helpers of a node -/

/-- The helpers are what the driver's effects make of them. -/
def Watched (s : Node) : Prop :=
  ∀ r, (s.helpers r).map (·.aborted) = Effect.helpersAfter s.loop.done r

/-- The watchers do not abort themselves. -/
theorem aborted_step {h h' : Helpers} {o : Ownership} {kind : Watcher.Kind} {act : Watcher.Act}
    {frame : Option pb.JoinMessage} (hst : h.step o kind act = some (h', frame)) :
    h'.aborted = h.aborted := by
  rcases Helpers.step_cases hst with ⟨-, -, rfl, -⟩ | ⟨rfl, -⟩ | ⟨-, rfl, -⟩ <;> rfl

/-- What the driver's effects do to the helpers. -/
theorem helpers_carryOut (s : Node) (effects : List Effect) :
    (fun r => ((effects.foldl carryOut s).helpers r).map (·.aborted)) =
      effects.foldl Effect.tend fun r => (s.helpers r).map (·.aborted) := by
  induction effects generalizing s with
  | nil => rfl
  | cons e effects ih =>
    rw [List.foldl_cons, List.foldl_cons, ih]
    congr 1
    funext k
    cases e with
    | spawnHelpers r g =>
      by_cases hk : k = r
      · subst hk
        simp [carryOut, Effect.tend, Helpers.spawn]
      · simp [carryOut, Effect.tend, hk]
    | abortHelpers r =>
      by_cases hk : k = r
      · subst hk
        simp [carryOut, Effect.tend, Function.comp_def]
      · simp [carryOut, Effect.tend, hk]
    | _ => rfl

/-- What a node keeps of its helpers. -/
structure Kept (s : Node) : Prop where
  watched : s.Watched
  tended : s.loop.Tended

theorem Kept.initial : Kept initial := ⟨fun _ => rfl, .initial⟩

section
variable [UuidCrate]

/-- **The step lemma.** -/
theorem Kept.step {e : Event} (h : s.Kept) (htidy : s.loop.Tidy) (hst : s.step e = some t) :
    t.Kept := by
  cases step_cases hst with
  | @driver e loop hloop =>
    have hcarried := helpers_carryOut { s with loop } (s.loop.carried e)
    obtain ⟨helpers, heq⟩ := foldl_carryOut { s with loop } (s.loop.carried e)
    rw [heq] at hcarried ⊢
    refine ⟨fun r => ?_, Loop.tended_step h.tended htidy hloop⟩
    show (helpers r).map (·.aborted) = Effect.helpersAfter loop.done r
    rw [Loop.done_step hloop, Effect.helpersAfter_append, ← funext h.watched]
    exact congrFun hcarried r
  | @watcher k kind act o hs hs' frame hmem hhelpers hwatcher =>
    refine ⟨fun r => ?_, h.tended⟩
    rw [← h.watched r]
    by_cases hr : r = k
    · subst hr
      simp [hhelpers, aborted_step hwatcher]
    · simp [hr]
  | _ => exact ⟨h.watched, h.tended⟩

theorem kept_run {es : List Event} (hrun : machine.run initial es = some s) : s.Kept :=
  (Machine.run_invariant (I := fun s : Node => s.Kept ∧ s.loop.Tidy)
    (fun _ _ _ h hst => ⟨h.1.step h.2 hst, by
      rcases step_loop hst with ⟨e, hloop, -⟩ | ⟨hloop, -⟩
      · exact h.2.step hloop
      · rw [hloop]
        exact h.2⟩) ⟨.initial, .initial⟩ hrun).1

/-! ## No leak -/

/-- What a node holds is what its driver's table says. -/
structure NoLeak (s : Node) : Prop where
  /-- The assignments of the table have an ownership, and helpers that run. -/
  held : ∀ id entry, s.loop.driver.grants.lookup id = some entry → ∃ o h,
    s.memory entry.ownership = some o ∧ s.helpers entry.ownership = some h ∧ h.aborted = false
  /-- The helpers of any other are aborted, and its ownership has expired. -/
  released : ∀ r h, s.helpers r = some h → ¬ s.loop.driver.Tabled r →
    h.aborted = true ∧ s.memory.Expired r
  /-- There is nothing without helpers. -/
  nothing : ∀ r, s.helpers r = none → s.memory r = none ∧ s.chains r = none

/-- **Nothing leaks.** In every run of a node, whenever its driver has nothing to carry out. A
driver that left its loop on an error has dropped its table; there the table is the one it left. -/
theorem no_leak {es : List Event} (hrun : machine.run initial es = some s)
    (hidle : s.loop.driver.pending = []) : s.NoLeak := by
  obtain ⟨hwatched, htended⟩ := kept_run hrun
  have hsound := (registered_run hrun).sound
  have hledger := (tracks_run hrun).tidy.ledger
  unfold Loop.Tended at htended
  rw [hidle, List.append_nil] at htended hledger
  refine ⟨fun id entry hentry => ?_, fun r h hh hnot => ?_, fun r hnone => ?_⟩
  · have hrunning := (htended.running entry.ownership).2 ⟨id, entry, hentry, rfl⟩
    rw [← hwatched] at hrunning
    obtain ⟨h, hh, haborted⟩ := Option.map_eq_some_iff.1 hrunning
    obtain ⟨o, ho⟩ := Option.isSome_iff_exists.1 (hledger.held id entry hentry)
    obtain ⟨o', ho', -⟩ := (shadow_run hrun).present _ o ho
    exact ⟨o', h, ho', hh, haborted⟩
  · have hafter : Effect.helpersAfter s.loop.done r = some h.aborted := by
      rw [← hwatched, hh, Option.map_some]
    cases haborted : h.aborted with
    | false => exact absurd ((htended.running r).1 (by rw [hafter, haborted])) hnot
    | true => exact ⟨rfl, (shadow_run hrun).expired (htended.aborted r (by rw [hafter, haborted]))⟩
  · have hle : s.loop.driver.next ≤ r := by
      by_contra hlt
      refine htended.spawned r (Nat.lt_of_not_le hlt) ?_
      rw [← hwatched, hnone, Option.map_none]
    have hmem := hsound.grounded.allocated r hle
    refine ⟨hmem, ?_⟩
    by_contra hchain
    exact (hsound.cells r).dispatched hchain hmem

end

/-! ## The steps of the tasks -/

/-- The event is a step of an assignment's `run_grant`. -/
def Event.isRunOf (r : OwnershipRef) : Event → Bool
  | .run k _ _ => k = r
  | _ => false

/-- The number of steps `run_grant` may still take for an assignment. -/
def aheadOf : Option ChainTask → Nat
  | none | some { chain := .tryHandle, .. } => 18
  | some { chain := .running pc _, .. } => pc.ahead
  | some { chain := .relinquished, .. } => 0

/-- Another task of one assignment. -/
theorem aheadOf_update {chains : OwnershipRef → Option ChainTask} {k : OwnershipRef}
    {task : ChainTask} {n : Nat} (h : aheadOf (some task) + n ≤ aheadOf (chains k)) :
    aheadOf (Function.update chains k (some task) r) + (if k = r then n else 0) ≤
      aheadOf (chains r) := by
  by_cases hk : k = r
  · subst hk
    rw [Function.update_self, if_pos rfl]
    exact h
  · rw [Function.update_of_ne (Ne.symm hk), if_neg hk]
    exact Nat.le_refl _

section
variable [UuidCrate]

/-- Each step of a task is one less ahead of it. -/
theorem aheadOf_step {e : Event} (hst : s.step e = some t) (r : OwnershipRef) :
    aheadOf (t.chains r) + (if e.isRunOf r then 1 else 0) ≤ aheadOf (s.chains r) := by
  cases step_cases hst with
  | @driver e loop hloop =>
    obtain ⟨helpers, heq⟩ := foldl_carryOut { s with loop } (s.loop.carried e)
    rw [heq]
    exact Nat.le_refl _
  | @dispatch id shard k o hmem hfree =>
    have h : aheadOf (some { id, shard, chain := .tryHandle }) + 0 ≤ aheadOf (s.chains k) := by
      rw [hfree]
      exact Nat.le_refl _
    have hupdate := aheadOf_update (r := r) h
    rw [ite_self] at hupdate
    exact hupdate
  | @accept id shard k htask =>
    have h : aheadOf (some { id, shard, chain := .running .waitUnload .new }) + 0 ≤
        aheadOf (s.chains k) := by
      rw [htask]
      exact Nat.le_refl _
    have hupdate := aheadOf_update (r := r) h
    rw [ite_self] at hupdate
    exact hupdate
  | @decline id shard k htask =>
    have h : aheadOf (some { id, shard, chain := .relinquished }) + 0 ≤ aheadOf (s.chains k) :=
      Nat.zero_le _
    have hupdate := aheadOf_update (r := r) h
    rw [ite_self] at hupdate
    exact hupdate
  | @run id shard k b now next task hmem htask hrun =>
    have h : aheadOf (some { id, shard, chain := .running next.pc next.range }) + 1 ≤
        aheadOf (s.chains k) := by
      rw [htask]
      exact GrantTask.ahead_run hrun
    simp only [Event.isRunOf, decide_eq_true_eq]
    exact aheadOf_update h
  | @range id shard k pc range range' e htask =>
    have h : aheadOf (some { id, shard, chain := .running pc range' }) + 0 ≤
        aheadOf (s.chains k) := by
      rw [htask]
      exact Nat.le_refl _
    have hupdate := aheadOf_update (r := r) h
    rw [ite_self] at hupdate
    exact hupdate
  | _ => exact Nat.le_refl _

end

/-! ## After the clean-up -/

/-- The event delivers a frame that ends the session. -/
def Event.EndsSession : Event → Prop
  | .driver e => e.EndsSession
  | _ => False

/-- What is left once nobody but the tasks goes on. -/
structure Settling (s : Node) : Prop where
  /-- The helpers of every assignment are aborted, and its ownership has expired. -/
  released : ∀ r h, s.helpers r = some h → h.aborted = true ∧ s.memory.Expired r
  /-- A task has returned, or it can take a step, or it waits for the user's `drain` to return. -/
  moves : ∀ r task, s.grantTask r = some task → (∃ exit, task.pc = .returned exit) ∨
    (∃ b now t, task.run b now = some t) ∨
      task.pc = .draining ∧ task.range.drainReturned = false
  /-- Once no task takes a step, every entry of the grant map is of such a `drain`. -/
  entries : (∀ r task b now, s.grantTask r = some task → task.run b now = none) →
    ∀ id entry, s.grants.lookup id = some entry → ∃ task,
      s.grantTask entry.value = some task ∧ task.pc = .draining ∧
        task.range.drainReturned = false

section
variable [UuidCrate]

/-- The driver keeps its order where no frame ends the session. -/
theorem orderly_step {e : Event} (h : s.loop.Orderly) (hst : s.step e = some t)
    (hends : ¬ e.EndsSession) : t.loop.Orderly := by
  cases step_cases hst with
  | @driver e loop hloop =>
    obtain ⟨helpers, heq⟩ := foldl_carryOut { s with loop } (s.loop.carried e)
    rw [heq]
    exact h.step hloop hends
  | _ => exact h

/-- **A node settles.** In every run of a node whose driver has returned, if no frame ended its
session: everything is released, each assignment's `run_grant` takes at most 18 steps in the whole
run, and only a user's `drain` that has not returned keeps a task from taking the next one. -/
theorem settles {es : List Event} {result : Except ClientError Unit}
    (hrun : machine.run initial es = some s) (hends : ∀ e ∈ es, ¬ e.EndsSession)
    (hret : s.loop.pc = .returned result) :
    s.Settling ∧ ∀ r, es.countP (Event.isRunOf r) ≤ 18 := by
  have horderly : s.loop.Orderly :=
    (Machine.always_of_guarded (M := machine) (I := fun s : Node => s.loop.Orderly)
      (c := fun _ e => ¬ e.EndsSession) (fun _ _ _ h hst he => orderly_step h hst he) .initial
      (Machine.guarded_of_forall fun e he _ => hends e he)).last hrun
  obtain ⟨-, hgrants, hidle⟩ := horderly.returned result hret
  have hnoleak := no_leak hrun hidle
  have hnone : ∀ r, ¬ s.loop.driver.Tabled r := by
    rintro r ⟨id, entry, hentry, -⟩
    rw [hgrants] at hentry
    cases hentry
  have hmoves : ∀ r task, s.grantTask r = some task → (∃ exit, task.pc = .returned exit) ∨
      (∃ b now t, task.run b now = some t) ∨
        task.pc = .draining ∧ task.range.drainReturned = false := by
    intro r task htask
    refine GrantTask.moves_or_drains ?_
    have hmem := memory_of_grantTask htask
    cases hh : s.helpers r with
    | none =>
      rw [(hnoleak.nothing r hh).1] at hmem
      cases hmem
    | some h =>
      obtain ⟨-, o, ho, hexp⟩ := hnoleak.released r h hh (hnone r)
      rw [ho] at hmem
      cases hmem
      exact hexp
  refine ⟨⟨fun r h hh => hnoleak.released r h hh (hnone r), hmoves,
    fun hquiet id entry hentry => ?_⟩, fun r => ?_⟩
  · have hreg := registered_run hrun
    obtain ⟨pc, range, hchain, -, hin⟩ := hreg.entries id entry hentry
    obtain ⟨o, ho⟩ := Option.ne_none_iff_exists'.1
      ((hreg.sound.cells entry.value).dispatched (Option.ne_none_iff_exists'.2 ⟨_, hchain⟩))
    have htask : s.grantTask entry.value = some { pc, ownership := o, range } :=
      grantTask_eq_some.2 ⟨_, _, ho, hchain⟩
    rcases hmoves _ _ htask with ⟨exit, hpc⟩ | ⟨b, now, t, hmove⟩ | hdrain
    · have hpc : pc = .returned exit := hpc
      rw [hpc] at hin
      cases hin
    · rw [hquiet _ _ b now htask] at hmove
      cases hmove
    · exact ⟨_, htask, hdrain⟩
  · have hle := Machine.countP_le (M := machine) (p := Event.isRunOf r)
      (m := fun s : Node => aheadOf (s.chains r)) (fun _ _ _ hst => aheadOf_step hst r) hrun
    exact (Nat.le_add_left ..).trans hle

end

/-! ## A shutdown -/

/-- A consumer that serves a shard is shut down, and its task goes on until it returns. -/
def closeDownRun : List Event :=
  lifeRun.take 24 ++
    [.driver .shutdown, .driver .takeShutdown, .driver (.sent true), .driver (.sent true),
      .driver (.collect [⟨"g"⟩]), .driver .exec, .driver .exec, .driver .exec, .driver .finish] ++
    runTask 0 [.expired, .go, .go]

/-- What a consumer holds while it serves a shard. -/
theorem no_leak_serving :
    let := UuidCrate.pair
    ∃ s, machine.run initial (lifeRun.take 24) = some s ∧
      (∃ entry, s.loop.driver.grants.lookup ⟨"g"⟩ = some entry) ∧ s.NoLeak := by
  let := UuidCrate.pair
  have hend : (machine.run initial (lifeRun.take 24)).map (fun s =>
      decide ((s.loop.driver.grants.lookup ⟨"g"⟩).isSome = true ∧
        s.loop.driver.pending.isEmpty = true)) = some true := by decide +kernel
  obtain ⟨s, hrun, hs⟩ := Option.map_eq_some_iff.1 hend
  obtain ⟨hentry, hidle⟩ := of_decide_eq_true hs
  exact ⟨s, hrun, Option.isSome_iff_exists.1 hentry, no_leak hrun (List.isEmpty_iff.1 hidle)⟩

/-- It settles after a shutdown. -/
theorem settles_closeDown :
    let := UuidCrate.pair
    ∃ s, machine.run initial closeDownRun = some s ∧ s.Settling ∧ s.grants = ∅ := by
  let := UuidCrate.pair
  have hend : (machine.run initial closeDownRun).map (fun s =>
      (s.loop.closed.isClosed, s.grants.entries.isEmpty)) = some (true, true) := by decide +kernel
  obtain ⟨s, hrun, hs⟩ := Option.map_eq_some_iff.1 hend
  obtain ⟨hclosed, hempty⟩ := Prod.mk.inj hs
  obtain ⟨result, hret⟩ := (tracks_run hrun).tidy.closed hclosed
  have hends : ∀ e ∈ closeDownRun, ¬ e.EndsSession := by
    simp [closeDownRun, lifeRun, deliver, runTask, Event.EndsSession, Loop.Event.EndsSession,
      Driver.EndsSession, Loop.wrapClient]
  exact ⟨s, hrun, (settles hrun hends hret).1, AList.ext (List.isEmpty_iff.1 hempty)⟩

end Node

end Splitter
