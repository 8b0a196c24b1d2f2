import Splitter.Driver.Instructions
import Splitter.Node.Users
import Splitter.Processor.Undrained

/-!
# What a shutdown drains

`JoinHandle::shutdown`, which `Dispatcher::drain` awaits, closes the driver's latch and waits for
the driver to return. The driver deregisters, leaves its loop and expires every grant of its table;
the task of an active grant waits for a revoke that nobody sends any more, and takes the expired
branch to its clean-up. `graceful_iff` says which Ranges are drained all the same: those whose task
has left the wait for the revoke when the grant expires.

Leases lapse against the clock, and a lease that has lapsed once is one that has lapsed (`Timed`).
-/

namespace Splitter

namespace Effect

/-- What an effect does to the ownership at an address that it does not allocate. -/
theorem exec_apply (mem : Memory) (eff : Effect) {r : OwnershipRef} (h : ∀ o, eff ≠ .new r o) :
    eff.exec mem r =
      match eff.signal? with
      | some (k, sig) => if r = k then (mem r).map sig.apply else mem r
      | none => mem r := by
  cases eff with
  | new k o =>
    refine Function.update_of_ne ?_ ..
    rintro rfl
    exact h o rfl
  | activate k | revoke k | expire k | counterpartLoaded k | counterpartUnloaded k
  | setExpiration k => exact Memory.modify_apply ..
  | _ => rfl

end Effect

namespace Node

/-! ## One task of a node -/

/-- What an event of the node is to the task of an assignment. -/
def taskEvent (s : Node) (r : OwnershipRef) : Event → Option GrantTask.Event
  | .driver e =>
    match (s.loop.carried e).head?.bind Effect.signal? with
    | some (k, sig) => if r = k then some (.signal sig) else none
    | none => none
  | .timer k => if r = k then some (.signal .expire) else none
  | .requestRevoke k => if r = k then some (.signal .requestRevoke) else none
  | .run k b now => if r = k then some (.run b now) else none
  | .range k e => if r = k then some (.range e) else none
  | .dispatch _ _ _ | .build _ _ | .watcher _ _ _ => none

variable {s t : Node} {r : OwnershipRef} {task : GrantTask}

theorem grantTask_eq_some : s.grantTask r = some task ↔ ∃ id shard,
    s.memory r = some task.ownership ∧
      s.chains r = some { id, shard, chain := .running task.pc task.range } := by
  unfold grantTask
  constructor
  · intro h
    split at h
    · next hmem hchain =>
      cases h
      exact ⟨_, _, hmem, hchain⟩
    · cases h
  · rintro ⟨id, shard, hmem, hchain⟩
    rw [hmem, hchain]

theorem memory_of_grantTask (h : s.grantTask r = some task) :
    s.memory r = some task.ownership := by
  obtain ⟨-, -, hmem, -⟩ := grantTask_eq_some.1 h
  exact hmem

theorem grantTask_congr (hmem : t.memory r = s.memory r) (hchain : t.chains r = s.chains r) :
    t.grantTask r = s.grantTask r := by
  unfold grantTask
  rw [hmem, hchain]

/-- After an event of the node, the task of the assignment has taken its step, or is left alone. -/
def Follows (s t : Node) (r : OwnershipRef) (e : Event) (task : GrantTask) : Prop :=
  ∃ next, t.grantTask r = some next ∧
    match s.taskEvent r e with
    | some ev => task.step ev = some next
    | none => next = task

/-- An event that is none of the task's. -/
theorem Follows.left {e : Event} (htask : s.grantTask r = some task)
    (hnone : s.taskEvent r e = none) (hmem : t.memory r = s.memory r)
    (hchain : t.chains r = s.chains r) : Follows s t r e task := by
  unfold Follows
  rw [hnone]
  exact ⟨task, (grantTask_congr hmem hchain).trans htask, rfl⟩

/-- A signal to one ownership, as the task of each assignment sees it. -/
theorem Follows.signal {e : Event} {k : OwnershipRef} {sig : Signal}
    (htask : s.grantTask r = some task)
    (hevent : s.taskEvent r e = if r = k then some (.signal sig) else none)
    (hmem : t.memory r = if r = k then (s.memory r).map sig.apply else s.memory r)
    (hchain : t.chains r = s.chains r) : Follows s t r e task := by
  by_cases hk : r = k
  · rw [if_pos hk] at hevent hmem
    obtain ⟨id, shard, ho, hc⟩ := grantTask_eq_some.1 htask
    unfold Follows
    rw [hevent]
    refine ⟨{ task with ownership := sig.apply task.ownership },
      grantTask_eq_some.2 ⟨id, shard, ?_, hchain.trans hc⟩, rfl⟩
    rw [hmem, ho]
    rfl
  · rw [if_neg hk] at hevent hmem
    exact .left htask hevent hmem hchain

/-- An assignment whose chain does not run is not the one of a task. -/
theorem ne_of_chains {k : OwnershipRef} (htask : s.grantTask r = some task)
    (h : ∀ pc range id shard, s.chains k ≠ some { id, shard, chain := .running pc range }) :
    r ≠ k := by
  rintro rfl
  obtain ⟨id, shard, -, hchain⟩ := grantTask_eq_some.1 htask
  exact h _ _ _ _ hchain

section
variable [UuidCrate]

/-- A step of the driver. -/
theorem follows_driver {e : Loop.Event} {loop : Loop}
    (hground : s.loop.driver.Grounded s.memory) (htask : s.grantTask r = some task)
    (hloop : s.loop.step e = some loop) :
    Follows s ((s.loop.carried e).foldl carryOut { s with loop }) r (.driver e) task := by
  rcases Loop.driver_step hloop with ⟨eff, rest, hpending, hcarried, -⟩ | ⟨-, hframes⟩
  · have hexec := Effect.exec_apply s.memory eff (r := r) (by
      rintro o rfl
      have hmem := memory_of_grantTask htask
      rw [fresh_of_grounded hground (by rw [hpending]; exact List.mem_cons_self ..)] at hmem
      cases hmem)
    obtain ⟨helpers, heq⟩ := foldl_carryOut { s with loop } (s.loop.carried e)
    rw [heq, hcarried]
    have hevent : s.taskEvent r (.driver e) = match eff.signal? with
        | some (k, sig) => if r = k then some (.signal sig) else none
        | none => none := by
      simp only [taskEvent, hcarried, List.head?_cons, Option.bind_some]
    cases hsig : eff.signal? with
    | none =>
      rw [hsig] at hexec hevent
      exact .left htask hevent hexec rfl
    | some p =>
      rw [hsig] at hexec hevent
      exact .signal htask hevent hexec rfl
  · obtain ⟨frames, heq⟩ := foldl_carryOut_frames { s with loop } hframes
    rw [heq]
    refine .left htask ?_ rfl rfl
    have hnone : (s.loop.carried e).head?.bind Effect.signal? = none := by
      cases hc : s.loop.carried e with
      | nil => rfl
      | cons eff effects =>
        obtain ⟨frame, rfl⟩ := hframes eff (by rw [hc]; exact List.mem_cons_self ..)
        rfl
    simp only [taskEvent, hnone]

/-- **A step of the node is a step of the task of each assignment**, or leaves it. -/
theorem grantTask_step {e : Event} (hground : s.loop.driver.Grounded s.memory)
    (htask : s.grantTask r = some task) (hstep : s.step e = some t) : Follows s t r e task := by
  obtain ⟨id, shard, hmem, hchain⟩ := grantTask_eq_some.1 htask
  cases step_cases hstep with
  | driver hloop => exact follows_driver hground htask hloop
  | @dispatch id' shard' k o hmem' hfree =>
    have hne : r ≠ k := ne_of_chains htask fun _ _ _ _ h => by cases hfree.symm.trans h
    exact .left htask rfl rfl (Function.update_of_ne hne ..)
  | @accept id' shard' k htask' =>
    have hne : r ≠ k := ne_of_chains htask fun _ _ _ _ h => by cases htask'.symm.trans h
    exact .left htask rfl rfl (Function.update_of_ne hne ..)
  | @decline id' shard' k htask' =>
    have hne : r ≠ k := ne_of_chains htask fun _ _ _ _ h => by cases htask'.symm.trans h
    exact .left htask rfl (Function.update_of_ne hne ..) (Function.update_of_ne hne ..)
  | @run id' shard' k b now next' task' hmem' htask' hrun =>
    by_cases hk : r = k
    · subst hk
      obtain rfl : task' = task := by
        obtain ⟨pc, o, range⟩ := task
        obtain ⟨pc', o', range'⟩ := task'
        cases hmem'.symm.trans hmem
        cases htask'.symm.trans hchain
        rfl
      simp only [Follows, taskEvent, if_true]
      refine ⟨next', grantTask_eq_some.2 ⟨id', shard', ?_, ?_⟩, hrun⟩
      · exact Function.update_self ..
      · exact Function.update_self ..
    · refine .left htask ?_ (Function.update_of_ne hk ..) (Function.update_of_ne hk ..)
      simp only [taskEvent, if_neg hk]
  | @range id' shard' k pc range range' e htask' hrange =>
    by_cases hk : r = k
    · subst hk
      cases hchain.symm.trans htask'
      simp only [Follows, taskEvent, if_true]
      refine ⟨{ task with range := range' }, grantTask_eq_some.2 ⟨id, shard, hmem, ?_⟩, ?_⟩
      · exact Function.update_self ..
      · simp only [GrantTask.step, hrange, Option.map_some]
    · refine .left htask ?_ rfl (Function.update_of_ne hk ..)
      simp only [taskEvent, if_neg hk]
  | requestRevoke => exact .signal htask rfl (Memory.modify_apply ..) rfl
  | timer => exact .signal htask rfl (Memory.modify_apply ..) rfl
  | watcher => exact .left htask rfl rfl rfl

end

end Node

/-! ## A node and its clock -/

/-- A node, the clock it reads, and the assignments whose lease has lapsed so far. -/
structure Timed where
  node : Node
  now : SystemTime
  lapsed : OwnershipRef → Bool

namespace Timed

inductive Event
  | node (e : Node.Event)
  /-- The clock is read as `now`. -/
  | clock (now : SystemTime)

/-- The leases that have lapsed by now. -/
def observe (s : Timed) : Timed :=
  { s with
    lapsed := fun r => s.lapsed r ||
      (s.node.memory r).any fun o => decide (o.expiration.nanos ≤ s.now.nanos) }

section
variable [UuidCrate]

def step (s : Timed) : Event → Option Timed
  | .node e => (s.node.step e).map fun node => { s with node }.observe
  | .clock now => some { s with now }.observe

/-- A node from its spawn on. -/
def machine : Machine Timed Event where
  init s := s.node = .initial ∧ s.lapsed = fun _ => false
  step := step

end

/-- The Range of the assignment cannot come to be closed undrained, unless its lease has lapsed. -/
def Graceful (r : OwnershipRef) (s : Timed) : Prop :=
  s.lapsed r = false → ∀ task, s.node.grantTask r = some task → ¬ task.CanDrop

/-- What a step must meet: it is a step the task of the assignment drains after, and the shutdown is
requested of a Range that has not closed itself before its initialization was awaited. A lease that
has lapsed asks for nothing. -/
def DrainsFirst (r : OwnershipRef) (s : Timed) : Event → Prop
  | .node e =>
    s.lapsed r = true ∨ ∀ task, s.node.grantTask r = some task →
      (e = .driver .shutdown → task.OpenToInit) ∧
        ∀ ev, s.node.taskEvent r e = some ev → task.DrainsFirst ev
  | .clock _ => True

/-- A lease that has run out has lapsed. -/
def Observed (s : Timed) : Prop :=
  ∀ r o, s.node.memory r = some o → o.expiration.nanos ≤ s.now.nanos → s.lapsed r = true

/-- The task of the assignment is that of an active grant. -/
structure Active (r : OwnershipRef) (s : Timed) : Prop where
  grounded : s.node.loop.driver.Grounded s.node.memory
  observed : s.Observed
  task : ∃ task, s.node.grantTask r = some task ∧ task.ownership.active.isClosed = true ∧
    task.DrainsInPlace

variable {s t : Timed} {r : OwnershipRef} {task : GrantTask}

theorem observed_observe (s : Timed) : s.observe.Observed := by
  intro r o ho hle
  have ho : s.node.memory r = some o := ho
  have hle : o.expiration.nanos ≤ s.now.nanos := hle
  simp [observe, ho, hle]

/-- What is observed after a step that leaves the deadline and the clock. -/
theorem Observed.lapsed_observe {node : Node} (h : s.Observed) {o o' : Ownership}
    (ho : s.node.memory r = some o) (ho' : node.memory r = some o')
    (hexpiration : o'.expiration = o.expiration) :
    ({ s with node } : Timed).observe.lapsed r = s.lapsed r := by
  have hlapsed := h r o ho
  simp only [observe, ho', Option.any_some, hexpiration]
  by_cases hle : o.expiration.nanos ≤ s.now.nanos
  · simp [hlapsed hle]
  · simp [hle]

/-- What was lapsed stays so. -/
theorem lapsed_observe (h : s.observe.lapsed r = false) : s.lapsed r = false :=
  (Bool.or_eq_false_iff.1 h).1

/-- The Range of an active grant is safe exactly if its task is committed. -/
theorem Active.graceful_iff_committed (h : s.Active r) (htask : s.node.grantTask r = some task) :
    s.Graceful r ↔ (s.lapsed r = false → task.Committed) := by
  obtain ⟨other, hother, hactive, hplace⟩ := h.task
  obtain rfl : task = other := Option.some.inj (htask.symm.trans hother)
  unfold Graceful
  rw [htask]
  simp only [Option.some.injEq, forall_eq', GrantTask.not_canDrop_iff hactive hplace]

/-- The condition on a step of the node, of the task there is. -/
theorem drainsFirst_node_iff {e : Node.Event} (htask : s.node.grantTask r = some task) :
    s.DrainsFirst r (.node e) ↔ s.lapsed r = true ∨
      (e = .driver .shutdown → task.OpenToInit) ∧
        ∀ ev, s.node.taskEvent r e = some ev → task.DrainsFirst ev := by
  simp only [DrainsFirst, htask, Option.some.injEq, forall_eq']

section
variable [UuidCrate]

/-- What holds of every run. -/
theorem grounded_observed (h : machine.Reachable s) :
    s.node.loop.driver.Grounded s.node.memory ∧ s.Observed := by
  refine h.invariant (I := fun s : Timed =>
    s.node.loop.driver.Grounded s.node.memory ∧ s.Observed)
    (fun s hinit => ?_) fun s e t hs hst => ?_
  · obtain ⟨node, now, lapsed⟩ := s
    obtain ⟨rfl, -⟩ := hinit
    exact ⟨Driver.Grounded.initial, fun r o ho => by cases ho⟩
  · cases e with
    | clock now =>
      cases hst
      exact ⟨hs.1, observed_observe _⟩
    | node e =>
      obtain ⟨node, hnode, rfl⟩ := Option.map_eq_some_iff.1 hst
      exact ⟨Node.grounded_userStep (e := .node e) hs.1 hnode, observed_observe _⟩

/-! ## One step -/

theorem Active.step {e : Event} (h : s.Active r) (hstep : s.step e = some t) : t.Active r := by
  obtain ⟨hground, -, task, htask, hactive, hplace⟩ := h
  cases e with
  | clock now =>
    cases hstep
    exact ⟨hground, observed_observe _, task, htask, hactive, hplace⟩
  | node e =>
    obtain ⟨node, hnode, rfl⟩ := Option.map_eq_some_iff.1 hstep
    obtain ⟨next, hnext, hev⟩ := Node.grantTask_step hground htask hnode
    refine ⟨Node.grounded_userStep (e := .node e) hground hnode, observed_observe _, next, hnext, ?_⟩
    cases hevent : s.node.taskEvent r e with
    | none =>
      rw [hevent] at hev
      obtain rfl : next = task := hev
      exact ⟨hactive, hplace⟩
    | some ev =>
      rw [hevent] at hev
      exact ⟨(GrantTask.le_step hev).active hactive, hplace.step hev⟩

/-- **One step.** A step from a state in which the Range is safe leads to one exactly if it meets
the condition. -/
theorem graceful_step_iff {e : Event} (h : s.Active r) (hsafe : s.Graceful r)
    (hstep : s.step e = some t) : t.Graceful r ↔ s.DrainsFirst r e := by
  have hactive := h.step hstep
  obtain ⟨task, htask, -, -⟩ := h.task
  cases e with
  | clock now =>
    cases hstep
    exact iff_of_true (fun hopen => hsafe (lapsed_observe (s := { s with now }) hopen)) trivial
  | node e =>
    obtain ⟨node, hnode, rfl⟩ := Option.map_eq_some_iff.1 hstep
    obtain ⟨next, hnext, hev⟩ := Node.grantTask_step h.grounded htask hnode
    rw [hactive.graceful_iff_committed hnext, drainsFirst_node_iff htask]
    cases hlapsed : s.lapsed r with
    | true =>
      refine iff_of_true (fun hopen => ?_) (.inl rfl)
      have hopen : s.lapsed r = false := lapsed_observe (s := { s with node }) hopen
      rw [hlapsed] at hopen
      cases hopen
    | false =>
      have hcommitted := (h.graceful_iff_committed htask).1 hsafe hlapsed
      cases hevent : s.node.taskEvent r e with
      | none =>
        rw [hevent] at hev
        obtain rfl : next = task := hev
        refine iff_of_true (fun _ => hcommitted) (.inr ⟨fun _ => hcommitted.openToInit, ?_⟩)
        intro ev hsome
        cases hsome
      | some ev =>
        rw [hevent] at hev
        have hiff := GrantTask.committed_step_iff hcommitted hev
        constructor
        · intro hnext'
          refine .inr ⟨fun _ => hcommitted.openToInit, ?_⟩
          intro ev' hsome
          cases hsome
          -- a step that fails the condition leaves the deadline, so the lease has not lapsed by it
          by_contra hc
          have hopen := h.observed.lapsed_observe (Node.memory_of_grantTask htask)
            (Node.memory_of_grantTask hnext) (GrantTask.expiration_step hc hev)
          exact hc (hiff.1 (hnext' (hopen.trans hlapsed)))
        · rintro (htrue | ⟨-, hc⟩) -
          · cases htrue
          · exact hiff.2 (hc ev rfl)

/-- **Which Ranges a shutdown drains.** -/
theorem graceful_iff {r : OwnershipRef} {task : GrantTask} {fs : List Event}
    (hreach : machine.Reachable s) (htask : s.node.grantTask r = some task)
    (hholds : task.HoldsActive) :
    machine.Always (Graceful r) s (.node (.driver .shutdown) :: fs) ↔
      machine.Guarded (DrainsFirst r) s (.node (.driver .shutdown) :: fs) := by
  obtain ⟨hground, hobserved⟩ := grounded_observed hreach
  have hactive : s.Active r := ⟨hground, hobserved, task, htask, hholds.active, hholds.drainsInPlace⟩
  by_cases hsafe : s.Graceful r
  · exact Machine.always_iff_guarded (fun _ _ _ => Active.step) (fun _ _ _ => graceful_step_iff)
      hactive hsafe
  · refine iff_of_false (fun h => hsafe (h [] s List.nil_prefix rfl)) fun h => hsafe ?_
    -- the request is a step that every state can take, and its condition makes the task committed
    have hstep : machine.step s (.node (.driver .shutdown)) =
      some ({ s with node := { s.node with loop := _ } } : Timed).observe := rfl
    have hc := (drainsFirst_node_iff htask).1 (Machine.guarded_cons.1 h _ hstep).1
    refine (hactive.graceful_iff_committed htask).2 fun hlapsed => ?_
    rcases hc with htrue | ⟨hopen, -⟩
    · rw [hlapsed] at htrue
      cases htrue
    · exact hholds.committed_iff.2 (hopen rfl)

end

/-! ## Two runs -/

/-- The driver has returned `Ok`. -/
def returnedOk (s : Timed) : Bool :=
  match s.node.loop.pc with
  | .returned (.ok ()) => true
  | _ => false

theorem pc_of_returnedOk {s : Timed} (h : s.returnedOk = true) :
    s.node.loop.pc = .returned (.ok ()) := by
  unfold returnedOk at h
  split at h
  · next hpc => exact hpc
  · cases h

/-- A node that has just been spawned, at the epoch. -/
def start : Timed :=
  { node := .initial, now := SystemTime.unixEpoch, lapsed := fun _ => false }

/-- One grant comes to be served. -/
def servedRun : List Event :=
  (.driver .start :: Node.deliver (.assign [Node.wireGrant "g" .active]) 3 ++
    [.dispatch ⟨"g"⟩ Node.wholeDomain 0, .build 0 true] ++ Node.runTask 0 [.active, .go] ++
    [.range 0 .initialized] ++ Node.runTask 0 [.action, .go, .go, .active, .go] :
    List Node.Event).map .node

/-- The server revokes it. -/
def revoking : List Event :=
  [.node (.driver (.takeInbound
    (some (.ok (Loop.wrapClient (.revoke [Node.wireGrant "g" .revoked])))) Loop.epochEnv))]

/-- The driver deregisters, cleans up and returns, and the task finds its grant expired. -/
def leaving : List Event :=
  .node (.driver .shutdown) ::
    ([.takeShutdown, .sent true, .sent true, .collect [⟨"g"⟩], .exec, .exec, .exec, .finish] :
      List Loop.Event).map (fun e => .node (.driver e)) ++
    (Node.runTask 0 [.expired, .go, .go]).map .node

/-- What a run leads to, of the task of the first assignment and the driver. -/
def summary (s : Timed) : Option (GrantTask.Pc × Bool × Bool × Bool × Bool) :=
  (s.node.grantTask 0).map fun task =>
    (task.pc, task.ownership.active.isClosed, task.ownership.revoked.isClosed,
      task.ownership.expired.isClosed, task.range.drainCalled.isNone)

theorem holdsActive_of_summary {s : Timed}
    (h : s.summary = some (.waitRevoke, true, false, false, true)) :
    ∃ task, s.node.grantTask 0 = some task ∧ task.pc = .waitRevoke ∧ task.HoldsActive := by
  obtain ⟨task, htask, heq⟩ := Option.map_eq_some_iff.1 h
  simp only [Prod.mk.injEq] at heq
  obtain ⟨hpc, hactive, hrevoked, hexpired, hnone⟩ := heq
  refine ⟨task, htask, hpc, hactive, hrevoked, hexpired,
    Option.isNone_iff_eq_none.1 hnone, ?_⟩
  rw [hpc]
  trivial

/-- A revoke that reaches the driver before the shutdown does is drained for. -/
theorem graceful_revoked :
    let := UuidCrate.pair
    ∃ s, machine.run start (servedRun ++ revoking) = some s ∧
      machine.Always (Graceful 0) s (.node (.driver .shutdown) :: .node (.driver .exec) ::
        (Node.runTask 0 [.revoked, .go, .go]).map .node) := by
  let := UuidCrate.pair
  have hend : (machine.run start (servedRun ++ revoking)).map summary =
      some (some (.waitRevoke, true, false, false, true)) := by decide +kernel
  have hnext : (machine.run start (servedRun ++ revoking)).map
      (fun s => s.node.loop.driver.pending.head?.bind Effect.signal?) =
        some (some (0, .revoke)) := by decide +kernel
  obtain ⟨s, hrun, hsummary⟩ := Option.map_eq_some_iff.1 hend
  rw [hrun] at hnext
  have hpending := Option.some.inj hnext
  obtain ⟨task, htask, hpc, hholds⟩ := holdsActive_of_summary hsummary
  refine ⟨s, hrun, (graceful_iff (.run (.init ⟨rfl, rfl⟩) hrun) htask hholds).2 ?_⟩
  have hopen : task.OpenToInit := by
    rintro (h | h | h)
    all_goals
      rw [hpc] at h
      cases h
  have hcarried : (s.node.loop.driver.pending.take 1).head?.bind Effect.signal? =
      some (0, .revoke) := by
    rw [List.head?_take, if_neg Nat.one_ne_zero]
    exact hpending
  have hevent : s.node.taskEvent 0 (.driver .exec) = some (.signal .revoke) := by
    simp [Node.taskEvent, Loop.carried, hcarried]
  refine Machine.guarded_cons.2 fun t hst =>
    ⟨(drainsFirst_node_iff htask).2 (.inr ⟨fun _ => hopen, fun ev hsome => ?_⟩), ?_⟩
  · cases hsome
  have htask' : t.node.grantTask 0 = some task := by
    cases hst
    exact htask
  have hevent' : t.node.taskEvent 0 (.driver .exec) = some (.signal .revoke) := by
    cases hst
    exact hevent
  refine Machine.guarded_cons.2 fun u _ =>
    ⟨(drainsFirst_node_iff htask').2 (.inr ⟨fun h => ?_, fun ev hsome => ?_⟩), ?_⟩
  · cases h
  · obtain rfl : .signal .revoke = ev := Option.some.inj (hevent'.symm.trans hsome)
    simp [GrantTask.DrainsFirst, hpc]
  · refine Machine.guarded_of_forall fun e he t => ?_
    simp only [Node.runTask, List.map_map, List.mem_map] at he
    obtain ⟨b, -, rfl⟩ := he
    refine .inr fun _ _ => ⟨fun h => ?_, fun ev hsome => ?_⟩
    · cases h
    · cases hsome
      trivial

/-- **A shutdown that drops a served Range.** The driver has deregistered and returned, well within
the lease; the task of the grant has found it expired and its Range is closed undrained. -/
theorem servedRun_dropped :
    let := UuidCrate.pair
    ∃ s t task task', machine.run start servedRun = some s ∧ s.node.grantTask 0 = some task ∧
      task.HoldsActive ∧
      machine.run s leaving = some t ∧ t.node.loop.pc = .returned (.ok ()) ∧
      t.lapsed 0 = false ∧ t.node.grantTask 0 = some task' ∧ task'.Dropped := by
  let := UuidCrate.pair
  have hend : (machine.run start servedRun).map summary =
      some (some (.waitRevoke, true, false, false, true)) := by decide +kernel
  obtain ⟨s, hrun, hsummary⟩ := Option.map_eq_some_iff.1 hend
  obtain ⟨task, htask, -, hholds⟩ := holdsActive_of_summary hsummary
  have hreturned : (machine.run start (servedRun ++ leaving)).map returnedOk = some true := by
    decide +kernel
  have hlapsed : (machine.run start (servedRun ++ leaving)).map (·.lapsed 0) = some false := by
    decide +kernel
  have hdropped : (machine.run start (servedRun ++ leaving)).map summary =
      some (some (.returned (.step4 .expired), true, false, true, true)) := by decide +kernel
  obtain ⟨t, hrun', hreturned⟩ := Option.map_eq_some_iff.1 hreturned
  rw [hrun'] at hlapsed hdropped
  rw [Machine.run_append, hrun] at hrun'
  obtain ⟨task', htask', heq⟩ := Option.map_eq_some_iff.1 (Option.some.inj hdropped)
  simp only [Prod.mk.injEq] at heq
  obtain ⟨hexit, -, -, -, hnone⟩ := heq
  exact ⟨s, t, task, task', hrun, htask, hholds, hrun', pc_of_returnedOk hreturned,
    Option.some.inj hlapsed, htask', ⟨_, hexit⟩, Option.isNone_iff_eq_none.1 hnone⟩

end Timed

end Splitter
