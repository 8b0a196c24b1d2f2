import Splitter.Dispatcher.Chain

/-!
# A node is a chain of one filter

The chain tasks of a node, whose dispatcher has one processor, as a `FilterChain` (`asChain`): every
step of the node is what its `chainEvents` do there (`refines_chain`). So what holds of a chain of
any number of filters holds of a node, and `not_abandoned` says of it what becomes of a grant that
nobody serves any more.
-/

namespace Splitter

/-- What an effect of the driver is to a chain of filters. -/
def Effect.chainEvent? : Effect → Option FilterChain.Event
  | .new r o => some (.assign r o)
  | e => e.signal?.map fun p => .signal p.1 p.2

/-- `run_chain` has returned. -/
def Chain.over : Chain → Bool
  | .running (.returned _) _ | .relinquished => true
  | .tryHandle | .running _ _ => false

namespace Node

/-- Where a chain task stands in a chain of one filter. -/
def asLink : Chain → Link
  | .tryHandle => .asking 0 .build
  | .running (.returned _) _ => .handled 0
  | .running pc range => .asking 0 (.runGrant pc range)
  | .relinquished => .relinquished

def asTask (task : ChainTask) : FilterTask :=
  { id := task.id, shard := task.shard, link := asLink task.chain }

/-- A node as a chain of one filter, which is initialized. -/
def asChain (s : Node) : FilterChain :=
  { initialized := fun _ => Latch.new.close
    grants := fun k => if k = 0 then s.grants else ∅
    memory := s.memory
    tasks := fun r => (s.chains r).map asTask }

/-- What a step of the node is to it. -/
def chainEvents (s : Node) : Event → List FilterChain.Event
  | .driver e => (s.loop.carried e).filterMap Effect.chainEvent?
  | .dispatch id shard r => [.dispatch id shard r, .call r .wake]
  | .build r true => [.call r (.build true)]
  | .build r false => [.call r (.build false), .next r]
  | .run r b now =>
    match s.chains r with
    | some { chain := .running (.close _) _, .. } => [.call r (.run b now), .next r]
    | _ => [.call r (.run b now)]
  | .range r e =>
    match s.chains r with
    | some { chain := .running (.returned _) _, .. } => []
    | _ => [.call r (.range e)]
  | .requestRevoke r => [.signal r .requestRevoke]
  | .timer r => [.signal r .expire]
  | .watcher _ _ _ => []

variable {s t : Node} {r : OwnershipRef}

/-! ## Steps of the chain -/

theorem asChain_setChain (task : ChainTask) :
    (s.setChain r task).asChain = s.asChain.setTask r task.id task.shard (asLink task.chain) := by
  have htasks : (fun k => (Function.update s.chains r (some task) k).map asTask) =
      Function.update (fun k => (s.chains k).map asTask) r (some (asTask task)) := by
    funext k
    by_cases hk : k = r
    · subst hk
      rw [Function.update_self, Function.update_self]
      rfl
    · rw [Function.update_of_ne hk, Function.update_of_ne hk]
  exact congrArg (fun tasks => ({ s.asChain with tasks } : FilterChain)) htasks

theorem tasks_asChain {task : ChainTask} (htask : s.chains r = some task) :
    s.asChain.tasks r = some (asTask task) := by
  show (s.chains r).map asTask = _
  rw [htask]
  rfl

end Node

namespace FilterChain

variable {c : FilterChain} {r : OwnershipRef} {id : GrantId} {shard : Shard} {o : Ownership}

/-- The last task that was set counts. -/
theorem setTask_setTask (link link' : Link) :
    (c.setTask r id shard link).setTask r id shard link' = c.setTask r id shard link' := by
  unfold setTask
  rw [Function.update_idem]

/-- To set a task to where it stands changes nothing. -/
theorem setTask_self {link : Link} (htask : c.tasks r = some { id, shard, link }) :
    c.setTask r id shard link = c := by
  unfold setTask
  rw [← htask, Function.update_eq_self]

/-- The last filter has declined. -/
theorem step_next
    (htask : c.tasks r = some { id, shard, link := .asking 0 (.returned false) }) :
    c.step 1 (.next r) =
      some ({ c with memory := c.memory.modify r Ownership.requestRevoke }.setTask r id shard
        .relinquished) := by
  simp only [step, htask]
  rfl

/-- The filter has answered `true`. -/
theorem step_handled {k : Nat}
    (htask : c.tasks r = some { id, shard, link := .asking k (.returned true) }) :
    c.step 1 (.next r) = some (c.setTask r id shard (.handled k)) := by
  simp only [step, htask]

/-- A call takes a step. -/
theorem step_call {k : Nat} {call : TryHandle.Call} {e : TryHandle.Event} {next : TryHandle}
    (ho : c.memory r = some o)
    (htask : c.tasks r = some { id, shard, link := .asking k call })
    (hst : (c.callOf k o call).step e = some next) :
    c.step 1 (.call r e) = some (c.afterCall r id shard k call e next) := by
  simp only [step, ho, htask, hst, Option.map_some]

/-- A step of a call that changes nothing but where the call stands. -/
theorem step_call_moves {k : Nat} {call : TryHandle.Call} {e : TryHandle.Event}
    (next : TryHandle.Call) (ho : c.memory r = some o)
    (htask : c.tasks r = some { id, shard, link := .asking k call })
    (hst : (c.callOf k o call).step e = some (c.callOf k o next))
    (hedit : edit id shard r call e (c.grants k) = c.grants k) :
    c.step 1 (.call r e) = some (c.setTask r id shard (.asking k next)) := by
  rw [step_call ho htask hst]
  unfold afterCall callOf
  rw [hedit, Function.update_eq_self, Function.update_eq_self, ← ho, Function.update_eq_self]

end FilterChain

namespace Node

open FilterChain (step_call step_handled step_next step_call_moves setTask_setTask
  setTask_self)

variable {s t : Node} {r : OwnershipRef}

/-! ## The refinement -/

/-- An effect of the driver does to the memory what its event does. -/
theorem run_chainEvent (eff : Effect) (hfresh : ∀ r o, eff = .new r o → s.memory r = none) :
    (FilterChain.machine 1).run s.asChain eff.chainEvent?.toList =
      some { s.asChain with memory := eff.exec s.memory } := by
  cases eff with
  | new r o =>
    refine (FilterChain.machine 1).run_cons_eq_some.2 ⟨_, ?_, rfl⟩
    exact if_pos (hfresh r o rfl)
  | _ => rfl

/-- A task that goes on from another point than its last has not returned. -/
theorem not_returned {task next : GrantTask} {b : Ownership.Branch} {now : SystemTime}
    (hrun : task.run b now = some next) (hclose : ∀ exit, task.pc ≠ .close exit) :
    ∀ exit, next.pc ≠ .returned exit := by
  intro exit hpc
  cases GrantTask.run_cases hrun with
  | close hlast => exact hclose _ hlast
  | _ => cases hpc

/-- Where a task that has not returned stands. -/
theorem asLink_running {pc : GrantTask.Pc} {range : RangeState}
    (h : ∀ exit, pc ≠ .returned exit) :
    asLink (.running pc range) = .asking 0 (.runGrant pc range) := by
  cases pc with
  | returned exit => exact absurd rfl (h exit)
  | _ => rfl

/-- So the call goes on. -/
theorem afterRun_call {c : TryHandle} {next : GrantTask}
    (h : ∀ exit, next.pc ≠ .returned exit) :
    (c.afterRun next).call = .runGrant next.pc next.range := by
  obtain ⟨pc, o, range⟩ := next
  cases pc with
  | returned exit => exact absurd rfl (h exit)
  | _ => rfl

theorem chainEvents_run {id : GrantId} {shard : Shard} {pc : GrantTask.Pc} {range : RangeState}
    {b : Ownership.Branch} {now : SystemTime}
    (htask : s.chains r = some { id, shard, chain := .running pc range })
    (hpc : ∀ exit, pc ≠ .close exit) :
    s.chainEvents (.run r b now) = [.call r (.run b now)] := by
  cases pc with
  | close exit => exact absurd rfl (hpc exit)
  | _ => simp only [chainEvents, htask]

/-- With its last step the task returns. -/
theorem chainEvents_close {id : GrantId} {shard : Shard} {exit : GrantTask.Exit}
    {range : RangeState} {b : Ownership.Branch} {now : SystemTime}
    (htask : s.chains r = some { id, shard, chain := .running (.close exit) range }) :
    s.chainEvents (.run r b now) = [.call r (.run b now), .next r] := by
  simp only [chainEvents, htask]

/-- The map of a node is that of the one filter. -/
theorem asChain_grants (grants : GrantMap OwnershipRef) :
    ({ s with grants } : Node).asChain =
      { s.asChain with grants := Function.update s.asChain.grants 0 grants } := by
  refine congrArg (fun grants => ({ s.asChain with grants } : FilterChain)) (funext fun k => ?_)
  rw [Function.update_apply]
  split
  · rfl
  · next hk => exact (if_neg hk).symm

/-- A step of `run_grant` in the chain. -/
theorem step_run {id : GrantId} {shard : Shard} {b : Ownership.Branch} {now : SystemTime}
    {task next : GrantTask} (hmem : s.memory r = some task.ownership)
    (htask : s.chains r = some { id, shard, chain := .running task.pc task.range })
    (hpc : ∀ exit, task.pc ≠ .returned exit) (hrun : task.run b now = some next) :
    s.asChain.step 1 (.call r (.run b now)) =
      some (({ s with
          memory := Function.update s.memory r (some next.ownership)
          grants := ((task.pc.mapOp id shard r).getD fun m => m) s.grants } : Node).asChain.setTask
        r id shard
        (.asking 0 ((s.asChain.callOf 0 task.ownership .build).afterRun next).call)) := by
  have hlink : asTask { id, shard, chain := .running task.pc task.range } =
      { id, shard, link := .asking 0 (.runGrant task.pc task.range) } :=
    congrArg (FilterTask.mk id shard) (asLink_running hpc)
  have hcall : (s.asChain.callOf 0 task.ownership (.runGrant task.pc task.range)).step
      (.run b now) =
        some ((s.asChain.callOf 0 task.ownership .build).afterRun next) :=
    congrArg (Option.map _) hrun
  rw [step_call hmem ((tasks_asChain htask).trans (congrArg some hlink)) hcall]
  have hgrants := asChain_grants
    (s := { s with memory := Function.update s.memory r (some next.ownership) })
    (((task.pc.mapOp id shard r).getD fun m => m) s.grants)
  have hinit : Function.update s.asChain.initialized 0 (s.asChain.initialized 0) =
      s.asChain.initialized := Function.update_eq_self ..
  refine congrArg (fun c : FilterChain => some (c.setTask r id shard _)) (Eq.trans ?_ hgrants.symm)
  exact congrArg (fun initialized => ({ s.asChain with
    initialized
    grants := Function.update s.asChain.grants 0
      (((task.pc.mapOp id shard r).getD fun m => m) s.grants)
    memory := Function.update s.memory r (some next.ownership) } : FilterChain)) hinit

section
variable [UuidCrate]

/-- A step of the driver. -/
theorem driver_asChain {e : Loop.Event} {loop : Loop} (hground : s.loop.driver.Grounded s.memory)
    (hloop : s.loop.step e = some loop) :
    (FilterChain.machine 1).run s.asChain (s.chainEvents (.driver e)) =
      some ((s.loop.carried e).foldl carryOut { s with loop }).asChain := by
  obtain ⟨helpers, heq⟩ := foldl_carryOut { s with loop } (s.loop.carried e)
  have hchain : ((s.loop.carried e).foldl carryOut { s with loop }).asChain =
      { s.asChain with memory := (s.loop.carried e).foldl Effect.exec s.memory } := by
    rw [heq]
    rfl
  rw [hchain]
  rcases Loop.driver_step hloop with ⟨eff, rest, hpending, hcarried, -⟩ | ⟨-, hframes⟩
  · simp only [chainEvents, hcarried, List.foldl_cons, List.foldl_nil]
    have hrun := run_chainEvent (s := s) eff fun r o heff => by
      subst heff
      exact fresh_of_grounded hground (by rw [hpending]; exact List.mem_cons_self ..)
    rw [← hrun]
    cases hev : eff.chainEvent? with
    | none => rw [List.filterMap_cons_none hev]; rfl
    | some ev => rw [List.filterMap_cons_some hev]; rfl
  · have hnone : (s.loop.carried e).filterMap Effect.chainEvent? = [] := by
      refine List.filterMap_eq_nil_iff.2 fun eff heff => ?_
      obtain ⟨frame, rfl⟩ := hframes eff heff
      rfl
    obtain ⟨frames, hframes⟩ := foldl_carryOut_frames { s with loop } hframes
    simp only [chainEvents, hnone]
    rw [← hchain, hframes]
    rfl

/-- **Every step of a node is what its events do to the chain.** -/
theorem step_asChain {e : Event} (hsound : s.Sound) (hst : s.step e = some t) :
    (FilterChain.machine 1).run s.asChain (s.chainEvents e) = some t.asChain := by
  have hmemory : ∀ {r task}, s.chains r = some task → ∃ o, s.asChain.memory r = some o := by
    intro r task htask
    have hsome : s.chains r ≠ none := by
      rw [htask]
      exact Option.some_ne_none _
    exact Option.ne_none_iff_exists'.1 ((hsound.cells r).dispatched hsome)
  cases step_cases hst with
  | driver hloop => exact driver_asChain hsound.grounded hloop
  | @dispatch id shard r o hmem hfree hsent hopen =>
    have htask : s.asChain.tasks r = none := congrArg (Option.map asTask) hfree
    rw [asChain_setChain]
    refine (FilterChain.machine 1).run_cons_eq_some.2
      ⟨s.asChain.setTask r id shard (.asking 0 .waitInitialized), ?_, ?_⟩
    · show s.asChain.step 1 (.dispatch id shard r) = _
      have ho : s.asChain.memory r = some o := hmem
      simp only [FilterChain.step, ho, htask, hopen, Bool.false_eq_true, if_false]
      rfl
    · refine (FilterChain.machine 1).run_cons_eq_some.2
        ⟨_, step_call_moves _ hmem (Function.update_self ..) rfl rfl, ?_⟩
      exact congrArg some (setTask_setTask ..)
  | @accept id shard r htask =>
    obtain ⟨o, ho⟩ := hmemory htask
    rw [asChain_setChain]
    exact (FilterChain.machine 1).run_cons_eq_some.2
      ⟨_, step_call_moves _ ho (tasks_asChain htask) rfl rfl, rfl⟩
  | @decline id shard r htask =>
    obtain ⟨o, ho⟩ := hmemory htask
    rw [asChain_setChain]
    refine (FilterChain.machine 1).run_cons_eq_some.2
      ⟨_, step_call_moves (.returned false) ho (tasks_asChain htask) rfl rfl, ?_⟩
    refine (FilterChain.machine 1).run_cons_eq_some.2
      ⟨_, step_next (Function.update_self ..), congrArg some ?_⟩
    exact setTask_setTask
      (c := { s with memory := s.memory.modify r Ownership.requestRevoke }.asChain) ..
  | @run id shard r b now next task hmem htask hrun =>
    have hpc : ∀ exit, task.pc ≠ .returned exit := by
      obtain ⟨pc, o, range⟩ := task
      rintro exit rfl
      cases hrun
    have hstep := step_run hmem htask hpc hrun
    rw [asChain_setChain]
    by_cases hclose : ∃ exit, task.pc = .close exit
    · obtain ⟨exit, hclose⟩ := hclose
      obtain ⟨pc, o, range⟩ := task
      cases hclose
      obtain ⟨-, rfl⟩ := GrantTask.straight_eq_some.1 hrun
      rw [chainEvents_close htask]
      refine (FilterChain.machine 1).run_cons_eq_some.2 ⟨_, hstep, ?_⟩
      refine (FilterChain.machine 1).run_cons_eq_some.2
        ⟨_, step_handled (Function.update_self ..), congrArg some ?_⟩
      exact setTask_setTask ..
    · have hnot := not_exists.1 hclose
      rw [chainEvents_run htask hnot]
      refine (FilterChain.machine 1).run_cons_eq_some.2 ⟨_, hstep, congrArg some ?_⟩
      have hnext := not_returned hrun hnot
      rw [asLink_running hnext, afterRun_call hnext]
  | @range id shard r pc range range' e htask hrange =>
    obtain ⟨o, ho⟩ := hmemory htask
    have htasks := tasks_asChain htask
    rw [asChain_setChain]
    cases pc with
    | returned exit =>
      have hnone : s.chainEvents (.range r e) = [] := by simp only [chainEvents, htask]
      rw [hnone]
      exact congrArg some (setTask_self htasks).symm
    | _ =>
      have hone : s.chainEvents (.range r e) = [.call r (.range e)] := by
        simp only [chainEvents, htask]
      rw [hone]
      refine (FilterChain.machine 1).run_cons_eq_some.2
        ⟨_, step_call_moves _ ho htasks (congrArg (Option.map _) hrange) rfl, rfl⟩
  | requestRevoke | timer => rfl
  | watcher => rfl

/-- **A node is a chain of one filter.** -/
theorem refines_chain : Machine.Simulation machine (FilterChain.machine 1) chainEvents
    fun s c => s.Sound ∧ c = s.asChain where
  init s hs := by
    cases hs
    refine ⟨initial.asChain, ⟨fun k => ?_, fun r => rfl⟩, .initial, rfl⟩
    exact ite_self (∅ : GrantMap OwnershipRef)
  step s e s' c hc hst := by
    obtain ⟨hsound, rfl⟩ := hc
    exact ⟨s'.asChain, step_asChain hsound hst, hsound.step hst, rfl⟩

/-- **A node runs a chain of one filter.** However the driver, the helpers, the chain tasks and the
Ranges of a node interleave, what they do to its ownerships, its chain tasks and its grant map is a
run of a dispatcher whose chain has one filter. -/
theorem one_filter {es : List Event} {s : Node} (hrun : machine.run initial es = some s) :
    (FilterChain.machine 1).run initial.asChain (machine.outputs chainEvents initial es) =
      some s.asChain := by
  obtain ⟨c, hc, -, rfl⟩ := refines_chain.run ⟨.initial, rfl⟩ hrun
  exact hc

end

/-! ## What becomes of a grant -/

/-- What a step must meet: no `run_grant` takes the branch of its Range's `closed` latch while the
grant is still to be served. -/
def StaysUntilReleased (s : Node) : Event → Prop
  | .run r .closed _ => ∀ o, s.memory r = some o → TryHandle.Released o
  | _ => True

/-- An assignment whose chain task is over is revoked, expired or asked to be revoked. -/
def NotAbandoned (s : Node) : Prop :=
  ∀ r task o, s.chains r = some task → s.memory r = some o → task.chain.over = true →
    TryHandle.Released o

theorem asLink_over {chain : Chain} (h : chain.over = true) : (asLink chain).over = true := by
  cases chain with
  | running pc range =>
    cases pc with
    | returned exit => rfl
    | _ => cases h
  | relinquished => rfl
  | tryHandle => cases h

/-- What a step meets, its events in the chain meet. -/
theorem StaysUntilReleased.chainEvents {e : Event} (h : s.StaysUntilReleased e) :
    (FilterChain.machine 1).Guarded FilterChain.StaysUntilReleased s.asChain (s.chainEvents e) := by
  cases e with
  | run r b now =>
    have hcall : FilterChain.StaysUntilReleased s.asChain (.call r (.run b now)) := by
      cases b with
      | closed => exact h
      | _ => trivial
    simp only [Node.chainEvents]
    split
    · exact Machine.guarded_cons.2 fun t ht =>
        ⟨hcall, Machine.guarded_cons.2 fun u hu => ⟨trivial, Machine.guarded_nil⟩⟩
    · exact Machine.guarded_cons.2 fun t ht => ⟨hcall, Machine.guarded_nil⟩
  | driver e =>
    refine Machine.guarded_of_forall fun ev hev c => ?_
    obtain ⟨eff, -, heff⟩ := List.mem_filterMap.1 hev
    cases eff <;> cases heff <;> trivial
  | build r accepted =>
    refine Machine.guarded_of_forall ?_
    cases accepted <;> simp [Node.chainEvents, FilterChain.StaysUntilReleased]
  | range r e =>
    refine Machine.guarded_of_forall ?_
    simp only [Node.chainEvents]
    split <;> simp [FilterChain.StaysUntilReleased]
  | dispatch | requestRevoke | timer | watcher =>
    exact Machine.guarded_of_forall (by simp [Node.chainEvents, FilterChain.StaysUntilReleased])

/-- **A node abandons no grant.** In every run of a node in which no Range closes itself while
`run_grant` waits for it to initialize, unless the grant is released by then: where the chain task
of an assignment is over, the factory has declined or `run_grant` has returned, the assignment is
revoked, expired or asked to be revoked. -/
theorem not_abandoned [UuidCrate] {es : List Event}
    (h : machine.Guarded StaysUntilReleased initial es) :
    machine.Always NotAbandoned initial es := by
  rintro pre t ⟨rest, rfl⟩ hrun
  have hchain := refines_chain.guarded (fun s e s' c hc _ hstays => by
      obtain ⟨-, rfl⟩ := hc
      exact hstays.chainEvents) ⟨.initial, rfl⟩ (Machine.guarded_append.1 h).1
  obtain ⟨c, hc, -, rfl⟩ := refines_chain.run ⟨.initial, rfl⟩ hrun
  obtain ⟨c₀, hinit, -, rfl⟩ := refines_chain.init initial rfl
  have hcleared := ((FilterChain.always_due hinit hchain).last hc).cleared
  intro r task o htask hmem hover
  exact hcleared r _ o (tasks_asChain htask) hmem (asLink_over hover)

/-! ## Runs -/

/-- An assignment that the factory declines. -/
def declinedRun : List Event :=
  .driver .start :: deliver (.assign [wireGrant "g" .allocated]) 3 ++
    [.dispatch ⟨"g"⟩ wholeDomain 0, .build 0 false]

/-- The chain of a node that serves a shard. -/
theorem one_filter_serving :
    let := UuidCrate.pair
    ∃ s task, machine.run initial (lifeRun.take 24) = some s ∧
      (FilterChain.machine 1).run initial.asChain
          (machine.outputs chainEvents initial (lifeRun.take 24)) = some s.asChain ∧
        s.asChain.tasks 0 = some task ∧ task.link.filter = some 0 ∧ task.link.over = false := by
  let := UuidCrate.pair
  have hend : (machine.run initial (lifeRun.take 24)).map (fun s =>
      (s.asChain.tasks 0).map fun task => (task.link.filter, task.link.over)) =
        some (some (some 0, false)) := by decide +kernel
  obtain ⟨s, hrun, htask⟩ := Option.map_eq_some_iff.1 hend
  obtain ⟨task, htask, hlink⟩ := Option.map_eq_some_iff.1 htask
  obtain ⟨hfilter, hover⟩ := Prod.mk.inj hlink
  exact ⟨s, task, hrun, one_filter hrun, htask, hfilter, hover⟩

/-- What becomes of a grant that is declined. -/
theorem not_abandoned_declined :
    let := UuidCrate.pair
    ∃ s, machine.run initial declinedRun = some s ∧
      (s.chains 0).map (·.chain) = some .relinquished ∧ s.NotAbandoned := by
  let := UuidCrate.pair
  have hend : (machine.run initial declinedRun).map (fun s => (s.chains 0).map (·.chain)) =
      some (some .relinquished) := by decide +kernel
  obtain ⟨s, hrun, hchain⟩ := Option.map_eq_some_iff.1 hend
  have hguard : machine.Guarded StaysUntilReleased initial declinedRun :=
    Machine.guarded_of_forall (by simp [declinedRun, deliver, StaysUntilReleased])
  exact ⟨s, hrun, hchain, (not_abandoned hguard).last hrun⟩

end Node

end Splitter
