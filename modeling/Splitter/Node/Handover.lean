import Splitter.Driver.Account
import Splitter.Node.Cell
import Splitter.Processor.Handover

/-!
# Handover safety

An update that tells the coordinator of a load or an unload is enqueued only when the assignment it
is for has got that far: `handover_safe`, for every run of a node. The watchers send these updates,
the tasks close the signals the watchers wait for, and the driver closes the latches the tasks wait
for, so the invariant (`Sound`) runs through all three: what the driver has still to carry out and
every latch it closed are accounted for by what it handled (`Accounted`), what a task has signalled
by what it has been through (`GrantTask.Evidence`), and a watcher that sends by its signal.
-/

namespace Splitter

/-! ## Signals -/

/-- A signal that comes from a justified effect, a timer or the user is accounted for. -/
theorem Accounted.signal {history : List Handled} {pending : List Effect} {r : OwnershipRef}
    {o : Ownership} {sig : Signal} (h : Accounted history r o)
    (hjust : ∀ e ∈ pending, e.Justified history) (hsig : Node.Sends pending r sig) :
    Accounted history r (sig.apply o) := by
  rcases hsig with ⟨e, he, hsig⟩ | rfl | rfl
  · have hj := hjust e he
    cases e with
    | activate k => cases hsig; exact { h with active := fun _ => hj }
    | revoke k => cases hsig; exact { h with revoked := fun _ => hj }
    | counterpartUnloaded k => cases hsig; exact { h with unloaded := fun _ => hj }
    | expire | counterpartLoaded | setExpiration => cases hsig; exact { h with }
    | _ => cases hsig
  · exact { h with }
  · exact { h with }

/-- The task's own steps leave the driver's latches alone. -/
theorem Accounted.run {history : List Handled} {r : OwnershipRef} {s t : GrantTask}
    {b : Ownership.Branch} {now : SystemTime} (h : Accounted history r s.ownership)
    (hrun : s.run b now = some t) : Accounted history r t.ownership := by
  cases GrantTask.run_cases hrun with
  | load | unload => exact { h with }
  | _ => exact h

namespace Node

/-! ## The invariant of a cell -/

/-- What the latches of an ownership say about the chain task of its assignment. -/
def TaskEvidence (o : Ownership) : Option ChainTask → Prop
  | some { chain := .running pc range, .. } =>
    ({ pc, ownership := o, range } : GrantTask).Evidence
  | _ => Unsignalled o

/-- What holds of each assignment. -/
structure Cell.Sound (history : List Handled) (r : OwnershipRef) (c : Cell) : Prop where
  accounted : ∀ o, c.ownership = some o → Accounted history r o ∧ TaskEvidence o c.task
  dispatched : c.task ≠ none → c.ownership ≠ none
  assigned : ∀ h, c.helpers = some h → .assign r h.grant ∈ history
  sending : ∀ h kind, c.helpers = some h → h.watcher kind = .sending →
    ∃ o, c.ownership = some o ∧ (kind.signal o).isClosed = true

/-- A signal from outside leaves the evidence. -/
theorem TaskEvidence.signal {o : Ownership} {task : Option ChainTask} (h : TaskEvidence o task)
    (sig : Signal) : TaskEvidence (sig.apply o) task := by
  have hopen : Unsignalled o → Unsignalled (sig.apply o) := by
    intro hopen
    unfold Unsignalled
    rw [Signal.load_apply, Signal.unload_apply]
    exact hopen
  rcases task with _ | ⟨id, shard, _ | ⟨pc, range⟩ | _⟩
  · exact hopen h
  · exact hopen h
  · exact GrantTask.Evidence.step (e := .signal sig) h rfl
  · exact hopen h

/-- A closed signal of a watcher stays closed. -/
theorem signal_mono {o o' : Ownership} (hle : o.Le o') (kind : Watcher.Kind)
    (h : (kind.signal o).isClosed = true) : (kind.signal o').isClosed = true := by
  cases kind with
  | load => exact hle.load h
  | unload => exact hle.unload h
  | requestRevoke => exact hle.requestRevokeSignal h

/-- A watcher that sends has seen its signal closed. -/
theorem sending_step {h h' : Helpers} {o : Ownership} {kind k : Watcher.Kind}
    {act : Watcher.Act} {frame : Option pb.JoinMessage} (hst : h.step o kind act = some (h', frame))
    (hk : h'.watcher k = .sending) : h.watcher k = .sending ∨ (k.signal o).isClosed = true := by
  rcases Helpers.step_cases hst with ⟨-, hclosed, rfl, -⟩ | ⟨rfl, -⟩ | ⟨-, rfl, -⟩
  all_goals
    by_cases heq : k = kind
    · subst heq
      simp_all [Helpers.set]
    · simp_all [Helpers.set]

/-- The watchers of an assignment keep their copy of the grant. -/
theorem grant_step {h h' : Helpers} {o : Ownership} {kind : Watcher.Kind} {act : Watcher.Act}
    {frame : Option pb.JoinMessage} (hst : h.step o kind act = some (h', frame)) :
    h'.grant = h.grant := by
  rcases Helpers.step_cases hst with ⟨-, -, rfl, -⟩ | ⟨rfl, -⟩ | ⟨-, rfl, -⟩ <;> rfl

namespace Cell.Sound

variable {history history' : List Handled} {r : OwnershipRef} {c c' : Cell}

/-- The history only grows. -/
theorem mono (h : c.Sound history r) (hsub : history ⊆ history') : c.Sound history' r where
  accounted o ho := ⟨(h.accounted o ho).1.mono hsub, (h.accounted o ho).2⟩
  dispatched := h.dispatched
  assigned hs hh := hsub (h.assigned hs hh)
  sending := h.sending

/-- A change of the ownership, with the task it says something about. -/
theorem memory {o o' : Ownership} (h : c.Sound history r) (task : Option ChainTask)
    (ho : c.ownership = some o) (hle : o.Le o') (hacc : Accounted history r o')
    (htask : TaskEvidence o' task) :
    Cell.Sound history r { c with ownership := some o', task } where
  accounted k hk := by
    cases hk
    exact ⟨hacc, htask⟩
  dispatched _ := nofun
  assigned := h.assigned
  sending hs kind hh hsending := by
    obtain ⟨o₀, ho₀, hclosed⟩ := h.sending hs kind hh hsending
    rw [ho] at ho₀
    cases ho₀
    exact ⟨o', rfl, signal_mono hle kind hclosed⟩

/-- A new state of the task, which the latches bear out. -/
theorem setTask (h : c.Sound history r) (task : ChainTask) (hne : c.ownership ≠ none)
    (htask : ∀ o, TaskEvidence o c.task → TaskEvidence o (some task)) :
    Cell.Sound history r { c with task := some task } where
  accounted o ho := ⟨(h.accounted o ho).1, htask o (h.accounted o ho).2⟩
  dispatched _ := hne
  assigned := h.assigned
  sending := h.sending

/-- A new state of the helpers, in which a watcher that sends has seen its signal closed. -/
theorem setHelpers (h : c.Sound history r) (helpers : Helpers)
    (hassigned : .assign r helpers.grant ∈ history)
    (hsending : ∀ kind, helpers.watcher kind = .sending →
      ∃ o, c.ownership = some o ∧ (kind.signal o).isClosed = true) :
    Cell.Sound history r { c with helpers := some helpers } where
  accounted := h.accounted
  dispatched := h.dispatched
  assigned hs hh := by
    cases hh
    exact hassigned
  sending hs kind hh hs' := by
    cases hh
    exact hsending kind hs'

/-- **The step lemma.** -/
theorem step {pending : List Effect} (h : c.Sound history r)
    (hjust : ∀ e ∈ pending, e.Justified history)
    (hfresh : ∀ o, .new r o ∈ pending → c.ownership = none) (hst : CellStep pending r c c') :
    c'.Sound history r := by
  cases hst with
  | new o hnew =>
    have hnone := hfresh o hnew
    have htask : c.task = none := by
      by_contra htask
      exact h.dispatched htask hnone
    have hj := hjust _ hnew
    refine ⟨fun o' ho' => ?_, fun _ => nofun, h.assigned, fun hs kind hh hsending => ?_⟩
    · cases ho'
      refine ⟨hj.1, ?_⟩
      rw [htask]
      exact hj.2
    · obtain ⟨o', ho', -⟩ := h.sending hs kind hh hsending
      rw [hnone] at ho'
      cases ho'
  | @signal o sig hsig ho =>
    obtain ⟨hacc, htask⟩ := h.accounted o ho
    exact h.memory c.task ho (Signal.le_apply o sig) (hacc.signal hjust hsig) (htask.signal sig)
  | spawn g hspawn => exact h.setHelpers _ (hjust _ hspawn) fun kind hsending => by cases hsending
  | @abort hs hh => exact h.setHelpers _ (h.assigned hs hh) fun kind => h.sending hs kind hh
  | @dispatch o id shard ho htask =>
    refine h.setTask _ (by simp [ho]) fun o hev => ?_
    rw [htask] at hev
    exact hev
  | @accept id shard htask =>
    refine h.setTask _ (h.dispatched (by simp [htask])) fun o hev => ?_
    rw [htask] at hev
    exact .start rfl hev.1 hev.2
  | @decline id shard htask =>
    obtain ⟨o, ho⟩ := Option.ne_none_iff_exists'.1 (h.dispatched (by simp [htask]))
    obtain ⟨hacc, hev⟩ := h.accounted o ho
    rw [htask] at hev
    have hsound := h.memory (some { id, shard, chain := .relinquished }) ho o.le_requestRevoke
      { hacc with } (hev.signal .requestRevoke)
    rwa [ho]
  | @run id shard b now task next ho htask hrun =>
    obtain ⟨hacc, hev⟩ := h.accounted _ ho
    rw [htask] at hev
    exact h.memory _ ho (GrantTask.le_run hrun) (hacc.run hrun)
      (GrantTask.Evidence.step (e := .run b now) hev hrun)
  | @range id shard pc range range' e htask hrange =>
    refine h.setTask _ (h.dispatched (by simp [htask])) fun o hev => ?_
    rw [htask] at hev
    have hstep : GrantTask.step { pc, ownership := o, range } (.range e) =
        some { pc, ownership := o, range := range' } := by
      simp [GrantTask.step, hrange]
    exact GrantTask.Evidence.step hev hstep
  | @watcher kind act o hs hs' frame ho hh hst =>
    have hassigned : .assign r hs'.grant ∈ history := by
      rw [grant_step hst]
      exact h.assigned hs hh
    refine h.setHelpers hs' hassigned fun kind' hsending => ?_
    rcases sending_step hst hsending with hbefore | hclosed
    · exact h.sending hs kind' hh hbefore
    · exact ⟨o, ho, hclosed⟩

end Cell.Sound

/-! ## The invariant of the node -/

/-- What holds in every state of a node. -/
structure Sound (s : Node) : Prop where
  grounded : s.loop.driver.Grounded s.memory
  heartbeat : ∀ frame, s.loop.pc = .heartbeat frame → ∃ now, frame = heartbeatFrame now
  cells : ∀ r, (s.cell r).Sound s.loop.driver.history r

theorem Sound.initial : Sound initial where
  grounded := Driver.Grounded.initial
  heartbeat _ h := by cases h
  cells _ :=
    { accounted := fun _ h => by cases h
      dispatched := fun h => absurd rfl h
      assigned := fun _ h => by cases h
      sending := fun _ _ h => by cases h }

/-- The frames of a step leave the memory. -/
theorem foldl_exec_frames (mem : Memory) {effects : List Effect}
    (h : ∀ e ∈ effects, ∃ frame, e = .enqueue frame) : effects.foldl Effect.exec mem = mem := by
  induction effects with
  | nil => rfl
  | cons e effects ih =>
    obtain ⟨frame, rfl⟩ := h e (List.mem_cons_self ..)
    exact ih fun e he => h e (List.mem_cons_of_mem _ he)

section
variable [UuidCrate]

/-- The driver keeps itself grounded in the memory it leaves. -/
theorem grounded_driver {s : Node} {e : Loop.Event} {loop : Loop}
    (h : s.loop.driver.Grounded s.memory) (hst : s.loop.step e = some loop) :
    loop.driver.Grounded ((s.loop.carried e).foldl Effect.exec s.memory) := by
  rcases Loop.driver_step hst with ⟨eff, rest, hpending, hcarried, hdriver⟩ | ⟨hedits, hframes⟩
  · rw [hcarried, hdriver]
    exact h.exec hpending
  · rw [foldl_exec_frames _ hframes]
    exact hedits.invariant (fun _ _ h hedit => h.edit hedit) h

/-- The history only grows. -/
theorem history_driver {s t : Loop} {e : Loop.Event} (hst : s.step e = some t) :
    s.driver.history ⊆ t.driver.history := by
  rcases Loop.driver_step hst with ⟨eff, rest, -, -, hdriver⟩ | ⟨hedits, -⟩
  · rw [hdriver]
    exact List.Subset.refl _
  · exact Driver.history_edits hedits

/-- The heartbeat that is being sent is one. -/
theorem heartbeat_driver {s t : Loop} {e : Loop.Event} (hst : s.step e = some t)
    (h : ∀ frame, s.pc = .heartbeat frame → ∃ now, frame = heartbeatFrame now) :
    ∀ frame, t.pc = .heartbeat frame → ∃ now, frame = heartbeatFrame now := by
  intro frame hframe
  cases Loop.step_cases hst with
  | shutdown | exec => exact h frame hframe
  | takeTick now => cases hframe; exact ⟨now, rfl⟩
  | takeInbound item => rcases item with _ | ⟨_ | _⟩ <;> cases hframe
  | @handled result now => rcases result with (_ | _) | (_ | _) <;> cases hframe
  | _ => cases hframe

/-- A step is a step of the driver, or leaves it and allocates nothing. -/
theorem step_loop {s t : Node} {e : Event} (hstep : s.step e = some t) :
    (∃ e, s.loop.step e = some t.loop ∧
        t.memory = (s.loop.carried e).foldl Effect.exec s.memory) ∨
      t.loop = s.loop ∧ ∀ r, s.memory r = none → t.memory r = none := by
  cases step_cases hstep with
  | @driver e loop hloop =>
    obtain ⟨helpers, heq⟩ := foldl_carryOut { s with loop } (s.loop.carried e)
    rw [heq]
    exact .inl ⟨e, hloop, rfl⟩
  | @run id shard r b now next task hmem =>
    refine .inr ⟨rfl, fun k hk => ?_⟩
    have hne : k ≠ r := by
      rintro rfl
      rw [hk] at hmem
      cases hmem
    exact (Function.update_of_ne hne ..).trans hk
  | @decline id shard r =>
    exact .inr ⟨rfl, (Memory.le_modify s.memory r Ownership.le_requestRevoke).2⟩
  | @requestRevoke r =>
    exact .inr ⟨rfl, (Memory.le_modify s.memory r Ownership.le_requestRevoke).2⟩
  | @timer r => exact .inr ⟨rfl, (Memory.le_modify s.memory r Ownership.le_expire).2⟩
  | _ => exact .inr ⟨rfl, fun _ hk => hk⟩

/-- **The step lemma.** -/
theorem Sound.step {s t : Node} {e : Event} (h : s.Sound) (hstep : s.step e = some t) :
    t.Sound := by
  have hfresh : ∀ r o, .new r o ∈ s.loop.driver.pending → s.memory r = none := by
    intro r o hnew
    exact (h.grounded.fresh r (List.mem_filterMap.2 ⟨_, hnew, rfl⟩)).2
  have hcells : ∀ r, (t.cell r).Sound s.loop.driver.history r := by
    intro r
    rcases step_cell hstep r with hsame | hcell
    · rw [hsame]
      exact h.cells r
    · exact (h.cells r).step h.grounded.justified (fun o hnew => hfresh r o hnew) hcell
  rcases step_loop hstep with ⟨e, hloop, hmem⟩ | ⟨hloop, hmem⟩
  · refine ⟨?_, heartbeat_driver hloop h.heartbeat, fun r => (hcells r).mono ?_⟩
    · rw [hmem]
      exact grounded_driver h.grounded hloop
    · exact history_driver hloop
  · rw [← hloop] at hcells
    refine ⟨?_, ?_, hcells⟩
    · rw [hloop]
      exact h.grounded.congr hmem
    · rw [hloop]
      exact h.heartbeat

end

/-! ## Handover safety -/

/-- The frame is an `Update` of a grant in a state. -/
def Reports (frame : pb.JoinMessage) (g : pb.Grant) (state : pb.GrantState) : Prop :=
  frame = Loop.wrapClient (.update (some g)) ∧ g.state = state.toI32

/-- What an assignment has been through when its load is reported: its Range has closed its
`initialized` latch, and the driver has handled a notification that the counterpart has unloaded, a
promotion, or the assignment as an active one. -/
structure LoadReady (s : Node) (r : OwnershipRef) (id : String) : Prop where
  assigned : ∃ g, Handled.assign r g ∈ s.loop.driver.history ∧ g.id = id
  initialized : ∃ task, s.grantTask r = some task ∧ task.range.initialized.isClosed = true
  cleared : Activated s.loop.driver.history r ∨ CounterpartUnloaded s.loop.driver.history r

/-- What an assignment has been through when its unload is reported: its load was signalled, it was
activated and revoked, `drain` was called and the latch it returned has closed. -/
structure UnloadReady (s : Node) (r : OwnershipRef) (id : String) : Prop where
  assigned : ∃ g, Handled.assign r g ∈ s.loop.driver.history ∧ g.id = id
  activated : Activated s.loop.driver.history r
  revoked : RevokeHandled s.loop.driver.history r
  drained : ∃ task, s.grantTask r = some task ∧
    task.ownership.loader.load.isClosed = true ∧ task.ownership.active.isClosed = true ∧
    task.ownership.revoked.isClosed = true ∧ task.range.drainCalled.isSome = true ∧
    task.range.drainReturned = true ∧ task.range.drained.isClosed = true

/-- A step enqueues a report of a load or an unload only for an assignment that is ready for it. -/
def HandoverSafe [UuidCrate] (s : Node) (e : Event) : Prop :=
  ∀ t, s.step e = some t → ∃ sent, t.outbound = s.outbound ++ sent ∧
    ∀ sender frame g, (sender, frame) ∈ sent →
      (Reports frame g .allocatedLoaded → ∃ r, sender = some r ∧ s.LoadReady r g.id) ∧
        (Reports frame g .revokedUnloaded → ∃ r, sender = some r ∧ s.UnloadReady r g.id)

/-- A frame that reports a state comes from the watcher of the state's signal. -/
theorem kind_of_reports {kind : Watcher.Kind} {grant g : pb.Grant} {state : pb.GrantState}
    (h : Reports (kind.frame grant) g state) :
    g.id = grant.id ∧
      (kind = .load ∧ state = .allocatedLoaded ∨ kind = .unload ∧ state = .revokedUnloaded) := by
  obtain ⟨hframe, hstate⟩ := h
  cases kind with
  | load =>
    have hg : { grant with state := pb.GrantState.allocatedLoaded.toI32 } = g := by
      simpa [Watcher.Kind.frame, Watcher.updateFrame, Loop.wrapClient] using hframe
    subst hg
    exact ⟨rfl, .inl ⟨rfl, (pb.GrantState.toI32_injective hstate).symm⟩⟩
  | unload =>
    have hg : { grant with state := pb.GrantState.revokedUnloaded.toI32 } = g := by
      simpa [Watcher.Kind.frame, Watcher.updateFrame, Loop.wrapClient] using hframe
    subst hg
    exact ⟨rfl, .inr ⟨rfl, (pb.GrantState.toI32_injective hstate).symm⟩⟩
  | requestRevoke => simp [Watcher.Kind.frame, Watcher.revokeFrame, Loop.wrapClient] at hframe

/-- A task that has signalled runs, and its past is known. -/
theorem TaskEvidence.running {s : Node} {r : OwnershipRef} {o : Ownership}
    (h : TaskEvidence o (s.chains r)) (ho : s.memory r = some o) (hsignalled : ¬ Unsignalled o) :
    ∃ task, s.grantTask r = some task ∧ task.ownership = o ∧ task.Evidence := by
  unfold grantTask
  rw [ho]
  revert h
  rcases s.chains r with _ | ⟨id, shard, _ | ⟨pc, range⟩ | _⟩
  · exact fun h => absurd h hsignalled
  · exact fun h => absurd h hsignalled
  · exact fun h => ⟨_, rfl, rfl, h⟩
  · exact fun h => absurd h hsignalled

/-- A closed load signal makes the assignment ready to report its load. -/
theorem Sound.loadReady {s : Node} {r : OwnershipRef} {o : Ownership} {hs : Helpers} (h : s.Sound)
    (ho : s.memory r = some o) (hh : s.helpers r = some hs)
    (hload : o.loader.load.isClosed = true) : s.LoadReady r hs.grant.id := by
  obtain ⟨hacc, hev⟩ := (h.cells r).accounted o ho
  obtain ⟨task, htask, rfl, hevidence⟩ := hev.running ho (by simp [Unsignalled, hload])
  obtain ⟨hclear, hinit⟩ := hevidence.load hload
  exact
    { assigned := ⟨hs.grant, (h.cells r).assigned hs hh, rfl⟩
      initialized := ⟨task, htask, hinit⟩
      cleared := hclear.imp hacc.active hacc.unloaded }

/-- A closed unload signal makes the assignment ready to report its unload. -/
theorem Sound.unloadReady {s : Node} {r : OwnershipRef} {o : Ownership} {hs : Helpers}
    (h : s.Sound) (ho : s.memory r = some o) (hh : s.helpers r = some hs)
    (hunload : o.unloader.unload.isClosed = true) : s.UnloadReady r hs.grant.id := by
  obtain ⟨hacc, hev⟩ := (h.cells r).accounted o ho
  obtain ⟨task, htask, rfl, hevidence⟩ := hev.running ho (by simp [Unsignalled, hunload])
  obtain ⟨⟨⟨⟨⟨hload, hactive⟩, hrevoked⟩, hcalled⟩, hreturned⟩, hdrained⟩ :=
    hevidence.unload hunload
  exact
    { assigned := ⟨hs.grant, (h.cells r).assigned hs hh, rfl⟩
      activated := hacc.active hactive
      revoked := hacc.revoked hrevoked
      drained := ⟨task, htask, hload, hactive, hrevoked, hcalled, hreturned, hdrained⟩ }

/-- The driver's own frames report no state. -/
theorem not_reports_driver {s : Node} {e : Loop.Event} {frame : pb.JoinMessage} {g : pb.Grant}
    {state : pb.GrantState} (h : s.Sound) (hcarried : .enqueue frame ∈ s.loop.carried e) :
    ¬ Reports frame g state := by
  rintro ⟨rfl, -⟩
  cases e with
  | exec =>
    exact h.grounded.justified _ (List.mem_of_mem_take hcarried)
  | sent ok =>
    cases ok with
    | false => cases hcarried
    | true =>
      simp only [Loop.carried] at hcarried
      split at hcarried
      · next frame hpc =>
        obtain ⟨now, rfl⟩ := h.heartbeat frame hpc
        simp [heartbeatFrame, wrapSession, Loop.wrapClient] at hcarried
      · simp [Loop.deregisterFrame, Loop.wrapClient] at hcarried
      · simp [closedFrame, wrapSession, Loop.wrapClient] at hcarried
      · cases hcarried
  | _ => cases hcarried

section
variable [UuidCrate]

/-- In a sound state every step is safe. -/
theorem Sound.handoverSafe {s : Node} (h : s.Sound) (e : Event) : s.HandoverSafe e := by
  intro t hstep
  cases step_cases hstep with
  | @driver e loop hloop =>
    obtain ⟨helpers, heq⟩ := foldl_carryOut { s with loop } (s.loop.carried e)
    rw [heq]
    refine ⟨_, rfl, fun sender frame g hsent => ?_⟩
    have hcarried : .enqueue frame ∈ s.loop.carried e := by
      obtain ⟨eff, heff, hframe⟩ := List.mem_filterMap.1 hsent
      cases eff <;> cases hframe
      exact heff
    exact ⟨fun hr => absurd hr (not_reports_driver h hcarried),
      fun hr => absurd hr (not_reports_driver h hcarried)⟩
  | @watcher r kind act o hs hs' frame hmem hhelpers hst =>
    refine ⟨_, rfl, fun sender f g hsent => ?_⟩
    obtain ⟨f', hf', heq⟩ := List.mem_map.1 hsent
    cases heq
    obtain ⟨-, -, -, rfl⟩ | ⟨-, rfl⟩ | ⟨hsending, -, rfl, -⟩ := Helpers.step_cases hst
    · cases hf'
    · cases hf'
    obtain rfl := List.mem_singleton.1 hf'
    obtain ⟨o', ho', hclosed⟩ := (h.cells r).sending hs kind hhelpers hsending
    rw [show s.memory r = some o' from ho'] at hmem
    cases hmem
    constructor
    · intro hr
      obtain ⟨hid, ⟨rfl, -⟩ | ⟨-, hne⟩⟩ := kind_of_reports hr
      · rw [hid]
        exact ⟨r, rfl, h.loadReady ho' hhelpers hclosed⟩
      · cases hne
    · intro hr
      obtain ⟨hid, ⟨-, hne⟩ | ⟨rfl, -⟩⟩ := kind_of_reports hr
      · cases hne
      · rw [hid]
        exact ⟨r, rfl, h.unloadReady ho' hhelpers hclosed⟩
  | _ => exact ⟨[], (List.append_nil _).symm, fun _ _ _ hsent => by cases hsent⟩

/-- **Handover safety.** In every run of a node, whatever the coordinator sends and however the
driver, the watchers, the tasks and the Ranges are scheduled, a load is reported only by an
assignment that may take over and whose Range is initialized, and an unload only by one that has
served, was revoked and is drained. -/
theorem handover_safe (es : List Event) : machine.Guarded HandoverSafe initial es := by
  have hall : machine.Always Sound initial es :=
    Machine.always_of_invariant (fun _ _ _ h hst => h.step hst) .initial es
  exact hall.guarded fun s e _ h _ => h.handoverSafe e

end

/-! ## A run that hands over -/

/-- A grant's whole life: allocated, taken over, promoted, revoked, drained and given up. -/
def lifeRun : List Event :=
  .driver .start :: deliver (.assign [wireGrant "g" .allocated]) 3 ++
    [.dispatch ⟨"g"⟩ wholeDomain 0, .build 0 true] ++
    deliver (.notify { target := some (wireGrant "g" .allocated)
                       update := some (wireGrant "g" .revokedUnloaded) }) 1 ++
    runTask 0 [.unloaded, .go] ++ [.range 0 .initialized] ++ runTask 0 [.action, .go] ++
    [.watcher 0 .load .wake, .watcher 0 .load (.sent true)] ++
    deliver (.promote [wireGrant "g" .active]) 1 ++ runTask 0 [.go, .active, .go] ++
    deliver (.revoke [wireGrant "g" .revoked]) 1 ++ runTask 0 [.revoked, .go, .go] ++
    [.range 0 .drainReturn] ++ runTask 0 [.go] ++ [.range 0 .drainClose] ++
    runTask 0 [.action, .go, .go] ++ [.watcher 0 .unload .wake, .watcher 0 .unload (.sent true)]

example :
    let := UuidCrate.pair
    (machine.run initial lifeRun).map (·.outbound) =
      some [(some 0, Watcher.updateFrame (wireGrant "g" .allocated) .allocatedLoaded),
        (some 0, Watcher.updateFrame (wireGrant "g" .allocated) .revokedUnloaded)] := rfl

end Node

end Splitter
