import Splitter.Lib.Simulation
import Splitter.Node.Graceful
import Splitter.Node.Table
import Splitter.Processor.Stages

/-!
# What the processor's grant map says

`Processor::grants` is how everybody else in the process finds the Ranges of a node. `map_history`:
the map is made by the tasks' accesses alone, and those of each assignment are the states of a grant
in order, none left out, and at most one delete at the end. `entries_vouched`: whatever a reader
finds, at any time, is the open Range of an announced assignment, under its id and with its shard,
in a state that the ownership, the Range and the messages handled bear out.
-/

namespace Splitter

namespace Node

/-! ## The accesses of a run -/

/-- An access of a task, with what it is made with. -/
structure Access where
  id : GrantId
  shard : Shard
  value : OwnershipRef
  act : GrantMap.Access

namespace Access

/-- The map after an access. -/
def apply (m : GrantMap OwnershipRef) (a : Access) : GrantMap OwnershipRef :=
  m.access a.id a.shard a.value a.act

/-- What one assignment does. -/
def of (r : OwnershipRef) (a : Access) : Option GrantMap.Access :=
  if a.value = r then some a.act else none

end Access

/-- The access to the grant map that a step makes. -/
def accesses (s : Node) : Event → List Access
  | .run r _ _ =>
    match s.chains r with
    | some { id, shard, chain := .running pc _ } =>
      (pc.access.map fun act => { id, shard, value := r, act : Access }).toList
    | _ => []
  | _ => []

/-- Where the entry of an assignment stands. -/
def place (s : Node) (r : OwnershipRef) : Itinerary.Place :=
  match s.chains r with
  | some { chain := .running pc _, .. } => pc.place
  | _ => .start

variable {s t : Node} {r : OwnershipRef}

theorem place_congr (h : t.chains r = s.chains r) : t.place r = s.place r := by
  unfold place
  rw [h]

theorem place_setChain (task : ChainTask) (k : OwnershipRef) :
    (s.setChain k task).place r = if r = k then
        match task.chain with
        | .running pc _ => pc.place
        | _ => .start
      else s.place r := by
  by_cases hk : r = k
  · subst hk
    obtain ⟨id, shard, _ | ⟨pc, range⟩ | _⟩ := task <;> simp [place, setChain]
  · rw [if_neg hk]
    exact place_congr (Function.update_of_ne hk ..)

section
variable [UuidCrate]

/-- **The entry of each assignment goes along the route**, whatever else the node does. -/
theorem journey (r : OwnershipRef) :
    Machine.Simulation machine (Itinerary.machine GrantTask.route)
      (fun s e => (s.accesses e).filterMap (Access.of r)) fun s p => p = s.place r where
  init s hs := by
    cases hs
    exact ⟨.start, rfl, rfl⟩
  step s e t p hp hst := by
    subst hp
    cases step_cases hst with
    | @driver e loop hloop =>
      obtain ⟨helpers, heq⟩ := foldl_carryOut { s with loop } (s.loop.carried e)
      rw [heq]
      exact ⟨_, rfl, rfl⟩
    | @dispatch id shard k o hmem hfree =>
      refine ⟨_, rfl, ?_⟩
      rw [place_setChain]
      split
      · next hk => subst hk; simp [place, hfree]
      · rfl
    | @accept id shard k htask =>
      refine ⟨_, rfl, ?_⟩
      rw [place_setChain]
      split
      · next hk => subst hk; simp only [place, htask]; rfl
      · rfl
    | @decline id shard k htask | @range id shard k pc range range' e htask hrange =>
      refine ⟨_, rfl, ?_⟩
      rw [place_setChain]
      split
      · next hk => subst hk; simp only [place, htask]
      · rfl
    | requestRevoke | timer | watcher => exact ⟨_, rfl, rfl⟩
    | @run id shard k b now next task hmem htask hrun =>
      refine ⟨_, ?_, rfl⟩
      rw [place_setChain]
      split
      · next hk =>
        subst hk
        have hacc : (s.accesses (.run r b now)).filterMap (Access.of r) =
            task.pc.access.toList := by
          simp only [accesses, htask]
          cases task.pc.access <;> simp [Access.of]
        have hplace : s.place r = task.pc.place := by simp only [place, htask]
        rw [hacc, hplace]
        exact GrantTask.place_run hrun
      · next hk =>
        have hacc : (s.accesses (.run k b now)).filterMap (Access.of r) = [] := by
          simp only [accesses, htask]
          cases task.pc.access <;> simp [Access.of, Ne.symm hk]
        rw [hacc]
        rfl

/-- A step changes the map by its accesses. -/
theorem grants_step {e : Event} (hst : s.step e = some t) :
    t.grants = (s.accesses e).foldl Access.apply s.grants := by
  cases step_cases hst with
  | @driver e loop hloop =>
    obtain ⟨helpers, heq⟩ := foldl_carryOut { s with loop } (s.loop.carried e)
    rw [heq]
    rfl
  | @run id shard k b now next task hmem htask hrun =>
    show ((task.pc.mapOp id shard k).getD fun m => m) s.grants = _
    simp only [accesses, htask, GrantTask.mapOp_eq]
    cases task.pc.access <;> rfl
  | _ => rfl

/-- **The history of the grant map.** In every run of a node, the map is what the accesses of the
`run_grant` tasks make of an empty one, in their order; and the accesses of each assignment are the
states of a grant in order, as many as its task has come by, and its delete if the task has left. -/
theorem map_history {es : List Event} (hrun : machine.run initial es = some s) :
    s.grants = (machine.outputs accesses initial es).foldl Access.apply ∅ ∧
      ∀ r, (machine.outputs accesses initial es).filterMap (Access.of r) =
        (s.place r).log GrantTask.route := by
  constructor
  · have hlog : s.grants = ([] ++ machine.outputs accesses initial es).foldl Access.apply ∅ :=
      Machine.run_outputs (I := fun s log => s.grants = log.foldl Access.apply ∅)
        (fun s e t log h hst => by rw [grants_step hst, h, List.foldl_append]) rfl hrun
    exact hlog
  · intro r
    obtain ⟨p, hp, rfl⟩ := (journey r).run (t := .start) rfl hrun
    rw [Machine.outputs_filterMap] at hp
    exact Itinerary.log_of_run hp

end

/-! ## What an entry says -/

/-- What holds of the task of an assignment once it runs. -/
def Cell.Vouched (c : Cell) : Prop :=
  ∀ o id shard pc range, c.ownership = some o →
    c.task = some { id, shard, chain := .running pc range } →
      ({ pc, ownership := o, range } : GrantTask).Vouched

/-- The step lemma of a cell. -/
theorem Cell.Vouched.step {history : List Handled} {pending : List Effect} {c c' : Cell}
    (h : c.Vouched) (hsound : c.Sound history r)
    (hfresh : ∀ o, .new r o ∈ pending → c.ownership = none) (hst : CellStep pending r c c') :
    c'.Vouched := by
  have hev : ∀ o id shard pc range, c.ownership = some o →
      c.task = some { id, shard, chain := .running pc range } →
        ({ pc, ownership := o, range } : GrantTask).Evidence := by
    intro o id shard pc range ho htask
    have hev := (hsound.accounted o ho).2
    rw [htask] at hev
    exact hev
  intro o id shard pc range ho htask
  cases hst with
  | new o' hnew =>
    have hsome : c.task ≠ none := (Option.isSome_iff_ne_none.1 (Option.isSome_of_eq_some htask))
    exact absurd (hfresh o' hnew) (hsound.dispatched hsome)
  | @signal o' sig hsig ho' =>
    cases ho
    exact (h o' id shard pc range ho' htask).step (e := .signal sig) (hev _ _ _ _ _ ho' htask) rfl
  | dispatch | decline => cases htask
  | @accept id' shard' htask' =>
    cases htask
    have hopen := (hsound.accounted o ho).2
    rw [htask'] at hopen
    exact .start hopen.2
  | @run id' shard' b now task next ho' htask' hrun =>
    cases ho
    cases htask
    exact (h _ _ _ _ _ ho' htask').step (e := .run b now) (hev _ _ _ _ _ ho' htask') hrun
  | @range id' shard' pc' range' range'' e htask' hrange =>
    cases htask
    refine (h o _ _ _ _ ho htask').step (e := .range e) (hev _ _ _ _ _ ho htask') ?_
    simp only [GrantTask.step, hrange, Option.map_some]
  | spawn | abort | watcher => exact h o id shard pc range ho htask

/-- The entry is that of a running task with its id and shard, in the state the task wrote last. -/
def Backed (chains : OwnershipRef → Option ChainTask) (id : GrantId)
    (entry : GrantMap.Entry OwnershipRef) : Prop :=
  ∃ pc range, chains entry.value = some { id, shard := entry.shard, chain := .running pc range } ∧
    pc.state = some entry.state ∧ pc.left = false

/-- What holds of the grant map in every state of a node. -/
structure Registered (s : Node) : Prop where
  sound : s.Sound
  announced : ∀ r task, s.chains r = some task →
    GrantEvent.assigned task.id task.shard r ∈ Effect.events s.loop.done
  entries : ∀ id entry, s.grants.lookup id = some entry → Backed s.chains id entry
  vouched : ∀ r, (s.cell r).Vouched

theorem Registered.initial : Registered initial where
  sound := .initial
  announced _ _ h := by cases h
  entries _ _ h := by cases h
  vouched _ _ _ _ _ _ h := by cases h

/-- A chain task that was changed, or another one. -/
theorem chains_of_setChain {k : OwnershipRef} {task task' : ChainTask}
    (h : (s.setChain k task').chains r = some task) :
    r = k ∧ task = task' ∨ s.chains r = some task := by
  by_cases hk : r = k
  · subst hk
    simp only [setChain, Function.update_self, Option.some_inj] at h
    exact .inl ⟨rfl, h.symm⟩
  · exact .inr ((Function.update_of_ne hk ..).symm.trans h)

/-- A task that is not running, or that stays where it is, changes no entry. -/
theorem Backed.setChain {k : OwnershipRef} {task : ChainTask} {id : GrantId}
    {entry : GrantMap.Entry OwnershipRef} (h : Backed s.chains id entry)
    (hk : ∀ id shard pc range, s.chains k = some { id, shard, chain := .running pc range } →
      ∃ range', task = { id, shard, chain := .running pc range' }) :
    Backed (s.setChain k task).chains id entry := by
  obtain ⟨pc, range, hchain, hstate, hin⟩ := h
  by_cases hne : entry.value = k
  · rw [hne] at hchain
    obtain ⟨range', rfl⟩ := hk _ _ _ _ hchain
    exact ⟨pc, range', by rw [hne]; exact Function.update_self .., hstate, hin⟩
  · exact ⟨pc, range, (Function.update_of_ne hne ..).trans hchain, hstate, hin⟩

/-- A change of one task leaves the entries of the others. -/
theorem Backed.update_of_ne {chains : OwnershipRef → Option ChainTask} {k : OwnershipRef}
    {id : GrantId} {entry : GrantMap.Entry OwnershipRef} (h : Backed chains id entry)
    (task : Option ChainTask) (hne : entry.value ≠ k) :
    Backed (Function.update chains k task) id entry := by
  obtain ⟨pc, range, hchain, hstate, hin⟩ := h
  exact ⟨pc, range, (Function.update_of_ne hne ..).trans hchain, hstate, hin⟩

/-- A task that has its entry under another id than its own does not exist. -/
theorem Backed.ne {chains : OwnershipRef → Option ChainTask} {k : OwnershipRef} {id id' : GrantId}
    {shard : Shard} {chain : Chain} {entry : GrantMap.Entry OwnershipRef}
    (h : Backed chains id' entry) (hchain : chains k = some { id, shard, chain }) (hid : id' ≠ id) :
    entry.value ≠ k := by
  rintro rfl
  obtain ⟨pc, range, hc, -⟩ := h
  rw [hchain] at hc
  cases hc
  exact hid rfl

/-- The entries after a step of `run_grant`. -/
theorem backed_run {chains : OwnershipRef → Option ChainTask} {k : OwnershipRef} {id : GrantId}
    {shard : Shard} {task next : GrantTask} {b : Ownership.Branch} {now : SystemTime}
    {grants : GrantMap OwnershipRef}
    (hchain : chains k = some { id, shard, chain := .running task.pc task.range })
    (hrun : task.run b now = some next) {id' : GrantId}
    (h : ∀ entry, grants.lookup id' = some entry → Backed chains id' entry)
    {entry : GrantMap.Entry OwnershipRef}
    (hentry : (((task.pc.access.map fun a m => m.access id shard k a).getD fun m => m)
      grants).lookup id' = some entry) :
    Backed (Function.update chains k (some { id, shard, chain := .running next.pc next.range }))
      id' entry := by
  have hplace := GrantTask.place_run hrun
  cases hacc : task.pc.access with
  | none =>
    rw [hacc] at hentry hplace
    have hback := h entry hentry
    by_cases hne : entry.value = k
    · obtain ⟨pc, range, hc, hstate, hin⟩ := hback
      rw [hne, hchain] at hc
      cases hc
      have hsame : task.pc.place = next.pc.place := Option.some.inj hplace
      refine ⟨next.pc, next.range, by rw [hne]; exact Function.update_self .., ?_, ?_⟩
      · rw [GrantTask.Pc.state, ← hsame]
        exact hstate
      · exact (congrArg Itinerary.Place.left hsame).symm.trans hin
    · exact hback.update_of_ne _ hne
  | some act =>
    rw [hacc] at hentry hplace
    cases act with
    | stop state =>
      by_cases hid : id' = id
      · subst hid
        have hnew : entry = { shard, state, value := k } :=
          (Option.some.inj ((AList.lookup_insert _).symm.trans hentry)).symm
        subst hnew
        obtain ⟨p, hstop, hp⟩ := (Itinerary.machine _).run_cons_eq_some.1 hplace
        cases hp
        obtain ⟨hlast, hin⟩ := Itinerary.last_of_stop hstop
        exact ⟨next.pc, next.range, Function.update_self .., hlast, hin⟩
      · have hback := h entry ((AList.lookup_insert_ne hid).symm.trans hentry)
        exact hback.update_of_ne _ (hback.ne hchain hid)
    | leave =>
      by_cases hid : id' = id
      · subst hid
        cases (AList.lookup_erase _ _).symm.trans hentry
      · have hback := h entry ((AList.lookup_erase_ne hid).symm.trans hentry)
        exact hback.update_of_ne _ (hback.ne hchain hid)

section
variable [UuidCrate]

/-- Announcements stay announced. -/
theorem events_step {e : Event} (hst : s.step e = some t) :
    Effect.events s.loop.done ⊆ Effect.events t.loop.done := by
  rcases step_loop hst with ⟨e, hloop, -⟩ | ⟨hloop, -⟩
  · rw [Loop.done_step hloop, Effect.events_append]
    exact List.subset_append_left ..
  · rw [hloop]
    exact List.Subset.refl _

/-- A chain task keeps its id and its shard, and is started for an announced assignment only. -/
theorem chains_step {e : Event} {task : ChainTask} (hst : s.step e = some t)
    (htask : t.chains r = some task) :
    (∃ task', s.chains r = some task' ∧ task'.id = task.id ∧ task'.shard = task.shard) ∨
      GrantEvent.assigned task.id task.shard r ∈ Effect.events s.loop.done := by
  cases step_cases hst with
  | @driver e loop hloop =>
    obtain ⟨helpers, heq⟩ := foldl_carryOut { s with loop } (s.loop.carried e)
    rw [heq] at htask
    exact .inl ⟨task, htask, rfl, rfl⟩
  | @dispatch id shard k o hmem hfree hsent =>
    rcases chains_of_setChain htask with ⟨rfl, rfl⟩ | hsame
    · exact .inr hsent
    · exact .inl ⟨task, hsame, rfl, rfl⟩
  | accept hchain | decline hchain | run _ _ hchain | range hchain =>
    rcases chains_of_setChain htask with ⟨rfl, rfl⟩ | hsame
    · exact .inl ⟨_, hchain, rfl, rfl⟩
    · exact .inl ⟨task, hsame, rfl, rfl⟩
  | requestRevoke | timer | watcher => exact .inl ⟨task, htask, rfl, rfl⟩

/-- **Every step.** -/
theorem Registered.step {e : Event} (h : s.Registered) (hst : s.step e = some t) :
    t.Registered where
  sound := h.sound.step hst
  announced r task htask := by
    rcases chains_step hst htask with ⟨task', htask', hid, hshard⟩ | hsent
    · have hsent := h.announced r task' htask'
      rw [hid, hshard] at hsent
      exact events_step hst hsent
    · exact events_step hst hsent
  entries id' entry hentry := by
    cases step_cases hst with
    | @driver e loop hloop =>
      obtain ⟨helpers, heq⟩ := foldl_carryOut { s with loop } (s.loop.carried e)
      rw [heq] at hentry ⊢
      exact h.entries id' entry hentry
    | @dispatch id shard k o hmem hfree =>
      exact (h.entries id' entry hentry).setChain fun _ _ _ _ hk => by cases hfree.symm.trans hk
    | @accept id shard k hchain | @decline id shard k hchain =>
      exact (h.entries id' entry hentry).setChain fun _ _ _ _ hk => by cases hchain.symm.trans hk
    | @range id shard k pc range range' e hchain =>
      refine (h.entries id' entry hentry).setChain fun _ _ _ _ hk => ?_
      cases hchain.symm.trans hk
      exact ⟨range', rfl⟩
    | @run id shard k b now next task hmem hchain hrun =>
      rw [show Node.grants _ = _ from rfl, GrantTask.mapOp_eq] at hentry
      exact backed_run hchain hrun (h.entries id') hentry
    | requestRevoke | timer | watcher => exact h.entries id' entry hentry
  vouched r := by
    have hfresh : ∀ o, .new r o ∈ s.loop.driver.pending → s.memory r = none := fun o hnew =>
      (h.sound.grounded.fresh r (List.mem_filterMap.2 ⟨_, hnew, rfl⟩)).2
    rcases step_cell hst r with hsame | hcell
    · rw [hsame]
      exact h.vouched r
    · exact (h.vouched r).step (h.sound.cells r) hfresh hcell

/-- What a reader of the grant map may rely on when it finds an entry. -/
structure EntryVouched (s : Node) (id : GrantId) (entry : GrantMap.Entry OwnershipRef) : Prop where
  /-- The driver has announced the assignment, under this id and with this shard. -/
  announced : GrantEvent.assigned id entry.shard entry.value ∈ Effect.events s.loop.done
  /-- Its task runs, has not closed the Range, and the ownership and the Range bear the state out. -/
  task : ∃ task, s.grantTask entry.value = some task ∧ task.range.closeCalled = false ∧
    task.Attests entry.state
  /-- The coordinator has let the assignment take over. -/
  cleared : Activated s.loop.driver.history entry.value ∨
    CounterpartUnloaded s.loop.driver.history entry.value
  /-- It has activated what is active or was. -/
  activated : entry.state = .active ∨ entry.state = .revoked ∨ entry.state = .revokedUnloaded →
    Activated s.loop.driver.history entry.value
  /-- It has revoked what is revoked. -/
  revoked : entry.state = .revoked ∨ entry.state = .revokedUnloaded →
    RevokeHandled s.loop.driver.history entry.value

theorem registered_run {es : List Event} (hrun : machine.run initial es = some s) : s.Registered :=
  Machine.run_invariant (fun _ _ _ h hst => h.step hst) Registered.initial hrun

/-- **What the grant map says is so.** In every state of every run of a node. -/
theorem entries_vouched {es : List Event} (hrun : machine.run initial es = some s) {id : GrantId}
    {entry : GrantMap.Entry OwnershipRef} (hentry : s.grants.lookup id = some entry) :
    s.EntryVouched id entry := by
  have h := registered_run hrun
  obtain ⟨pc, range, hchain, hstate, hin⟩ := h.entries id entry hentry
  have hdispatched := (h.sound.cells entry.value).dispatched
    (Option.isSome_iff_ne_none.1 (Option.isSome_of_eq_some hchain))
  obtain ⟨o, ho⟩ := Option.ne_none_iff_exists'.1 hdispatched
  have hacc := ((h.sound.cells entry.value).accounted o ho).1
  have hvouched := h.vouched entry.value o id entry.shard pc range ho hchain
  have hattests := hvouched.attests entry.state hstate
  have htask : s.grantTask entry.value = some { pc, ownership := o, range } :=
    grantTask_eq_some.2 ⟨id, entry.shard, ho, hchain⟩
  refine ⟨h.announced _ _ hchain, ⟨_, htask, ?_, hattests⟩, ?_, fun hact => ?_, fun hrev => ?_⟩
  · cases hclose : range.closeCalled with
    | false => rfl
    | true => cases hin.symm.trans (hvouched.closeCalled hclose)
  · have hclear := hattests.clear (GrantTask.state_ne_unknown hstate)
    exact hclear.imp hacc.active hacc.unloaded
  · exact hacc.active (hattests.serving hact).2
  · exact hacc.revoked (hattests.revoked hrev).2

end

/-! ## Runs -/

/-- The accesses of a grant's whole life. -/
theorem map_history_life :
    let := UuidCrate.pair
    ∃ s, machine.run initial lifeRun = some s ∧
      (machine.outputs accesses initial lifeRun).filterMap (Access.of 0) =
        [.stop .allocated, .stop .allocatedLoaded, .stop .active, .stop .revoked] := by
  let := UuidCrate.pair
  have hend : (machine.run initial lifeRun).map (fun s => decide ((s.place 0).stops = 4 ∧
      (s.place 0).left = false)) = some true := by decide +kernel
  obtain ⟨s, hrun, hplace⟩ := Option.map_eq_some_iff.1 hend
  obtain ⟨hstops, hin⟩ := of_decide_eq_true hplace
  refine ⟨s, hrun, ?_⟩
  rw [(map_history hrun).2 0, Itinerary.Place.log, hstops, hin]
  rfl

/-- The entry of a grant that is being served. -/
theorem entries_vouched_serving :
    let := UuidCrate.pair
    ∃ s entry, machine.run initial (lifeRun.take 24) = some s ∧
      s.grants.lookup ⟨"g"⟩ = some entry ∧ entry.state = .active ∧ s.EntryVouched ⟨"g"⟩ entry := by
  let := UuidCrate.pair
  have hend : (machine.run initial (lifeRun.take 24)).map (fun s => s.grants.lookup ⟨"g"⟩) =
      some (some { shard := wholeDomain, state := .active, value := 0 }) := by decide +kernel
  obtain ⟨s, hrun, hentry⟩ := Option.map_eq_some_iff.1 hend
  exact ⟨s, _, hrun, hentry, rfl, entries_vouched hrun hentry⟩

end Node

end Splitter
