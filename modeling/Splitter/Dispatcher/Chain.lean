import Splitter.Node.Registry
import Splitter.Processor.TryHandle

/-!
# A chain of filters

`run_chain` for any number of filters, each a processor with its own `initialized` latch and its own
grant map: the grant is offered to them in their order until one answers `true`, and is relinquished
when all have answered `false`. The tasks of all assignments run beside each other and share the
filters.

`chain_in_turn`: what the filters have answered for an assignment is known from where its task
stands, and an entry of a filter's map is that of the one filter that accepted it. `chain_released`:
a task that is over leaves no grant that is still to be served.
-/

namespace Splitter

/-- Where `run_chain` stands. -/
inductive Link
  /-- Returned, the grant was expired before dispatch. -/
  | skipped
  /-- In `try_handle` of a filter. -/
  | asking (filter : Nat) (call : TryHandle.Call)
  /-- Returned, a filter has answered `true`. -/
  | handled (filter : Nat)
  /-- Returned, no filter took the grant. -/
  | relinquished
  deriving DecidableEq

/-- The `run_chain` task of an assignment. -/
structure FilterTask where
  id : GrantId
  shard : Shard
  link : Link
  deriving DecidableEq

/-- The filters and the tasks of a dispatcher, with the ownerships they share. -/
structure FilterChain where
  initialized : Nat → Latch
  grants : Nat → GrantMap OwnershipRef
  memory : Memory
  tasks : OwnershipRef → Option FilterTask

namespace FilterChain

open TryHandle (Call)

inductive Event
  /-- `DispatchFilter::init` of a filter. -/
  | init (filter : Nat)
  /-- The driver makes the ownership of an assignment. -/
  | assign (r : OwnershipRef) (o : Ownership)
  /-- The driver, a helper or the user acts on an ownership. -/
  | signal (r : OwnershipRef) (sig : Signal)
  /-- The router hands an assignment to `run_chain`. -/
  | dispatch (id : GrantId) (shard : Shard) (r : OwnershipRef)
  /-- A step of the call of `try_handle` that an assignment's task awaits. -/
  | call (r : OwnershipRef) (e : TryHandle.Event)
  /-- That call has returned. -/
  | next (r : OwnershipRef)

def setTask (s : FilterChain) (r : OwnershipRef) (id : GrantId) (shard : Shard) (link : Link) :
    FilterChain :=
  { s with tasks := Function.update s.tasks r (some { id, shard, link }) }

/-- The loop over the chain, at a filter: it is asked, or the loop is over and the grant is
relinquished. -/
def ask (filters : Nat) (s : FilterChain) (r : OwnershipRef) (id : GrantId) (shard : Shard)
    (k : Nat) : FilterChain :=
  if k < filters then s.setTask r id shard (.asking k .waitInitialized)
  else
    { s with memory := s.memory.modify r Ownership.requestRevoke }.setTask r id shard .relinquished

/-- The call of `try_handle` of a filter, with the memory it shares. -/
def callOf (s : FilterChain) (k : Nat) (ownership : Ownership) (call : Call) : TryHandle :=
  { initialized := s.initialized k, ownership, call }

/-- The `GrantMap` operation of a step of a call. -/
def edit (id : GrantId) (shard : Shard) (r : OwnershipRef) :
    Call → TryHandle.Event → GrantMap OwnershipRef → GrantMap OwnershipRef
  | .runGrant pc _, .run _ _ => (pc.mapOp id shard r).getD fun m => m
  | _, _ => fun m => m

/-- What a step of a call leads to. -/
def afterCall (s : FilterChain) (r : OwnershipRef) (id : GrantId) (shard : Shard) (k : Nat)
    (call : Call) (e : TryHandle.Event) (c : TryHandle) : FilterChain :=
  { s with
    initialized := Function.update s.initialized k c.initialized
    grants := Function.update s.grants k (edit id shard r call e (s.grants k))
    memory := Function.update s.memory r (some c.ownership) }.setTask r id shard (.asking k c.call)

def step (filters : Nat) (s : FilterChain) : Event → Option FilterChain
  | .init k =>
    some { s with initialized := Function.update s.initialized k (s.initialized k).close }
  | .assign r o =>
    if s.memory r = none then some { s with memory := Function.update s.memory r (some o) }
    else none
  | .signal r sig => some { s with memory := s.memory.modify r sig.apply }
  | .dispatch id shard r =>
    match s.memory r, s.tasks r with
    | some ownership, none =>
      if ownership.expired.isClosed then some (s.setTask r id shard .skipped)
      else some (s.ask filters r id shard 0)
    | _, _ => none
  | .call r e =>
    match s.memory r, s.tasks r with
    | some ownership, some { id, shard, link := .asking k call } =>
      ((s.callOf k ownership call).step e).map (s.afterCall r id shard k call e)
    | _, _ => none
  | .next r =>
    match s.tasks r with
    | some { id, shard, link := .asking k (.returned true) } =>
      some (s.setTask r id shard (.handled k))
    | some { id, shard, link := .asking k (.returned false) } =>
      some (s.ask filters r id shard (k + 1))
    | _ => none

/-- A dispatcher with `filters` filters that has been handed no assignment yet. -/
def machine (filters : Nat) : Machine FilterChain Event where
  init s := (∀ k, s.grants k = ∅) ∧ ∀ r, s.tasks r = none
  step := step filters

/-- One step, by what makes it possible. -/
inductive Step (filters : Nat) : FilterChain → Event → FilterChain → Prop
  | init {s : FilterChain} {k : Nat} :
      Step filters s (.init k)
        { s with initialized := Function.update s.initialized k (s.initialized k).close }
  | assign {s : FilterChain} {r : OwnershipRef} {o : Ownership} (hfree : s.memory r = none) :
      Step filters s (.assign r o) { s with memory := Function.update s.memory r (some o) }
  | signal {s : FilterChain} {r : OwnershipRef} {sig : Signal} :
      Step filters s (.signal r sig) { s with memory := s.memory.modify r sig.apply }
  | skip {s : FilterChain} {id : GrantId} {shard : Shard} {r : OwnershipRef} {o : Ownership}
      (hmem : s.memory r = some o) (hfree : s.tasks r = none) (hexp : o.expired.isClosed = true) :
      Step filters s (.dispatch id shard r) (s.setTask r id shard .skipped)
  | dispatch {s : FilterChain} {id : GrantId} {shard : Shard} {r : OwnershipRef} {o : Ownership}
      (hmem : s.memory r = some o) (hfree : s.tasks r = none) :
      Step filters s (.dispatch id shard r) (s.ask filters r id shard 0)
  | call {s : FilterChain} {id : GrantId} {shard : Shard} {r : OwnershipRef} {o : Ownership}
      {k : Nat} {call : Call} {e : TryHandle.Event} {c : TryHandle} (hmem : s.memory r = some o)
      (htask : s.tasks r = some { id, shard, link := .asking k call })
      (hst : (s.callOf k o call).step e = some c) :
      Step filters s (.call r e) (s.afterCall r id shard k call e c)
  | handled {s : FilterChain} {id : GrantId} {shard : Shard} {r : OwnershipRef} {k : Nat}
      (htask : s.tasks r = some { id, shard, link := .asking k (.returned true) }) :
      Step filters s (.next r) (s.setTask r id shard (.handled k))
  | declined {s : FilterChain} {id : GrantId} {shard : Shard} {r : OwnershipRef} {k : Nat}
      (htask : s.tasks r = some { id, shard, link := .asking k (.returned false) }) :
      Step filters s (.next r) (s.ask filters r id shard (k + 1))

theorem step_cases {filters : Nat} {s t : FilterChain} {e : Event}
    (h : s.step filters e = some t) : Step filters s e t := by
  cases e with
  | init k =>
    cases h
    exact .init
  | assign r o =>
    obtain ⟨hfree, heq⟩ := Option.ite_none_right_eq_some.1 h
    cases heq
    exact .assign hfree
  | signal r sig =>
    cases h
    exact .signal
  | dispatch id shard r =>
    simp only [step] at h
    split at h
    · next o hmem hfree =>
      split at h
      · next hexp => cases h; exact .skip hmem hfree hexp
      · cases h; exact .dispatch hmem hfree
    · cases h
  | call r e =>
    simp only [step] at h
    split at h
    · next o id shard k call hmem htask =>
      obtain ⟨c, hst, rfl⟩ := Option.map_eq_some_iff.1 h
      exact .call hmem htask hst
    · cases h
  | next r =>
    simp only [step] at h
    split at h
    · next htask => cases h; exact .handled htask
    · next htask => cases h; exact .declined htask
    · cases h

/-! ## What the filters answer -/

/-- The answer of a filter whose factory is asked for a Range. -/
def answers (s : FilterChain) : Event → List (OwnershipRef × Nat × Bool)
  | .call r (.build accepted) =>
    match s.tasks r with
    | some { link := .asking k .build, .. } => [(r, k, accepted)]
    | _ => []
  | _ => []

/-- The answers for one assignment. -/
def answersTo (r : OwnershipRef) (log : List (OwnershipRef × Nat × Bool)) : List (Nat × Bool) :=
  log.filterMap fun a => if a.1 = r then some a.2 else none

/-- The filters before `k` have declined, in turn. -/
def declinedBy (k : Nat) : List (Nat × Bool) := (List.range k).map fun i => (i, false)

end FilterChain

open FilterChain (declinedBy)

/-- The answers that bring `run_chain` to where it stands. -/
def Link.answers (filters : Nat) : Link → List (Nat × Bool)
  | .skipped => []
  | .asking k .waitInitialized | .asking k .build => declinedBy k
  | .asking k (.runGrant _ _) | .asking k (.returned true) | .handled k =>
    declinedBy k ++ [(k, true)]
  | .asking k (.returned false) => declinedBy (k + 1)
  | .relinquished => declinedBy filters

/-- The filter the task is with, or that has taken the grant. -/
def Link.filter : Link → Option Nat
  | .asking k _ | .handled k => some k
  | .skipped | .relinquished => none

/-- `run_chain` has returned. -/
def Link.over : Link → Bool
  | .skipped | .handled _ | .relinquished => true
  | .asking _ _ => false

namespace FilterChain

open TryHandle (Call Released)

variable {filters : Nat} {s t : FilterChain} {r : OwnershipRef}

/-- The answers a task stands for; none before it is spawned. -/
def answersAt (filters : Nat) (s : FilterChain) (r : OwnershipRef) : List (Nat × Bool) :=
  (s.tasks r).elim [] fun task => task.link.answers filters

theorem declinedBy_succ (k : Nat) : declinedBy (k + 1) = declinedBy k ++ [(k, false)] := by
  simp only [declinedBy, List.range_succ, List.map_append, List.map_cons, List.map_nil]

@[simp] theorem answersTo_nil : answersTo r [] = [] := rfl

theorem answersTo_append (log log' : List (OwnershipRef × Nat × Bool)) :
    answersTo r (log ++ log') = answersTo r log ++ answersTo r log' :=
  List.filterMap_append

@[simp] theorem setTask_tasks (id : GrantId) (shard : Shard) (link : Link) :
    (s.setTask r id shard link).tasks = Function.update s.tasks r (some { id, shard, link }) := rfl

/-- Where a task that goes on to a filter stands. -/
def linkAt (filters k : Nat) : Link :=
  if k < filters then .asking k .waitInitialized else .relinquished

theorem ask_tasks (id : GrantId) (shard : Shard) (k : Nat) :
    (s.ask filters r id shard k).tasks =
      Function.update s.tasks r (some { id, shard, link := linkAt filters k }) := by
  unfold ask linkAt
  split
  · rfl
  · rfl

@[simp] theorem ask_grants (id : GrantId) (shard : Shard) (k : Nat) :
    (s.ask filters r id shard k).grants = s.grants := by
  unfold ask
  split
  · rfl
  · rfl

/-- A filter is asked, or the chain is relinquished, once all before it have declined. -/
theorem answers_linkAt {k : Nat} (hk : k ≤ filters) :
    (linkAt filters k).answers filters = declinedBy k := by
  unfold linkAt
  split
  · rfl
  · next hge => rw [Nat.le_antisymm hk (Nat.le_of_not_lt hge)]; rfl

/-- What a step of a call answers brings the task to where it then stands. -/
theorem answers_call {k : Nat} {o : Ownership} {call : Call} {e : TryHandle.Event} {c : TryHandle}
    {id : GrantId} {shard : Shard} (htask : s.tasks r = some { id, shard, link := .asking k call })
    (hst : (s.callOf k o call).step e = some c) :
    (Link.asking k c.call).answers filters =
      (Link.asking k call).answers filters ++ answersTo r (s.answers (.call r e)) := by
  cases e with
  | init | signal =>
    cases hst
    exact (List.append_nil _).symm
  | range e =>
    cases call with
    | runGrant pc range =>
      obtain ⟨range', -, rfl⟩ := Option.map_eq_some_iff.1 hst
      exact (List.append_nil _).symm
    | _ => cases hst
  | wake =>
    cases call with
    | waitInitialized =>
      obtain ⟨-, rfl⟩ := Latch.closed_eq_some.1 hst
      exact (List.append_nil _).symm
    | _ => cases hst
  | build accepted =>
    cases call with
    | build =>
      cases hst
      have hanswer : answersTo r (s.answers (.call r (.build accepted))) = [(k, accepted)] := by
        simp only [answers, htask, answersTo, List.filterMap_cons, if_pos, List.filterMap_nil]
      rw [hanswer]
      cases accepted with
      | true => rfl
      | false => exact declinedBy_succ k
    | _ => cases hst
  | run b now =>
    cases call with
    | runGrant pc range =>
      obtain ⟨next, -, rfl⟩ := Option.map_eq_some_iff.1 hst
      refine Eq.trans ?_ (List.append_nil _).symm
      obtain ⟨pc', o', range'⟩ := next
      cases pc' <;> rfl
    | _ => cases hst

/-- A call answers for its own assignment. -/
theorem answersTo_of_ne {k : OwnershipRef} {e : TryHandle.Event} (hk : k ≠ r) :
    answersTo k (s.answers (.call r e)) = [] := by
  cases e with
  | build accepted =>
    simp only [answers]
    split
    · simp only [answersTo, List.filterMap_cons, if_neg hk.symm, List.filterMap_nil]
    · rfl
  | _ => rfl

/-! ## The tasks of one filter -/

/-- The `run_grant` tasks of a filter. -/
def running (s : FilterChain) (k : Nat) (r : OwnershipRef) : Option ChainTask :=
  match s.tasks r with
  | some { id, shard, link := .asking k' (.runGrant pc range) } =>
    if k' = k then some { id, shard, chain := .running pc range } else none
  | _ => none

theorem running_eq_some {k : Nat} {id : GrantId} {shard : Shard} {pc : GrantTask.Pc}
    {range : RangeState} :
    s.running k r = some { id, shard, chain := .running pc range } ↔
      s.tasks r = some { id, shard, link := .asking k (.runGrant pc range) } := by
  constructor
  · intro h
    unfold running at h
    split at h
    · next htask =>
      obtain ⟨rfl, heq⟩ := Option.ite_none_right_eq_some.1 h
      cases heq
      exact htask
    · cases h
  · intro h
    simp only [running, h, if_true]

/-- Entries of tasks that stay where they are stay backed. -/
theorem backed_of_tasks {k : Nat} {id : GrantId} {entry : GrantMap.Entry OwnershipRef}
    (h : Node.Backed (s.running k) id entry)
    (htasks : ∀ shard pc range,
      s.tasks entry.value = some { id, shard, link := .asking k (.runGrant pc range) } →
        ∃ range', t.tasks entry.value =
          some { id, shard, link := .asking k (.runGrant pc range') }) :
    Node.Backed (t.running k) id entry := by
  obtain ⟨pc, range, hrunning, hstate, hin⟩ := h
  obtain ⟨range', htask⟩ := htasks _ _ _ (running_eq_some.1 hrunning)
  exact ⟨pc, range', running_eq_some.2 htask, hstate, hin⟩

/-- A change of a task that is in no `run_grant` leaves every entry backed. -/
theorem backed_setTask {k : Nat} {id : GrantId} {entry : GrantMap.Entry OwnershipRef}
    {task : FilterTask} (h : Node.Backed (s.running k) id entry)
    (ht : t.tasks = Function.update s.tasks r (some task))
    (hidle : ∀ id shard k pc range,
      s.tasks r ≠ some { id, shard, link := .asking k (.runGrant pc range) }) :
    Node.Backed (t.running k) id entry := by
  refine backed_of_tasks h fun shard pc range hrun => ⟨range, ?_⟩
  have hne : entry.value ≠ r := by
    rintro rfl
    exact hidle _ _ _ _ _ hrun
  rw [ht, Function.update_of_ne hne]
  exact hrun

/-- A step of a call that is no step of `run_grant` leaves the grant maps. -/
theorem grants_of_edit {k k' : Nat} {id id' : GrantId} {shard : Shard} {call : Call}
    {e : TryHandle.Event} {c : TryHandle} {entry : GrantMap.Entry OwnershipRef}
    (hedit : edit id shard r call e (s.grants k) = s.grants k)
    (hentry : ((s.afterCall r id shard k call e c).grants k').lookup id' = some entry) :
    (s.grants k').lookup id' = some entry := by
  have hgrants : (s.afterCall r id shard k call e c).grants =
      Function.update s.grants k (edit id shard r call e (s.grants k)) := rfl
  rw [hgrants, hedit, Function.update_eq_self] at hentry
  exact hentry

/-- The entries of the filters after a step of `run_grant` of one of them. -/
theorem backed_afterRun {k : Nat} {id : GrantId} {shard : Shard} {o : Ownership}
    {pc : GrantTask.Pc} {range : RangeState} {b : Ownership.Branch} {now : SystemTime}
    {next : GrantTask}
    (hentries : ∀ k id entry, (s.grants k).lookup id = some entry →
      Node.Backed (s.running k) id entry)
    (htask : s.tasks r = some { id, shard, link := .asking k (.runGrant pc range) })
    (hrun : ({ pc, ownership := o, range } : GrantTask).run b now = some next)
    (ht : t = s.afterCall r id shard k (.runGrant pc range) (.run b now)
      ((s.callOf k o (.runGrant pc range)).afterRun next))
    {k' : Nat} {id' : GrantId} {entry : GrantMap.Entry OwnershipRef}
    (hentry : (t.grants k').lookup id' = some entry) : Node.Backed (t.running k') id' entry := by
  subst ht
  by_cases hk : k' = k
  · subst hk
    have hgrants : (s.afterCall r id shard k' (.runGrant pc range) (.run b now)
        ((s.callOf k' o (.runGrant pc range)).afterRun next)).grants k' =
          ((pc.mapOp id shard r).getD fun m => m) (s.grants k') := Function.update_self ..
    rw [hgrants, GrantTask.mapOp_eq] at hentry
    obtain ⟨pc', range', hchain, hstate, hin⟩ :=
      Node.backed_run (running_eq_some.2 htask) hrun (hentries k' id') hentry
    refine ⟨pc', range', running_eq_some.2 ?_, hstate, hin⟩
    by_cases hne : entry.value = r
    · rw [hne, Function.update_self] at hchain
      cases hchain
      -- a task that has returned has left the map
      have hcall : ((s.callOf k' o (.runGrant pc range)).afterRun next).call =
          .runGrant next.pc next.range := by
        obtain ⟨pc', o', range'⟩ := next
        cases pc' with
        | returned exit => cases hin
        | _ => rfl
      rw [hne]
      exact (Function.update_self ..).trans (by rw [hcall])
    · rw [Function.update_of_ne hne] at hchain
      exact (Function.update_of_ne hne ..).trans (running_eq_some.1 hchain)
  · have hback := hentries k' id' entry
      ((congrArg (AList.lookup id') (Function.update_of_ne hk ..)).symm.trans hentry)
    refine backed_of_tasks hback fun shard' pc' range' hrun' => ⟨range', ?_⟩
    have hne : entry.value ≠ r := by
      rintro heq
      rw [heq, htask] at hrun'
      cases hrun'
      exact hk rfl
    exact (Function.update_of_ne hne ..).trans hrun'

/-- The entries of the filters after a step of a call. -/
theorem entries_call {k : Nat} {id : GrantId} {shard : Shard} {o : Ownership} {call : Call}
    {e : TryHandle.Event} {c : TryHandle}
    (hentries : ∀ k id entry, (s.grants k).lookup id = some entry →
      Node.Backed (s.running k) id entry)
    (htask : s.tasks r = some { id, shard, link := .asking k call })
    (hst : (s.callOf k o call).step e = some c) :
    ∀ k' id' entry, ((s.afterCall r id shard k call e c).grants k').lookup id' = some entry →
      Node.Backed ((s.afterCall r id shard k call e c).running k') id' entry := by
  intro k' id' entry hentry
  cases call with
  | runGrant pc range =>
    cases e with
    | run b now =>
      obtain ⟨next, hrun, rfl⟩ := Option.map_eq_some_iff.1 hst
      exact backed_afterRun hentries htask hrun rfl hentry
    | range e =>
      obtain ⟨range', -, rfl⟩ := Option.map_eq_some_iff.1 hst
      refine backed_of_tasks (hentries k' id' entry (grants_of_edit rfl hentry)) ?_
      intro shard' pc' range'' hrun
      by_cases hne : entry.value = r
      · rw [hne, htask] at hrun
        cases hrun
        rw [hne]
        exact ⟨range', Function.update_self ..⟩
      · exact ⟨range'', (Function.update_of_ne hne ..).trans hrun⟩
    | init | signal =>
      cases hst
      refine backed_of_tasks (hentries k' id' entry (grants_of_edit rfl hentry)) ?_
      intro shard' pc' range'' hrun
      by_cases hne : entry.value = r
      · rw [hne, htask] at hrun
        cases hrun
        rw [hne]
        exact ⟨range, Function.update_self ..⟩
      · exact ⟨range'', (Function.update_of_ne hne ..).trans hrun⟩
    | wake | build => cases hst
  | waitInitialized | build | returned =>
    refine backed_setTask (hentries k' id' entry (grants_of_edit rfl hentry)) rfl ?_
    intro id shard k pc range hrun
    rw [htask] at hrun
    cases hrun

/-! ## In turn -/

/-- What holds in every state of a dispatcher, beside the answers so far. -/
structure InTurn (filters : Nat) (s : FilterChain) (log : List (OwnershipRef × Nat × Bool)) :
    Prop where
  answered : ∀ r, answersTo r log = s.answersAt filters r
  bound : ∀ r task k, s.tasks r = some task → task.link.filter = some k → k < filters
  entries : ∀ k id entry, (s.grants k).lookup id = some entry →
    Node.Backed (s.running k) id entry

variable {log : List (OwnershipRef × Nat × Bool)}

theorem InTurn.initial (h : (machine filters).init s) : InTurn filters s [] where
  answered r := by
    rw [answersAt, h.2 r]
    rfl
  bound r task k htask := by
    rw [h.2 r] at htask
    cases htask
  entries k id entry hentry := by
    rw [h.1 k] at hentry
    cases hentry

theorem answersAt_update {task : FilterTask} (ht : t.tasks = Function.update s.tasks r (some task))
    (k : OwnershipRef) :
    t.answersAt filters k = if k = r then task.link.answers filters else s.answersAt filters k := by
  unfold answersAt
  rw [ht]
  split
  · next hk => rw [hk, Function.update_self]; rfl
  · next hk => rw [Function.update_of_ne hk]

/-- A change of one task. -/
theorem bound_update {task : FilterTask} (ht : t.tasks = Function.update s.tasks r (some task))
    (h : ∀ r task k, s.tasks r = some task → task.link.filter = some k → k < filters)
    (hbound : ∀ k, task.link.filter = some k → k < filters) :
    ∀ r task k, t.tasks r = some task → task.link.filter = some k → k < filters := by
  intro r' task' k htask hfilter
  rw [ht] at htask
  by_cases hr : r' = r
  · rw [hr, Function.update_self] at htask
    cases htask
    exact hbound k hfilter
  · rw [Function.update_of_ne hr] at htask
    exact h r' task' k htask hfilter

/-- A task that is in no `run_grant` moves on, and the answers so far bring it there. -/
theorem InTurn.moveTo {task : FilterTask} (h : InTurn filters s log)
    (ht : t.tasks = Function.update s.tasks r (some task)) (hgrants : t.grants = s.grants)
    (hidle : ∀ id shard k pc range,
      s.tasks r ≠ some { id, shard, link := .asking k (.runGrant pc range) })
    (hanswers : task.link.answers filters = s.answersAt filters r)
    (hbound : ∀ k, task.link.filter = some k → k < filters) : InTurn filters t log where
  answered k := by
    rw [answersAt_update ht, h.answered k]
    split
    · next hk => rw [hk, hanswers]
    · rfl
  bound := bound_update ht h.bound hbound
  entries k id entry hentry := by
    rw [hgrants] at hentry
    exact backed_setTask (h.entries k id entry hentry) ht hidle

/-- A task that goes on to a filter is with one of the chain. -/
theorem lt_of_linkAt {j k : Nat} (h : (linkAt filters j).filter = some k) : k < filters := by
  unfold linkAt at h
  split at h
  · next hlt => cases h; exact hlt
  · cases h

/-- **The step lemma.** -/
theorem InTurn.step {e : Event} (h : InTurn filters s log) (hst : s.step filters e = some t) :
    InTurn filters t (log ++ s.answers e) := by
  cases step_cases hst with
  | init | assign | signal =>
    rw [show s.answers _ = [] from rfl, List.append_nil]
    exact ⟨h.answered, h.bound, h.entries⟩
  | @skip id shard r o hmem hfree hexp =>
    rw [show s.answers _ = [] from rfl, List.append_nil]
    refine h.moveTo rfl rfl (fun id shard k pc range hrun => ?_) ?_ (fun k hk => by cases hk)
    · rw [hfree] at hrun
      cases hrun
    · rw [answersAt, hfree]
      rfl
  | @dispatch id shard r o hmem hfree =>
    rw [show s.answers _ = [] from rfl, List.append_nil]
    refine h.moveTo (ask_tasks id shard 0) (ask_grants id shard 0)
      (fun id shard k pc range hrun => ?_) ?_ fun k hk => lt_of_linkAt hk
    · rw [hfree] at hrun
      cases hrun
    · rw [answersAt, hfree]
      exact answers_linkAt (Nat.zero_le _)
  | @handled id shard r k htask =>
    rw [show s.answers _ = [] from rfl, List.append_nil]
    refine h.moveTo rfl rfl (fun id shard k pc range hrun => ?_) ?_ fun j hj => ?_
    · rw [htask] at hrun
      cases hrun
    · rw [answersAt, htask]
      rfl
    · exact h.bound r _ j htask hj
  | @declined id shard r k htask =>
    rw [show s.answers _ = [] from rfl, List.append_nil]
    have hlt : k < filters := h.bound r _ k htask rfl
    refine h.moveTo (ask_tasks id shard (k + 1)) (ask_grants id shard (k + 1))
      (fun id shard k pc range hrun => ?_) ?_ fun k hk => lt_of_linkAt hk
    · rw [htask] at hrun
      cases hrun
    · rw [answersAt, htask]
      exact answers_linkAt hlt
  | @call id shard r o k call e c hmem htask hcall =>
    have htasks : (s.afterCall r id shard k call e c).tasks =
        Function.update s.tasks r (some { id, shard, link := .asking k c.call }) := rfl
    refine ⟨fun r' => ?_, bound_update htasks h.bound (fun j hj => h.bound r _ j htask hj), ?_⟩
    · rw [answersTo_append, h.answered, answersAt_update htasks]
      split
      · next hr =>
        rw [hr, answers_call htask hcall, answersAt, htask]
        rfl
      · next hr => rw [answersTo_of_ne hr, List.append_nil]
    · exact entries_call h.entries htask hcall

/-- **The filters are asked in turn.** In every run of a dispatcher, however the tasks of its
assignments interleave, the answers for an assignment are those its task stands for: the filters
decline in their order, up to the one that accepts, and there is no answer after that. An entry of a
filter's map is that of the one filter of the chain that accepted the assignment: its `run_grant`
for the assignment runs, and neither another filter nor another id has an entry for it. -/
theorem chain_in_turn {es : List Event} (hinit : (machine filters).init s)
    (hrun : (machine filters).run s es = some t) :
    (∀ r, answersTo r ((machine filters).outputs answers s es) = t.answersAt filters r) ∧
      ∀ k id entry, (t.grants k).lookup id = some entry →
        k < filters ∧
          answersTo entry.value ((machine filters).outputs answers s es) =
              declinedBy k ++ [(k, true)] ∧
            Node.Backed (t.running k) id entry ∧
              ∀ k' id' entry', (t.grants k').lookup id' = some entry' →
                entry'.value = entry.value → k' = k ∧ id' = id := by
  have h : InTurn filters t ([] ++ (machine filters).outputs answers s es) :=
    Machine.run_outputs (fun _ _ _ _ h hst => h.step hst) (.initial hinit) hrun
  rw [List.nil_append] at h
  refine ⟨h.answered, fun k id entry hentry => ?_⟩
  have hback := h.entries k id entry hentry
  obtain ⟨pc, range, hrunning, -⟩ := h.entries k id entry hentry
  have htask := running_eq_some.1 hrunning
  refine ⟨h.bound _ _ k htask rfl, ?_, hback, fun k' id' entry' hentry' hvalue => ?_⟩
  · rw [h.answered, answersAt, htask]
    rfl
  · obtain ⟨pc', range', hrunning', -⟩ := h.entries k' id' entry' hentry'
    have htask' := running_eq_some.1 hrunning'
    have hsame := Option.some.inj ((hvalue ▸ htask').symm.trans htask)
    simp only [FilterTask.mk.injEq, Link.asking.injEq] at hsame
    exact ⟨hsame.2.2.1, hsame.1⟩

/-! ## What becomes of the grant -/

/-- What is known of the ownership where a task stands. -/
def LinkDue (o : Ownership) : Link → Prop
  | .asking _ call => TryHandle.Due { initialized := .new, ownership := o, call }
  | .skipped | .handled _ | .relinquished => Released o

/-- It is known of every task. -/
def Due (s : FilterChain) : Prop :=
  ∀ r task, s.tasks r = some task → ∃ o, s.memory r = some o ∧ LinkDue o task.link

/-- A task that is over leaves no grant that is still to be served. -/
def Cleared (s : FilterChain) : Prop :=
  ∀ r task o, s.tasks r = some task → s.memory r = some o → task.link.over = true →
    Released o

/-- What a step must meet: no `run_grant` takes the branch of its Range's `closed` latch while the
grant is still the filter's to serve. -/
def StaysUntilReleased (s : FilterChain) : Event → Prop
  | .call r (.run .closed _) => ∀ o, s.memory r = some o → Released o
  | _ => True

theorem LinkDue.mono {o o' : Ownership} {link : Link} (h : LinkDue o link) (hle : o.Le o') :
    LinkDue o' link := by
  cases link with
  | asking k call => exact TryHandle.Due.mono h rfl hle
  | skipped | handled | relinquished => exact Released.mono h hle

/-- No ownership is lost, and their latches only close. -/
def Grows (mem mem' : Memory) : Prop :=
  ∀ r (o : Ownership), mem r = some o → ∃ o', mem' r = some o' ∧ o.Le o'

/-- What is known of the other tasks stays known. -/
theorem Due.moveTo {task : FilterTask} (h : s.Due)
    (ht : t.tasks = Function.update s.tasks r (some task)) (hgrows : Grows s.memory t.memory)
    (hnew : ∃ o, t.memory r = some o ∧ LinkDue o task.link) : t.Due := by
  intro r' task' htask
  rw [ht] at htask
  by_cases hr : r' = r
  · subst hr
    rw [Function.update_self] at htask
    cases htask
    exact hnew
  · rw [Function.update_of_ne hr] at htask
    obtain ⟨o, ho, hdue⟩ := h r' task' htask
    obtain ⟨o', ho', hle⟩ := hgrows r' o ho
    exact ⟨o', ho', hdue.mono hle⟩

theorem Due.mono (h : s.Due) (ht : t.tasks = s.tasks) (hgrows : Grows s.memory t.memory) :
    t.Due := by
  intro r task htask
  rw [ht] at htask
  obtain ⟨o, ho, hdue⟩ := h r task htask
  obtain ⟨o', ho', hle⟩ := hgrows r o ho
  exact ⟨o', ho', hdue.mono hle⟩

/-- The next filter knows nothing, and past the last one the grant is asked to be revoked. -/
theorem Due.ask {o : Ownership} (h : s.Due) (ho : s.memory r = some o) (id : GrantId)
    (shard : Shard) (k : Nat) : (s.ask filters r id shard k).Due := by
  unfold FilterChain.ask
  split
  · exact h.moveTo rfl (Memory.Le.refl _).1 ⟨o, ho, trivial⟩
  · refine h.moveTo rfl (Memory.le_modify _ r Ownership.le_requestRevoke).1
      ⟨o.requestRevoke, ?_, .inr (.inr rfl)⟩
    show s.memory.modify r Ownership.requestRevoke r = _
    rw [Memory.modify, Function.update_self, ho]
    rfl

/-- **The step lemma.** -/
theorem Due.step {e : Event} (h : s.Due) (hst : s.step filters e = some t)
    (hc : s.StaysUntilReleased e) : t.Due := by
  cases step_cases hst with
  | init => exact h.mono rfl (Memory.Le.refl _).1
  | @assign r o hfree =>
    refine h.mono rfl fun r' o' ho' => ⟨o', ?_, .refl _⟩
    have hne : r' ≠ r := by
      rintro rfl
      rw [hfree] at ho'
      cases ho'
    exact (Function.update_of_ne hne ..).trans ho'
  | @signal r sig =>
    exact h.mono rfl (Memory.le_modify _ r fun o => Signal.le_apply o sig).1
  | @skip id shard r o hmem hfree hexp =>
    exact h.moveTo rfl (Memory.Le.refl _).1 ⟨o, hmem, .inr (.inl hexp)⟩
  | @dispatch id shard r o hmem => exact h.ask hmem id shard 0
  | @declined id shard r k htask =>
    obtain ⟨o, ho, -⟩ := h r _ htask
    exact h.ask ho id shard (k + 1)
  | @handled id shard r k htask =>
    obtain ⟨o, ho, hdue⟩ := h r _ htask
    exact h.moveTo rfl (Memory.Le.refl _).1 ⟨o, ho, hdue⟩
  | @call id shard r o k call e c hmem htask hcall =>
    obtain ⟨o', ho', hdue⟩ := h r _ htask
    cases hmem.symm.trans ho'
    have hdue : (s.callOf k o call).Due := TryHandle.Due.mono hdue rfl (.refl _)
    have hnew : c.Due := by
      refine hdue.step hcall ?_
      unfold TryHandle.StaysUntilReleased
      split
      · exact hc o hmem
      · trivial
    intro r' task' htask'
    by_cases hr : r' = r
    · subst hr
      cases (Function.update_self ..).symm.trans htask'
      exact ⟨c.ownership, Function.update_self .., TryHandle.Due.mono hnew rfl (.refl _)⟩
    · obtain ⟨o', ho', hdue'⟩ := h r' task' ((Function.update_of_ne hr ..).symm.trans htask')
      exact ⟨o', (Function.update_of_ne hr ..).trans ho', hdue'⟩

/-- What is known of the tasks in every state of a run. -/
theorem always_due {es : List Event} (hinit : (machine filters).init s)
    (h : (machine filters).Guarded StaysUntilReleased s es) : (machine filters).Always Due s es :=
  Machine.always_of_guarded (fun _ _ _ h hst hc => h.step hst hc)
    (fun r task htask => by
      rw [hinit.2 r] at htask
      cases htask) h

/-- A task that is over knows that its grant is released. -/
theorem Due.cleared (h : s.Due) : s.Cleared := by
  intro r task o htask ho hover
  obtain ⟨o', ho', hknown⟩ := h r task htask
  cases ho.symm.trans ho'
  cases hlink : task.link with
  | asking k call =>
    rw [hlink] at hover
    cases hover
  | skipped | handled | relinquished =>
    rw [hlink] at hknown
    exact hknown

/-- **No live grant is left behind.** In every run of a dispatcher in which no Range closes itself
while `run_grant` waits for it to initialize, unless its grant is released by then: where the task
of an assignment is over, expired before dispatch, handled or relinquished, its grant is revoked,
expired or asked to be revoked. -/
theorem chain_released {es : List Event} (hinit : (machine filters).init s)
    (h : (machine filters).Guarded StaysUntilReleased s es) :
    (machine filters).Always Cleared s es :=
  (always_due hinit h).mono fun _ ht => ht.cleared

/-! ## Runs -/

/-- A dispatcher and one ownership. -/
def oneGrant : FilterChain :=
  { initialized := fun _ => .new
    grants := fun _ => ∅
    memory := Function.update Memory.empty 0 (some TryHandle.fresh.ownership)
    tasks := fun _ => none }

/-- The first filter declines the grant. -/
def firstDeclines : List Event :=
  [.init 0, .init 1, .dispatch ⟨"g"⟩ Node.wholeDomain 0, .call 0 .wake, .call 0 (.build false),
    .next 0, .call 0 .wake]

/-- The second one accepts it, and it becomes active. -/
def secondAccepts : List Event :=
  [.call 0 (.build true), .signal 0 .activate, .call 0 (.at .active), .call 0 (.at .go)]

/-- The answers for a grant that the second of two filters takes. -/
theorem chain_in_turn_second :
    ∃ t, (machine 2).run oneGrant (firstDeclines ++ secondAccepts) = some t ∧
      answersTo 0 ((machine 2).outputs answers oneGrant (firstDeclines ++ secondAccepts)) =
        [(0, false), (1, true)] := by
  obtain ⟨t, hrun, htask⟩ : ∃ t,
      (machine 2).run oneGrant (firstDeclines ++ secondAccepts) = some t ∧ t.tasks 0 =
        some { id := ⟨"g"⟩, shard := Node.wholeDomain
               link := .asking 1 (.runGrant .waitInit .new) } := ⟨_, rfl, rfl⟩
  refine ⟨t, hrun, ?_⟩
  rw [(chain_in_turn ⟨fun _ => rfl, fun _ => rfl⟩ hrun).1 0, answersAt, htask]
  rfl

/-- A grant that both filters decline. -/
theorem chain_released_declined :
    (machine 2).Always Cleared oneGrant (firstDeclines ++ [.call 0 (.build false), .next 0]) := by
  refine chain_released ⟨fun _ => rfl, fun _ => rfl⟩ (Machine.guarded_of_forall ?_)
  simp [firstDeclines, StaysUntilReleased]

end FilterChain

end Splitter
