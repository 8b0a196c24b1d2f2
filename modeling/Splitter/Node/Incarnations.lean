import Splitter.Node.Handover
import Splitter.Processor.Hold

/-!
# The incarnations of a grant

A grant id that is assigned again gets a second `run_grant` while the first may still be on its way
out. Both keep their entry of the grant map under the id, and neither looks whose entry it writes
over or deletes.

`NoClobber` is what a newer incarnation may count on: from its first write to its clean-up its own
Range is under the id. The code does not keep it. `noClobber_of_guarded` gives the runs in which it
is kept, those in which the incarnations of an id take turns on the map (`InTurn`), and
`clobbered_of_overlap` says that an overlap with an older, expired incarnation can always go wrong.
-/

namespace Splitter

open Ownership (Branch)

namespace ChainTask

/-- The task is a `run_grant` at a point with a property. -/
def At (task : ChainTask) (p : GrantTask.Pc → Prop) : Prop :=
  match task.chain with
  | .running pc _ => p pc
  | _ => False

end ChainTask

namespace Node

/-! ## What an incarnation may count on -/

/-- The entry under the id of a task names the Range of an assignment. -/
def Holds (s : Node) (task : ChainTask) (r : OwnershipRef) : Prop :=
  ∃ entry, s.grants.lookup task.id = some entry ∧ entry.value = r

/-- **A newer incarnation finds its own Range under its id**, from its first write to its
clean-up. -/
def NoClobber (s : Node) : Prop :=
  ∀ r r' task task', s.chains r = some task → s.chains r' = some task' → task'.id = task.id →
    r' < r → task.At GrantTask.Pc.Holding → s.Holds task r

/-- What a step must meet: an incarnation makes its first access to the map when no other
incarnation of its id is between its first write and its clean-up. -/
def InTurn (s : Node) : Event → Prop
  | .run r _ _ => ∀ task, s.chains r = some task → task.At GrantTask.Pc.Enters →
      ∀ r' task', r' ≠ r → s.chains r' = some task' → task'.id = task.id →
        ¬ task'.At GrantTask.Pc.Holding
  | _ => True

/-- Every incarnation finds its own Range under its id while it holds an entry. -/
def Owned (s : Node) : Prop :=
  ∀ r task, s.chains r = some task → task.At GrantTask.Pc.Holding → s.Holds task r

theorem Owned.noClobber {s : Node} (h : s.Owned) : s.NoClobber :=
  fun r _ task _ htask _ _ _ hold => h r task htask hold

/-- Two incarnations of an id do not hold its entry both. -/
theorem Owned.unique {s : Node} (h : s.Owned) {r r' : OwnershipRef} {task task' : ChainTask}
    (htask : s.chains r = some task) (htask' : s.chains r' = some task')
    (hid : task'.id = task.id) (hold : task.At GrantTask.Pc.Holding)
    (hold' : task'.At GrantTask.Pc.Holding) : r' = r := by
  obtain ⟨entry, hentry, rfl⟩ := h r task htask hold
  obtain ⟨entry', hentry', rfl⟩ := h r' task' htask' hold'
  rw [hid, hentry] at hentry'
  cases hentry'
  rfl

/-! ## One step of a task -/

/-- A change of the chain tasks that touches no entry and starts no holder. -/
theorem Owned.congr {s t : Node} (h : s.Owned) (hgrants : t.grants = s.grants)
    (hchains : ∀ r task, t.chains r = some task → task.At GrantTask.Pc.Holding →
      ∃ task', s.chains r = some task' ∧ task'.id = task.id ∧ task'.At GrantTask.Pc.Holding) :
    t.Owned := by
  intro r task htask hold
  obtain ⟨task', htask', hid, hold'⟩ := hchains r task htask hold
  obtain ⟨entry, hentry, hvalue⟩ := h r task' htask' hold'
  exact ⟨entry, by rw [hgrants, ← hid]; exact hentry, hvalue⟩

/-- A new state of one chain task, which touches no entry. -/
theorem Owned.setChain {s : Node} (h : s.Owned) (r : OwnershipRef) {task : ChainTask}
    (hold : task.At GrantTask.Pc.Holding →
      ∃ task', s.chains r = some task' ∧ task'.id = task.id ∧ task'.At GrantTask.Pc.Holding) :
    (s.setChain r task).Owned := by
  refine h.congr rfl fun k task' htask' hold' => ?_
  by_cases hk : k = r
  · subst hk
    simp only [Node.setChain, Function.update_self, Option.some.injEq] at htask'
    subst htask'
    exact hold hold'
  · simp only [Node.setChain, Function.update_of_ne hk] at htask'
    exact ⟨task', htask', rfl, hold'⟩

section
variable {s : Node} {id : GrantId} {shard : Shard} {r : OwnershipRef} {b : Branch}
  {now : SystemTime} {task next : GrantTask}

/-- The node after a step of `run_grant`. -/
def afterRun (s : Node) (id : GrantId) (shard : Shard) (r : OwnershipRef)
    (task next : GrantTask) : Node :=
  { s with
    memory := Function.update s.memory r (some next.ownership)
    grants := ((task.pc.mapOp id shard r).getD fun m => m) s.grants }.setChain r
      { id, shard, chain := .running next.pc next.range }

theorem chains_afterRun (k : OwnershipRef) :
    (s.afterRun id shard r task next).chains k =
      if k = r then some { id, shard, chain := .running next.pc next.range } else s.chains k := by
  split
  · next hk => subst hk; simp [afterRun, setChain]
  · next hk => simp [afterRun, setChain, hk]

theorem grants_afterRun : (s.afterRun id shard r task next).grants =
    ((task.pc.mapOp id shard r).getD fun m => m) s.grants := rfl

/-- A step of `run_grant` keeps every holder's entry, if it is the task's turn. -/
theorem Owned.run (h : s.Owned)
    (htask : s.chains r = some { id, shard, chain := .running task.pc task.range })
    (hrun : task.run b now = some next)
    (hturn : task.pc.Enters → ∀ r' task', r' ≠ r → s.chains r' = some task' → task'.id = id →
      ¬ task'.At GrantTask.Pc.Holding) : (s.afterRun id shard r task next).Owned := by
  intro k task' htask' hold'
  have hop := GrantTask.holding_run hrun id shard r
  rw [chains_afterRun] at htask'
  split at htask'
  · next hk =>
    subst hk
    cases htask'
    rcases hop with ⟨hnone, hiff⟩ | ⟨-, ⟨state, hwrite⟩ | ⟨-, hnot⟩⟩
    · obtain ⟨entry, hentry, hvalue⟩ := h k _ htask (hiff.1 hold')
      exact ⟨entry, by rw [grants_afterRun, hnone]; exact hentry, hvalue⟩
    · refine ⟨{ shard, state, value := k }, ?_, rfl⟩
      rw [grants_afterRun, hwrite]
      exact AList.lookup_insert _
    · exact absurd hold' hnot
  · next hk =>
    obtain ⟨entry, hentry, hvalue⟩ := h k task' htask' hold'
    refine ⟨entry, ?_, hvalue⟩
    by_cases hid : task'.id = id
    · rcases hop with ⟨hnone, -⟩ | ⟨hold | henters, -⟩
      · rw [grants_afterRun, hnone]
        exact hentry
      · exact absurd (h.unique htask htask' hid hold hold') hk
      · exact absurd hold' (hturn henters k task' hk htask' hid)
    · exact (GrantTask.lookup_mapOp hid shard r s.grants).trans hentry

/-- A task that enters while another holds the entry takes it from the other. -/
theorem Owned.inTurn (h : (s.afterRun id shard r task next).Owned)
    (hrun : task.run b now = some next) (henters : task.pc.Enters) {r' : OwnershipRef}
    {task' : ChainTask} (hne : r' ≠ r) (htask' : s.chains r' = some task')
    (hid : task'.id = id) : ¬ task'.At GrantTask.Pc.Holding := by
  intro hold'
  obtain ⟨entry, hentry, hvalue⟩ := h r' task' (by rw [chains_afterRun, if_neg hne, htask']) hold'
  rw [hid, grants_afterRun] at hentry
  rcases GrantTask.holding_run hrun id shard r with ⟨hnone, -⟩ | ⟨-, ⟨state, hwrite⟩ | ⟨hdelete, -⟩⟩
  · revert henters hnone
    cases task.pc <;> simp [GrantTask.Pc.Enters, GrantTask.Pc.mapOp]
  · rw [hwrite] at hentry
    cases (AList.lookup_insert _).symm.trans hentry
    exact hne hvalue.symm
  · rw [hdelete] at hentry
    cases (AList.lookup_erase _ _).symm.trans hentry

end

/-! ## Steps and runs -/

theorem Owned.initial : Owned initial := fun _ _ h => by cases h

section
variable [UuidCrate]

/-- **The step lemma.** Where every holder owns its entry, a step keeps it so exactly if the
incarnations take turns. -/
theorem Owned.step_iff {s t : Node} {e : Event} (h : s.Owned) (hstep : s.step e = some t) :
    t.Owned ↔ s.InTurn e := by
  cases step_cases hstep with
  | @driver e loop hloop =>
    obtain ⟨helpers, heq⟩ := foldl_carryOut { s with loop } (s.loop.carried e)
    rw [heq]
    exact iff_of_true (h.congr rfl fun r task htask hold => ⟨task, htask, rfl, hold⟩) trivial
  | dispatch | accept | decline => exact iff_of_true (h.setChain _ fun hold => hold.elim) trivial
  | @run id shard r b now next task hmem htask hrun =>
    constructor
    · intro ht task₀ htask₀ henters r' task' hne htask' hid
      rw [htask] at htask₀
      cases htask₀
      exact Owned.inTurn ht hrun henters hne htask' hid
    · intro hturn
      exact h.run htask hrun fun henters => hturn _ htask henters
  | range htask hrange =>
    exact iff_of_true (h.setChain _ fun hold => ⟨_, htask, rfl, hold⟩) trivial
  | requestRevoke | timer | watcher =>
    exact iff_of_true (h.congr rfl fun r task htask hold => ⟨task, htask, rfl, hold⟩) trivial

/-- The runs in which no incarnation ever loses its entry are exactly those in which the
incarnations of each id take turns. -/
theorem owned_iff (es : List Event) :
    machine.Always Owned initial es ↔ machine.Guarded InTurn initial es :=
  Machine.always_iff_guarded_of_step (fun _ _ _ h hst => h.step_iff hst) .initial

/-- **When incarnations do not clobber each other.** In every run in which the incarnations of an
id take turns on the grant map, a newer incarnation finds its own Range under the id from its first
write to its clean-up. -/
theorem noClobber_of_guarded {es : List Event} (h : machine.Guarded InTurn initial es) :
    machine.Always NoClobber initial es :=
  ((owned_iff es).2 h).mono fun _ h => h.noClobber

/-! ## An overlap -/

/-- An event of a task or its Range, as an event of the node. -/
def ofTask (r : OwnershipRef) : GrantTask.Event → Event
  | .signal _ => .timer r
  | .range e => .range r e
  | .run b now => .run r b now

/-- The run of a task and its Range, in the node. -/
theorem run_ofTask {s : Node} {r : OwnershipRef} {id : GrantId} {shard : Shard}
    {task next : GrantTask} {es : List GrantTask.Event} (hmem : s.memory r = some task.ownership)
    (htask : s.chains r = some { id, shard, chain := .running task.pc task.range })
    (hown : ∀ e ∈ es, e.Own) (hrun : GrantTask.machine.run task es = some next) :
    ∃ t, machine.run s (es.map (ofTask r)) = some t ∧ t.memory r = some next.ownership ∧
      t.chains r = some { id, shard, chain := .running next.pc next.range } ∧
      ∀ k, k ≠ r → t.chains k = s.chains k := by
  induction es generalizing s task with
  | nil =>
    cases hrun
    exact ⟨s, rfl, hmem, htask, fun _ _ => rfl⟩
  | cons e es ih =>
    obtain ⟨u, hu, hrun⟩ := GrantTask.machine.run_cons_eq_some.1 hrun
    have hes : ∀ e ∈ es, e.Own := fun e he => hown e (List.mem_cons_of_mem _ he)
    obtain ⟨v, hstep, hvmem, hvtask, hvothers⟩ : ∃ v, s.step (ofTask r e) = some v ∧
        v.memory r = some u.ownership ∧
        v.chains r = some { id, shard, chain := .running u.pc u.range } ∧
        ∀ k, k ≠ r → v.chains k = s.chains k := by
      cases e with
      | signal sig => exact (hown _ (List.mem_cons_self ..)).elim
      | range e =>
        obtain ⟨range, hrange, rfl⟩ := Option.map_eq_some_iff.1 hu
        refine ⟨s.setChain r { id, shard, chain := .running task.pc range }, ?_, hmem, ?_, ?_⟩
        · simp [ofTask, step, htask, hrange]
        · simp [setChain]
        · exact fun k hk => by simp [setChain, hk]
      | run b now =>
        have hrun' : task.run b now = some u := hu
        refine ⟨s.afterRun id shard r task u, ?_, ?_, ?_, ?_⟩
        · simp [ofTask, step, hmem, htask, hrun', afterRun]
        · simp [afterRun, setChain]
        · simp [chains_afterRun]
        · exact fun k hk => by simp [chains_afterRun, hk]
    obtain ⟨t, ht, htmem, httask, htothers⟩ := ih hvmem hvtask hes hrun
    refine ⟨t, (machine.run_cons_eq_some).2 ⟨v, hstep, ht⟩, htmem, httask, fun k hk => ?_⟩
    rw [htothers k hk, hvothers k hk]

/-- **An overlap can always go wrong.** From any reachable state in which an older incarnation of an
id that has expired and a newer one both hold the entry, the older one can go on to delete the entry
of the newer. -/
theorem clobbered_of_overlap {s : Node} {r r' : OwnershipRef} {task task' : ChainTask}
    {o : Ownership} (hs : machine.Reachable s) (htask : s.chains r = some task)
    (htask' : s.chains r' = some task') (hid : task'.id = task.id) (hlt : r' < r)
    (hold : task.At GrantTask.Pc.Holding) (hold' : task'.At GrantTask.Pc.Holding)
    (hmem : s.memory r' = some o) (hexp : o.expired.isClosed = true) :
    ∃ es t, machine.run s es = some t ∧ ¬ t.NoClobber := by
  have hsound : s.Sound :=
    hs.invariant (fun _ h => h ▸ Sound.initial) fun _ _ _ h hst => h.step hst
  have hev := ((hsound.cells r').accounted o hmem).2
  rw [show (s.cell r').task = some task' from htask'] at hev
  obtain ⟨id, shard, _ | ⟨pc, range⟩ | _⟩ := task'
  · exact hold'.elim
  · obtain ⟨es, last, exit, hown, hleave, hpc⟩ :=
      GrantTask.exists_leave (s := { pc, ownership := o, range }) hev hexp hold'
    obtain ⟨t, hrun, htmem, httask, hothers⟩ := run_ofTask hmem htask' hown hleave
    have hdelete : last.run .go SystemTime.unixEpoch = some (last.goto (.close exit)) := by
      simp [GrantTask.run, hpc, GrantTask.straight]
    set left := t.afterRun id shard r' last (last.goto (.close exit)) with hleft
    have hstep : t.step (.run r' .go SystemTime.unixEpoch) = some left := by
      simp [step, htmem, httask, hdelete, hleft, afterRun]
    have hgone : left.grants.lookup id = none := by
      rw [hleft, grants_afterRun, hpc]
      exact AList.lookup_erase _ _
    refine ⟨es.map (ofTask r') ++ [.run r' .go SystemTime.unixEpoch], left, ?_, fun h => ?_⟩
    · rw [Machine.run_append, hrun, Option.bind_some]
      exact machine.run_cons_eq_some.2 ⟨left, hstep, rfl⟩
    · have hne : r ≠ r' := Nat.ne_of_gt hlt
      have hnewer : left.chains r = some task := by
        rw [chains_afterRun, if_neg hne, hothers r hne, htask]
      have holder : left.chains r' = some
          { id, shard, chain := .running (.close exit) last.range } := by
        rw [chains_afterRun, if_pos rfl]
        rfl
      obtain ⟨entry, hentry, -⟩ := h r r' task _ hnewer holder hid hlt hold
      rw [← hid] at hentry
      cases hgone.symm.trans hentry
  · exact hold'.elim

end

/-! ## Two runs -/

/-- An active grant is assigned, and its incarnation starts and writes its entry. -/
def firstStarts : List Event :=
  .driver .start :: deliver (.assign [wireGrant "g" .active]) 3 ++
    [.dispatch ⟨"g"⟩ wholeDomain 0, .build 0 true] ++ runTask 0 [.active, .go]

/-- The grant is assigned again, which expires the first ownership. -/
def assignedAgain : List Event := deliver (.assign [wireGrant "g" .active]) 6

/-- The second incarnation starts and writes the entry. -/
def secondStarts : List Event :=
  [.dispatch ⟨"g"⟩ wholeDomain 1, .build 1 true] ++ runTask 1 [.active, .go]

/-- The first incarnation sees that it has expired, and cleans up. -/
def firstLeaves : List Event := runTask 0 [.expired, .go, .go]

section
variable [UuidCrate] {es : List Event}

/-- A step of a task that does not enter the map needs no turn. -/
theorem inTurn_inside (h : machine.Guarded InTurn initial es) (r : OwnershipRef) (b : Branch)
    (task : ChainTask) (hrun : (machine.run initial es).bind (·.chains r) = some task)
    (hnot : ¬ task.At GrantTask.Pc.Enters) : machine.Guarded InTurn initial (es ++ runTask r [b]) := by
  refine Machine.guarded_append.2 ⟨h, fun s hs => Machine.guarded_cons.2 fun _ _ => ⟨?_, ?_⟩⟩
  · rw [hs, Option.bind_some] at hrun
    intro task' htask' henters
    rw [hrun] at htask'
    cases htask'
    exact absurd henters hnot
  · exact Machine.guarded_nil

/-- An id without an entry is free to enter. -/
theorem inTurn_free (h : machine.Guarded InTurn initial es) (r : OwnershipRef) (b : Branch)
    (task : ChainTask) (hrun : (machine.run initial es).bind (·.chains r) = some task)
    (hfree : (machine.run initial es).bind (·.grants.lookup task.id) = none) :
    machine.Guarded InTurn initial (es ++ runTask r [b]) := by
  refine Machine.guarded_append.2 ⟨h, fun s hs => Machine.guarded_cons.2 fun _ _ => ⟨?_, ?_⟩⟩
  · have howned : s.Owned := ((owned_iff es).2 h).last hs
    rw [hs, Option.bind_some] at hrun hfree
    intro task₀ htask₀ _ r' task' _ htask' hid hold
    rw [hrun] at htask₀
    cases htask₀
    obtain ⟨entry, hentry, -⟩ := howned r' task' htask' hold
    rw [hid, hfree] at hentry
    cases hentry
  · exact Machine.guarded_nil

/-- Steps other than those of `run_grant` need no turn. -/
theorem inTurn_others (h : machine.Guarded InTurn initial es) (fs : List Event)
    (hfs : ∀ e ∈ fs, ∀ t : Node, t.InTurn e) : machine.Guarded InTurn initial (es ++ fs) :=
  Machine.guarded_append.2 ⟨h, fun _ _ => Machine.guarded_of_forall hfs⟩

end

/-- Where a task of the grant stands, with a Range that has done nothing. -/
def standing (pc : GrantTask.Pc) : ChainTask :=
  { id := ⟨"g"⟩, shard := wholeDomain, chain := .running pc .new }

/-- A second incarnation that starts when the first has left. -/
theorem noClobber_turns :
    let := UuidCrate.pair
    machine.Always NoClobber initial
      (firstStarts ++ assignedAgain ++ firstLeaves ++ secondStarts) := by
  let := UuidCrate.pair
  have h₁ : machine.Guarded InTurn initial (firstStarts.take 8) := by
    refine Machine.guarded_of_forall ?_
    simp [firstStarts, deliver, runTask, InTurn]
  have h₂ := inTurn_inside h₁ 0 .active (standing .waitUnload) (by decide +kernel) id
  have h₃ := inTurn_free h₂ 0 .go (standing .allocated) (by decide +kernel) (by decide +kernel)
  have h₄ := inTurn_others h₃ assignedAgain (by simp [assignedAgain, deliver, InTurn])
  have h₅ := inTurn_inside h₄ 0 .expired (standing .waitInit) (by decide +kernel) id
  have h₆ := inTurn_inside h₅ 0 .go (standing (.delete (.init .expired))) (by decide +kernel) id
  have h₇ := inTurn_inside h₆ 0 .go (standing (.close (.init .expired))) (by decide +kernel) id
  have h₈ := inTurn_others h₇ (secondStarts.take 2) (by simp [secondStarts, InTurn])
  have h₉ := inTurn_inside h₈ 1 .active (standing .waitUnload) (by decide +kernel) id
  have h := inTurn_free h₉ 1 .go (standing .allocated) (by decide +kernel) (by decide +kernel)
  exact noClobber_of_guarded h

/-- **The entry of a newer incarnation is deleted.** The clean-up of the first incarnation comes
after the first write of the second. -/
theorem second_clobbered :
    let := UuidCrate.pair
    ∃ t, machine.run initial (firstStarts ++ assignedAgain ++ secondStarts ++ firstLeaves) = some t ∧
      ¬ NoClobber t := by
  let := UuidCrate.pair
  refine ⟨_, rfl, fun h => ?_⟩
  obtain ⟨entry, hentry, -⟩ := h 1 0 _ _ rfl rfl rfl (by decide) trivial
  cases hentry

end Node

end Splitter
