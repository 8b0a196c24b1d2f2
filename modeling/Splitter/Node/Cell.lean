import Splitter.Node.Basic

/-!
# One assignment of a node

`Cell` is what the node holds for one assignment, and `CellStep` what can happen to it. `step_cell`
gives every step of the node as a step of each cell, so that an invariant that speaks of one
assignment at a time is proved on cells.
-/

namespace Splitter

namespace Effect

/-- The signal an effect gives, and the assignment it gives it to. -/
def signal? : Effect → Option (OwnershipRef × Signal)
  | .activate r => some (r, .activate)
  | .revoke r => some (r, .revoke)
  | .expire r => some (r, .expire)
  | .counterpartLoaded r => some (r, .counterpartLoaded)
  | .counterpartUnloaded r => some (r, .counterpartUnloaded)
  | .setExpiration r deadline => some (r, .setExpiration deadline)
  | _ => none

end Effect

namespace Node

/-- What the node holds for one assignment. -/
structure Cell where
  ownership : Option Ownership
  helpers : Option Helpers
  task : Option ChainTask

def cell (s : Node) (r : OwnershipRef) : Cell :=
  { ownership := s.memory r, helpers := s.helpers r, task := s.chains r }

/-- Who gives a signal: the driver, by a pending effect, or a timer or the user. -/
def Sends (pending : List Effect) (r : OwnershipRef) (sig : Signal) : Prop :=
  (∃ e ∈ pending, e.signal? = some (r, sig)) ∨ sig = .expire ∨ sig = .requestRevoke

/-- A step of the node, as one assignment sees it. -/
inductive CellStep (pending : List Effect) (r : OwnershipRef) : Cell → Cell → Prop
  | new {c : Cell} (o : Ownership) (hnew : .new r o ∈ pending) :
      CellStep pending r c { c with ownership := some o }
  | signal {c : Cell} {o : Ownership} (sig : Signal) (hsig : Sends pending r sig)
      (ho : c.ownership = some o) : CellStep pending r c { c with ownership := some (sig.apply o) }
  | spawn {c : Cell} (g : pb.Grant) (hspawn : .spawnHelpers r g ∈ pending) :
      CellStep pending r c { c with helpers := some (.spawn g) }
  | abort {c : Cell} {h : Helpers} (hh : c.helpers = some h) :
      CellStep pending r c { c with helpers := some { h with aborted := true } }
  | dispatch {c : Cell} {o : Ownership} (id : GrantId) (shard : Shard) (ho : c.ownership = some o)
      (htask : c.task = none) :
      CellStep pending r c { c with task := some { id, shard, chain := .tryHandle } }
  | accept {c : Cell} {id : GrantId} {shard : Shard}
      (htask : c.task = some { id, shard, chain := .tryHandle }) :
      CellStep pending r c { c with task := some { id, shard, chain := .running .waitUnload .new } }
  | decline {c : Cell} {id : GrantId} {shard : Shard}
      (htask : c.task = some { id, shard, chain := .tryHandle }) :
      CellStep pending r c
        { c with
          ownership := c.ownership.map Ownership.requestRevoke
          task := some { id, shard, chain := .relinquished } }
  | run {c : Cell} {id : GrantId} {shard : Shard} {b : Ownership.Branch} {now : SystemTime}
      (task next : GrantTask) (ho : c.ownership = some task.ownership)
      (htask : c.task = some { id, shard, chain := .running task.pc task.range })
      (hrun : task.run b now = some next) :
      CellStep pending r c
        { c with
          ownership := some next.ownership
          task := some { id, shard, chain := .running next.pc next.range } }
  | range {c : Cell} {id : GrantId} {shard : Shard} {pc : GrantTask.Pc}
      {range range' : RangeState} {e : RangeEvent}
      (htask : c.task = some { id, shard, chain := .running pc range })
      (hrange : range.step e = some range') :
      CellStep pending r c { c with task := some { id, shard, chain := .running pc range' } }
  | watcher {c : Cell} {kind : Watcher.Kind} {act : Watcher.Act} {o : Ownership} {h h' : Helpers}
      {frame : Option pb.JoinMessage} (ho : c.ownership = some o) (hh : c.helpers = some h)
      (hst : h.step o kind act = some (h', frame)) :
      CellStep pending r c { c with helpers := some h' }

/-- A signal, as one assignment sees it. -/
theorem cell_signal (s : Node) {pending : List Effect} {r : OwnershipRef} (sig : Signal)
    (hsig : Sends pending r sig) (k : OwnershipRef) :
    let t : Node := { s with memory := s.memory.modify r fun o => sig.apply o }
    t.cell k = s.cell k ∨ CellStep pending k (s.cell k) (t.cell k) := by
  by_cases hk : k = r
  · subst hk
    simp only [cell, Memory.modify, Function.update_self]
    cases ho : s.memory k with
    | none => exact .inl rfl
    | some o => exact .inr (.signal sig hsig rfl)
  · left
    simp [cell, Memory.modify, hk]

/-- An effect, as one assignment sees it. -/
theorem carryOut_cell {s : Node} {pending : List Effect} {e : Effect} (he : e ∈ pending)
    (k : OwnershipRef) :
    (s.carryOut e).cell k = s.cell k ∨ CellStep pending k (s.cell k) ((s.carryOut e).cell k) := by
  cases e with
  | new r o =>
    by_cases hk : k = r
    · subst hk
      have hcell : (s.carryOut (.new k o)).cell k = { s.cell k with ownership := some o } := by
        simp [cell, carryOut, Effect.exec]
      rw [hcell]
      exact .inr (.new o he)
    · left
      simp [cell, carryOut, Effect.exec, hk]
  | spawnHelpers r g =>
    by_cases hk : k = r
    · subst hk
      have hcell : (s.carryOut (.spawnHelpers k g)).cell k =
          { s.cell k with helpers := some (.spawn g) } := by
        simp [cell, carryOut]
      rw [hcell]
      exact .inr (.spawn g he)
    · left
      simp [cell, carryOut, hk]
  | abortHelpers r =>
    by_cases hk : k = r
    · subst hk
      cases hh : s.helpers k with
      | none =>
        left
        simp [cell, carryOut, hh]
      | some h =>
        have hcell : (s.carryOut (.abortHelpers k)).cell k =
            { s.cell k with helpers := some { h with aborted := true } } := by
          simp [cell, carryOut, hh]
        rw [hcell]
        exact .inr (.abort hh)
    · left
      simp [cell, carryOut, hk]
  | activate r | revoke r | expire r | counterpartLoaded r | counterpartUnloaded r
  | setExpiration r =>
    exact cell_signal s _ (.inl ⟨_, he, rfl⟩) k
  | event | publish | enqueue => exact .inl rfl

/-- A new state of a chain task, as one assignment sees it. -/
theorem cell_setChain (s : Node) (r : OwnershipRef) (task : ChainTask) (k : OwnershipRef) :
    (s.setChain r task).cell k =
      if k = r then { s.cell k with task := some task } else s.cell k := by
  split
  · next hk => subst hk; simp [cell, setChain]
  · next hk => simp [cell, setChain, hk]

section
variable [UuidCrate]

/-- **Every step of the node is a step of each cell.** -/
theorem step_cell {s t : Node} {e : Event} (hstep : s.step e = some t) (k : OwnershipRef) :
    t.cell k = s.cell k ∨ CellStep s.loop.driver.pending k (s.cell k) (t.cell k) := by
  cases step_cases hstep with
  | @driver e loop hloop =>
    rcases Loop.driver_step hloop with ⟨eff, rest, hpending, hcarried, -⟩ | ⟨-, hframes⟩
    · rw [hcarried]
      exact carryOut_cell (s := { s with loop }) (by simp [hpending]) k
    · left
      obtain ⟨frames, heq⟩ := foldl_carryOut_frames { s with loop } hframes
      rw [heq]
      rfl
  | @dispatch id shard r o hmem hfree =>
    rw [cell_setChain]
    split
    · next hk => subst hk; exact .inr (.dispatch id shard hmem hfree)
    · exact .inl rfl
  | @accept id shard r htask =>
    rw [cell_setChain]
    split
    · next hk => subst hk; exact .inr (.accept htask)
    · exact .inl rfl
  | @decline id shard r htask =>
    rw [cell_setChain]
    split
    · next hk =>
      subst hk
      right
      simp only [cell, Memory.modify, Function.update_self]
      exact .decline htask
    · next hk => simp [cell, Memory.modify, hk]
  | @run id shard r b now next task hmem htask hrun =>
    rw [cell_setChain]
    split
    · next hk =>
      subst hk
      right
      simp only [cell, Function.update_self]
      exact .run task next hmem htask hrun
    · next hk => simp [cell, hk]
  | @range id shard r pc range range' e htask hrange =>
    rw [cell_setChain]
    split
    · next hk => subst hk; exact .inr (.range htask hrange)
    · exact .inl rfl
  | requestRevoke => exact cell_signal s .requestRevoke (.inr (.inr rfl)) k
  | timer => exact cell_signal s .expire (.inr (.inl rfl)) k
  | @watcher r kind act o h h' frame hmem hhelpers hst =>
    by_cases hk : k = r
    · subst hk
      right
      simp only [cell, Function.update_self]
      exact .watcher hmem hhelpers hst
    · left
      simp [cell, hk]

end

end Node

end Splitter
