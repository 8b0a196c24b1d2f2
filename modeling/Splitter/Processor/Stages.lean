import Splitter.Lib.Itinerary
import Splitter.Processor.Handover

/-!
# The stages of a grant's entry

`run_grant` records how far a grant has come in the processor's grant map: `Allocated` before it
waits for the Range, `AllocatedLoaded` after the load, and so on, and its clean-up deletes the entry
from wherever the task bails out. `place_run` gives the accesses of the task as a journey along
`route`, and `Vouched` is what the state last written says about the ownership and the Range.
-/

namespace Splitter

/-- An access of a task to the grant map: a write of a state, or the delete of its clean-up. -/
abbrev GrantMap.Access := Itinerary.Act GrantState

/-- Carry out an access. -/
def GrantMap.access {T : Type} (m : GrantMap T) (id : GrantId) (shard : Shard) (value : T) :
    GrantMap.Access → GrantMap T
  | .stop state => m.write id shard state value
  | .leave => m.delete id

namespace GrantTask

open Ownership (Branch)

/-- The states `run_grant` writes, in its order. -/
def route : List GrantState := [.allocated, .allocatedLoaded, .active, .revoked, .revokedUnloaded]

/-- The number of states written before the task bails out. -/
def Exit.stops : Exit → Nat
  | .step1 _ => 0
  | .init _ | .closedDuringInit => 1
  | .step3 _ => 2
  | .step4 _ => 3
  | .drain _ | .closedAfterDrain => 4
  | .finished _ => 5

/-- The number of states written before a point. -/
def Pc.stops : Pc → Nat
  | .waitUnload | .allocated => 0
  | .waitInit | .load | .loaded => 1
  | .waitActive | .activate => 2
  | .waitRevoke | .revoke => 3
  | .drain | .draining | .waitDrained | .checkClosed | .unload | .unloaded => 4
  | .waitLoad => 5
  | .delete exit | .close exit | .returned exit => exit.stops

/-- The clean-up has deleted the entry. -/
def Pc.left : Pc → Bool
  | .close _ | .returned _ => true
  | _ => false

/-- Where the entry of the task stands. -/
def Pc.place (pc : Pc) : Itinerary.Place := { stops := pc.stops, left := pc.left }

/-- The access of the step from a point, if it makes one. -/
def Pc.access : Pc → Option GrantMap.Access
  | .allocated => some (.stop .allocated)
  | .loaded => some (.stop .allocatedLoaded)
  | .activate => some (.stop .active)
  | .revoke => some (.stop .revoked)
  | .unloaded => some (.stop .revokedUnloaded)
  | .delete _ => some .leave
  | _ => none

/-- The accesses are the `GrantMap` operations of the task. -/
theorem mapOp_eq {T : Type} (pc : Pc) (id : GrantId) (shard : Shard) (value : T) :
    pc.mapOp id shard value = pc.access.map fun a m => m.access id shard value a := by
  cases pc <;> rfl

/-- **Every step of the task goes along the route**: it makes the next stop, leaves, or stays. -/
theorem place_run {s t : GrantTask} {b : Branch} {now : SystemTime} (h : s.run b now = some t) :
    (Itinerary.machine route).run s.pc.place s.pc.access.toList = some t.pc.place := by
  cases run_cases h with
  | unloadOk hpc | unloadRevoked hpc | unloadExpired hpc | allocated hpc | initOk hpc
  | initExpired hpc | initClosed hpc | load hpc | loaded hpc | activeOk hpc | activeRevoked hpc
  | activeExpired hpc | activate hpc | revokeOk hpc | revokeExpired hpc | revoke hpc | drain _ hpc
  | drainReturned hpc | drainedOk hpc | drainedExpired hpc | closedAfterDrain hpc
  | openAfterDrain hpc | unload hpc | unloaded hpc | finish _ hpc | delete hpc | close hpc =>
    rw [hpc]
    rfl

/-! ## What a state says -/

/-- What an entry with a state says about the task that wrote it. -/
def Attests (s : GrantTask) : GrantState → Prop
  | .unknown => True
  | .allocated => s.Clear
  | .allocatedLoaded => s.TakenOver ∧ s.ownership.loader.load.isClosed = true
  | .active => s.TakenOver ∧ s.Serving
  | .revoked => s.TakenOver ∧ s.Revoked
  | .revokedUnloaded => s.TakenOver ∧ s.GivenUp ∧ s.ownership.unloader.unload.isClosed = true

/-- The state last written, if the task has written one. -/
def Pc.state (pc : Pc) : Option GrantState := pc.place.last route

/-- The task has gone through all five steps. -/
def Exit.Finished : Exit → Prop
  | .finished _ => True
  | _ => False

/-- The task has signalled its unload. -/
def Pc.Unloaded : Pc → Prop
  | .unloaded | .waitLoad => True
  | .delete exit | .close exit | .returned exit => exit.Finished
  | _ => False

/-- The state last written holds, the unload is signalled at its point, and the Range is not closed
before the entry is gone. -/
structure Vouched (s : GrantTask) : Prop where
  attests : ∀ state, s.pc.state = some state → s.Attests state
  unloaded : s.ownership.unloader.unload.isClosed = true ↔ s.pc.Unloaded
  closeCalled : s.range.closeCalled = true → s.pc.left = true

/-- What a state says stays so. -/
theorem Attests.mono {s t : GrantTask} {state : GrantState} (h : s.Attests state)
    (ho : s.ownership.Le t.ownership) (hr : s.range.Le t.range) : t.Attests state := by
  cases state with
  | unknown => trivial
  | allocated => exact Clear.mono ho h
  | allocatedLoaded => exact ⟨h.1.mono ho hr, ho.load h.2⟩
  | active => exact ⟨h.1.mono ho hr, h.2.mono ho⟩
  | revoked => exact ⟨h.1.mono ho hr, h.2.mono ho⟩
  | revokedUnloaded => exact ⟨h.1.mono ho hr, h.2.1.mono ho hr, ho.unload h.2.2⟩

/-- A task writes no unknown state. -/
theorem state_ne_unknown {pc : Pc} {state : GrantState} (h : pc.state = some state) :
    state ≠ .unknown := by
  have hmem : state ∈ route := List.mem_of_mem_take (List.mem_of_getLast? h)
  rintro rfl
  revert hmem
  decide

namespace Attests

variable {s : GrantTask} {state : GrantState}

/-- Whatever state is recorded, the grant may be taken over. -/
theorem clear (h : s.Attests state) (hstate : state ≠ .unknown) : s.Clear := by
  cases state with
  | unknown => exact absurd rfl hstate
  | allocated => exact h
  | allocatedLoaded | active | revoked | revokedUnloaded => exact h.1.1

/-- A state after the activation. -/
theorem serving (h : s.Attests state)
    (hstate : state = .active ∨ state = .revoked ∨ state = .revokedUnloaded) : s.Serving := by
  rcases hstate with rfl | rfl | rfl
  · exact h.2
  · exact h.2.1
  · exact h.2.1.1.1.1.1

/-- A state after the revoke. -/
theorem revoked (h : s.Attests state) (hstate : state = .revoked ∨ state = .revokedUnloaded) :
    s.Revoked := by
  rcases hstate with rfl | rfl
  · exact h.2
  · exact h.2.1.1.1.1

end Attests

/-- A Range does not close itself the way its processor closes it. -/
theorem closeCalled_step {r r' : RangeState} {e : RangeEvent} (h : r.step e = some r') :
    r'.closeCalled = r.closeCalled := by
  cases e with
  | initialized | closeItself => cases h; rfl
  | drainReturn | drainClose =>
    obtain ⟨-, heq⟩ := Option.ite_none_right_eq_some.1 h
    cases heq
    rfl

/-- After the unload signal an entry is revoked. -/
theorem Pc.Unloaded.state {pc : Pc} {state : GrantState} (h : pc.Unloaded)
    (hstate : pc.state = some state) : state = .revoked ∨ state = .revokedUnloaded := by
  have hexit : ∀ exit : Exit, exit.Finished → exit.stops = 5 := by
    rintro (_ | _ | _ | _ | _ | _ | _ | _) hf
    all_goals first
      | rfl
      | exact hf.elim
  cases pc with
  | unloaded => exact .inl (Option.some.inj hstate).symm
  | waitLoad => exact .inr (Option.some.inj hstate).symm
  | delete exit | close exit | returned exit =>
    rw [Pc.state, Pc.place, Itinerary.Place.last] at hstate
    simp only [Pc.stops, hexit exit h] at hstate
    exact .inr (Option.some.inj hstate).symm
  | _ => exact h.elim

/-- A task that has written nothing since. -/
theorem Vouched.keep {s t : GrantTask} (h : s.Vouched) (hstate : t.pc.state = s.pc.state)
    (ho : s.ownership.Le t.ownership) (hr : s.range.Le t.range)
    (hunloaded : t.ownership.unloader.unload.isClosed = true ↔ t.pc.Unloaded)
    (hclose : t.range.closeCalled = true → t.pc.left = true) : t.Vouched where
  attests state hs := (h.attests state (hstate ▸ hs)).mono ho hr
  unloaded := hunloaded
  closeCalled := hclose

/-- A task that has moved on without a write. -/
theorem Vouched.goto {s : GrantTask} (h : s.Vouched) {pc : Pc} (hstate : pc.state = s.pc.state)
    (hunloaded : s.pc.Unloaded ↔ pc.Unloaded) (hin : s.pc.left = false) : (s.goto pc).Vouched :=
  h.keep hstate (.refl s.ownership) (.refl s.range) (h.unloaded.trans hunloaded) fun hcalled => by
    cases hin.symm.trans (h.closeCalled hcalled)

/-- A task that has just written a state that holds. -/
theorem Vouched.write {s : GrantTask} (h : s.Vouched) {pc : Pc} {state : GrantState}
    (hstate : pc.state = some state) (hattests : s.Attests state)
    (hunloaded : s.pc.Unloaded ↔ pc.Unloaded) (hin : s.pc.left = false) : (s.goto pc).Vouched where
  attests state' hs := by
    cases hstate.symm.trans hs
    exact hattests
  unloaded := h.unloaded.trans hunloaded
  closeCalled hcalled := by
    cases hin.symm.trans (h.closeCalled hcalled)

/-- A task that has just been handed a Range. -/
theorem Vouched.start {o : Ownership} (hopen : o.unloader.unload.isClosed = false) :
    Vouched { pc := .waitUnload, ownership := o, range := .new } where
  attests _ hstate := by cases hstate
  unloaded := iff_of_false (by rw [hopen]; nofun) id
  closeCalled hcalled := by cases hcalled

/-- **The step lemma.** -/
theorem Vouched.step {s t : GrantTask} {e : Event} (h : s.Vouched) (hev : s.Evidence)
    (hst : s.step e = some t) : t.Vouched := by
  cases e with
  | signal sig =>
    cases hst
    have hsame := Signal.unload_apply s.ownership sig
    refine h.keep rfl (Signal.le_apply _ sig) (.refl s.range) ?_ h.closeCalled
    rw [hsame]
    exact h.unloaded
  | range e =>
    obtain ⟨range, hrange, rfl⟩ := Option.map_eq_some_iff.1 hst
    refine h.keep rfl (.refl s.ownership) (RangeState.le_step hrange) h.unloaded fun hcalled => ?_
    exact h.closeCalled ((closeCalled_step hrange).symm.trans hcalled)
  | run b now =>
    have hknows := hev.knows
    have hunloaded := h.unloaded
    unfold Knows at hknows
    cases run_cases hst with
    | allocated hpc =>
      rw [hpc] at hknows
      exact h.write rfl hknows (by rw [hpc]; rfl) (by rw [hpc]; rfl)
    | load hpc =>
      rw [hpc] at hunloaded
      refine h.keep (by rw [hpc]; rfl) s.ownership.le_load (.refl s.range) hunloaded fun hcalled => ?_
      cases hpc ▸ h.closeCalled hcalled
    | loaded hpc =>
      rw [hpc] at hknows
      exact h.write rfl ⟨hev.load hknows, hknows⟩ (by rw [hpc]; rfl) (by rw [hpc]; rfl)
    | activate hpc =>
      rw [hpc] at hknows
      exact h.write rfl ⟨hev.load hknows.1, hknows⟩ (by rw [hpc]; rfl) (by rw [hpc]; rfl)
    | revoke hpc =>
      rw [hpc] at hknows
      exact h.write rfl ⟨hev.load hknows.1.1, hknows⟩ (by rw [hpc]; rfl) (by rw [hpc]; rfl)
    | drain timeout hpc =>
      have hle : s.range.Le { s.range with drainCalled := some timeout } :=
        { RangeState.Le.refl s.range with drainCalled := fun _ => rfl }
      rw [hpc] at hunloaded
      refine h.keep (by rw [hpc]; rfl) (.refl s.ownership) hle hunloaded fun hcalled => ?_
      cases hpc ▸ h.closeCalled hcalled
    | unload hpc =>
      refine h.keep (by rw [hpc]; rfl) s.ownership.le_unload (.refl s.range)
        (iff_of_true rfl trivial) fun hcalled => ?_
      cases hpc ▸ h.closeCalled hcalled
    | unloaded hpc =>
      rw [hpc] at hunloaded
      have hunload := hunloaded.2 trivial
      have hgiven := hev.unload hunload
      exact h.write rfl ⟨hev.load hgiven.1.1.1.1.1, hgiven, hunload⟩ (by rw [hpc]; rfl)
        (by rw [hpc]; rfl)
    | close hpc =>
      have hle : s.range.Le { s.range with closeCalled := true } :=
        { RangeState.Le.refl s.range with }
      rw [hpc] at hunloaded
      exact h.keep (by rw [hpc]; rfl) (.refl s.ownership) hle hunloaded fun _ => rfl
    | unloadOk hpc | unloadRevoked hpc | unloadExpired hpc | initOk hpc | initExpired hpc
    | initClosed hpc | activeOk hpc | activeRevoked hpc | activeExpired hpc | revokeOk hpc
    | revokeExpired hpc | drainReturned hpc | drainedOk hpc | drainedExpired hpc
    | closedAfterDrain hpc | openAfterDrain hpc | finish _ hpc | delete hpc =>
      exact h.goto (by rw [hpc]; rfl) (by rw [hpc]; rfl) (by rw [hpc]; rfl)

end GrantTask

end Splitter
