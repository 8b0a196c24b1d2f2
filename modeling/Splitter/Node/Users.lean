import Splitter.Node.Handover

/-!
# A node and its users

Whoever is given an ownership may call `load`, `unload` and `request_revoke` on it, as often and
whenever they like, beside the tasks of the node. `withUsers` is the node with such users: its runs
interleave their calls with all the node does (`userStep_cases`), so what holds in its runs holds in
those of the node alone.

For the watchers of an assignment a step is a closed latch more (`le_step`), or one of a few things
that can happen to the helpers and to what they have sent (`step_desk`).
-/

namespace Splitter

namespace Node

/-- A step of the node, or a call of a user. `request_revoke` is an event of the node. -/
inductive UserEvent
  | node (e : Event)
  | load (r : OwnershipRef)
  | unload (r : OwnershipRef)

/-- One step. A user has a handle of an ownership only once it is made. -/
def userStep [UuidCrate] (s : Node) : UserEvent → Option Node
  | .node e => s.step e
  | .load r =>
    match s.memory r with
    | some _ => some { s with memory := s.memory.modify r Ownership.load }
    | none => none
  | .unload r =>
    match s.memory r with
    | some _ => some { s with memory := s.memory.modify r Ownership.unload }
    | none => none

/-- A node with users. -/
def withUsers [UuidCrate] : Machine Node UserEvent where
  init s := s = initial
  step := userStep

/-- **Every step** is one of the node, or closes a latch of an ownership. -/
theorem userStep_cases [UuidCrate] {s t : Node} {e : UserEvent} (hstep : s.userStep e = some t) :
    (∃ e', e = .node e' ∧ s.step e' = some t) ∨
      (∀ e', e ≠ .node e') ∧ ∃ r f, (∀ o : Ownership, o.Le (f o)) ∧
        t = { s with memory := s.memory.modify r f } := by
  cases e with
  | node e => exact .inl ⟨e, rfl, hstep⟩
  | load r =>
    simp only [userStep] at hstep
    split at hstep
    · cases hstep
      exact .inr ⟨fun _ => nofun, r, _, Ownership.le_load, rfl⟩
    · cases hstep
  | unload r =>
    simp only [userStep] at hstep
    split at hstep
    · cases hstep
      exact .inr ⟨fun _ => nofun, r, _, Ownership.le_unload, rfl⟩
    · cases hstep

/-! ## The ownerships -/

/-- What a step does to the ownership of an assignment: its latches stay closed. -/
theorem CellStep.le {pending : List Effect} {r : OwnershipRef} {c c' : Cell} {o : Ownership}
    (h : CellStep pending r c c') (hfresh : ∀ o', .new r o' ∈ pending → c.ownership = none)
    (ho : c.ownership = some o) : ∃ o', c'.ownership = some o' ∧ o.Le o' := by
  cases h with
  | new o' hnew =>
    rw [hfresh o' hnew] at ho
    cases ho
  | @signal o₀ sig _ ho₀ =>
    rw [ho] at ho₀
    cases ho₀
    exact ⟨_, rfl, Signal.le_apply o sig⟩
  | decline => exact ⟨_, by rw [ho]; rfl, o.le_requestRevoke⟩
  | run task next ho₀ _ hrun =>
    rw [ho] at ho₀
    cases ho₀
    exact ⟨_, rfl, GrantTask.le_run hrun⟩
  | _ => exact ⟨o, ho, .refl o⟩

/-- What the driver has still to allocate is fresh. -/
theorem fresh_of_grounded {s : Node} (h : s.loop.driver.Grounded s.memory) {r : OwnershipRef}
    {o : Ownership} (hnew : .new r o ∈ s.loop.driver.pending) : s.memory r = none :=
  (h.fresh r (List.mem_filterMap.2 ⟨_, hnew, rfl⟩)).2

section
variable [UuidCrate]

/-- **A closed latch stays closed**, whatever happens. -/
theorem le_step {s t : Node} {e : UserEvent} (h : s.loop.driver.Grounded s.memory)
    (hstep : s.userStep e = some t) {r : OwnershipRef} {o : Ownership} (ho : s.memory r = some o) :
    ∃ o', t.memory r = some o' ∧ o.Le o' := by
  rcases userStep_cases hstep with ⟨e, -, hstep⟩ | ⟨-, k, f, hf, rfl⟩
  · rcases step_cell hstep r with hsame | hcell
    · have hmem : t.memory r = s.memory r := congrArg Cell.ownership hsame
      exact ⟨o, hmem.trans ho, .refl o⟩
    · exact hcell.le (fun _ hnew => fresh_of_grounded h hnew) ho
  · exact (Memory.le_modify s.memory k hf).1 r o ho

/-- A step is a step of the driver, or leaves it and allocates nothing. -/
theorem userStep_loop {s t : Node} {e : UserEvent} (hstep : s.userStep e = some t) :
    (∃ e, s.loop.step e = some t.loop ∧
        t.memory = (s.loop.carried e).foldl Effect.exec s.memory) ∨
      t.loop = s.loop ∧ ∀ r, s.memory r = none → t.memory r = none := by
  rcases userStep_cases hstep with ⟨e, -, hstep⟩ | ⟨-, k, f, hf, rfl⟩
  · exact step_loop hstep
  · exact .inr ⟨rfl, (Memory.le_modify s.memory k hf).2⟩

/-- The driver stays grounded in the memory. -/
theorem grounded_userStep {s t : Node} {e : UserEvent} (h : s.loop.driver.Grounded s.memory)
    (hstep : s.userStep e = some t) : t.loop.driver.Grounded t.memory := by
  rcases userStep_loop hstep with ⟨e, hloop, hmem⟩ | ⟨hloop, hmem⟩
  · rw [hmem]
    exact grounded_driver h hloop
  · rw [hloop]
    exact h.congr hmem

/-- The history only grows. -/
theorem history_userStep {s t : Node} {e : UserEvent} (hstep : s.userStep e = some t) :
    s.loop.driver.history ⊆ t.loop.driver.history := by
  rcases userStep_loop hstep with ⟨e, hloop, -⟩ | ⟨hloop, -⟩
  · exact history_driver hloop
  · rw [hloop]
    exact List.Subset.refl _

end

/-! ## The watchers and what they have sent -/

/-- What the watchers of an assignment have put in the outbound channel, in order. -/
def sentBy (s : Node) (r : OwnershipRef) : List pb.JoinMessage :=
  s.outbound.filterMap fun p => if p.1 = some r then some p.2 else none

/-- The helpers of an assignment and what they have sent. -/
structure Desk where
  helpers : Option Helpers
  sent : List pb.JoinMessage

def desk (s : Node) (r : OwnershipRef) : Desk := { helpers := s.helpers r, sent := s.sentBy r }

/-- What a step can do to the helpers of an assignment. -/
inductive DeskStep (s : Node) (r : OwnershipRef) : UserEvent → Desk → Prop
  | spawn {e : UserEvent} (g : pb.Grant) (hspawn : .spawnHelpers r g ∈ s.loop.driver.pending) :
      DeskStep s r e { s.desk r with helpers := some (.spawn g) }
  | abort {e : UserEvent} {h : Helpers} (hh : s.helpers r = some h) :
      DeskStep s r e { s.desk r with helpers := some { h with aborted := true } }
  | watcher {kind : Watcher.Kind} {act : Watcher.Act} {o : Ownership} {h h' : Helpers}
      {frame : Option pb.JoinMessage} (hmem : s.memory r = some o) (hh : s.helpers r = some h)
      (hst : h.step o kind act = some (h', frame)) :
      DeskStep s r (.node (.watcher r kind act))
        { helpers := some h', sent := s.sentBy r ++ frame.toList }

/-- Frames that another sends are not the watchers'. -/
theorem sentBy_append_of_ne {r : OwnershipRef} {sender : Option OwnershipRef}
    (h : sender ≠ some r) (outbound : List (Option OwnershipRef × pb.JoinMessage))
    (frames : List pb.JoinMessage) :
    (outbound ++ frames.map fun frame => (sender, frame)).filterMap
        (fun p => if p.1 = some r then some p.2 else none) =
      outbound.filterMap fun p => if p.1 = some r then some p.2 else none := by
  rw [List.filterMap_append, List.filterMap_map]
  simp [h]

/-- An effect of the driver, as the helpers of an assignment see it. -/
theorem carryOut_desk {s u : Node} (hdesk : ∀ k, u.desk k = s.desk k) {eff : Effect}
    (heff : eff ∈ s.loop.driver.pending) (e : UserEvent) (k : OwnershipRef) :
    (u.carryOut eff).desk k = s.desk k ∨ DeskStep s k e ((u.carryOut eff).desk k) := by
  have hhelpers : u.helpers k = s.helpers k := congrArg Desk.helpers (hdesk k)
  have hsent : u.sentBy k = s.sentBy k := congrArg Desk.sent (hdesk k)
  cases eff with
  | spawnHelpers r g =>
    by_cases hk : k = r
    · subst hk
      have heq : (u.carryOut (.spawnHelpers k g)).desk k =
          { s.desk k with helpers := some (.spawn g) } := by
        rw [← hdesk k]
        simp [desk, carryOut, sentBy]
      rw [heq]
      exact .inr (.spawn g heff)
    · left
      rw [← hdesk k]
      simp [desk, carryOut, sentBy, hk]
  | abortHelpers r =>
    by_cases hk : k = r
    · subst hk
      cases hh : s.helpers k with
      | none =>
        left
        rw [← hdesk k]
        simp [desk, carryOut, sentBy, hhelpers, hh]
      | some h =>
        have heq : (u.carryOut (.abortHelpers k)).desk k =
            { s.desk k with helpers := some { h with aborted := true } } := by
          rw [← hdesk k]
          simp [desk, carryOut, sentBy, hhelpers, hh]
        rw [heq]
        exact .inr (.abort hh)
    · left
      rw [← hdesk k]
      simp [desk, carryOut, sentBy, hk]
  | enqueue frame =>
    left
    rw [← hdesk k]
    have hne : none ≠ some k := (Option.some_ne_none k).symm
    have hother := sentBy_append_of_ne hne u.outbound [frame]
    simp only [desk, sentBy, carryOut]
    rw [← hother]
    rfl
  | _ =>
    left
    rw [← hdesk k]
    rfl

section
variable [UuidCrate]

/-- **What a step does to the helpers of an assignment.** -/
theorem step_desk {s t : Node} {e : UserEvent} (hstep : s.userStep e = some t) (k : OwnershipRef) :
    t.desk k = s.desk k ∨ DeskStep s k e (t.desk k) := by
  rcases userStep_cases hstep with ⟨e, rfl, hstep⟩ | ⟨-, r, f, -, rfl⟩
  · cases step_cases hstep with
    | @driver e loop hloop =>
      rcases Loop.driver_step hloop with ⟨eff, rest, hpending, hcarried, -⟩ | ⟨-, hframes⟩
      · rw [hcarried]
        exact carryOut_desk (s := s) (u := { s with loop }) (fun _ => rfl) (by simp [hpending]) _ k
      · left
        obtain ⟨frames, heq⟩ := foldl_carryOut_frames { s with loop } hframes
        have hne : none ≠ some k := (Option.some_ne_none k).symm
        have hsent := sentBy_append_of_ne hne s.outbound frames
        simp only [desk, sentBy, heq, hsent]
    | @watcher r kind act o h h' frame hmem hhelpers hst =>
      by_cases hk : k = r
      · subst hk
        right
        have heq : ∀ t : Node, t.helpers k = some h' →
            t.outbound = s.outbound ++ frame.toList.map (fun frame => (some k, frame)) →
            t.desk k = { helpers := some h', sent := s.sentBy k ++ frame.toList } := by
          intro t hhelpers hout
          simp only [desk, sentBy, hhelpers, hout, List.filterMap_append, List.filterMap_map]
          simp
        rw [heq _ (Function.update_self ..) rfl]
        exact .watcher hmem hhelpers hst
      · left
        have hne : some r ≠ some k := fun heq => hk (Option.some.inj heq).symm
        have hsent := sentBy_append_of_ne hne s.outbound frame.toList
        simp only [desk, sentBy, hsent, Function.update_of_ne hk]
    | _ => exact .inl rfl
  · exact .inl rfl

end

end Node

end Splitter
