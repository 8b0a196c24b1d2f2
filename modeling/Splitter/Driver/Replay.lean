import Splitter.Driver.Independence

/-!
# The events as a copy of the table

A subscriber that applies the grant events in order has a table of its own (`replay`). What it holds
of a grant is the driver's entry (`Alternates.replay`), with the shard of the assignment that made
it: `Booked` ties every announcement to the assignment it announces, and says that no two
assignments share an ownership.
-/

namespace Splitter

/-! ## Replaying the events -/

/-- A subscriber's table after an event. -/
def GrantEvent.apply (table : GrantId → Option (Shard × OwnershipRef)) :
    GrantEvent → GrantId → Option (Shard × OwnershipRef)
  | .assigned id shard r => Function.update table id (some (shard, r))
  | .removed id => Function.update table id none

/-- A subscriber's table after all events so far. -/
def replay (es : List GrantEvent) : GrantId → Option (Shard × OwnershipRef) :=
  es.foldl GrantEvent.apply fun _ => none

theorem replay_concat (es : List GrantEvent) (e : GrantEvent) :
    replay (es ++ [e]) = GrantEvent.apply (replay es) e := List.foldl_concat ..

/-- An event changes what is held of its own grant. -/
theorem GrantEvent.apply_of_ne {table : GrantId → Option (Shard × OwnershipRef)} {e : GrantEvent}
    {id : GrantId} (h : e.id ≠ id) : e.apply table id = table id := by
  cases e with
  | assigned k shard r => exact Function.update_of_ne (fun heq => h heq.symm) ..
  | removed k => exact Function.update_of_ne (fun heq => h heq.symm) ..

/-- **The replay of alternating events** holds the assignment that is not removed yet, with the
shard it was announced with. -/
theorem Alternates.replay {id : GrantId} {es : List GrantEvent} {o : Option OwnershipRef}
    (h : Alternates id es o) :
    (replay es id).map (·.2) = o ∧
      ∀ shard r, Splitter.replay es id = some (shard, r) → .assigned id shard r ∈ es := by
  induction h with
  | nil => exact ⟨rfl, fun _ _ h => by cases h⟩
  | other hne _ ih =>
    rw [replay_concat, GrantEvent.apply_of_ne hne]
    exact ⟨ih.1, fun shard r heq => List.mem_append_left _ (ih.2 shard r heq)⟩
  | assigned shard r _ _ =>
    rw [replay_concat, GrantEvent.apply, Function.update_self]
    refine ⟨rfl, fun shard' r' heq => ?_⟩
    cases heq
    simp
  | removed _ _ =>
    rw [replay_concat, GrantEvent.apply, Function.update_self]
    exact ⟨rfl, fun _ _ h => by cases h⟩

namespace Driver

/-! ## Announcements and assignments -/

/-- Every announcement is that of an assignment, with its id and its shard, and an ownership is made
for one assignment only. -/
structure Booked (log : List Effect) (d : Driver) : Prop where
  announced : ∀ id shard r, GrantEvent.assigned id shard r ∈ Effect.events (log ++ d.pending) →
    ∃ g, Handled.assign r g ∈ d.history ∧ id = ⟨g.id⟩ ∧ decodedShard g = some shard
  below : ∀ r g, Handled.assign r g ∈ d.history → r < d.next
  once : ∀ r g g', Handled.assign r g ∈ d.history → Handled.assign r g' ∈ d.history → g = g'

theorem Booked.initial : Booked [] initial where
  announced _ _ _ h := by cases h
  below _ _ h := by cases h
  once _ _ _ h := by cases h

/-- Effects that announce no assignment, and bookkeeping of anything else. -/
theorem Booked.append {log effects : List Effect} {d d' : Driver} {handled : List Handled}
    (h : Booked log d) (hpending : d'.pending = d.pending ++ effects)
    (hhistory : d'.history = d.history ++ handled) (hnext : d'.next = d.next)
    (heffects : ∀ id shard r, GrantEvent.assigned id shard r ∉ Effect.events effects)
    (hhandled : ∀ r g, Handled.assign r g ∉ handled) : Booked log d' := by
  have hback : ∀ r g, Handled.assign r g ∈ d'.history → Handled.assign r g ∈ d.history := by
    intro r g hg
    rw [hhistory, List.mem_append] at hg
    exact hg.resolve_right (hhandled r g)
  refine ⟨fun id shard r hr => ?_, fun r g hg => ?_, fun r g g' hg hg' => ?_⟩
  · rw [hpending, ← List.append_assoc, Effect.events_append, List.mem_append] at hr
    obtain ⟨g, hg, hid, hshard⟩ := h.announced id shard r (hr.resolve_right (heffects id shard r))
    exact ⟨g, by rw [hhistory]; exact List.mem_append_left _ hg, hid, hshard⟩
  · rw [hnext]
    exact h.below r g (hback r g hg)
  · exact h.once r g g' (hback r g hg) (hback r g' hg')

/-- An assignment is announced with the shard it has. -/
theorem Booked.enterGrant {log : List Effect} {d : Driver} (h : Booked log d) {g : pb.Grant}
    {shard : Shard} (hshard : decodedShard g = some shard) (expiration now : SystemTime) :
    Booked log (d.enterGrant g shard expiration now) := by
  set d' := d.enterGrant g shard expiration now with hd'
  have hhistory : d'.history = d.history ++ [.assign d.next g] := rfl
  have hevents : Effect.events (log ++ d'.pending) =
      Effect.events (log ++ d.pending) ++ [.assigned ⟨g.id⟩ shard d.next] := by
    have hpending : d'.pending = d.pending ++ [.new d.next _, .spawnHelpers d.next g,
        .event (.assigned ⟨g.id⟩ shard d.next)] := rfl
    rw [hpending, ← List.append_assoc, Effect.events_append]
    rfl
  have hcases : ∀ r g', Handled.assign r g' ∈ d'.history →
      Handled.assign r g' ∈ d.history ∨ r = d.next ∧ g' = g := by
    intro r g' hg'
    rw [hhistory, List.mem_append, List.mem_singleton] at hg'
    refine hg'.imp_right fun heq => ?_
    cases heq
    exact ⟨rfl, rfl⟩
  refine ⟨fun id shard' r hr => ?_, fun r g' hg' => ?_, fun r g₁ g₂ h₁ h₂ => ?_⟩
  · rw [hevents, List.mem_append, List.mem_singleton] at hr
    rw [hhistory]
    rcases hr with hr | hr
    · obtain ⟨g', hg', hid, hshard'⟩ := h.announced id shard' r hr
      exact ⟨g', List.mem_append_left _ hg', hid, hshard'⟩
    · cases hr
      exact ⟨g, by simp, rfl, hshard⟩
  · show r < d.next + 1
    rcases hcases r g' hg' with hold | ⟨rfl, -⟩
    · exact Nat.lt_succ_of_lt (h.below r g' hold)
    · exact Nat.lt_succ_self _
  · rcases hcases r g₁ h₁ with hold₁ | ⟨rfl, rfl⟩ <;> rcases hcases _ g₂ h₂ with hold₂ | ⟨heq, rfl⟩
    · exact h.once r g₁ g₂ hold₁ hold₂
    · have hlt := h.below r g₁ hold₁
      rw [heq] at hlt
      exact absurd hlt (Nat.lt_irrefl _)
    · exact absurd (h.below _ g₂ hold₂) (Nat.lt_irrefl _)
    · rfl

theorem Booked.removeGrant {log : List Effect} {d : Driver} (h : Booked log d) (id : GrantId) :
    Booked log (d.removeGrant id) := by
  unfold Driver.removeGrant
  split
  · exact h
  · exact h.append rfl (List.append_nil _).symm rfl (by simp [Effect.events, Effect.event?])
      (by simp)

/-- **One instruction.** -/
theorem Booked.perform {log : List Effect} {d : Driver} (h : Booked log d) (i : Instruction) :
    Booked log (d.perform i).1 := by
  cases i with
  | assign g now =>
    simp only [Driver.perform, onAssign]
    split
    · exact h
    · next shard hshard =>
      split
      · exact h
      · exact (h.removeGrant _).enterGrant hshard _ _
  | promote g =>
    simp only [Driver.perform, onPromote]
    split
    · exact h
    · exact h.append rfl rfl rfl (by simp [Effect.events, Effect.event?]) (by simp)
  | revoke g =>
    simp only [Driver.perform, onRevoke]
    split
    · exact h
    · next lease _ =>
      split
      · exact h
      · refine h.append rfl rfl rfl ?_ (by simp)
        cases lease <;> simp [Effect.events, Effect.event?]
  | notify n =>
    simp only [Driver.perform, onNotify]
    split
    · next target update _ _ =>
      split
      · exact h
      · refine h.append rfl rfl rfl ?_ (by simp)
        cases grantStateFromI32 update.state <;> simp [notifyEffects, Effect.events, Effect.event?]
    · exact h
  | extend lease =>
    simp only [Driver.perform, onExtend]
    split
    · exact h
    · exact h
    · exact h.append rfl (List.append_nil _).symm rfl (by simp [Effect.events, Effect.event?])
        (by simp)

theorem Booked.follow {log : List Effect} {d : Driver} (h : Booked log d) (is : List Instruction) :
    Booked log (d.follow is).1 :=
  follow_invariant (fun _ i hd => hd.perform i) h is

/-- The removals of the clean-up. -/
theorem Booked.removeGrants {log : List Effect} {d : Driver} (h : Booked log d)
    (ids : List GrantId) : Booked log (ids.foldl Driver.removeGrant d) :=
  List.foldl_invariant (fun _ id hd => hd.removeGrant id) h

/-- What the log holds but the frames sent does not matter. -/
theorem Booked.congr {log log' : List Effect} {d d' : Driver} (h : Booked log d)
    (hevents : Effect.events (log' ++ d'.pending) = Effect.events (log ++ d.pending))
    (hhistory : d'.history = d.history) (hnext : d'.next = d.next) : Booked log' d' where
  announced := by
    rw [hevents, hhistory]
    exact h.announced
  below := by
    rw [hhistory, hnext]
    exact h.below
  once := by
    rw [hhistory]
    exact h.once

section
variable [UuidCrate]

/-- **One frame.** -/
theorem Booked.inbound {log : List Effect} {d : Driver} (h : Booked log d) (env : Env)
    (join : pb.JoinMessage) : Booked log (d.handleInbound env join).1 := by
  rcases join with ⟨_ | msg | ⟨_ | client | cm⟩⟩
  · exact h
  · exact h
  · exact h
  · show Booked log (d.handleClientMessage env client).1
    rw [handleClientMessage_follow]
    exact h.follow _
  · show Booked log (d.handleCluster env cm).1
    unfold handleCluster
    split
    · simp only
      split
      · exact h.append rfl (List.append_nil _).symm rfl (by simp [Effect.events, Effect.event?])
          (by simp)
      · exact h
    · exact h
    · exact h

end

end Driver

namespace Loop

section
variable [UuidCrate]

/-- **The driver task keeps its books.** -/
theorem booked_step {s t : Loop} {e : Event} (h : s.driver.Booked s.done)
    (hst : s.step e = some t) : t.driver.Booked t.done := by
  have hsent {frame : pb.JoinMessage} (ok : Bool) :
      (s.enqueue ok frame).driver.Booked (s.enqueue ok frame).done := by
    cases ok with
    | false => exact h
    | true => exact h.congr (by simp [enqueue, Effect.events, List.filterMap_cons, Effect.event?]) rfl rfl
  cases step_cases hst with
  | takeInbound item env =>
    rcases item with _ | ⟨status | join⟩
    · exact h
    · exact h
    · exact h.inbound env join
  | exec hpending => exact h.congr (by simp [hpending]) rfl rfl
  | @handled result now => rcases result with (_ | _) | (_ | _) <;> exact h
  | heartbeatSent => exact hsent true
  | deregisterSent ok | closedSent ok => exact hsent ok
  | collect ids => exact h.removeGrants ids
  | _ => exact h

end

end Loop

end Splitter
