import Splitter.Driver.Clearance
import Splitter.Node.Lifecycle
import Splitter.Node.Registry

/-!
# Two consumers and one shard

A fleet is any number of nodes, each with its own connection. The coordinator moves a shard from a
grant `old` of one node to a grant `new` of another: it lets the second take over only when the
first has reported that it has unloaded (`Promised`), which is what `wait_for_unload` relies on.
`handover_exclusive`: then the second node's processor does not even record the new grant before the
first node's Range has been drained, whatever else the coordinator sends and however the two nodes
are scheduled.
-/

namespace Splitter

namespace Node

variable {s t : Node} {id : GrantId}

/-! ## What a node reports -/

/-- The node has told the coordinator that the grant is unloaded. -/
def ReportedUnloaded (s : Node) (id : GrantId) : Prop :=
  ∃ sender frame g, (sender, frame) ∈ s.outbound ∧ Reports frame g .revokedUnloaded ∧ id = ⟨g.id⟩

/-- An assignment of the grant was served, revoked and drained, and its unload is signalled. -/
def GaveUp (s : Node) (id : GrantId) : Prop :=
  ∃ r g task, Handled.assign r g ∈ s.loop.driver.history ∧ id = ⟨g.id⟩ ∧
    s.grantTask r = some task ∧ task.GivenUp ∧ task.ownership.unloader.unload.isClosed = true

/-- The driver's own frames report no state. -/
def Unreporting (s : Node) : Prop :=
  ∀ frame g state, (none, frame) ∈ s.outbound → ¬ Reports frame g state

section
variable [UuidCrate]

theorem outbound_step {e : Event} (hst : s.step e = some t) : s.outbound ⊆ t.outbound := by
  cases step_cases hst with
  | @driver e loop hloop =>
    obtain ⟨helpers, heq⟩ := foldl_carryOut { s with loop } (s.loop.carried e)
    rw [heq]
    exact List.subset_append_left ..
  | watcher => exact List.subset_append_left ..
  | _ => exact List.Subset.refl _

/-- A report stays made. -/
theorem ReportedUnloaded.step {e : Event} (h : s.ReportedUnloaded id) (hst : s.step e = some t) :
    t.ReportedUnloaded id := by
  obtain ⟨sender, frame, g, hmem, hreports⟩ := h
  exact ⟨sender, frame, g, outbound_step hst hmem, hreports⟩

theorem Unreporting.step {e : Event} (h : s.Unreporting) (hsound : s.Sound)
    (hst : s.step e = some t) : t.Unreporting := by
  intro frame g state hmem
  cases step_cases hst with
  | @driver e loop hloop =>
    obtain ⟨helpers, heq⟩ := foldl_carryOut { s with loop } (s.loop.carried e)
    rw [heq] at hmem
    rcases List.mem_append.1 hmem with hold | hnew
    · exact h frame g state hold
    · obtain ⟨eff, heff, hframe⟩ := List.mem_filterMap.1 hnew
      cases eff <;> cases hframe
      exact not_reports_driver hsound heff
  | watcher =>
    rcases List.mem_append.1 hmem with hold | hnew
    · exact h frame g state hold
    · obtain ⟨f, -, hf⟩ := List.mem_map.1 hnew
      cases hf
  | _ => exact h frame g state hmem

/-- **A report is true.** In every run of a node. -/
theorem gaveUp_of_reported {es : List Event} (hrun : machine.run initial es = some s)
    (h : s.ReportedUnloaded id) : s.GaveUp id := by
  obtain ⟨hsound, hreporting⟩ := sound_run hrun
  have hunreporting : s.Unreporting :=
    (Machine.run_invariant (I := fun s : Node => s.Sound ∧ s.Unreporting)
      (fun _ _ _ h hst => ⟨h.1.step hst, h.2.step h.1 hst⟩) ⟨.initial, fun _ _ _ h => by cases h⟩
      hrun).2
  obtain ⟨sender, frame, g, hmem, hreports, rfl⟩ := h
  cases sender with
  | none => exact absurd hreports (hunreporting frame g _ hmem)
  | some r =>
    have hframe : frame ∈ s.sentBy r := List.mem_filterMap.2 ⟨_, hmem, by simp⟩
    have htold := hreporting.desks r
    cases hh : s.helpers r with
    | none =>
      have hsent : s.sentBy r = [] := htold.silent hh
      rw [hsent] at hframe
      cases hframe
    | some hs =>
      obtain ⟨kinds, -, hsent, hdone⟩ := htold.sent hs hh
      rw [show s.sentBy r = _ from hsent] at hframe
      obtain ⟨kind, hkind, rfl⟩ := List.mem_map.1 hframe
      obtain ⟨hid, ⟨-, hne⟩ | ⟨rfl, -⟩⟩ := kind_of_reports hreports
      · cases hne
      · obtain ⟨o, ho, hunload⟩ := (hdone _ hkind).2
        obtain ⟨-, hev⟩ := (hsound.cells r).accounted o ho
        have hsignalled : ¬ Unsignalled o := fun hopen => by cases hopen.2.symm.trans hunload
        obtain ⟨task, htask, rfl, hevidence⟩ := hev.running ho hsignalled
        exact ⟨r, hs.grant, task, htold.assigned hs hh, by rw [hid], htask,
          hevidence.unload hunload, hunload⟩

/-- A node whose processor has an entry for a grant was cleared to take it over. -/
theorem cleared_of_entry {es : List Event} (hrun : machine.run initial es = some s)
    {entry : GrantMap.Entry OwnershipRef} (hentry : s.grants.lookup id = some entry) :
    Cleared s.loop.driver.history id := by
  have h := entries_vouched hrun hentry
  have hannounced := (booked_run hrun).announced id entry.shard entry.value
    (by rw [Effect.events_append]; exact List.mem_append_left _ h.announced)
  obtain ⟨g, hg, hid, -⟩ := hannounced
  exact ⟨entry.value, g, hg, hid, exists_clears.2 h.cleared⟩

/-! ## A fleet -/

variable {ι : Type} [DecidableEq ι] {i j : ι} {old new : GrantId}

/-- Nodes side by side. -/
def fleet (ι : Type) [DecidableEq ι] : Machine (ι → Node) (ι × Event) := machine.team

/-- What the coordinator promises of a shard that it moves from the grant `old` of the node `i` to
the grant `new` of the node `j`: it clears the new grant only once the old one is reported. -/
def Promised (i j : ι) (old new : GrantId) (s : ι → Node) (e : ι × Event) : Prop :=
  e.1 = j → ∀ ins ∈ (s j).heard e.2, ins.Clears new → (s i).ReportedUnloaded old

/-- The second node is cleared only after the report of the first. -/
structure Ordered (i j : ι) (old new : GrantId) (s : ι → Node) : Prop where
  filed : (s j).loop.driver.Filed
  booked : (s j).loop.driver.Booked (s j).loop.done
  cleared : Cleared (s j).loop.driver.history new → (s i).ReportedUnloaded old

/-- A step is a step of the driver, or leaves it. -/
theorem loop_step {e : Event} (hst : s.step e = some t) :
    (∃ e', e = .driver e' ∧ s.loop.step e' = some t.loop) ∨ t.loop = s.loop := by
  cases step_cases hst with
  | @driver e loop hloop =>
    obtain ⟨helpers, heq⟩ := foldl_carryOut { s with loop } (s.loop.carried e)
    rw [heq]
    exact .inl ⟨e, rfl, hloop⟩
  | _ => exact .inr rfl

/-- **The step lemma.** -/
theorem Ordered.step {s t : ι → Node} {e : ι × Event} (h : Ordered i j old new s)
    (hst : (fleet ι).step s e = some t) (hpromised : Promised i j old new s e) :
    Ordered i j old new t := by
  have hreported : (s i).ReportedUnloaded old → (t i).ReportedUnloaded old := by
    intro hreported
    rcases Machine.team_step_member hst i with ⟨-, hstep⟩ | hsame
    · exact hreported.step hstep
    · rw [hsame]
      exact hreported
  have hleft : (t j).loop = (s j).loop → Ordered i j old new t := fun hloop =>
    { filed := by rw [hloop]; exact h.filed
      booked := by rw [hloop]; exact h.booked
      cleared := fun hc => hreported (h.cleared (by rw [← hloop]; exact hc)) }
  rcases Machine.team_step_member hst j with ⟨hj, hstep⟩ | hsame
  · rcases loop_step hstep with ⟨e', he, hloop⟩ | hloop
    · refine ⟨Loop.filed_step h.filed hloop, Loop.booked_step h.booked hloop, fun hc => ?_⟩
      rcases Loop.cleared_step h.filed h.booked hloop hc with hbefore | ⟨ins, hins, hclears⟩
      · exact hreported (h.cleared hbefore)
      · exact hreported (hpromised hj ins (by rw [he]; exact hins) hclears)
    · exact hleft hloop
  · exact hleft (by rw [hsame])

/-- **A shard is not served twice.** In every run of a fleet in which the coordinator keeps its
promise about a shard: where the second node's processor has an entry for the new grant, the first
node has drained the old one; and if that was assigned there once, no entry of the first node's
processor says any more that it is allocated or active. -/
theorem handover_exclusive {es : List (ι × Event)} {s : ι → Node}
    (hpromise : (fleet ι).Guarded (Promised i j old new) (fun _ => initial) es)
    (hrun : (fleet ι).run (fun _ => initial) es = some s) {entry : GrantMap.Entry OwnershipRef}
    (hentry : (s j).grants.lookup new = some entry) :
    (s i).GaveUp old ∧
      ((∀ r r' g g', Handled.assign r g ∈ (s i).loop.driver.history → old = ⟨g.id⟩ →
          Handled.assign r' g' ∈ (s i).loop.driver.history → old = ⟨g'.id⟩ → r = r') →
        ∀ entry', (s i).grants.lookup old = some entry' →
          entry'.state = .revoked ∨ entry'.state = .revokedUnloaded) := by
  have hinit : Ordered i j old new fun _ => initial :=
    { filed := .initial
      booked := .initial
      cleared := by
        rintro ⟨r, g, hg, -⟩
        cases hg }
  have hordered : Ordered i j old new s :=
    (Machine.always_of_guarded (fun _ _ _ h hst hc => h.step hst hc) hinit hpromise).last hrun
  obtain ⟨u, hi, rfl⟩ := (Machine.team_member i).run (t := initial) rfl hrun
  obtain ⟨v, hj, rfl⟩ := (Machine.team_member j).run (t := initial) rfl hrun
  have hgave := gaveUp_of_reported hi (hordered.cleared (cleared_of_entry hj hentry))
  refine ⟨hgave, fun honce entry' hentry' => ?_⟩
  obtain ⟨r, g, task, hassign, hid, htask, -, hunload⟩ := hgave
  have hreg := registered_run hi
  obtain ⟨pc, range, hchain, hstate, -⟩ := hreg.entries old entry' hentry'
  have hvouched := entries_vouched hi hentry'
  obtain ⟨g', hassign', hid', -⟩ := (booked_run hi).announced old entry'.shard entry'.value
    (by rw [Effect.events_append]; exact List.mem_append_left _ hvouched.announced)
  obtain rfl := honce _ _ _ _ hassign hid hassign' hid'
  obtain ⟨id, shard, hmem, hchain'⟩ := grantTask_eq_some.1 htask
  rw [hchain] at hchain'
  cases hchain'
  have htask' := hreg.vouched entry'.value _ _ _ _ _ hmem hchain
  exact (htask'.unloaded.1 hunload).state hstate

/-- After the report the promise is kept, whatever happens. -/
theorem guarded_of_reported {s : ι → Node} (h : (s i).ReportedUnloaded old)
    (es : List (ι × Event)) : (fleet ι).Guarded (Promised i j old new) s es := by
  have hall : (fleet ι).Always (fun s => (s i).ReportedUnloaded old) s es := by
    refine Machine.always_of_invariant (I := fun s : ι → Node => (s i).ReportedUnloaded old)
      (fun s e t h hst => ?_) h es
    rcases Machine.team_step_member hst i with ⟨-, hstep⟩ | hsame
    · exact h.step hstep
    · rw [hsame]
      exact h
  exact hall.guarded fun s e t h _ _ _ _ _ => h

end

/-! ## A move -/

/-- The second node takes over a shard that the first has reported. -/
def takeOverRun : List Event :=
  .driver .start :: deliver (.assign [wireGrant "h" .allocated]) 3 ++
    [.dispatch ⟨"h"⟩ wholeDomain 0, .build 0 true] ++
    deliver (.notify { target := some (wireGrant "h" .allocated)
                       update := some (wireGrant "g" .revokedUnloaded) }) 1 ++
    runTask 0 [.unloaded, .go]

/-- What the first node reports. -/
theorem outbound_lifeRun :
    let := UuidCrate.pair
    (machine.run initial lifeRun).map (·.outbound) =
      some [(some 0, Watcher.updateFrame (wireGrant "g" .allocated) .allocatedLoaded),
        (some 0, Watcher.updateFrame (wireGrant "g" .allocated) .revokedUnloaded)] := rfl

/-- A shard moves from one node to another. -/
theorem handover_exclusive_move :
    let := UuidCrate.pair
    ∃ s : Bool → Node, (fleet Bool).run (fun _ => initial)
        (lifeRun.map (false, ·) ++ takeOverRun.map (true, ·)) = some s ∧
      (∃ entry, (s true).grants.lookup ⟨"h"⟩ = some entry) ∧ (s false).GaveUp ⟨"g"⟩ := by
  let := UuidCrate.pair
  have hlife := outbound_lifeRun
  have htake : (machine.run initial takeOverRun).map (fun s => s.grants.lookup ⟨"h"⟩) =
      some (some { shard := wholeDomain, state := .allocated, value := 0 }) := by decide +kernel
  obtain ⟨a, ha, hout⟩ := Option.map_eq_some_iff.1 hlife
  obtain ⟨b, hb, hentry⟩ := Option.map_eq_some_iff.1 htake
  set u : Bool → Node := Function.update (fun _ => initial) false a with hu
  have hreported : (u false).ReportedUnloaded ⟨"g"⟩ :=
    ⟨_, _, { wireGrant "g" .allocated with state := pb.GrantState.revokedUnloaded.toI32 },
      hout ▸ List.mem_cons_of_mem _ (List.mem_cons_self ..), ⟨rfl, rfl⟩, rfl⟩
  have hfirst : (fleet Bool).run (fun _ => initial) (lifeRun.map (false, ·)) = some u := by
    rw [fleet, Machine.team_run_map, ha]
    rfl
  have hrun : (fleet Bool).run (fun _ => initial)
      (lifeRun.map (false, ·) ++ takeOverRun.map (true, ·)) = some (Function.update u true b) := by
    rw [Machine.run_append, hfirst, Option.bind_some, fleet, Machine.team_run_map]
    show (machine.run initial takeOverRun).map _ = _
    rw [hb]
    rfl
  have hpromise : (fleet Bool).Guarded (Promised false true ⟨"g"⟩ ⟨"h"⟩) (fun _ => initial)
      (lifeRun.map (false, ·) ++ takeOverRun.map (true, ·)) := by
    refine Machine.guarded_append.2 ⟨Machine.guarded_of_forall fun e he t hj => ?_, fun t ht => ?_⟩
    · obtain ⟨e', -, rfl⟩ := List.mem_map.1 he
      cases hj
    · rw [hfirst] at ht
      cases ht
      exact guarded_of_reported hreported _
  exact ⟨_, hrun, ⟨_, hentry⟩, (handover_exclusive hpromise hrun hentry).1⟩

end Node

end Splitter
