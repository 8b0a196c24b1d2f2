import Splitter.Node.Lifecycle
import Splitter.Node.Table

/-!
# The grant a watcher sends

The driver keeps the grant of the last message about an id in its table, as `ActiveGrant.pbGrant`
(`recorded_run`), but each watcher has its own copy, of the grant that was assigned.
`payloads_current`: in a run of a node with users, what the watchers send is what the driver
recorded last exactly if no later message changed what they send.
-/

namespace Splitter

/-! ## What the driver records -/

/-- The grant that the driver puts in its table for a message. -/
def Handled.grant? : Handled → Option pb.Grant
  | .assign _ g | .promote _ g | .revoke _ g => some g
  | .notify _ _ => none

/-- The grant the driver recorded last for an id. -/
def recorded (history : List Handled) (id : GrantId) : Option pb.Grant :=
  ((history.filterMap Handled.grant?).filter fun g => GrantId.mk g.id = id).getLast?

/-- A message about a grant replaces what is recorded for its id. -/
theorem recorded_concat (history : List Handled) {e : Handled} {g : pb.Grant}
    (he : e.grant? = some g) (id : GrantId) :
    recorded (history ++ [e]) id = if id = ⟨g.id⟩ then some g else recorded history id := by
  simp only [recorded, List.filterMap_append, List.filterMap_cons, he, List.filterMap_nil,
    List.filter_append, List.filter_cons, List.filter_nil]
  by_cases hid : id = ⟨g.id⟩
  · subst hid
    simp
  · have hne : ¬ GrantId.mk g.id = id := fun heq => hid heq.symm
    simp [hid, hne]

/-- Something is recorded for the id of an assignment. -/
theorem exists_recorded {history : List Handled} {r : OwnershipRef} {g : pb.Grant}
    (h : .assign r g ∈ history) : ∃ g', recorded history ⟨g.id⟩ = some g' := by
  have hmem : g ∈ (history.filterMap Handled.grant?).filter fun g' => GrantId.mk g'.id = ⟨g.id⟩ := by
    rw [List.mem_filter, List.mem_filterMap]
    exact ⟨⟨_, h, rfl⟩, by simp⟩
  exact Option.ne_none_iff_exists'.1 fun hnone =>
    List.ne_nil_of_mem hmem (List.getLast?_eq_none_iff.1 hnone)

namespace Driver

/-- The entry of an id has the grant that was recorded last for it. -/
def Recorded (d : Driver) : Prop :=
  ∀ id entry, d.grants.lookup id = some entry → recorded d.history id = some entry.pbGrant

/-- A message about a grant is put in the table and in the bookkeeping. -/
theorem Recorded.insert {d d' : Driver} (h : d.Recorded) (e : Handled) (entry : ActiveGrant)
    (he : e.grant? = some entry.pbGrant)
    (hgrants : d'.grants = d.grants.insert ⟨entry.pbGrant.id⟩ entry)
    (hhistory : d'.history = d.history ++ [e]) : d'.Recorded := by
  intro id entry' hentry'
  rw [hgrants, AList.lookup_insert_ite] at hentry'
  rw [hhistory, recorded_concat d.history he]
  split at hentry'
  · next hid =>
    cases hentry'
    rw [if_pos hid]
  · next hid =>
    rw [if_neg hid]
    exact h id entry' hentry'

theorem Recorded.removeGrant {d : Driver} (h : d.Recorded) (id : GrantId) :
    (d.removeGrant id).Recorded := by
  intro k entry hentry
  have hhistory : (d.removeGrant id).history = d.history := by
    unfold Driver.removeGrant
    split <;> rfl
  rw [lookup_removeGrant] at hentry
  rw [hhistory]
  split at hentry
  · cases hentry
  · exact h k entry hentry

/-- **Every edit.** -/
theorem Recorded.edit {d d' : Driver} (h : d.Recorded) (he : Edit d d') : d'.Recorded := by
  cases he with
  | remove id => exact h.removeGrant id
  | enter g =>
    exact h.insert (.assign d.next g) { pbGrant := g, ownership := d.next, revoked := _ } rfl rfl rfl
  | promote g entry =>
    exact h.insert (.promote entry.ownership g) { entry with pbGrant := g } rfl rfl rfl
  | revoke g lease entry =>
    exact h.insert (.revoke entry.ownership g) { entry with revoked := true, pbGrant := g } rfl rfl
      rfl
  | notify target updateState entry =>
    intro id entry' hentry'
    have hsame : recorded (d.history ++ [.notify entry.ownership updateState]) id =
        recorded d.history id := by
      rw [recorded, List.filterMap_append, List.filterMap_cons]
      simp only [Handled.grant?, List.filterMap_nil, List.append_nil, recorded]
    exact hsame.trans (h id entry' hentry')
  | extend | publish => exact h

end Driver

/-! ## What a frame carries -/

namespace Watcher

/-- The frame carries the grant: in an `Update`, apart from the state, which it overrides. -/
def Carries (frame : pb.JoinMessage) (g : pb.Grant) : Prop :=
  (∃ state, frame = updateFrame g state) ∨ frame = revokeFrame g

/-- What a watcher sends of the two grants is the same: all but the state in an `Update`. -/
def Kind.Agree (g g' : pb.Grant) : Kind → Prop
  | .load | .unload => { g with state := g'.state } = g'
  | .requestRevoke => g = g'

instance (g g' : pb.Grant) : (kind : Kind) → Decidable (kind.Agree g g')
  | .load | .unload => inferInstanceAs (Decidable ({ g with state := g'.state } = g'))
  | .requestRevoke => inferInstanceAs (Decidable (g = g'))

theorem updateFrame_injective {g g' : pb.Grant} {state state' : pb.GrantState}
    (h : updateFrame g state = updateFrame g' state') :
    { g with state := state.toI32 } = { g' with state := state'.toI32 } := by
  simpa [updateFrame, Loop.wrapClient] using h

/-- Two grants that differ in the state only. -/
theorem updateFrame_eq_iff {g g' : pb.Grant} {state : pb.GrantState} :
    (∃ state', updateFrame g state = updateFrame g' state') ↔ { g with state := g'.state } = g' := by
  constructor
  · rintro ⟨state', h⟩
    have hgrant := congrArg (fun k : pb.Grant => { k with state := g'.state })
      (updateFrame_injective h)
    exact hgrant
  · intro h
    refine ⟨state, ?_⟩
    rw [← h]
    rfl

/-- A watcher's frame carries another grant exactly if they agree in what it sends. -/
theorem carries_frame (kind : Kind) (g g' : pb.Grant) :
    Carries (kind.frame g) g' ↔ kind.Agree g g' := by
  have hupdate : ∀ state, Carries (updateFrame g state) g' ↔ { g with state := g'.state } = g' := by
    intro state
    rw [Carries, updateFrame_eq_iff, or_iff_left_iff_imp]
    intro h
    simp [updateFrame, revokeFrame, Loop.wrapClient] at h
  cases kind with
  | load => exact hupdate .allocatedLoaded
  | unload => exact hupdate .revokedUnloaded
  | requestRevoke =>
    show (∃ state, revokeFrame g = updateFrame g' state) ∨ revokeFrame g = revokeFrame g' ↔ g = g'
    simp [updateFrame, revokeFrame, Loop.wrapClient]

end Watcher

namespace Node

/-! ## Current payloads -/

/-- The frames that the watchers send in a step carry the grant that the driver recorded last for
the id of their assignment. -/
def PayloadsCurrent [UuidCrate] (s : Node) (e : UserEvent) : Prop :=
  ∀ t, s.userStep e = some t → ∃ sent, t.outbound = s.outbound ++ sent ∧
    ∀ r frame, (some r, frame) ∈ sent → ∃ g g', .assign r g ∈ s.loop.driver.history ∧
      recorded s.loop.driver.history ⟨g.id⟩ = some g' ∧ Watcher.Carries frame g'

/-- A watcher sends only while the last message about the id of its assignment has what it sends as
the assignment had it. -/
def Unsuperseded (s : Node) (e : UserEvent) : Prop :=
  ∀ r kind g g', e = .node (.watcher r kind (.sent true)) → .assign r g ∈ s.loop.driver.history →
    recorded s.loop.driver.history ⟨g.id⟩ = some g' → kind.Agree g g'

section
variable [UuidCrate]

/-- The table of a node holds what was recorded last. -/
theorem recorded_userStep {s t : Node} {e : UserEvent} (h : s.loop.driver.Recorded)
    (hstep : s.userStep e = some t) : t.loop.driver.Recorded := by
  rcases userStep_loop hstep with ⟨e, hloop, -⟩ | ⟨hloop, -⟩
  · rcases Loop.driver_step hloop with ⟨eff, rest, -, -, hdriver⟩ | ⟨hedits, -⟩
    · rw [hdriver]
      exact h
    · exact hedits.invariant (fun _ _ h hedit => h.edit hedit) h
  · rw [hloop]
    exact h

theorem recorded_run {es : List UserEvent} {s : Node} (hrun : withUsers.run initial es = some s) :
    s.loop.driver.Recorded :=
  Machine.run_invariant (I := fun s : Node => s.loop.driver.Recorded)
    (fun _ _ _ h hst => recorded_userStep h hst) (fun _ _ h => by cases h) hrun

/-- What a step sends: a watcher's frame with its copy of the grant, or nothing of the watchers. -/
theorem outbound_userStep {s t : Node} {e : UserEvent} (hstep : s.userStep e = some t) :
    (∃ r kind h, e = .node (.watcher r kind (.sent true)) ∧ s.helpers r = some h ∧
        t.outbound = s.outbound ++ [(some r, kind.frame h.grant)]) ∨
      (∀ r kind, e ≠ .node (.watcher r kind (.sent true))) ∧
        ∃ sent, t.outbound = s.outbound ++ sent ∧ ∀ r frame, (some r, frame) ∉ sent := by
  have hnothing : ∀ t : Node, t.outbound = s.outbound →
      ∃ sent, t.outbound = s.outbound ++ sent ∧ ∀ r frame, (some r, frame) ∉ sent :=
    fun t ht => ⟨[], by rw [ht, List.append_nil], fun _ _ => nofun⟩
  rcases userStep_cases hstep with ⟨e, rfl, hstep⟩ | ⟨hcall, r, f, -, rfl⟩
  · cases step_cases hstep with
    | @driver e loop hloop =>
      obtain ⟨helpers, heq⟩ := foldl_carryOut { s with loop } (s.loop.carried e)
      rw [heq]
      refine .inr ⟨fun _ _ => nofun, _, rfl, fun r frame hsent => ?_⟩
      obtain ⟨eff, -, hframe⟩ := List.mem_filterMap.1 hsent
      cases eff <;> cases hframe
    | @watcher r kind act o h h' frame hmem hh hst =>
      by_cases hact : act = .sent true
      · subst hact
        obtain ⟨-, -, rfl⟩ := Helpers.sent_cases hst
        exact .inl ⟨r, kind, h, rfl, hh, rfl⟩
      · have hnone : frame = none := by
          obtain ⟨-, -, -, hframe⟩ | ⟨-, hframe⟩ | ⟨-, -, -, hsent⟩ := Helpers.step_cases hst
          · exact hframe
          · exact hframe
          · exact absurd hsent hact
        subst hnone
        refine .inr ⟨fun r' kind' heq => ?_, hnothing _ (List.append_nil _)⟩
        cases heq
        exact hact rfl
    | _ => exact .inr ⟨fun _ _ => nofun, hnothing _ rfl⟩
  · exact .inr ⟨fun _ _ => hcall _, hnothing _ rfl⟩

/-- **One step**: what is sent is current exactly if the assignment's grant is not superseded. -/
theorem payloads_step {s t : Node} {e : UserEvent} (h : s.Reporting)
    (hstep : s.userStep e = some t) : s.PayloadsCurrent e ↔ s.Unsuperseded e := by
  rcases outbound_userStep hstep with ⟨r, kind, hs, rfl, hh, hout⟩ | ⟨hnot, hout⟩
  · have hassign : .assign r hs.grant ∈ s.loop.driver.history := (h.desks r).assigned hs hh
    have honce : ∀ g, .assign r g ∈ s.loop.driver.history → g = hs.grant :=
      fun g hg => h.booked.once r g hs.grant hg hassign
    constructor
    · rintro hcurrent r' kind' g g' heq hg hg'
      cases heq
      obtain ⟨sent, hsent, hcarries⟩ := hcurrent t hstep
      obtain rfl : [(some r, kind.frame hs.grant)] = sent :=
        List.append_cancel_left (hout.symm.trans hsent)
      obtain ⟨g₁, g₁', hg₁, hg₁', hcarries⟩ := hcarries r _ (List.mem_singleton.2 rfl)
      obtain rfl := honce g hg
      obtain rfl := honce g₁ hg₁
      rw [hg'] at hg₁'
      cases hg₁'
      exact (Watcher.carries_frame ..).1 hcarries
    · intro hcurrent t' hstep'
      obtain rfl : t = t' := Option.some_inj.1 (hstep.symm.trans hstep')
      refine ⟨_, hout, fun r' frame hmem => ?_⟩
      cases List.mem_singleton.1 hmem
      obtain ⟨g', hg'⟩ := exists_recorded hassign
      exact ⟨hs.grant, g', hassign, hg',
        (Watcher.carries_frame ..).2 (hcurrent r kind hs.grant g' rfl hassign hg')⟩
  · constructor
    · intro _ r kind _ _ heq
      exact absurd heq (hnot r kind)
    · intro _ t' hstep'
      obtain rfl : t = t' := Option.some_inj.1 (hstep.symm.trans hstep')
      obtain ⟨sent, hsent, hnone⟩ := hout
      exact ⟨sent, hsent, fun r frame hmem => absurd hmem (hnone r frame)⟩

/-- **Outbound payloads are current.** In every run of a node with users, the table holds the grant
recorded last for each id, and what the watchers send is that grant exactly if they send only while
the last message about their id agrees with the assignment in what they send. -/
theorem payloads_current (es : List UserEvent) :
    (∀ s, withUsers.run initial es = some s → ∀ id entry,
        s.loop.driver.grants.lookup id = some entry →
          recorded s.loop.driver.history id = some entry.pbGrant) ∧
      (withUsers.Guarded PayloadsCurrent initial es ↔ withUsers.Guarded Unsuperseded initial es) := by
  constructor
  · exact fun s hrun => recorded_run hrun
  · have hall : withUsers.Always Reporting initial es :=
      Machine.always_of_invariant (fun _ _ _ h hst => h.step hst) .initial es
    exact hall.guarded_congr fun s e t h hst => payloads_step h hst

end

/-! ## Runs -/

/-- A grant that is assigned with a lease, before its load watcher sends. -/
def assignedRun : List UserEvent :=
  (.driver .start :: deliver (.assign [leasedGrant "g" .allocated 10]) 3).map .node ++
    [.load 0, .node (.watcher 0 .load .wake)]

/-- It is promoted with a longer lease. -/
def promotedRun : List UserEvent :=
  assignedRun ++ (deliver (.promote [leasedGrant "g" .active 20]) 1).map .node

/-- The send of its load watcher. -/
def loadSend : UserEvent := .node (.watcher 0 .load (.sent true))

/-- After the promotion the load is reported with the lease of the assignment. -/
theorem promotedRun_not_current :
    let := UuidCrate.pair
    ¬ withUsers.Guarded PayloadsCurrent initial (promotedRun ++ [loadSend]) := by
  let := UuidCrate.pair
  have hhistory : (withUsers.run initial promotedRun).map (·.loop.driver.history) =
      some [.assign 0 (leasedGrant "g" .allocated 10), .promote 0 (leasedGrant "g" .active 20)] := by
    decide +kernel
  have hend : (withUsers.run initial (promotedRun ++ [loadSend])).isSome = true := by decide +kernel
  obtain ⟨t, hrun⟩ := Option.isSome_iff_exists.1 hend
  obtain ⟨s, hbefore, hstep⟩ := withUsers.run_concat_eq_some.1 hrun
  rw [hbefore, Option.map_some, Option.some_inj] at hhistory
  show ¬ withUsers.Guarded PayloadsCurrent initial (promotedRun ++ [loadSend])
  intro hcurrent
  have hstate := hcurrent promotedRun loadSend s t (List.prefix_refl _) hbefore hstep
  have hunsuperseded := (payloads_step (e := loadSend) (reporting_run hbefore) hstep).1 hstate
  have hagree := hunsuperseded 0 .load (leasedGrant "g" .allocated 10) (leasedGrant "g" .active 20)
    rfl (by rw [hhistory]; simp) (by rw [hhistory]; rfl)
  exact absurd hagree (by decide)

/-- The event is the send of a watcher. -/
def UserEvent.isSend : UserEvent → Bool
  | .node (.watcher _ _ (.sent true)) => true
  | _ => false

theorem unsuperseded_of_not {s : Node} {e : UserEvent} (h : e.isSend = false) :
    s.Unsuperseded e := by
  rintro r kind g g' rfl
  cases h

/-- Before the promotion it is reported as it is recorded. -/
theorem payloads_current_assigned :
    let := UuidCrate.pair
    withUsers.Guarded PayloadsCurrent initial (assignedRun ++ [loadSend]) ∧
      ∃ s entry, withUsers.run initial promotedRun = some s ∧
        s.loop.driver.grants.lookup ⟨"g"⟩ = some entry ∧
        recorded s.loop.driver.history ⟨"g"⟩ = some entry.pbGrant := by
  let := UuidCrate.pair
  constructor
  · refine (payloads_current _).2.2 (Machine.guarded_append.2 ⟨?_, fun s hrun => ?_⟩)
    · have hbefore : assignedRun.all (fun e => !e.isSend) = true := rfl
      refine Machine.guarded_of_forall fun e he s => unsuperseded_of_not ?_
      simpa using List.all_eq_true.1 hbefore e he
    · have hhistory : (withUsers.run initial assignedRun).map (·.loop.driver.history) =
          some [.assign 0 (leasedGrant "g" .allocated 10)] := by decide +kernel
      rw [hrun, Option.map_some, Option.some_inj] at hhistory
      refine Machine.guarded_cons.2 fun t _ => ⟨?_, Machine.guarded_nil⟩
      rintro r kind g g' heq hg hg'
      cases heq
      rw [hhistory] at hg hg'
      cases List.mem_singleton.1 hg
      obtain rfl : leasedGrant "g" .allocated 10 = g' := Option.some_inj.1 hg'
      rfl
  · have hentry : ((withUsers.run initial promotedRun).bind
        fun s => s.loop.driver.grants.lookup ⟨"g"⟩) =
          some { pbGrant := leasedGrant "g" .active 20, ownership := 0, revoked := false } := by
      decide +kernel
    obtain ⟨s, hrun, hentry⟩ := Option.bind_eq_some_iff.1 hentry
    exact ⟨s, _, hrun, hentry, (payloads_current promotedRun).1 s hrun _ _ hentry⟩

end Node

end Splitter
