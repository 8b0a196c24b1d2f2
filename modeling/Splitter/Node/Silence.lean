import Splitter.Node.Lifecycle

/-!
# What the watchers of an expired grant tell

A watcher of a grant whose lease has lapsed should exit silently. It does if it is scheduled in
time: where it finds its signal closed too, the unbiased `select!` may take that branch. `silent_iff`
says in which runs an expired grant's watcher sends nothing, whatever branch it takes when it is
polled next: those in which its signal closes only after it has exited.
-/

namespace Splitter

namespace Node

/-- The watcher is there, its grant's lease has lapsed, and its signal is open. -/
def Lapsed (s : Node) (r : OwnershipRef) (kind : Watcher.Kind) : Prop :=
  ∃ o h, s.memory r = some o ∧ s.helpers r = some h ∧ o.expired.isClosed = true ∧
    (kind.signal o).isClosed = false

/-- The watcher is not in `on_signal` and has put no frame in the outbound channel. -/
structure Unsent (s : Node) (r : OwnershipRef) (kind : Watcher.Kind) : Prop where
  idle : ∀ h, s.helpers r = some h → h.watcher kind ≠ .sending
  quiet : ∀ frame ∈ s.sentBy r, Watcher.told? frame ≠ some kind

/-- The watcher has exited. -/
def Ended (s : Node) (r : OwnershipRef) (kind : Watcher.Kind) : Prop :=
  ∀ h, s.helpers r = some h → h.watcher kind = .done

section
variable [UuidCrate]

/-- The watcher has sent nothing, and whatever branch it takes when it is polled next, it sends
nothing. -/
def Silent (r : OwnershipRef) (kind : Watcher.Kind) (s : Node) : Prop :=
  s.Unsent r kind ∧
    ∀ act t, s.userStep (.node (.watcher r kind act)) = some t → t.Unsent r kind

/-- What a step must meet: it leaves the signal open, unless the watcher has exited. -/
def EndsFirst (r : OwnershipRef) (kind : Watcher.Kind) (s : Node) (e : UserEvent) : Prop :=
  ∀ t, s.userStep e = some t → Signalled t.memory r kind → s.Ended r kind

/-- A step of a watcher, on its own. -/
theorem watcher_step {s t : Node} {r : OwnershipRef} {kind : Watcher.Kind} {act : Watcher.Act}
    (hstep : s.userStep (.node (.watcher r kind act)) = some t) :
    ∃ o h h' frame, s.memory r = some o ∧ s.helpers r = some h ∧
      h.step o kind act = some (h', frame) ∧ t.helpers r = some h' ∧ t.memory = s.memory ∧
        t.sentBy r = s.sentBy r ++ frame.toList := by
  have hnode : s.step (.watcher r kind act) = some t := hstep
  cases step_cases hnode with
  | @watcher _ _ _ o h h' frame hmem hh hst =>
    refine ⟨o, h, h', frame, hmem, hh, hst, Function.update_self .., rfl, ?_⟩
    simp only [sentBy, List.filterMap_append, List.filterMap_map]
    simp

end

/-! ## One poll -/

/-- A watcher that is idle, and has exited if its signal is closed, sends nothing when another or
itself is polled. -/
theorem Unsent.watcher {s t : Node} {r : OwnershipRef} {kind k : Watcher.Kind} {act : Watcher.Act}
    {o : Ownership} {h h' : Helpers} {frame : Option pb.JoinMessage} (hun : s.Unsent r kind)
    (hend : Signalled s.memory r kind → s.Ended r kind) (hmem : s.memory r = some o)
    (hh : s.helpers r = some h) (hst : h.step o k act = some (h', frame))
    (hh' : t.helpers r = some h') (hsent : t.sentBy r = s.sentBy r ++ frame.toList) :
    t.Unsent r kind ∧ (s.Ended r kind → t.Ended r kind) := by
  have hdone : s.Ended r kind → t.Ended r kind := by
    intro hs hs' hhs'
    rw [hh'] at hhs'
    cases hhs'
    exact Helpers.done_step hst (hs h hh)
  refine ⟨⟨fun hs hhs => ?_, fun f hf => ?_⟩, hdone⟩
  · rw [hh'] at hhs
    cases hhs
    intro hsending
    rcases sending_step hst hsending with hbefore | hclosed
    · exact hun.idle h hh hbefore
    · rw [hdone (hend ⟨o, hmem, hclosed⟩) _ hh'] at hsending
      cases hsending
  · rw [hsent] at hf
    rcases List.mem_append.1 hf with hf | hf
    · exact hun.quiet f hf
    · obtain ⟨hsending, -, rfl, -⟩ := Helpers.done_of_sent (by
        rw [Option.mem_toList.1 hf] at hst
        exact hst)
      rw [Watcher.told?_frame]
      rintro heq
      cases heq
      exact hun.idle h hh hsending

section
variable [UuidCrate]

/-- A watcher that is parked wakes to its closed signal. -/
theorem exists_wake {s : Node} {r : OwnershipRef} {kind : Watcher.Kind} {h : Helpers}
    (hsig : Signalled s.memory r kind) (hh : s.helpers r = some h)
    (hparked : h.watcher kind = .parked) :
    ∃ t, s.userStep (.node (.watcher r kind .wake)) = some t ∧
      t.helpers r = some (h.set kind .sending) := by
  obtain ⟨o, hmem, hclosed⟩ := hsig
  have hwake : (kind.signal o).closed (h.set kind .sending, none) =
      some (h.set kind .sending, (none : Option pb.JoinMessage)) :=
    Latch.closed_eq_some.2 ⟨hclosed, rfl⟩
  refine ⟨{ s with
    helpers := Function.update s.helpers r (some (h.set kind .sending)) }, ?_,
    Function.update_self ..⟩
  simp [userStep, step, hmem, hh, Helpers.step, hparked, hwake]

/-- A watcher is silent exactly if it has sent nothing and has exited if its signal is closed. -/
theorem silent_iff_ended {s : Node} {r : OwnershipRef} {kind : Watcher.Kind} :
    s.Silent r kind ↔
      s.Unsent r kind ∧ (Signalled s.memory r kind → s.Ended r kind) := by
  refine and_congr_right fun hun => ⟨fun hnext hsig h hh => ?_, fun hend act t hst => ?_⟩
  · cases hw : h.watcher kind with
    | done => rfl
    | sending => exact absurd hw (hun.idle h hh)
    | parked =>
      obtain ⟨t, hst, hh'⟩ := exists_wake hsig hh hw
      exact absurd (by simp) ((hnext _ t hst).idle _ hh')
  · obtain ⟨o, h, h', frame, hmem, hh, hhst, hh', -, hsent⟩ := watcher_step hst
    exact (hun.watcher hend hmem hh hhst hh' hsent).1

/-! ## One step -/

/-- Helpers that are there stay there. -/
theorem helpers_userStep {s t : Node} {e : UserEvent} {r : OwnershipRef}
    (hspawns : s.loop.driver.Spawns s.helpers) {hs : Helpers} (hh : s.helpers r = some hs)
    (hstep : s.userStep e = some t) : ∃ hs', t.helpers r = some hs' := by
  rcases step_desk hstep r with hsame | hdesk
  · exact ⟨hs, (congrArg Desk.helpers hsame).trans hh⟩
  · generalize hd : t.desk r = d at hdesk
    have hhelpers : t.helpers r = d.helpers := congrArg Desk.helpers hd
    cases hdesk with
    | spawn g hspawn =>
      rw [hspawns.free hspawn] at hh
      cases hh
    | abort => exact ⟨_, hhelpers⟩
    | watcher => exact ⟨_, hhelpers⟩

/-- What a step does to a watcher that is silent. -/
theorem Silent.step {s t : Node} {e : UserEvent} {r : OwnershipRef} {kind : Watcher.Kind}
    (h : s.Silent r kind) (hspawns : s.loop.driver.Spawns s.helpers) {hs : Helpers}
    (hh : s.helpers r = some hs) (hstep : s.userStep e = some t) :
    t.Unsent r kind ∧ (s.Ended r kind → t.Ended r kind) ∧
      (Signalled t.memory r kind → t.Ended r kind → s.Ended r kind) := by
  obtain ⟨hun, hend⟩ := silent_iff_ended.1 h
  have hlike : ∀ hs', t.helpers r = some hs' → t.sentBy r = s.sentBy r →
      hs'.watcher kind = hs.watcher kind →
        t.Unsent r kind ∧ (s.Ended r kind → t.Ended r kind) ∧
          (Signalled t.memory r kind → t.Ended r kind → s.Ended r kind) := by
    intro hs' hh' hsent hw
    refine ⟨⟨fun k hk => ?_, by rw [hsent]; exact hun.quiet⟩, fun hs k hk => ?_,
      fun _ ht k hk => ?_⟩
    · rw [hh'] at hk
      cases hk
      rw [hw]
      exact hun.idle _ hh
    · rw [hh'] at hk
      cases hk
      rw [hw]
      exact hs _ hh
    · rw [hh] at hk
      cases hk
      rw [← hw]
      exact ht _ hh'
  rcases step_desk hstep r with hsame | hdesk
  · exact hlike hs ((congrArg Desk.helpers hsame).trans hh) (congrArg Desk.sent hsame) rfl
  · generalize hd : t.desk r = d at hdesk
    have hhelpers : t.helpers r = d.helpers := congrArg Desk.helpers hd
    have hsent : t.sentBy r = d.sent := congrArg Desk.sent hd
    cases hdesk with
    | spawn g hspawn =>
      rw [hspawns.free hspawn] at hh
      cases hh
    | @abort _ hs₀ hh₀ =>
      rw [hh] at hh₀
      cases hh₀
      exact hlike _ hhelpers hsent rfl
    | @watcher k act o hs₀ hs' frame hmem hh₀ hst =>
      obtain ⟨-, -, -, -, -, -, -, -, hmemory, -⟩ := watcher_step hstep
      obtain ⟨hun', hend'⟩ := hun.watcher hend hmem hh₀ hst hhelpers hsent
      refine ⟨hun', hend', fun hsig _ => hend ?_⟩
      rw [← hmemory]
      exact hsig

/-- **One step** from a silent watcher leads to a silent watcher exactly if it meets the
condition. -/
theorem silent_step_iff {s t : Node} {e : UserEvent} {r : OwnershipRef} {kind : Watcher.Kind}
    (h : s.Silent r kind) (hspawns : s.loop.driver.Spawns s.helpers) {hs : Helpers}
    (hh : s.helpers r = some hs) (hstep : s.userStep e = some t) :
    t.Silent r kind ↔ s.EndsFirst r kind e := by
  obtain ⟨hun, hend, hback⟩ := h.step hspawns hh hstep
  rw [silent_iff_ended]
  constructor
  · rintro ⟨-, hended⟩ u hu hsig
    rw [hstep] at hu
    cases hu
    exact hback hsig (hended hsig)
  · intro hc
    exact ⟨hun, fun hsig => hend (hc t hstep hsig)⟩

/-- **When an expired grant's watcher tells nothing.** -/
theorem silent_iff {es fs : List UserEvent} {s : Node} (hrun : withUsers.run initial es = some s)
    {r : OwnershipRef} {kind : Watcher.Kind} (hlapsed : s.Lapsed r kind) :
    withUsers.Always (Silent r kind) s fs ↔ withUsers.Guarded (EndsFirst r kind) s fs := by
  obtain ⟨o, hs, hmem, hh, -, hopen⟩ := hlapsed
  have hreporting := reporting_run hrun
  have hsilent : s.Silent r kind := by
    have hunsignalled : ¬ Signalled s.memory r kind := by
      rintro ⟨o', ho', hclosed⟩
      rw [hmem] at ho'
      cases ho'
      rw [hopen] at hclosed
      cases hclosed
    refine silent_iff_ended.2 ⟨⟨fun h hh hsending => ?_, fun frame hframe htold => ?_⟩, fun hsig =>
      absurd hsig hunsignalled⟩
    · exact hunsignalled ((hreporting.desks r).sending h kind hh hsending)
    · obtain ⟨kinds, -, hsent, hdone⟩ := (hreporting.desks r).sent hs hh
      have hsent : s.sentBy r = kinds.map fun kind => kind.frame hs.grant := hsent
      rw [hsent] at hframe
      obtain ⟨k, hk, rfl⟩ := List.mem_map.1 hframe
      rw [Watcher.told?_frame] at htold
      cases htold
      exact hunsignalled (hdone _ hk).2
  refine Machine.always_iff_guarded
    (I := fun s : Node => s.Reporting ∧ ∃ hs, s.helpers r = some hs) ?_ ?_ ⟨hreporting, hs, hh⟩
    hsilent
  · rintro s e t ⟨hreporting, hs, hh⟩ hst
    exact ⟨hreporting.step hst, helpers_userStep hreporting.spawns hh hst⟩
  · rintro s e t ⟨hreporting, hs, hh⟩ hsilent hst
    exact silent_step_iff hsilent hreporting.spawns hh hst

end

/-! ## Two runs -/

/-- A grant whose lease lapses. -/
def lapsedRun : List UserEvent :=
  (.driver .start :: deliver (.assign [wireGrant "g" .active]) 3 ++ [Event.timer 0]).map .node

/-- It has lapsed before anything is called on it. -/
theorem lapsedRun_lapsed :
    let := UuidCrate.pair
    ∃ s, withUsers.run initial lapsedRun = some s ∧ s.Lapsed 0 .load := by
  let := UuidCrate.pair
  have hend : (withUsers.run initial lapsedRun).map (fun s =>
      ((s.memory 0).map fun o => (o.expired.isClosed, o.loader.load.isClosed),
        (s.helpers 0).isSome)) = some (some (true, false), true) := by decide +kernel
  obtain ⟨s, hrun, hend⟩ := Option.map_eq_some_iff.1 hend
  obtain ⟨hmem, hh⟩ := Prod.mk.inj hend
  obtain ⟨o, hmem, ho⟩ := Option.map_eq_some_iff.1 hmem
  obtain ⟨h, hh⟩ := Option.isSome_iff_exists.1 hh
  exact ⟨s, hrun, o, h, hmem, hh, (Prod.mk.inj ho).1, (Prod.mk.inj ho).2⟩

/-- Its load watcher exits before the user calls `load`. -/
theorem silent_quit :
    let := UuidCrate.pair
    ∃ s, withUsers.run initial lapsedRun = some s ∧
      withUsers.Always (Silent 0 .load) s [.node (.watcher 0 .load .quit), .load 0] := by
  let := UuidCrate.pair
  obtain ⟨s, hrun, hlapsed⟩ := lapsedRun_lapsed
  refine ⟨s, hrun, (silent_iff hrun hlapsed).2 (Machine.guarded_cons.2 fun t hst => ⟨?_, ?_⟩)⟩
  · obtain ⟨o, -, hmem, -, -, hopen⟩ := hlapsed
    obtain ⟨-, -, -, -, -, -, -, -, hmemory, -⟩ := watcher_step hst
    rintro u hu ⟨o', ho', hclosed⟩
    obtain rfl : t = u := Option.some.inj (hst.symm.trans hu)
    rw [hmemory, hmem] at ho'
    cases ho'
    rw [hopen] at hclosed
    cases hclosed
  · obtain ⟨o, h, h', frame, -, -, hquit, hh', -⟩ := watcher_step hst
    refine Machine.guarded_cons.2 fun u _ => ⟨fun _ _ _ k hk => ?_, Machine.guarded_nil⟩
    rw [hh'] at hk
    cases hk
    simp only [Helpers.step] at hquit
    split at hquit
    · obtain ⟨-, heq⟩ := Latch.closed_eq_some.1 hquit
      cases heq
      simp
    · cases hquit

/-- **A lapsed grant is reported as loaded.** The user calls `load` on the expired grant before its
watcher is scheduled, which then takes the branch of its signal. -/
theorem lapsedRun_reported :
    let := UuidCrate.pair
    ∃ s t, withUsers.run initial lapsedRun = some s ∧ s.Lapsed 0 .load ∧
      withUsers.run s [.load 0, .node (.watcher 0 .load .wake),
        .node (.watcher 0 .load (.sent true))] = some t ∧
      t.sentBy 0 = [Watcher.updateFrame (wireGrant "g" .active) .allocatedLoaded] := by
  let := UuidCrate.pair
  obtain ⟨s, hrun, hlapsed⟩ := lapsedRun_lapsed
  have hend : (withUsers.run initial (lapsedRun ++ [.load 0, .node (.watcher 0 .load .wake),
      .node (.watcher 0 .load (.sent true))])).map (·.sentBy 0) =
        some [Watcher.updateFrame (wireGrant "g" .active) .allocatedLoaded] := by decide +kernel
  obtain ⟨t, hrun', hsent⟩ := Option.map_eq_some_iff.1 hend
  rw [Machine.run_append, hrun] at hrun'
  exact ⟨s, t, hrun, hlapsed, hrun', hsent⟩

end Node

end Splitter
