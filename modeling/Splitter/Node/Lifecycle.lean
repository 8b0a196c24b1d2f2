import Splitter.Driver.Replay
import Splitter.Node.Users

/-!
# What the watchers of an assignment tell the coordinator

The three watchers of an assignment turn the latches `load`, `unload` and `request_revoke` into
messages. `lifecycle_once`: whatever the users and the driver do, each of them sends at most once,
with the grant of the assignment, and only if its latch was closed. `loaded_first`: where no unload
watcher sends before the load watcher of its assignment is done, no load is reported after the
unload of the same assignment; where one does, the load can still be reported.
-/

namespace Splitter

/-! ## Where helpers are spawned -/

namespace Effect

/-- The assignments whose helpers a list of effects spawns. -/
def spawns (effects : List Effect) : List OwnershipRef :=
  effects.filterMap fun
    | .spawnHelpers r _ => some r
    | _ => none

theorem spawns_append (effects effects' : List Effect) :
    spawns (effects ++ effects') = spawns effects ++ spawns effects' := List.filterMap_append ..

end Effect

namespace Driver

/-- The helpers of each ownership are spawned once. -/
def Spawns (helpers : OwnershipRef → Option Helpers) (d : Driver) : Prop :=
  Counter.Fresh d.next (Effect.spawns d.pending) (helpers · = none)

namespace Spawns

variable {helpers : OwnershipRef → Option Helpers} {d d' : Driver}

theorem initial : Spawns (fun _ => none) Driver.initial :=
  ⟨List.nodup_nil, fun _ h => (by cases h), fun _ _ => rfl⟩

/-- Helpers that are to be spawned are not there yet. -/
theorem free (h : d.Spawns helpers) {r : OwnershipRef} {g : pb.Grant}
    (hspawn : .spawnHelpers r g ∈ d.pending) : helpers r = none :=
  (Counter.Fresh.due h r (List.mem_filterMap.2 ⟨_, hspawn, rfl⟩)).2

/-- An edit that spawns nothing. -/
theorem append (h : d.Spawns helpers) {effects : List Effect}
    (hpending : d'.pending = d.pending ++ effects) (hspawns : Effect.spawns effects = [])
    (hnext : d'.next = d.next) : d'.Spawns helpers := by
  rw [Spawns, hpending, Effect.spawns_append, hspawns, List.append_nil, hnext]
  exact h

theorem enterGrant (h : d.Spawns helpers) (g : pb.Grant) (shard : Shard)
    (expiration now : SystemTime) : (d.enterGrant g shard expiration now).Spawns helpers := by
  set d' := d.enterGrant g shard expiration now with hd'
  have hspawns : Effect.spawns d'.pending = Effect.spawns d.pending ++ [d.next] := by
    have hpending : d'.pending = d.pending ++ [.new d.next _, .spawnHelpers d.next g,
        .event (.assigned ⟨g.id⟩ shard d.next)] := rfl
    rw [hpending, Effect.spawns_append]
    rfl
  rw [Spawns, hspawns]
  exact Counter.Fresh.push h

/-- **Every edit.** -/
theorem edit (h : d.Spawns helpers) (he : Edit d d') : d'.Spawns helpers := by
  cases he with
  | remove id =>
    unfold removeGrant
    split
    · exact h
    · exact h.append rfl rfl rfl
  | enter g shard expiration now => exact h.enterGrant g shard expiration now
  | promote g entry => exact h.append rfl rfl rfl
  | revoke g newExpiration entry =>
    refine h.append rfl ?_ rfl
    cases newExpiration <;> rfl
  | notify target updateState entry =>
    refine h.append rfl ?_ rfl
    cases updateState <;> rfl
  | extend newLease =>
    refine h.append rfl ?_ rfl
    simp [Effect.spawns]
  | publish next => exact h.append rfl rfl rfl

/-- The next effect is carried out. -/
theorem exec {s : Node} {e : Effect} {rest : List Effect} (h : d.Spawns s.helpers)
    (hpending : d.pending = e :: rest) :
    ({ d with pending := rest } : Driver).Spawns (s.carryOut e).helpers := by
  rw [Spawns, hpending] at h
  cases e with
  | spawnHelpers r g =>
    refine Counter.Fresh.pop (r := r) h fun k hne hk => ?_
    exact (Function.update_of_ne hne ..).trans hk
  | abortHelpers r =>
    refine Counter.Fresh.mono h fun k hk => ?_
    by_cases hkr : k = r
    · subst hkr
      simp [Node.carryOut, hk]
    · simp [Node.carryOut, hkr, hk]
  | _ => exact h

end Spawns

end Driver

/-! ## What a frame tells -/

namespace Watcher

/-- What a frame tells the coordinator of an assignment: an `Update` to one of the two states that
the consumer reports, or a `Revoke`. -/
def told? (frame : pb.JoinMessage) : Option Kind :=
  match frame.msg with
  | some (.consumer { msg := some (.client { msg := some (.update (some g)) }) }) =>
    if g.state = pb.GrantState.allocatedLoaded.toI32 then some .load
    else if g.state = pb.GrantState.revokedUnloaded.toI32 then some .unload
    else none
  | some (.consumer { msg := some (.client { msg := some (.revoke _) }) }) => some .requestRevoke
  | _ => none

/-- A watcher tells of its own signal. -/
@[simp] theorem told?_frame (grant : pb.Grant) (kind : Kind) :
    told? (kind.frame grant) = some kind := by
  cases kind <;> rfl

end Watcher

namespace Helpers

variable {h h' : Helpers} {o : Ownership} {kind k : Watcher.Kind} {act : Watcher.Act}
  {frame : Option pb.JoinMessage}

/-- A watcher that is done stays done. -/
theorem done_step (hst : h.step o kind act = some (h', frame)) (hk : h.watcher k = .done) :
    h'.watcher k = .done := by
  obtain ⟨hparked, -, rfl, -⟩ | ⟨rfl, -⟩ | ⟨-, rfl, -⟩ := step_cases hst
  · have hne : k ≠ kind := by
      rintro rfl
      rw [hparked] at hk
      cases hk
    rw [set_watcher, if_neg hne, hk]
  · rw [set_watcher, hk, ite_self]
  · rw [set_watcher, hk, ite_self]

/-- A watcher that has sent is done. -/
theorem done_of_sent {f : pb.JoinMessage} (hst : h.step o kind act = some (h', some f)) :
    h.watcher kind = .sending ∧ h'.watcher kind = .done ∧ f = kind.frame h.grant ∧
      act = .sent true := by
  obtain ⟨-, -, -, hf⟩ | ⟨-, hf⟩ | ⟨hsending, rfl, hf, rfl⟩ := step_cases hst
  · cases hf
  · cases hf
  · cases hf
    exact ⟨hsending, by simp, rfl, rfl⟩

/-- A send that completes. -/
theorem sent_cases (hst : h.step o kind (.sent true) = some (h', frame)) :
    h.watcher kind = .sending ∧ h' = h.set kind .done ∧ frame = some (kind.frame h.grant) := by
  simp only [step] at hst
  split at hst
  · next hsending => cases hst; exact ⟨hsending, rfl, rfl⟩
  · cases hst

end Helpers

namespace Node

/-! ## The watchers of one assignment -/

/-- The latch a watcher of the assignment waits for is closed. -/
def Signalled (mem : Memory) (r : OwnershipRef) (kind : Watcher.Kind) : Prop :=
  ∃ o, mem r = some o ∧ (kind.signal o).isClosed = true

/-- What holds of the watchers of an assignment: each has sent at most once, with its copy of the
grant, when its signal was closed, and was done with that. -/
structure Desk.Told (history : List Handled) (mem : Memory) (r : OwnershipRef) (c : Desk) :
    Prop where
  silent : c.helpers = none → c.sent = []
  assigned : ∀ h, c.helpers = some h → .assign r h.grant ∈ history
  sending : ∀ h kind, c.helpers = some h → h.watcher kind = .sending → Signalled mem r kind
  sent : ∀ h, c.helpers = some h → ∃ kinds : List Watcher.Kind, kinds.Nodup ∧
    c.sent = kinds.map (fun kind => kind.frame h.grant) ∧
      ∀ kind ∈ kinds, h.watcher kind = .done ∧ Signalled mem r kind

namespace Desk.Told

variable {history history' : List Handled} {mem mem' : Memory} {r : OwnershipRef} {c : Desk}

/-- More is handled and more latches are closed. -/
theorem mono (h : c.Told history mem r) (hsub : history ⊆ history')
    (hle : ∀ o, mem r = some o → ∃ o', mem' r = some o' ∧ o.Le o') : c.Told history' mem' r := by
  have hsignalled : ∀ kind, Signalled mem r kind → Signalled mem' r kind := by
    rintro kind ⟨o, ho, hclosed⟩
    obtain ⟨o', ho', hoo⟩ := hle o ho
    exact ⟨o', ho', signal_mono hoo kind hclosed⟩
  refine ⟨h.silent, fun hs hh => hsub (h.assigned hs hh),
    fun hs kind hh hk => hsignalled kind (h.sending hs kind hh hk), fun hs hh => ?_⟩
  obtain ⟨kinds, hnodup, hsent, hdone⟩ := h.sent hs hh
  refine ⟨kinds, hnodup, hsent, fun kind hk => ?_⟩
  exact ⟨(hdone kind hk).1, hsignalled kind (hdone kind hk).2⟩

/-- **The step lemma.** -/
theorem step {s : Node} {e : UserEvent} (h : (s.desk r).Told history s.memory r)
    (hjust : ∀ e ∈ s.loop.driver.pending, e.Justified history)
    (hfresh : ∀ g, .spawnHelpers r g ∈ s.loop.driver.pending → s.helpers r = none)
    (hst : DeskStep s r e c) : c.Told history s.memory r := by
  cases hst with
  | spawn g hspawn =>
    refine ⟨nofun, fun hs hh => ?_, fun hs kind hh hsending => ?_, fun hs hh => ?_⟩
    · cases hh
      exact hjust _ hspawn
    · cases hh
      cases hsending
    · exact ⟨[], List.nodup_nil, h.silent (hfresh g hspawn), fun _ hk => by cases hk⟩
  | @abort e hs₀ hh₀ =>
    refine ⟨nofun, fun hs hh => ?_, fun hs kind hh hsending => ?_, fun hs hh => ?_⟩
    · cases hh
      exact h.assigned hs₀ hh₀
    · cases hh
      exact h.sending hs₀ kind hh₀ hsending
    · cases hh
      exact h.sent hs₀ hh₀
  | @watcher kind act o hs₀ hs' frame hmem hh₀ hst =>
    have hgrant := grant_step hst
    obtain ⟨kinds, hnodup, hsent, hdone⟩ := h.sent hs₀ hh₀
    have hsent : s.sentBy r = kinds.map fun kind => kind.frame hs₀.grant := hsent
    refine ⟨nofun, fun hs hh => ?_, fun hs k hh hk => ?_, fun hs hh => ?_⟩
    · cases hh
      rw [hgrant]
      exact h.assigned hs₀ hh₀
    · cases hh
      rcases sending_step hst hk with hbefore | hclosed
      · exact h.sending hs₀ k hh₀ hbefore
      · exact ⟨o, hmem, hclosed⟩
    · cases hh
      have hstill : ∀ k ∈ kinds, hs'.watcher k = .done ∧ Signalled s.memory r k :=
        fun k hk => ⟨Helpers.done_step hst (hdone k hk).1, (hdone k hk).2⟩
      cases frame with
      | none =>
        refine ⟨kinds, hnodup, ?_, hstill⟩
        rw [hgrant, hsent]
        exact List.append_nil _
      | some f =>
        obtain ⟨hsending, hnow, rfl, -⟩ := Helpers.done_of_sent hst
        have hnew : kind ∉ kinds := by
          intro hk
          rw [(hdone kind hk).1] at hsending
          cases hsending
        refine ⟨kinds ++ [kind], ?_, ?_, fun k hk => ?_⟩
        · rw [List.nodup_append]
          refine ⟨hnodup, List.nodup_singleton _, fun k hk k' hk' heq => ?_⟩
          rw [heq, List.mem_singleton.1 hk'] at hk
          exact hnew hk
        · rw [hgrant, hsent, List.map_append]
          rfl
        · rw [List.mem_append, List.mem_singleton] at hk
          rcases hk with hk | rfl
          · exact hstill k hk
          · exact ⟨hnow, h.sending hs₀ k hh₀ hsending⟩

end Desk.Told

/-! ## The watchers of a node -/

/-- What holds in every state of a node with users. -/
structure Reporting (s : Node) : Prop where
  grounded : s.loop.driver.Grounded s.memory
  spawns : s.loop.driver.Spawns s.helpers
  booked : s.loop.driver.Booked s.loop.done
  desks : ∀ r, (s.desk r).Told s.loop.driver.history s.memory r

theorem Reporting.initial : Reporting initial where
  grounded := Driver.Grounded.initial
  spawns := Driver.Spawns.initial
  booked := Driver.Booked.initial
  desks _ :=
    { silent := fun _ => rfl
      assigned := fun _ h => by cases h
      sending := fun _ _ h => by cases h
      sent := fun _ h => by cases h }

section
variable [UuidCrate]

/-- Helpers are spawned once. -/
theorem spawns_userStep {s t : Node} {e : UserEvent} (h : s.loop.driver.Spawns s.helpers)
    (hstep : s.userStep e = some t) : t.loop.driver.Spawns t.helpers := by
  rcases userStep_cases hstep with ⟨e, -, hstep⟩ | ⟨-, r, f, -, rfl⟩
  · cases step_cases hstep with
    | @driver e loop hloop =>
      rcases Loop.driver_step hloop with
        ⟨eff, rest, hpending, hcarried, hdriver⟩ | ⟨hedits, hframes⟩
      · have hexec := h.exec hpending
        rw [← hdriver] at hexec
        rw [hcarried]
        cases eff <;> exact hexec
      · obtain ⟨frames, heq⟩ := foldl_carryOut_frames { s with loop } hframes
        rw [heq]
        exact hedits.invariant (fun _ _ h hedit => h.edit hedit) h
    | @watcher r kind act o hs hs' frame hmem hh hst =>
      refine Counter.Fresh.mono h fun k hk => ?_
      have hne : k ≠ r := by
        rintro rfl
        rw [hk] at hh
        cases hh
      exact (Function.update_of_ne hne ..).trans hk
    | _ => exact h
  · exact h

/-- **The step lemma.** -/
theorem Reporting.step {s t : Node} {e : UserEvent} (h : s.Reporting)
    (hstep : s.userStep e = some t) : t.Reporting where
  grounded := grounded_userStep h.grounded hstep
  spawns := spawns_userStep h.spawns hstep
  booked := by
    rcases userStep_loop hstep with ⟨e, hloop, -⟩ | ⟨hloop, -⟩
    · exact Loop.booked_step h.booked hloop
    · rw [hloop]
      exact h.booked
  desks r := by
    have hdesk : (t.desk r).Told s.loop.driver.history s.memory r := by
      rcases step_desk hstep r with hsame | hdesk
      · rw [hsame]
        exact h.desks r
      · exact (h.desks r).step h.grounded.justified (fun g hspawn => h.spawns.free hspawn) hdesk
    exact hdesk.mono (history_userStep hstep) fun o ho => le_step h.grounded hstep ho

theorem reporting_run {es : List UserEvent} {s : Node} (hrun : withUsers.run initial es = some s) :
    s.Reporting :=
  Machine.run_invariant (I := Reporting) (fun _ _ _ h hst => h.step hst) Reporting.initial hrun

/-! ## At most one message of each kind -/

/-- What the watchers of an assignment have sent: at most one frame of each kind, each with the
grant of the assignment, and with its latch closed. -/
structure LifecycleOnce (s : Node) (r : OwnershipRef) (g : pb.Grant) : Prop where
  once : ∀ kind, (s.sentBy r).countP (fun frame => Watcher.told? frame = some kind) ≤ 1
  named : ∀ frame ∈ s.sentBy r, ∃ kind : Watcher.Kind, frame = kind.frame g ∧
    Signalled s.memory r kind

/-- **At most one lifecycle message of each kind for an assignment**, in every run of a node with
users: whatever is called on its ownership, whatever the driver handles later, and however the
watchers are scheduled, expired and aborted. -/
theorem lifecycle_once {es : List UserEvent} {s : Node}
    (hrun : withUsers.run initial es = some s) {r : OwnershipRef} {g : pb.Grant}
    (hassign : .assign r g ∈ s.loop.driver.history) : s.LifecycleOnce r g := by
  have h := reporting_run hrun
  have htold := h.desks r
  cases hh : s.helpers r with
  | none =>
    have hsent : s.sentBy r = [] := htold.silent hh
    refine ⟨fun kind => ?_, fun frame hframe => ?_⟩
    · rw [hsent]
      exact Nat.zero_le 1
    · rw [hsent] at hframe
      cases hframe
  | some hs =>
    obtain ⟨kinds, hnodup, hsent, hdone⟩ := htold.sent hs hh
    obtain rfl : g = hs.grant := h.booked.once r g hs.grant hassign (htold.assigned hs hh)
    have hsent : s.sentBy r = kinds.map fun kind => kind.frame hs.grant := hsent
    refine ⟨fun kind => ?_, fun frame hframe => ?_⟩
    · rw [hsent, List.countP_map]
      have hcount : kinds.count kind ≤ 1 := List.nodup_iff_count_le_one.1 hnodup kind
      refine le_of_eq_of_le ?_ hcount
      simp [List.count, Function.comp_def, Option.some.injEq, BEq.beq]
    · rw [hsent] at hframe
      obtain ⟨kind, hkind, rfl⟩ := List.mem_map.1 hframe
      exact ⟨kind, rfl, (hdone kind hkind).2⟩

end

/-- A grant whose user calls everything twice. -/
def callsRun : List UserEvent :=
  (.driver .start :: deliver (.assign [wireGrant "g" .active]) 3).map .node ++
    [.load 0, .load 0, .node (.watcher 0 .load .wake), .node (.watcher 0 .load (.sent true)),
      .load 0, .unload 0, .node (.watcher 0 .unload .wake), .unload 0,
      .node (.watcher 0 .unload (.sent true)), .node (.requestRevoke 0), .node (.requestRevoke 0),
      .node (.watcher 0 .requestRevoke .wake), .node (.watcher 0 .requestRevoke (.sent true))]

/-- It reports each of the three once. -/
theorem lifecycle_once_calls :
    let := UuidCrate.pair
    ∃ s, withUsers.run initial callsRun = some s ∧
      (s.sentBy 0).map Watcher.told? = [some .load, some .unload, some .requestRevoke] ∧
      s.LifecycleOnce 0 (wireGrant "g" .active) := by
  let := UuidCrate.pair
  have hend : (withUsers.run initial callsRun).map
      (fun s => ((s.sentBy 0).map Watcher.told?, s.loop.driver.history)) =
        some ([some .load, some .unload, some .requestRevoke],
          [.assign 0 (wireGrant "g" .active)]) := by decide +kernel
  obtain ⟨s, hrun, hend⟩ := Option.map_eq_some_iff.1 hend
  obtain ⟨htold, hhistory⟩ := Prod.mk.inj hend
  exact ⟨s, hrun, htold, lifecycle_once hrun (by rw [hhistory]; exact List.mem_singleton.2 rfl)⟩

/-! ## Loaded before unloaded -/

/-- No frame tells of a load after one that tells of an unload. -/
def LoadBeforeUnload (frames : List pb.JoinMessage) : Prop :=
  frames.Pairwise fun earlier later =>
    Watcher.told? earlier = some .unload → Watcher.told? later ≠ some .load

/-- No load of an assignment is reported after its unload. -/
def LoadedFirst (s : Node) : Prop := ∀ r, LoadBeforeUnload (s.sentBy r)

/-- An unload watcher sends only when the load watcher of its assignment is done. -/
def LoadWatcherFirst (s : Node) (e : Event) : Prop :=
  ∀ r h, e = .watcher r .unload (.sent true) → s.helpers r = some h → h.watcher .load = .done

/-- What holds of the watchers of an assignment in such runs. -/
structure Desk.Ordered (c : Desk) : Prop where
  first : LoadBeforeUnload c.sent
  done : ∀ h frame, c.helpers = some h → frame ∈ c.sent → Watcher.told? frame = some .unload →
    h.watcher .load = .done

/-- **The step lemma.** -/
theorem Desk.Ordered.step {s : Node} {e : Event} {r : OwnershipRef} {c : Desk}
    {history : List Handled} (h : (s.desk r).Ordered) (htold : (s.desk r).Told history s.memory r)
    (hfresh : ∀ g, .spawnHelpers r g ∈ s.loop.driver.pending → s.helpers r = none)
    (hguard : s.LoadWatcherFirst e) (hst : DeskStep s r (.node e) c) : c.Ordered := by
  cases hst with
  | spawn g hspawn =>
    have hsent : s.sentBy r = [] := htold.silent (hfresh g hspawn)
    refine ⟨h.first, fun hs frame _ hframe => ?_⟩
    rw [show (s.desk r).sent = [] from hsent] at hframe
    cases hframe
  | @abort _ hs₀ hh₀ =>
    refine ⟨h.first, fun hs frame hh hframe hunload => ?_⟩
    cases hh
    exact h.done hs₀ frame hh₀ hframe hunload
  | @watcher kind act o hs₀ hs' frame hmem hh₀ hst =>
    have hkept : ∀ f ∈ s.sentBy r, Watcher.told? f = some .unload → hs'.watcher .load = .done :=
      fun f hf hunload => Helpers.done_step hst (h.done hs₀ f hh₀ hf hunload)
    cases frame with
    | none =>
      have hsent : s.sentBy r ++ (none : Option pb.JoinMessage).toList = s.sentBy r :=
        List.append_nil _
      rw [hsent]
      refine ⟨h.first, fun hs f hh hf hunload => ?_⟩
      cases hh
      exact hkept f hf hunload
    | some f =>
      obtain ⟨hsending, -, rfl, rfl⟩ := Helpers.done_of_sent hst
      refine ⟨List.pairwise_append.2 ⟨h.first, List.pairwise_singleton .., ?_⟩,
        fun hs f hh hf hunload => ?_⟩
      · -- an unload that was reported before has found the load watcher done
        intro earlier hearlier later hlater hunload hload
        obtain rfl := List.mem_singleton.1 hlater
        rw [Watcher.told?_frame, Option.some_inj] at hload
        subst hload
        rw [h.done hs₀ earlier hh₀ hearlier hunload] at hsending
        cases hsending
      · cases hh
        rcases List.mem_append.1 hf with hf | hf
        · exact hkept f hf hunload
        · obtain rfl := List.mem_singleton.1 hf
          rw [Watcher.told?_frame, Option.some_inj] at hunload
          subst hunload
          exact Helpers.done_step hst (hguard r hs₀ rfl hh₀)

/-- An unload is signalled only after the load. -/
theorem Sound.load_of_unload {s : Node} {r : OwnershipRef} {o : Ownership} {h : Helpers}
    (hsound : s.Sound) (hmem : s.memory r = some o) (hh : s.helpers r = some h)
    (hunload : o.unloader.unload.isClosed = true) : o.loader.load.isClosed = true := by
  obtain ⟨task, htask, hload, -⟩ := (hsound.unloadReady hmem hh hunload).drained
  unfold grantTask at htask
  split at htask
  · next ownership id shard pc range hmem' _ =>
    cases htask
    rw [hmem] at hmem'
    cases hmem'
    exact hload
  · cases htask

section
variable [UuidCrate]

/-- The step lemma, for all assignments. -/
theorem ordered_step {s t : Node} {e : Event} (hreporting : s.Reporting)
    (h : ∀ r, (s.desk r).Ordered) (hstep : s.step e = some t) (hguard : s.LoadWatcherFirst e)
    (r : OwnershipRef) : (t.desk r).Ordered := by
  have hstep : s.userStep (.node e) = some t := hstep
  rcases step_desk hstep r with hsame | hdesk
  · rw [hsame]
    exact h r
  · exact (h r).step (hreporting.desks r) (fun g hspawn => hreporting.spawns.free hspawn) hguard
      hdesk

/-- What holds in every state of a node. -/
theorem sound_run {es : List Event} {s : Node} (hrun : machine.run initial es = some s) :
    s.Sound ∧ s.Reporting := by
  refine Machine.run_invariant (I := fun s : Node => s.Sound ∧ s.Reporting)
    (fun s e t h hst => ⟨h.1.step hst, ?_⟩) ⟨Sound.initial, Reporting.initial⟩ hrun
  exact h.2.step (e := .node e) hst

/-- A load watcher that is not done can report the load once its signal is closed. -/
theorem run_load {s : Node} {r : OwnershipRef} {o : Ownership} {h : Helpers}
    (hmem : s.memory r = some o) (hh : s.helpers r = some h) (hload : o.loader.load.isClosed = true)
    (hnot : h.watcher .load ≠ .done) :
    ∃ fs t, machine.run s fs = some t ∧
      t.sentBy r = s.sentBy r ++ [Watcher.Kind.load.frame h.grant] := by
  have hsend : ∀ (s : Node) (h : Helpers), s.memory r = some o → s.helpers r = some h →
      h.watcher .load = .sending → ∃ t, machine.run s [.watcher r .load (.sent true)] = some t ∧
        t.sentBy r = s.sentBy r ++ [Watcher.Kind.load.frame h.grant] := by
    intro s h hmem hh hsending
    refine ⟨_, by simp only [Machine.run, machine, step, hmem, hh, Helpers.step, hsending]; rfl, ?_⟩
    simp [sentBy]
  cases hw : h.watcher .load with
  | done => exact absurd hw hnot
  | sending =>
    obtain ⟨t, hrun, hsent⟩ := hsend s h hmem hh hw
    exact ⟨_, t, hrun, hsent⟩
  | parked =>
    set u : Node := { s with helpers := Function.update s.helpers r (some (h.set .load .sending)) }
      with hu
    have hwake : machine.step s (.watcher r .load .wake) = some u := by
      have hclosed : (Watcher.Kind.signal o .load).closed (h.set .load .sending, none) =
          some (h.set .load .sending, (none : Option pb.JoinMessage)) :=
        Latch.closed_eq_some.2 ⟨hload, rfl⟩
      simp [machine, step, hmem, hh, Helpers.step, hw, hclosed, hu]
    have hsending : (h.set .load .sending).watcher .load = .sending := by simp
    obtain ⟨t, hrun, hsent⟩ := hsend u _ hmem (Function.update_self ..) hsending
    exact ⟨[.watcher r .load .wake, .watcher r .load (.sent true)], t,
      (machine.run_cons_eq_some).2 ⟨u, hwake, hrun⟩, hsent⟩

/-- **Loaded is reported before unloaded**, in every run of a node in which no unload watcher sends
before the load watcher of its assignment is done. Where one does, the run can go on to report the
load after the unload. -/
theorem loaded_first (es : List Event) :
    (machine.Guarded LoadWatcherFirst initial es → machine.Always LoadedFirst initial es) ∧
      ∀ s e t, machine.run initial es = some s → s.step e = some t → ¬ s.LoadWatcherFirst e →
        ∃ fs u, machine.run t fs = some u ∧ ¬ u.LoadedFirst := by
  constructor
  · intro hguard
    have hall : machine.Always (fun s => s.Reporting ∧ ∀ r, (s.desk r).Ordered) initial es := by
      have hordered : ∀ r, (initial.desk r).Ordered :=
        fun _ => ⟨List.Pairwise.nil, fun _ _ h => by cases h⟩
      refine Machine.always_of_guarded (fun s e t h hst hg => ⟨?_, ?_⟩)
        ⟨Reporting.initial, hordered⟩ hguard
      · exact h.1.step (e := .node e) hst
      · exact ordered_step h.1 h.2 hst hg
    exact hall.mono fun s h r => (h.2 r).first
  · intro s e t hrun hstep hnot
    unfold LoadWatcherFirst at hnot
    push Not at hnot
    obtain ⟨r, hs, rfl, hh, hload⟩ := hnot
    obtain ⟨hsound, hreporting⟩ := sound_run hrun
    cases step_cases hstep with
    | @watcher _ _ _ o hs₀ hs' frame hmem hh₀ hst =>
      rw [hh] at hh₀
      cases hh₀
      obtain ⟨hsending, rfl, rfl⟩ := Helpers.sent_cases hst
      obtain ⟨o', ho', hunload⟩ := (hreporting.desks r).sending hs .unload hh hsending
      rw [hmem] at ho'
      cases ho'
      have hclosed := hsound.load_of_unload hmem hh hunload
      have hnot : (hs.set .unload .done).watcher .load ≠ .done := by simpa using hload
      have hgoesOn : ∀ t : Node, t.memory r = some o → t.helpers r = some (hs.set .unload .done) →
          t.sentBy r = s.sentBy r ++ [Watcher.Kind.unload.frame hs.grant] →
          ∃ fs u, machine.run t fs = some u ∧ ¬ u.LoadedFirst := by
        intro t hmem hh hsent
        obtain ⟨fs, u, hrun, hsent'⟩ := run_load hmem hh hclosed hnot
        refine ⟨fs, u, hrun, fun hfirst => ?_⟩
        have hpairwise := hfirst r
        rw [hsent', hsent] at hpairwise
        have hlast := (List.pairwise_append.1 hpairwise).2.2
          (Watcher.Kind.unload.frame hs.grant) (by simp) _ (List.mem_singleton.2 rfl)
        exact hlast (Watcher.told?_frame ..) (Watcher.told?_frame ..)
      exact hgoesOn _ hmem (Function.update_self ..) (by simp [sentBy])

end

/-- A grant's whole life, of which its watchers have reported nothing but a send that is pending. -/
def unreportedRun : List Event :=
  (lifeRun.filter fun
    | .watcher _ _ _ => false
    | _ => true) ++ [.watcher 0 .unload .wake]

/-- The unload watcher sends, and the load watcher is scheduled only then. -/
def reversedRun : List Event :=
  unreportedRun ++
    [.watcher 0 .unload (.sent true), .watcher 0 .load .wake, .watcher 0 .load (.sent true)]

/-- The coordinator is told of the unload first. -/
theorem reversedRun_not_loadedFirst :
    let := UuidCrate.pair
    ¬ machine.Always LoadedFirst initial reversedRun := by
  let := UuidCrate.pair
  have hsent : (machine.run initial reversedRun).map (·.sentBy 0) =
      some [Watcher.updateFrame (wireGrant "g" .allocated) .revokedUnloaded,
        Watcher.updateFrame (wireGrant "g" .allocated) .allocatedLoaded] := by decide +kernel
  obtain ⟨s, hrun, hsent⟩ := Option.map_eq_some_iff.1 hsent
  show ¬ machine.Always LoadedFirst initial reversedRun
  intro h
  have hfirst := h.last hrun 0
  rw [hsent] at hfirst
  exact (List.pairwise_cons.1 hfirst).1 _ (List.mem_singleton.2 rfl) rfl rfl

/-- The event is the send of an unload watcher. -/
def Event.isUnloadSend : Event → Bool
  | .watcher _ .unload (.sent true) => true
  | _ => false

theorem loadWatcherFirst_of_not {s : Node} {e : Event} (h : e.isUnloadSend = false) :
    s.LoadWatcherFirst e := by
  rintro r hs rfl
  cases h

/-- The life of a grant whose load watcher is scheduled in time, and where the other one can go. -/
theorem loaded_first_life :
    let := UuidCrate.pair
    machine.Always LoadedFirst initial lifeRun ∧
      ∃ t fs u, machine.run initial (unreportedRun ++ [.watcher 0 .unload (.sent true)]) = some t ∧
        machine.run t fs = some u ∧ ¬ u.LoadedFirst := by
  let := UuidCrate.pair
  constructor
  · refine (loaded_first lifeRun).1 ?_
    have hsplit : lifeRun = lifeRun.dropLast ++ [.watcher 0 .unload (.sent true)] := rfl
    have hbefore : ∀ e ∈ lifeRun.dropLast, e.isUnloadSend = false := by
      intro e he
      simpa using List.all_eq_true.1
        (show lifeRun.dropLast.all (fun e => !e.isUnloadSend) = true from rfl) e he
    have hend : (machine.run initial lifeRun.dropLast).map
        (fun s => (s.helpers 0).map (·.watcher .load)) = some (some .done) := by decide +kernel
    obtain ⟨s, hrun, hload⟩ := Option.map_eq_some_iff.1 hend
    rw [hsplit, Machine.guarded_append]
    refine ⟨Machine.guarded_of_forall fun e he s => loadWatcherFirst_of_not (hbefore e he), ?_⟩
    intro t hrun'
    rw [hrun] at hrun'
    cases hrun'
    refine Machine.guarded_cons.2 fun u _ => ⟨?_, Machine.guarded_nil⟩
    rintro r h heq hh
    cases heq
    rw [hh, Option.map_some, Option.some_inj] at hload
    exact hload
  · have hload : (machine.run initial unreportedRun).map
        (fun s => (s.helpers 0).map (·.watcher .load)) = some (some .parked) := by decide +kernel
    have hend : (machine.run initial (unreportedRun ++ [.watcher 0 .unload (.sent true)])).isSome =
        true := by decide +kernel
    obtain ⟨t, hrun⟩ := Option.isSome_iff_exists.1 hend
    obtain ⟨s, hbefore, hstep⟩ := machine.run_concat_eq_some.1 hrun
    have hstep : s.step (.watcher 0 .unload (.sent true)) = some t := hstep
    rw [hbefore, Option.map_some, Option.some_inj] at hload
    obtain ⟨h, hh, hparked⟩ := Option.map_eq_some_iff.1 hload
    have hearly : ¬ s.LoadWatcherFirst (.watcher 0 .unload (.sent true)) := by
      intro hfirst
      rw [hfirst 0 h rfl hh] at hparked
      cases hparked
    obtain ⟨fs, u, hgoesOn, hnot⟩ := (loaded_first unreportedRun).2 s _ t hbefore hstep hearly
    exact ⟨t, fs, u, hrun, hgoesOn, hnot⟩

end Node

end Splitter
