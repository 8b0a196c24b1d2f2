import Splitter.Cluster.Index
import Splitter.Driver.Loop

/-!
# How the driver leaves its grants

`CleanedUp` is what the end of `run` is there for: every ownership that was announced has expired,
every assignment has had its one removal announced, the table is empty and the `closed` latch is
closed. `cleanedUp_iff`: a run of the driver that returns has cleaned up exactly if no frame of it
ended the session. A frame that does makes `handle_inbound` return an error, which leaves `run`
through the `?` of the inbound branch, past the clean-up.
-/

namespace Splitter

namespace Loop

/-! ## The loop keeps the ledger -/

/-- What holds in every state of the driver task. -/
structure Tidy (s : Loop) : Prop where
  ledger : Ledger (s.done ++ s.driver.pending) s.driver
  idle : (∀ r, s.pc ≠ .handling r) → (∀ r, s.pc ≠ .cleanup r) → s.driver.pending = []
  closed : s.closed.isClosed = true → ∃ r, s.pc = .returned r
  cleanup : ∀ r, s.pc = .cleanup r → s.driver.grants = ∅

theorem Tidy.initial : Tidy initial where
  ledger := Ledger.initial
  idle _ _ := rfl
  closed h := by cases h
  cleanup _ h := by cases h

/-- The ledger speaks of the table only. -/
theorem ledger_congr {log : List Effect} {d d' : Driver} (h : Ledger log d)
    (hgrants : d'.grants = d.grants) (hnext : d'.next = d.next) : Ledger log d' := by
  refine ⟨?_, ?_, ?_, ?_⟩
  · rw [hnext]
    exact h.fresh
  · rw [hgrants]
    exact h.held
  · rw [hgrants]
    exact h.alternates
  · rw [hgrants]
    exact h.announced

/-- A frame in the log. -/
theorem ledger_enqueue {log : List Effect} {d : Driver} (h : Ledger log d)
    (frame : pb.JoinMessage) : Ledger (log ++ [.enqueue frame]) d :=
  h.quiet (by simp [Effect.Quiet]) rfl fun _ => rfl

theorem lookup_removeGrants (d : Driver) (ids : List GrantId) (k : GrantId) :
    (ids.foldl Driver.removeGrant d).grants.lookup k =
      if k ∈ ids then none else d.grants.lookup k := by
  induction ids generalizing d with
  | nil => simp
  | cons id ids ih =>
    rw [List.foldl_cons, ih, Driver.lookup_removeGrant]
    by_cases hk : k ∈ ids
    · simp [hk]
    · simp [hk, List.mem_cons]

/-- Removing all keys of the table, in any order, empties it. -/
theorem grants_removeGrants {d : Driver} {ids : List GrantId} (h : ids.Perm d.grants.keys) :
    (ids.foldl Driver.removeGrant d).grants = ∅ := by
  refine AList.eq_empty_of_lookup fun k => ?_
  rw [lookup_removeGrants]
  split
  · rfl
  · next hk =>
    rw [h.mem_iff, ← AList.mem_keys] at hk
    exact AList.lookup_eq_none.2 hk

/-- Outside its handlers and its clean-up the driver has nothing pending, and `closed` is open. -/
theorem Tidy.rest {s : Loop} (h : Tidy s) (hh : ∀ r, s.pc ≠ .handling r)
    (hc : ∀ r, s.pc ≠ .cleanup r) (hr : ∀ r, s.pc ≠ .returned r) :
    s.driver.pending = [] ∧ s.closed.isClosed ≠ true := by
  refine ⟨h.idle hh hc, fun hclosed => ?_⟩
  obtain ⟨r, hpc⟩ := h.closed hclosed
  exact hr r hpc

/-- Going on to another place with nothing pending and `closed` open. -/
theorem Tidy.goto {s : Loop} (h : Tidy s)
    (hrest : s.driver.pending = [] ∧ s.closed.isClosed ≠ true) {t : Loop}
    (hdriver : t.driver = s.driver) (hdone : t.done = s.done) (hclosed : t.closed = s.closed)
    (hpc : ∀ r, t.pc ≠ .cleanup r) : Tidy t where
  ledger := by
    rw [hdriver, hdone]
    exact h.ledger
  idle _ _ := by
    rw [hdriver]
    exact hrest.1
  closed hc := absurd (hclosed ▸ hc) hrest.2
  cleanup r hr := absurd hr (hpc r)

/-- A frame sent with nothing pending. -/
theorem Tidy.enqueue {s : Loop} (h : Tidy s) (hnil : s.driver.pending = []) (ok : Bool)
    (frame : pb.JoinMessage) : Tidy (s.enqueue ok frame) := by
  unfold Loop.enqueue
  split
  · refine ⟨?_, h.idle, h.closed, h.cleanup⟩
    have hl := h.ledger
    rw [hnil, List.append_nil] at hl
    show Ledger (s.done ++ [.enqueue frame] ++ s.driver.pending) s.driver
    rw [hnil, List.append_nil]
    exact ledger_enqueue hl frame
  · exact h

theorem enqueue_driver (s : Loop) (ok : Bool) (frame : pb.JoinMessage) :
    (s.enqueue ok frame).driver = s.driver ∧ (s.enqueue ok frame).closed = s.closed := by
  unfold Loop.enqueue
  split <;> exact ⟨rfl, rfl⟩

/-! ## The clean-up -/

/-- **The driver has cleaned up**: the `closed` latch is closed, no grant is left in the table, each
assignment that was announced has had exactly one removal announced after it, and its ownership has
expired. -/
structure CleanedUp (s : Loop) : Prop where
  closed : s.closed.isClosed = true
  grants : s.driver.grants = ∅
  removed : ∀ id, Alternates id (Effect.events s.done) none
  expired : ∀ id shard r, GrantEvent.assigned id shard r ∈ Effect.events s.done →
    (Effect.memoryAfter s.done).Expired r

/-- An empty table with nothing pending has been cleaned up. -/
theorem Tidy.cleanedUp {s : Loop} (h : Tidy s) (hclosed : s.closed.isClosed = true)
    (hgrants : s.driver.grants = ∅) (hnil : s.driver.pending = []) : CleanedUp s := by
  have hl := h.ledger
  rw [hnil, List.append_nil] at hl
  have hnone : ∀ id, s.driver.grants.lookup id = none := by
    intro id
    rw [hgrants]
    rfl
  refine ⟨hclosed, hgrants, fun id => ?_, fun id shard r hr => ?_⟩
  · have halt := hl.alternates id
    rw [hnone id] at halt
    exact halt
  · rcases hl.announced id shard r hr with ⟨entry, hentry, -⟩ | hexp
    · rw [hnone id] at hentry
      cases hentry
    · exact hexp

/-- The event delivers a frame that ends the session. -/
def Event.EndsSession : Event → Prop
  | .takeInbound (some (.ok join)) _ => Driver.EndsSession join
  | _ => False

/-- No error of `handle_inbound` is under way, and a driver that has returned has come through the
clean-up. -/
structure Orderly (s : Loop) : Prop where
  tidy : Tidy s
  handling : ∀ e, s.pc ≠ .handling (.error (.error e))
  returned : ∀ r, s.pc = .returned r → s.closed.isClosed = true ∧ s.driver.grants = ∅ ∧
    s.driver.pending = []

theorem Orderly.initial : Orderly initial where
  tidy := Tidy.initial
  handling _ h := by cases h
  returned _ h := by cases h

/-- A driver past a frame that ended the session: it returns, or has, with `closed` open. -/
structure Doomed (s : Loop) : Prop where
  closed : s.closed.isClosed = false
  pc : (∃ e, s.pc = .handling (.error (.error e))) ∨ ∃ r, s.pc = .returned r

/-! ## Steps and runs -/

section
variable [UuidCrate]

/-- The handlers keep the ledger, and leave the rest of the state alone. -/
theorem Tidy.inbound {s : Loop} (h : Tidy s)
    (hrest : s.driver.pending = [] ∧ s.closed.isClosed ≠ true) (env : Env)
    (item : Option (Except Status pb.JoinMessage)) : Tidy (s.inbound env item) := by
  rcases item with _ | ⟨status | join⟩
  · exact h.goto hrest rfl rfl rfl nofun
  · exact h.goto hrest rfl rfl rfl nofun
  · exact ⟨h.ledger.edits (s.driver.handleInbound_edits env join), fun hh => absurd rfl (hh _),
      fun hc => absurd hc hrest.2, nofun⟩

/-- **The step lemma.** -/
theorem Tidy.step {s t : Loop} {e : Event} (h : Tidy s) (hst : s.step e = some t) : Tidy t := by
  cases step_cases hst with
  | start hpc =>
    exact h.goto (h.rest (by simp [hpc]) (by simp [hpc]) (by simp [hpc])) rfl rfl rfl nofun
  | shutdown => exact ⟨h.ledger, h.idle, h.closed, h.cleanup⟩
  | takeShutdown hpc | takeTick _ hpc | heartbeatFailed hpc =>
    exact h.goto (h.rest (by simp [hpc]) (by simp [hpc]) (by simp [hpc])) rfl rfl rfl nofun
  | takeInbound item env hpc =>
    exact h.inbound (h.rest (by simp [hpc]) (by simp [hpc]) (by simp [hpc])) env item
  | @exec e rest hpending =>
    have hl := h.ledger
    rw [hpending] at hl
    refine ⟨?_, fun hh hc => ?_, h.closed, h.cleanup⟩
    · show Ledger (s.done ++ [e] ++ rest) _
      rw [List.append_assoc]
      exact ledger_congr hl rfl rfl
    · have hnil := h.idle hh hc
      rw [hpending] at hnil
      cases hnil
  | @handled result now hpc hpending =>
    have hopen : s.closed.isClosed ≠ true := by
      intro hclosed
      obtain ⟨r, hr⟩ := h.closed hclosed
      simp [hpc] at hr
    rcases result with (e | _) | (_ | ttl)
    all_goals exact h.goto ⟨hpending, hopen⟩ rfl rfl rfl nofun
  | heartbeatSent hpc =>
    have hrest := h.rest (by simp [hpc]) (by simp [hpc]) (by simp [hpc])
    exact (h.enqueue hrest.1 true _).goto hrest rfl rfl rfl nofun
  | deregisterSent ok hpc | closedSent ok hpc =>
    have hrest := h.rest (by simp [hpc]) (by simp [hpc]) (by simp [hpc])
    refine (h.enqueue hrest.1 ok _).goto ?_ rfl rfl rfl nofun
    rw [(s.enqueue_driver ok _).1, (s.enqueue_driver ok _).2]
    exact hrest
  | collect ids hpc hids =>
    have hrest := h.rest (by simp [hpc]) (by simp [hpc]) (by simp [hpc])
    exact ⟨h.ledger.edits (s.driver.removeGrants_edits ids), fun _ hc => absurd rfl (hc _),
      fun hc => absurd hc hrest.2, fun _ _ => grants_removeGrants hids⟩
  | finish hpc hpending =>
    exact ⟨h.ledger, fun _ _ => hpending, fun _ => ⟨_, rfl⟩, nofun⟩

/-- The place a step leads to is a failed handler only if the event ends the session. -/
theorem handling_error_of_step {s t : Loop} {e : Event} (hst : s.step e = some t)
    (hs : ∀ err, s.pc ≠ .handling (.error (.error err))) (he : ¬ e.EndsSession)
    (err : ClientError) : t.pc ≠ .handling (.error (.error err)) := by
  intro hpc
  cases step_cases hst with
  | takeInbound item env _ =>
    rcases item with _ | ⟨status | join⟩
    · cases hpc
    · cases hpc
    · refine he ((Driver.handleInbound_error_iff env s.driver join).1 ⟨err, ?_⟩)
      exact Pc.handling.inj hpc
  | handled now => rename_i result _ _; rcases result with (_ | _) | (_ | _) <;> cases hpc
  | shutdown => exact hs err hpc
  | exec => exact hs err hpc
  | _ => cases hpc

theorem Orderly.step {s t : Loop} {e : Event} (h : Orderly s) (hst : s.step e = some t)
    (he : ¬ e.EndsSession) : Orderly t := by
  refine ⟨h.tidy.step hst, handling_error_of_step hst h.handling he, fun r hr => ?_⟩
  cases step_cases hst with
  | finish hpc hpending => exact ⟨rfl, h.tidy.cleanup _ hpc, hpending⟩
  | shutdown => exact h.returned r hr
  | exec hpending =>
    obtain ⟨-, -, hnil⟩ := h.returned r hr
    rw [hpending] at hnil
    cases hnil
  | @handled result now hpc hpending =>
    rcases result with (err | _) | (_ | _)
    · exact absurd hpc (h.handling err)
    all_goals cases hr
  | takeInbound item => rcases item with _ | ⟨_ | _⟩ <;> cases hr
  | _ => cases hr

theorem Doomed.step {s t : Loop} {e : Event} (h : Doomed s) (hst : s.step e = some t) :
    Doomed t := by
  obtain ⟨hclosed, hpc⟩ := h
  cases step_cases hst with
  | shutdown => exact ⟨hclosed, hpc⟩
  | exec => exact ⟨hclosed, hpc⟩
  | @handled result now hres =>
    rcases hpc with ⟨err, hpc⟩ | ⟨r, hpc⟩
    · rw [hpc] at hres
      cases hres
      exact ⟨hclosed, .inr ⟨_, rfl⟩⟩
    · rw [hpc] at hres
      cases hres
  | start hres | takeShutdown hres | takeTick _ hres | takeInbound _ _ hres | heartbeatSent hres
  | heartbeatFailed hres | deregisterSent _ hres | closedSent _ hres | collect _ hres
  | finish hres =>
    exfalso
    rcases hpc with ⟨_, hpc⟩ | ⟨_, hpc⟩ <;> (rw [hpc] at hres; cases hres)

/-- A frame that ends the session dooms the driver. -/
theorem Doomed.of_endsSession {s t : Loop} {e : Event} (h : Tidy s) (hst : s.step e = some t)
    (he : e.EndsSession) : Doomed t := by
  cases step_cases hst with
  | takeInbound item env hpc =>
    rcases item with _ | ⟨status | join⟩
    · exact he.elim
    · exact he.elim
    · have hrest := h.rest (by simp [hpc]) (by simp [hpc]) (by simp [hpc])
      obtain ⟨err, herr⟩ := (Driver.handleInbound_error_iff env s.driver join).2 he
      refine ⟨Bool.eq_false_iff.2 hrest.2, .inl ⟨err, ?_⟩⟩
      exact congrArg Pc.handling herr
  | _ => exact he.elim

/-- **Every way out.** A run of the driver that returns has cleaned up exactly if it was delivered
no frame that ends the session. -/
theorem cleanedUp_iff {es : List Event} {t : Loop} {result : Except ClientError Unit}
    (hrun : machine.run initial es = some t) (hret : t.pc = .returned result) :
    CleanedUp t ↔ ∀ e ∈ es, ¬ e.EndsSession := by
  constructor
  · intro hclean e he hends
    obtain ⟨pre, post, rfl⟩ := List.append_of_mem he
    rw [Machine.run_append] at hrun
    obtain ⟨s, hpre, hrun⟩ := Option.bind_eq_some_iff.1 hrun
    obtain ⟨u, hstep, hpost⟩ := (Machine.run_cons_eq_some _).1 hrun
    have htidy : Tidy s :=
      Machine.run_invariant (I := Tidy) (fun _ _ _ h hst => h.step hst) Tidy.initial hpre
    have hdoomed : Doomed t :=
      Machine.run_invariant (I := Doomed) (fun _ _ _ h hst => h.step hst)
        (Doomed.of_endsSession htidy hstep hends) hpost
    have hclosed := hclean.closed
    rw [hdoomed.closed] at hclosed
    cases hclosed
  · intro hnone
    have horderly : Orderly t := by
      refine (Machine.always_of_guarded (M := machine) (I := Orderly)
        (c := fun _ e => ¬ e.EndsSession) (fun _ _ _ h hst he => h.step hst he)
        Orderly.initial ?_).last hrun
      intro pre e _ _ hpre _ _
      exact hnone e (hpre.subset (by simp))
    obtain ⟨hclosed, hgrants, hnil⟩ := horderly.returned result hret
    exact horderly.tidy.cleanedUp hclosed hgrants hnil

end

/-! ## Two runs -/

/-- A clock that stands at the epoch. -/
def epochEnv : Env :=
  { clock := fun _ => { lease := SystemTime.unixEpoch, created := SystemTime.unixEpoch }
    clusterObserved := true }

/-- A frame that assigns one active grant of the whole domain, with the default lease. -/
def assignFrame (gid : String) : pb.JoinMessage :=
  wrapClient (.assign
    [{ id := gid, shard := some (ClusterMap.wireShard 2), state := 1, lease := none
       assigned := none }])

/-- The driver takes a frame that assigns one grant, and waits again. -/
def takeAssign (gid : String) : List Event :=
  [.takeInbound (some (.ok (assignFrame gid))) epochEnv, .exec, .exec, .exec,
    .handled SystemTime.unixEpoch]

/-- A driver that holds a grant and is shut down. -/
def shutdownRun : List Event :=
  .start :: takeAssign "g" ++
    [.shutdown, .takeShutdown, .sent true, .sent true, .collect [⟨"g"⟩], .exec, .exec, .exec,
      .finish]

/-- A driver that holds a grant and is told that the session has ended. -/
def sessionEndRun : List Event :=
  .start :: takeAssign "g" ++
    [.takeInbound (some (.ok (closedFrame "lease expired"))) epochEnv,
      .handled SystemTime.unixEpoch]

/-- A shutdown cleans up. -/
theorem cleanedUp_shutdownRun :
    let := UuidCrate.pair
    ∃ t, machine.run initial shutdownRun = some t ∧ CleanedUp t := by
  let := UuidCrate.pair
  refine ⟨_, rfl, (cleanedUp_iff (show machine.run initial shutdownRun = some _ from rfl) rfl).2 ?_⟩
  simp [shutdownRun, takeAssign, Event.EndsSession, Driver.EndsSession, assignFrame, wrapClient]

/-- **The end of a session leaves the grants.** The driver returns with the grant in its table, its
ownership live and `closed` open. -/
theorem sessionEndRun_not_cleanedUp :
    let := UuidCrate.pair
    ∃ t, machine.run initial sessionEndRun = some t ∧
      t.pc = .returned (.error (.sessionClosed "lease expired")) ∧ ¬ CleanedUp t := by
  let := UuidCrate.pair
  refine ⟨_, rfl, rfl, fun h => ?_⟩
  exact absurd h.closed (by decide)

end Loop

end Splitter
