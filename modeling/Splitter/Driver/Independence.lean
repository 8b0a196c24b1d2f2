import Splitter.Driver.Instructions

/-!
# Grants do not interfere

The driver between two messages keeps of each grant what the instructions that concerned it make of
it, from no record at all (`Tracks`, kept by every step of the driver task). So two runs in which a
grant was concerned by the same instructions leave it the same, whatever other grants the messages
named and however their entries were batched: `grant_independent`.
-/

namespace Splitter

namespace Loop

/-- The entries of the frame a step takes, if it takes one. -/
def heard (s : Loop) : Event → List Instruction
  | .takeInbound (some (.ok join)) env => s.driver.frameInstructions env join
  | _ => []

/-- The driver is alive and handles no message: every effect of those before is carried out. -/
def BetweenMessages (s : Loop) : Prop :=
  match s.pc with
  | .start | .select _ | .heartbeat _ | .deregister | .sendClosed | .broken _ => True
  | _ => False

instance (s : Loop) : Decidable s.BetweenMessages :=
  match h : s.pc with
  | .start | .select _ | .heartbeat _ | .deregister | .sendClosed | .broken _ =>
    isTrue (by rw [BetweenMessages, h]; trivial)
  | .handling _ | .cleanup _ | .returned _ | .panicked =>
    isFalse (by rw [BetweenMessages, h]; exact id)

/-- The driver has not panicked and has not started its clean-up. -/
def Following (s : Loop) : Prop :=
  match s.pc with
  | .handling result => result ≠ .error .panic
  | .cleanup _ | .returned _ | .panicked => False
  | _ => True

/-- What the driver keeps of a grant. -/
def grantRecord (s : Loop) (id : GrantId) : Option GrantRecord :=
  Driver.grantRecord (Effect.memoryAfter s.done) s.driver id

/-- What holds of the driver task and the instructions it has taken. -/
structure Tracks (s : Loop) (taken : List Instruction) : Prop where
  tidy : Tidy s
  apart : s.driver.Apart
  records : s.Following → ∀ id, Driver.grantRecord (Driver.settled s.done s.driver) s.driver id =
    (taken.filter (·.concerns id)).foldl GrantRecord.receive none

theorem Tracks.initial : Tracks initial [] where
  tidy := Tidy.initial
  apart _ _ _ _ h := by cases h
  records _ _ := rfl

theorem BetweenMessages.following {s : Loop} (h : s.BetweenMessages) : s.Following := by
  unfold BetweenMessages at h
  unfold Following
  split at h
  all_goals first
    | exact h.elim
    | next hpc => rw [hpc]; trivial

/-- Between two messages nothing is pending. -/
theorem Tidy.pending_nil {s : Loop} (h : Tidy s) (hb : s.BetweenMessages) :
    s.driver.pending = [] := by
  unfold BetweenMessages at hb
  refine h.idle (fun r hr => ?_) (fun r hr => ?_)
  all_goals
    rw [hr] at hb
    exact hb

/-- A frame sent leaves every record. -/
theorem grantRecord_enqueue (s : Loop) (ok : Bool) (frame : pb.JoinMessage) (id : GrantId) :
    let t := s.enqueue ok frame
    Driver.grantRecord (Driver.settled t.done t.driver) t.driver id =
      Driver.grantRecord (Driver.settled s.done s.driver) s.driver id := by
  cases ok with
  | false => rfl
  | true =>
    have hsettled : Driver.settled (s.done ++ [.enqueue frame]) s.driver =
        Driver.settled s.done s.driver := by
      simp only [Driver.settled, Effect.memoryAfter_append, List.foldl_cons, List.foldl_nil,
        Effect.exec]
    exact congrArg (fun mem => Driver.grantRecord mem s.driver id) hsettled

section
variable [UuidCrate]

/-- The entries of a table stay apart while the driver goes on. -/
theorem apart_step {s t : Loop} {e : Event} (htidy : Tidy s) (h : s.driver.Apart)
    (hst : s.step e = some t) : t.driver.Apart := by
  rcases driver_step hst with ⟨eff, rest, -, -, hdriver⟩ | ⟨hedits, -⟩
  · rw [hdriver]
    exact h
  · exact h.edits htidy.ledger hedits

/-- A frame that is no client message leaves every record. -/
theorem grantRecord_cluster (log : List Effect) (d : Driver) (env : Env) (msg : pb.ClusterMessage)
    (id : GrantId) :
    Driver.grantRecord (Driver.settled log (d.handleCluster env msg).1) (d.handleCluster env msg).1
      id = Driver.grantRecord (Driver.settled log d) d id := by
  unfold Driver.handleCluster
  split
  · next next _ =>
    simp only
    split
    · rw [Driver.settled_emit log d (d.publishCluster next) rfl]
      rfl
    · rfl
  · rfl
  · rfl

/-- A frame is followed entry by entry, unless it makes the driver panic. -/
theorem grantRecord_inbound {log : List Effect} {d : Driver} (hl : Ledger (log ++ d.pending) d)
    (hd : d.Apart) (env : Env) (join : pb.JoinMessage)
    (hok : (d.handleInbound env join).2 ≠ .error .panic) (id : GrantId) :
    let d' := (d.handleInbound env join).1
    Driver.grantRecord (Driver.settled log d') d' id =
      ((d.frameInstructions env join).filter (·.concerns id)).foldl GrantRecord.receive
        (Driver.grantRecord (Driver.settled log d) d id) := by
  rcases join with ⟨_ | msg | ⟨_ | client | cm⟩⟩
  · rfl
  · rfl
  · rfl
  · have hfollow := d.handleClientMessage_follow env client
    have hd' : (d.handleInbound env
        { msg := some (.consumer { msg := some (.client client) }) }).1 =
        (d.follow (d.instructions env client)).1 := congrArg Prod.fst hfollow
    have hresult : (d.follow (d.instructions env client)).2 = .ok () := by
      have hpanics := Driver.handleClientMessage_panicsOnly env d client
      rw [← hfollow]
      rcases heq : (d.handleClientMessage env client).2 with (e | _) | _
      · exact absurd heq (hpanics e)
      · refine absurd ?_ hok
        show (d.handleClientMessage env client).2.map _ = _
        rw [heq]
        rfl
      · rfl
    rw [hd']
    exact Driver.grantRecord_follow hl hd hresult id
  · exact grantRecord_cluster log d env cm id

/-- **The step lemma.** -/
theorem Tracks.step {s t : Loop} {e : Event} {taken : List Instruction} (h : Tracks s taken)
    (hst : s.step e = some t) : Tracks t (taken ++ s.heard e) := by
  refine ⟨h.tidy.step hst, apart_step h.tidy h.apart hst, fun hf id => ?_⟩
  have hsame (hs : s.Following)
      (hrec : Driver.grantRecord (Driver.settled t.done t.driver) t.driver id =
        Driver.grantRecord (Driver.settled s.done s.driver) s.driver id)
      (hheard : s.heard e = []) :
      Driver.grantRecord (Driver.settled t.done t.driver) t.driver id =
        ((taken ++ s.heard e).filter (·.concerns id)).foldl GrantRecord.receive none := by
    rw [hheard, List.append_nil, hrec]
    exact h.records hs id
  have hat {pc : Pc} (hpc : s.pc = pc) (hf : Following { s with pc }) : s.Following := by
    rw [Following, hpc]
    exact hf
  cases step_cases hst with
  | start hpc | takeShutdown hpc | takeTick _ hpc | heartbeatFailed hpc =>
    exact hsame (hat hpc trivial) rfl rfl
  | shutdown => exact hsame hf rfl rfl
  | takeInbound item env hpc =>
    rcases item with _ | ⟨status | join⟩
    · exact hsame (hat hpc trivial) rfl rfl
    · exact hsame (hat hpc trivial) rfl rfl
    · rw [heard, List.filter_append, List.foldl_append, ← h.records (hat hpc trivial) id]
      exact grantRecord_inbound h.tidy.ledger h.apart env join hf id
  | @exec eff rest hpending =>
    refine hsame hf ?_ rfl
    have hsettled : Driver.settled (s.done ++ [eff]) { s.driver with pending := rest } =
        Driver.settled s.done s.driver := by
      rw [Driver.settled, Driver.settled, hpending, List.append_assoc]
      rfl
    exact congrArg (fun mem => Driver.grantRecord mem s.driver id) hsettled
  | @handled result now hpc =>
    rcases result with (_ | _) | (_ | _)
    · exact hf.elim
    · exact hf.elim
    · exact hsame (hat hpc fun h => by cases h) rfl rfl
    · exact hsame (hat hpc fun h => by cases h) rfl rfl
  | heartbeatSent hpc => exact hsame (hat hpc trivial) (s.grantRecord_enqueue true _ id) rfl
  | deregisterSent ok hpc | closedSent ok hpc =>
    refine hsame (hat hpc trivial) (s.grantRecord_enqueue ok _ id) ?_
    cases ok <;> rfl
  | collect | finish => exact hf.elim

/-- The instructions that concern a grant, of all those the driver has taken. -/
def told (es : List Event) (id : GrantId) : List Instruction :=
  (machine.outputs heard initial es).filter (·.concerns id)

/-- **The records of a run.** Between two messages the driver keeps of a grant what the instructions
that concerned it make of it. -/
theorem grantRecord_run {es : List Event} {s : Loop} (hrun : machine.run initial es = some s)
    (hb : s.BetweenMessages) (id : GrantId) :
    s.grantRecord id = (told es id).foldl GrantRecord.receive none := by
  have htracks : Tracks s ([] ++ machine.outputs heard initial es) :=
    Machine.run_outputs (I := Tracks) (fun _ _ _ _ h hst => h.step hst) Tracks.initial hrun
  have hrec := htracks.records hb.following id
  rw [Driver.settled, htracks.tidy.pending_nil hb, List.append_nil] at hrec
  exact hrec

/-- A grant has a record exactly if it is in the table. -/
theorem grantRecord_isSome {es : List Event} {s : Loop} (hrun : machine.run initial es = some s)
    (hb : s.BetweenMessages) (id : GrantId) :
    (s.grantRecord id).isSome = (s.driver.grants.lookup id).isSome := by
  have htidy : Tidy s :=
    Machine.run_invariant (I := Tidy) (fun _ _ _ h hst => h.step hst) Tidy.initial hrun
  have hl := htidy.ledger
  rw [htidy.pending_nil hb, List.append_nil] at hl
  unfold grantRecord Driver.grantRecord
  cases hentry : s.driver.grants.lookup id with
  | none => rfl
  | some entry =>
    rw [Option.bind_some, Option.isSome_map]
    exact hl.held id entry hentry

/-- **Grant independence.** Two runs of the driver in which a grant was concerned by the same
instructions, with the same readings of the clock, leave it the same between messages: it is in the
table of both or of neither, and its entry and its ownership are the same. -/
theorem grant_independent {id : GrantId} {es es' : List Event} {s s' : Loop}
    (hrun : machine.run initial es = some s) (hrun' : machine.run initial es' = some s')
    (hb : s.BetweenMessages) (hb' : s'.BetweenMessages) (hsame : told es id = told es' id) :
    (s.driver.grants.lookup id).isSome = (s'.driver.grants.lookup id).isSome ∧
      s.grantRecord id = s'.grantRecord id := by
  have hrec : s.grantRecord id = s'.grantRecord id := by
    rw [grantRecord_run hrun hb, grantRecord_run hrun' hb', hsame]
  refine ⟨?_, hrec⟩
  rw [← grantRecord_isSome hrun hb, ← grantRecord_isSome hrun' hb', hrec]

end

/-! ## Two runs -/

/-- The driver takes a client message, carries out its effects and waits again. -/
def takeClient (msg : pb.ClientMessage.Msg) (effects : Nat) : List Event :=
  .takeInbound (some (.ok (wrapClient msg))) epochEnv :: List.replicate effects .exec ++
    [.handled SystemTime.unixEpoch]

/-- An allocated grant of the whole domain, with a lease. -/
def allocatedGrant (gid : String) : pb.Grant :=
  { id := gid, shard := some (ClusterMap.wireShard 2), state := pb.GrantState.allocated.toI32
    lease := some { seconds := 60, nanos := 0 }, assigned := none }

/-- A grant alone. -/
def aloneRun : List Event :=
  .start :: takeClient (.assign [allocatedGrant "g"]) 3 ++
    takeClient (.promote [allocatedGrant "g"]) 1

/-- The same grant in one message with another, which is revoked in between. -/
def togetherRun : List Event :=
  .start :: takeClient (.assign [allocatedGrant "h", allocatedGrant "g"]) 6 ++
    takeClient (.revoke [allocatedGrant "h"]) 2 ++
    takeClient (.promote [allocatedGrant "h", allocatedGrant "g"]) 2

/-- The grant that is alone and the one that is not. -/
theorem grant_independent_together :
    let := UuidCrate.pair
    ∃ s s', machine.run initial aloneRun = some s ∧ machine.run initial togetherRun = some s' ∧
      s.grantRecord ⟨"g"⟩ = s'.grantRecord ⟨"g"⟩ ∧ (s.grantRecord ⟨"g"⟩).isSome = true := by
  let := UuidCrate.pair
  have halone : machine.run initial aloneRun = some _ := rfl
  have htogether : machine.run initial togetherRun = some _ := rfl
  exact ⟨_, _, halone, htogether,
    (grant_independent halone htogether trivial trivial rfl).2, rfl⟩

end Loop

end Splitter
