import Splitter.Driver.Heartbeat
import Splitter.Node.Handover

/-!
# The outbound stream

What a consumer sends on the `Join` stream: the two frames that `ConsumerClient::join` queues before
it opens the stream, and everything the driver and the watchers put in the channel after that.

`Stage` is the client's side of the protocol, from the comments of the proto files: `Establish`
first, then `Register`; then heartbeats and what the consumer reports; at most one `Deregister`, and
at most one session `Closed`, after which no session request may follow. `protocol_followed`: every
run of a node keeps to it, however the watchers are scheduled around a shutdown.
-/

namespace Splitter

/-! ## Joining -/

/-- Options of `ConsumerClient::join`. -/
structure ConsumerOptions where
  keyNames : List DomainKeyName
  capacityLimit : UInt64

/-- `session::establish_frame`. -/
def establishFrame (client : locationPb.Instance) (sessionId : String) : pb.JoinMessage :=
  wrapSession (.establish (some client) sessionId)

/-- `build_register`. The message holds the two fields of its `options`, which are always there. -/
def buildRegister [UuidCrate] (consumer : Instance) (service : QualifiedServiceName)
    (opts : ConsumerOptions) : pb.JoinMessage :=
  Loop.wrapClient (.register
    { consumer := some consumer.toPb
      service := some service.toPb
      domains := []
      active := []
      names := opts.keyNames.map DomainKeyName.toPb
      capacityLimit := opts.capacityLimit })

/-- What `join` queues before it opens the stream; the session id is a fresh one. -/
def joinFrames [UuidCrate] (consumer : Instance) (service : QualifiedServiceName)
    (opts : ConsumerOptions) (sessionId : String) : List pb.JoinMessage :=
  [establishFrame consumer.toLocationPb sessionId, buildRegister consumer service opts]

/-! ## The protocol -/

/-- How far the client's side of a stream has come. -/
inductive Stage
  | opening
  | established
  | registered
  | leaving
  | closed
  deriving DecidableEq

namespace Stage

/-- What a client may send. -/
inductive Kind
  | establish
  | register
  | heartbeat
  /-- An `Update` to a state the consumer reports, or the request to revoke one grant. -/
  | report
  | deregister
  | closed
  deriving DecidableEq

/-- The kind of a frame, if it is one a client may send. -/
def kind? (frame : pb.JoinMessage) : Option Kind :=
  match frame.msg with
  | some (.session { request := some (.establish (some _) _) }) => some .establish
  | some (.session { request := some (.heartbeat (some _)) }) => some .heartbeat
  | some (.session { request := some (.closed _) }) => some .closed
  | some (.consumer { msg := some (.client { msg := some msg }) }) =>
    match msg with
    | .register _ => some .register
    | .deregister => some .deregister
    | .revoke [_] => some .report
    | .update (some g) =>
      if g.state = pb.GrantState.allocatedLoaded.toI32 ∨
          g.state = pb.GrantState.revokedUnloaded.toI32 then some .report
      else none
    | _ => none
  | _ => none

/-- The stage after a frame. -/
def next : Stage → Kind → Option Stage
  | .opening, .establish => some .established
  | .established, .register => some .registered
  | .registered, .heartbeat => some .registered
  | .registered, .deregister => some .leaving
  | .registered, .closed | .leaving, .closed => some .closed
  | .registered, .report => some .registered
  | .leaving, .report => some .leaving
  | .closed, .report => some .closed
  | _, _ => none

/-- The client's side of the protocol. -/
def machine : Machine Stage pb.JoinMessage where
  init stage := stage = .opening
  step stage frame := (kind? frame).bind stage.next

/-- The consumer is registered. -/
def Joined : Stage → Prop
  | .opening | .established => False
  | _ => True

theorem Joined.report {stage : Stage} (h : stage.Joined) : stage.next .report = some stage := by
  cases stage with
  | opening | established => exact h.elim
  | registered | leaving | closed => rfl

theorem Joined.of_registered {stage : Stage} (h : stage = .registered) : stage.Joined := by
  cases h
  trivial

/-- The stage a driver leaves the stream in, by the point where it stands. -/
def At (stage : Stage) : Loop.Pc → Prop
  | .start | .select _ | .heartbeat _ | .handling _ | .deregister => stage = .registered
  | .sendClosed => stage = .registered ∨ stage = .leaving
  | .broken _ | .cleanup _ | .returned _ | .panicked => stage.Joined

theorem At.joined {stage : Stage} {pc : Loop.Pc} (h : stage.At pc) : stage.Joined := by
  cases pc with
  | start | select | heartbeat | handling | deregister => exact .of_registered h
  | sendClosed =>
    rcases (show stage = .registered ∨ stage = .leaving from h) with rfl | rfl
    · trivial
    · trivial
  | broken | cleanup | returned | panicked => exact h

end Stage

namespace Effect

/-- The frame an effect puts in the outbound channel. -/
def frame? : Effect → Option pb.JoinMessage
  | .enqueue frame => some frame
  | _ => none

end Effect

/-! ## The driver -/

namespace Loop

variable [UuidCrate]

/-- **A step of the driver keeps to the protocol.** -/
theorem protocol_step {s t : Loop} {e : Event} {stage : Stage} (hat : stage.At s.pc)
    (hframeless : s.driver.Frameless)
    (hheartbeat : ∀ frame, s.pc = .heartbeat frame → ∃ now, frame = heartbeatFrame now)
    (hst : s.step e = some t) :
    ∃ stage', Stage.machine.run stage ((s.carried e).filterMap Effect.frame?) = some stage' ∧
      stage'.At t.pc := by
  cases step_cases hst with
  | start hpc =>
    rw [hpc] at hat
    exact ⟨stage, rfl, hat⟩
  | shutdown => exact ⟨stage, rfl, hat⟩
  | takeShutdown hpc | takeTick _ hpc =>
    rw [hpc] at hat
    exact ⟨stage, rfl, hat⟩
  | takeInbound item env hpc =>
    rw [hpc] at hat
    rcases item with _ | ⟨status | join⟩
    · exact ⟨stage, rfl, Stage.Joined.of_registered hat⟩
    · exact ⟨stage, rfl, Stage.Joined.of_registered hat⟩
    · exact ⟨stage, rfl, hat⟩
  | @exec eff rest hpending =>
    refine ⟨stage, ?_, hat⟩
    have hnone : eff.frame? = none := by
      cases eff with
      | enqueue frame => exact absurd (hpending ▸ List.mem_cons_self ..) (hframeless frame)
      | _ => rfl
    simp [carried, hpending, hnone]
  | @handled result now hpc =>
    rw [hpc] at hat
    rcases result with (_ | _) | (_ | _)
    · exact ⟨stage, rfl, Stage.Joined.of_registered hat⟩
    · exact ⟨stage, rfl, Stage.Joined.of_registered hat⟩
    · exact ⟨stage, rfl, hat⟩
    · exact ⟨stage, rfl, hat⟩
  | heartbeatSent hpc =>
    obtain ⟨now, rfl⟩ := hheartbeat _ hpc
    rw [hpc] at hat
    cases (show stage = .registered from hat)
    exact ⟨.registered, by simp only [carried, hpc]; rfl, rfl⟩
  | heartbeatFailed hpc =>
    rw [hpc] at hat
    exact ⟨stage, rfl, Stage.Joined.of_registered hat⟩
  | deregisterSent ok hpc =>
    rw [hpc] at hat
    cases (show stage = .registered from hat)
    cases ok with
    | false => exact ⟨.registered, rfl, .inl rfl⟩
    | true => exact ⟨.leaving, by simp only [carried, hpc]; rfl, .inr rfl⟩
  | closedSent ok hpc =>
    have hjoined := hat.joined
    rw [hpc] at hat
    cases ok with
    | false => exact ⟨stage, rfl, hjoined⟩
    | true =>
      rcases (show stage = .registered ∨ stage = .leaving from hat) with rfl | rfl
      · exact ⟨.closed, by simp only [carried, hpc]; rfl, trivial⟩
      · exact ⟨.closed, by simp only [carried, hpc]; rfl, trivial⟩
  | collect _ hpc | finish hpc =>
    rw [hpc] at hat
    exact ⟨stage, rfl, hat⟩

end Loop

/-! ## The node -/

namespace Node

/-- The frames of the stream so far: what `join` queued, then what the tasks sent. -/
def stream [UuidCrate] (consumer : Instance) (service : QualifiedServiceName)
    (opts : ConsumerOptions) (sessionId : String) (s : Node) : List pb.JoinMessage :=
  joinFrames consumer service opts sessionId ++ s.outbound.map (·.2)

/-- The frames so far keep to the protocol, and the driver knows how far they are. -/
def KeepsOrder (before : List pb.JoinMessage) (s : Node) : Prop :=
  ∃ stage, Stage.machine.run .opening (before ++ s.outbound.map (·.2)) = some stage ∧
    stage.At s.loop.pc

/-- What the driver's effects put in the channel. -/
theorem sent_carryOut (s : Node) (effects : List Effect) :
    (effects.foldl carryOut s).loop = s.loop ∧
      (effects.foldl carryOut s).outbound.map (·.2) =
        s.outbound.map (·.2) ++ effects.filterMap Effect.frame? := by
  induction effects generalizing s with
  | nil => exact ⟨rfl, (List.append_nil _).symm⟩
  | cons e effects ih =>
    obtain ⟨hloop, hsent⟩ := ih (s.carryOut e)
    rw [List.foldl_cons, hloop, hsent]
    cases e with
    | enqueue frame => exact ⟨rfl, by simp [carryOut, Effect.frame?]⟩
    | _ => exact ⟨rfl, rfl⟩

/-- What a watcher sends is a report. -/
theorem kind?_watcher (grant : pb.Grant) (kind : Watcher.Kind) :
    Stage.kind? (kind.frame grant) = some .report := by
  cases kind with
  | load | unload | requestRevoke => rfl

section
variable [UuidCrate]

/-- What `join` queues opens the stream. -/
theorem KeepsOrder.initial (consumer : Instance) (service : QualifiedServiceName)
    (opts : ConsumerOptions) (sessionId : String) :
    initial.KeepsOrder (joinFrames consumer service opts sessionId) := ⟨.registered, rfl, rfl⟩

/-- **The step lemma.** -/
theorem KeepsOrder.step {s t : Node} {e : Event} {before : List pb.JoinMessage}
    (h : s.KeepsOrder before) (hsound : s.Sound) (hst : s.step e = some t) : t.KeepsOrder before := by
  obtain ⟨stage, hrun, hat⟩ := h
  cases step_cases hst with
  | @driver e loop hloop =>
    have hframeless : s.loop.driver.Frameless := fun frame hmem =>
      hsound.grounded.justified (.enqueue frame) hmem
    obtain ⟨stage', hrun', hat'⟩ := Loop.protocol_step hat hframeless hsound.heartbeat hloop
    obtain ⟨hloop', hsent⟩ := sent_carryOut { s with loop } (s.loop.carried e)
    refine ⟨stage', ?_, by rw [hloop']; exact hat'⟩
    rw [hsent, ← List.append_assoc, Machine.run_append, hrun]
    exact hrun'
  | @watcher r kind act o hs hs' frame _ _ hwatcher =>
    refine ⟨stage, ?_, hat⟩
    have hframe : ∀ f ∈ frame, Stage.machine.step stage f = some stage := by
      intro f hf
      have hf : frame = some f := hf
      obtain ⟨-, -, -, hnone⟩ | ⟨-, hnone⟩ | ⟨-, -, hsome, -⟩ := Helpers.step_cases hwatcher
      · cases hf.symm.trans hnone
      · cases hf.symm.trans hnone
      · cases hf.symm.trans hsome
        show (Stage.kind? (kind.frame hs.grant)).bind stage.next = some stage
        rw [kind?_watcher]
        exact hat.joined.report
    rw [List.map_append, ← List.append_assoc, Machine.run_append, hrun, Option.bind_some]
    cases frame with
    | none => rfl
    | some f => exact (Machine.run_cons_eq_some _).2 ⟨stage, hframe f rfl, rfl⟩
  | _ => exact ⟨stage, hrun, hat⟩

/-- **The outbound stream.** In every run of a node, whatever the server sends and however its tasks
are scheduled, the frames of its stream keep to the client's side of the protocol: one `Establish`,
one `Register`, then heartbeats and reports; no heartbeat after a `Deregister`, at most one of
those, and after the session's `Closed` nothing but reports. While the driver is in its loop the
stream is at a point where it may send any of them. -/
theorem protocol_followed {consumer : Instance} {service : QualifiedServiceName}
    {opts : ConsumerOptions} {sessionId : String} {es : List Event} {s : Node}
    (hrun : machine.run initial es = some s) :
    ∃ stage, Stage.machine.run .opening (s.stream consumer service opts sessionId) = some stage ∧
      stage.At s.loop.pc :=
  (Machine.run_invariant (I := fun s : Node =>
      s.Sound ∧ s.KeepsOrder (joinFrames consumer service opts sessionId))
    (fun _ _ _ h hst => ⟨h.1.step hst, h.2.step h.1 hst⟩)
    ⟨.initial, .initial consumer service opts sessionId⟩ hrun).2

end

/-- A shard is served and given up, and then the consumer leaves. -/
def leaveRun : List Event :=
  lifeRun ++ [.driver .shutdown, .driver .takeShutdown, .driver (.sent true), .driver (.sent true)]

/-- The stream of a consumer that serves a shard and leaves. -/
theorem protocol_followed_leave :
    let := UuidCrate.pair
    ∃ s, machine.run initial leaveRun = some s ∧ s.outbound.length = 4 ∧
      ∀ consumer service opts sessionId, ∃ stage,
        Stage.machine.run .opening (s.stream consumer service opts sessionId) = some stage ∧
          stage.At s.loop.pc := by
  let := UuidCrate.pair
  have hend : (machine.run initial leaveRun).map (·.outbound.length) = some 4 := by decide +kernel
  obtain ⟨s, hrun, hlength⟩ := Option.map_eq_some_iff.1 hend
  exact ⟨s, hrun, hlength, fun _ _ _ _ => protocol_followed hrun⟩

end Node

end Splitter
