import Splitter.Driver.Exit
import Splitter.Processor.Task

/-!
# A consumer node

The tasks of one consumer process around one connection: the driver, the helper tasks it spawns for
each assignment, the chain tasks the router spawns, here for a chain of one processor, and the
user's Ranges. A step is one atomic action of one of them, so a run is an interleaving of all.

An assignment is known by the address of its ownership. Its helpers, its chain task and its Range
are filed under that address, and a `GrantMap` entry names the Range by it.
-/

namespace Splitter

/-! ## Helper tasks -/

/-- `spawn_signal_watcher`: parked in its `select!`, in `on_signal`, or done. -/
inductive Watcher
  | parked
  | sending
  | done
  deriving DecidableEq

namespace Watcher

/-- The three watchers of an assignment. -/
inductive Kind
  | load
  | unload
  | requestRevoke
  deriving DecidableEq

/-- The signal a watcher races against `expired`. -/
def Kind.signal (o : Ownership) : Kind → Latch
  | .load => o.loader.load
  | .unload => o.unloader.unload
  | .requestRevoke => o.requestRevokeSignal

/-- `send_update`. -/
def updateFrame (grant : pb.Grant) (state : pb.GrantState) : pb.JoinMessage :=
  Loop.wrapClient (.update (some { grant with state := state.toI32 }))

/-- `send_revoke`. -/
def revokeFrame (grant : pb.Grant) : pb.JoinMessage := Loop.wrapClient (.revoke [grant])

/-- The frame `on_signal` sends, from the watcher's copy of the grant. -/
def Kind.frame (grant : pb.Grant) : Kind → pb.JoinMessage
  | .load => updateFrame grant .allocatedLoaded
  | .unload => updateFrame grant .revokedUnloaded
  | .requestRevoke => revokeFrame grant

/-- A step of a watcher. -/
inductive Act
  /-- The branch of the signal. -/
  | wake
  /-- The branch of `expired`. -/
  | quit
  /-- The send completes, or fails because the receiver is gone. -/
  | sent (ok : Bool)
  /-- The task is aborted where it awaits. -/
  | cancel

end Watcher

/-- The helper tasks of an assignment. The expiration timer has no state of its own: until it is
aborted it may expire the ownership at any time, since the deadline it compares the clock with may
be an older one. -/
structure Helpers where
  grant : pb.Grant
  watcher : Watcher.Kind → Watcher
  aborted : Bool

namespace Helpers

/-- `on_assign` has spawned the helpers. -/
def spawn (grant : pb.Grant) : Helpers := { grant, watcher := fun _ => .parked, aborted := false }

def set (h : Helpers) (kind : Watcher.Kind) (w : Watcher) : Helpers :=
  { h with watcher := Function.update h.watcher kind w }

@[simp] theorem set_watcher (h : Helpers) (kind k : Watcher.Kind) (w : Watcher) :
    (h.set kind w).watcher k = if k = kind then w else h.watcher k :=
  Function.update_apply ..

@[simp] theorem set_grant (h : Helpers) (kind : Watcher.Kind) (w : Watcher) :
    (h.set kind w).grant = h.grant := rfl

/-- A step of a watcher, and the frame it puts in the outbound channel. An abort takes hold only
where the task awaits, so it may still go on after it. -/
def step (h : Helpers) (o : Ownership) (kind : Watcher.Kind) :
    Watcher.Act → Option (Helpers × Option pb.JoinMessage)
  | .wake =>
    match h.watcher kind with
    | .parked => (kind.signal o).closed (h.set kind .sending, none)
    | _ => none
  | .quit =>
    match h.watcher kind with
    | .parked => o.expired.closed (h.set kind .done, none)
    | _ => none
  | .sent ok =>
    match h.watcher kind with
    | .sending => some (h.set kind .done, if ok then some (kind.frame h.grant) else none)
    | _ => none
  | .cancel => if h.aborted then some (h.set kind .done, none) else none

/-- What a step of a watcher can be: it wakes to its closed signal, it is done without a frame, or
it is done with the frame it was sending, which a send that completes has put in the channel. -/
theorem step_cases {h h' : Helpers} {o : Ownership} {kind : Watcher.Kind} {act : Watcher.Act}
    {frame : Option pb.JoinMessage} (hst : h.step o kind act = some (h', frame)) :
    (h.watcher kind = .parked ∧ (kind.signal o).isClosed = true ∧ h' = h.set kind .sending ∧
        frame = none) ∨
      (h' = h.set kind .done ∧ frame = none) ∨
        h.watcher kind = .sending ∧ h' = h.set kind .done ∧
          frame = some (kind.frame h.grant) ∧ act = .sent true := by
  cases act with
  | wake =>
    simp only [step] at hst
    split at hst
    · next hparked =>
      obtain ⟨hclosed, heq⟩ := Latch.closed_eq_some.1 hst
      cases heq
      exact .inl ⟨hparked, hclosed, rfl, rfl⟩
    · cases hst
  | quit =>
    simp only [step] at hst
    split at hst
    · obtain ⟨-, heq⟩ := Latch.closed_eq_some.1 hst
      cases heq
      exact .inr (.inl ⟨rfl, rfl⟩)
    · cases hst
  | sent ok =>
    simp only [step] at hst
    split at hst
    · next hsending =>
      cases hst
      cases ok with
      | false => exact .inr (.inl ⟨rfl, rfl⟩)
      | true => exact .inr (.inr ⟨hsending, rfl, rfl, rfl⟩)
    · cases hst
  | cancel =>
    simp only [step] at hst
    split at hst
    · cases hst
      exact .inr (.inl ⟨rfl, rfl⟩)
    · cases hst

end Helpers

/-! ## Chain tasks -/

/-- Where `run_chain` stands for an assignment, with the Range once it is built. -/
inductive Chain
  /-- In `try_handle`, before the Range is built. -/
  | tryHandle
  /-- In `run_grant`. -/
  | running (pc : GrantTask.Pc) (range : RangeState)
  /-- No filter took the grant. -/
  | relinquished
  deriving DecidableEq

/-- A `run_chain` task. -/
structure ChainTask where
  id : GrantId
  shard : Shard
  chain : Chain
  deriving DecidableEq

/-! ## The node -/

/-- Everything the tasks of a node share. -/
structure Node where
  loop : Loop
  memory : Memory
  helpers : OwnershipRef → Option Helpers
  chains : OwnershipRef → Option ChainTask
  grants : GrantMap OwnershipRef
  /-- Every frame put in the outbound channel, with the assignment whose watcher sent it. -/
  outbound : List (Option OwnershipRef × pb.JoinMessage)

namespace Node

inductive Event
  | driver (e : Loop.Event)
  /-- The router hands an assignment to `run_chain`, which finds it not expired. -/
  | dispatch (id : GrantId) (shard : Shard) (r : OwnershipRef)
  /-- The factory builds a Range, or declines. -/
  | build (r : OwnershipRef) (accepted : Bool)
  /-- A step of `run_grant`. -/
  | run (r : OwnershipRef) (b : Ownership.Branch) (now : SystemTime)
  | range (r : OwnershipRef) (e : RangeEvent)
  /-- The user asks for a revoke. -/
  | requestRevoke (r : OwnershipRef)
  | timer (r : OwnershipRef)
  | watcher (r : OwnershipRef) (kind : Watcher.Kind) (act : Watcher.Act)

/-- A node whose driver has just been spawned. -/
def initial : Node :=
  { loop := .initial, memory := Memory.empty, helpers := fun _ => none, chains := fun _ => none
    grants := ∅, outbound := [] }

/-- Carry out an effect of the driver. -/
def carryOut (s : Node) (e : Effect) : Node :=
  match e with
  | .spawnHelpers r g => { s with helpers := Function.update s.helpers r (some (.spawn g)) }
  | .abortHelpers r =>
    { s with
      helpers := Function.update s.helpers r
        ((s.helpers r).map fun h => { h with aborted := true }) }
  | .enqueue frame => { s with outbound := s.outbound ++ [(none, frame)] }
  | e => { s with memory := e.exec s.memory }

def setChain (s : Node) (r : OwnershipRef) (task : ChainTask) : Node :=
  { s with chains := Function.update s.chains r (some task) }

/-- The `run_grant` task of an assignment, with the memory it shares. -/
def grantTask (s : Node) (r : OwnershipRef) : Option GrantTask :=
  match s.memory r, s.chains r with
  | some ownership, some { chain := .running pc range, .. } => some { pc, ownership, range }
  | _, _ => none

def step [UuidCrate] (s : Node) : Event → Option Node
  | .driver e =>
    (s.loop.step e).map fun loop => (s.loop.carried e).foldl carryOut { s with loop }
  | .dispatch id shard r =>
    match s.memory r, s.chains r with
    | some o, none =>
      if GrantEvent.assigned id shard r ∈ Effect.events s.loop.done ∧ o.expired.isClosed = false then
        some (s.setChain r { id, shard, chain := .tryHandle })
      else none
    | _, _ => none
  | .build r accepted =>
    match s.chains r with
    | some { id, shard, chain := .tryHandle } =>
      if accepted then some (s.setChain r { id, shard, chain := .running .waitUnload .new })
      else
        some ({ s with memory := s.memory.modify r Ownership.requestRevoke }.setChain r
          { id, shard, chain := .relinquished })
    | _ => none
  | .run r b now =>
    match s.memory r, s.chains r with
    | some ownership, some { id, shard, chain := .running pc range } =>
      (({ pc, ownership, range } : GrantTask).run b now).map fun task =>
        { s with
          memory := Function.update s.memory r (some task.ownership)
          grants := ((pc.mapOp id shard r).getD fun m => m) s.grants }.setChain r
            { id, shard, chain := .running task.pc task.range }
    | _, _ => none
  | .range r e =>
    match s.chains r with
    | some { id, shard, chain := .running pc range } =>
      (range.step e).map fun range => s.setChain r { id, shard, chain := .running pc range }
    | _ => none
  | .requestRevoke r =>
    match s.memory r with
    | some _ => some { s with memory := s.memory.modify r Ownership.requestRevoke }
    | none => none
  | .timer r =>
    match s.helpers r with
    | some _ => some { s with memory := s.memory.modify r Ownership.expire }
    | none => none
  | .watcher r kind act =>
    match s.memory r, s.helpers r with
    | some o, some h =>
      (h.step o kind act).map fun (h, frame) =>
        { s with
          helpers := Function.update s.helpers r (some h)
          outbound := s.outbound ++ frame.toList.map fun frame => (some r, frame) }
    | _, _ => none

def machine [UuidCrate] : Machine Node Event where
  init s := s = initial
  step := step

/-! ## The steps as a relation -/

/-- One step, by what makes it possible. -/
inductive Step [UuidCrate] : Node → Event → Node → Prop
  | driver {s : Node} {e : Loop.Event} {loop : Loop} (hst : s.loop.step e = some loop) :
      Step s (.driver e) ((s.loop.carried e).foldl carryOut { s with loop })
  | dispatch {s : Node} {id : GrantId} {shard : Shard} {r : OwnershipRef} {o : Ownership}
      (hmem : s.memory r = some o) (hfree : s.chains r = none)
      (hsent : GrantEvent.assigned id shard r ∈ Effect.events s.loop.done)
      (hopen : o.expired.isClosed = false) :
      Step s (.dispatch id shard r) (s.setChain r { id, shard, chain := .tryHandle })
  | accept {s : Node} {id : GrantId} {shard : Shard} {r : OwnershipRef}
      (htask : s.chains r = some { id, shard, chain := .tryHandle }) :
      Step s (.build r true) (s.setChain r { id, shard, chain := .running .waitUnload .new })
  | decline {s : Node} {id : GrantId} {shard : Shard} {r : OwnershipRef}
      (htask : s.chains r = some { id, shard, chain := .tryHandle }) :
      Step s (.build r false)
        ({ s with memory := s.memory.modify r Ownership.requestRevoke }.setChain r
          { id, shard, chain := .relinquished })
  | run {s : Node} {id : GrantId} {shard : Shard} {r : OwnershipRef} {b : Ownership.Branch}
      {now : SystemTime} {next : GrantTask} (task : GrantTask) (hmem : s.memory r = some task.ownership)
      (htask : s.chains r = some { id, shard, chain := .running task.pc task.range })
      (hrun : task.run b now = some next) :
      Step s (.run r b now)
        ({ s with
            memory := Function.update s.memory r (some next.ownership)
            grants := ((task.pc.mapOp id shard r).getD fun m => m) s.grants }.setChain r
          { id, shard, chain := .running next.pc next.range })
  | range {s : Node} {id : GrantId} {shard : Shard} {r : OwnershipRef} {pc : GrantTask.Pc}
      {range range' : RangeState} {e : RangeEvent}
      (htask : s.chains r = some { id, shard, chain := .running pc range })
      (hrange : range.step e = some range') :
      Step s (.range r e) (s.setChain r { id, shard, chain := .running pc range' })
  | requestRevoke {s : Node} {r : OwnershipRef} :
      Step s (.requestRevoke r) { s with memory := s.memory.modify r Ownership.requestRevoke }
  | timer {s : Node} {r : OwnershipRef} :
      Step s (.timer r) { s with memory := s.memory.modify r Ownership.expire }
  | watcher {s : Node} {r : OwnershipRef} {kind : Watcher.Kind} {act : Watcher.Act}
      {o : Ownership} {h h' : Helpers} {frame : Option pb.JoinMessage}
      (hmem : s.memory r = some o) (hhelpers : s.helpers r = some h)
      (hst : h.step o kind act = some (h', frame)) :
      Step s (.watcher r kind act)
        { s with
          helpers := Function.update s.helpers r (some h')
          outbound := s.outbound ++ frame.toList.map fun frame => (some r, frame) }

/-- **Every step is one of these.** -/
theorem step_cases [UuidCrate] {s t : Node} {e : Event} (h : s.step e = some t) : Step s e t := by
  cases e with
  | driver e =>
    obtain ⟨loop, hst, rfl⟩ := Option.map_eq_some_iff.1 h
    exact .driver hst
  | dispatch id shard r =>
    simp only [step] at h
    split at h
    · next o hmem hfree =>
      split at h
      · next hc => cases h; exact .dispatch hmem hfree hc.1 hc.2
      · cases h
    · cases h
  | build r accepted =>
    simp only [step] at h
    split at h
    · next id shard htask =>
      cases accepted with
      | true => cases h; exact .accept htask
      | false => cases h; exact .decline htask
    · cases h
  | run r b now =>
    simp only [step] at h
    split at h
    · next o id shard pc range hmem htask =>
      obtain ⟨next, hrun, rfl⟩ := Option.map_eq_some_iff.1 h
      exact .run { pc, ownership := o, range } hmem htask hrun
    · cases h
  | range r e =>
    simp only [step] at h
    split at h
    · next id shard pc range htask =>
      obtain ⟨range', hrange, rfl⟩ := Option.map_eq_some_iff.1 h
      exact .range htask hrange
    · cases h
  | requestRevoke r =>
    simp only [step] at h
    split at h
    · cases h; exact .requestRevoke
    · cases h
  | timer r =>
    simp only [step] at h
    split at h
    · cases h; exact .timer
    · cases h
  | watcher r kind act =>
    simp only [step] at h
    split at h
    · next o hs hmem hhelpers =>
      obtain ⟨⟨h', frame⟩, hst, rfl⟩ := Option.map_eq_some_iff.1 h
      exact .watcher hmem hhelpers hst
    · cases h

/-- The effects of a step change the memory, the helpers and the outbound channel only. -/
theorem foldl_carryOut (s : Node) (effects : List Effect) :
    ∃ helpers, effects.foldl carryOut s =
      { s with
        memory := effects.foldl Effect.exec s.memory
        helpers
        outbound := s.outbound ++ effects.filterMap fun
          | .enqueue frame => some (none, frame)
          | _ => none } := by
  induction effects generalizing s with
  | nil => exact ⟨s.helpers, by simp⟩
  | cons e effects ih =>
    obtain ⟨helpers, heq⟩ := ih (s.carryOut e)
    refine ⟨helpers, ?_⟩
    rw [List.foldl_cons, List.foldl_cons, heq]
    cases e <;> simp [carryOut, Effect.exec]

/-- Frames change the outbound channel only. -/
theorem foldl_carryOut_frames (s : Node) {effects : List Effect}
    (h : ∀ e ∈ effects, ∃ frame, e = .enqueue frame) :
    ∃ frames : List pb.JoinMessage, effects.foldl carryOut s =
      { s with outbound := s.outbound ++ frames.map fun frame => (none, frame) } := by
  induction effects generalizing s with
  | nil => exact ⟨[], by simp⟩
  | cons e effects ih =>
    obtain ⟨frame, rfl⟩ := h e (List.mem_cons_self ..)
    obtain ⟨frames, heq⟩ := ih (s.carryOut (.enqueue frame)) fun e he =>
      h e (List.mem_cons_of_mem _ he)
    exact ⟨frame :: frames, by rw [List.foldl_cons, heq]; simp [carryOut]⟩

/-! ## Runs on a list of frames -/

/-- A grant of the whole domain, on the wire. -/
def wireGrant (gid : String) (state : pb.GrantState) : pb.Grant :=
  { id := gid, shard := some (ClusterMap.wireShard 2), state := state.toI32, lease := none
    assigned := none }

/-- The shard of such a grant. -/
def wholeDomain : Shard :=
  { domain := { service := { tenant := ⟨"t"⟩, service := ⟨"s"⟩ }, name := ⟨"d"⟩ }
    kind := .global, region := ⟨""⟩, «from» := "", «to» := "" }

/-- The driver takes a message and carries out the effects it makes. -/
def deliver (msg : pb.ClientMessage.Msg) (effects : Nat) : List Event :=
  .driver (.takeInbound (some (.ok (Loop.wrapClient msg))) Loop.epochEnv) ::
    List.replicate effects (.driver .exec) ++ [.driver (.handled SystemTime.unixEpoch)]

/-- Steps of one grant's task. -/
def runTask (r : OwnershipRef) (branches : List Ownership.Branch) : List Event :=
  branches.map fun b => .run r b SystemTime.unixEpoch

end Node

end Splitter
