import Splitter.Driver.Memory
import Splitter.Lib.Machine

/-!
# The consumer driver's loop

`Driver::run` as a state machine. The driver is parked in its `select!`, in the handler of a branch,
or on its way out; a step is one thing that can happen next, in the driver task or, for the shutdown
latch, outside it. `select!` evaluates the preconditions of its branches when it is entered, so
whether the shutdown branch takes part in a wait is part of the state (`armed`), and it is free to
take any branch that is ready.

The effects of a handler are carried out one at a time (`exec`) before the driver goes on. `done` is
everything the driver has done to shared memory, in order.
-/

namespace Splitter

namespace Loop

/-- Where the driver task stands. -/
inductive Pc
  /-- Before the loop, in the first tick of the heartbeat interval. -/
  | start
  /-- Waiting in `select!`; `armed` is the precondition of the shutdown branch. -/
  | select (armed : Bool)
  /-- Sending a heartbeat. -/
  | heartbeat (frame : pb.JoinMessage)
  /-- In the shutdown branch, sending `Deregister`. -/
  | deregister
  /-- In the shutdown branch, sending the session `Closed` frame. -/
  | sendClosed
  /-- Carrying out what a frame led to; `result` is what `handle_inbound` returns. -/
  | handling (result : Result (Option SystemTime))
  /-- After the `break`. -/
  | broken (result : Except ClientError Unit)
  /-- Removing the grants on exit. -/
  | cleanup (result : Except ClientError Unit)
  | returned (result : Except ClientError Unit)
  | panicked

/-- What can happen next. -/
inductive Event
  /-- The first tick. -/
  | start
  /-- `JoinHandle::shutdown` closes the shutdown latch. -/
  | shutdown
  | takeShutdown
  | takeTick (now : SystemTime)
  /-- The stream yields a frame, a transport error, or its end. -/
  | takeInbound (item : Option (Except Status pb.JoinMessage)) (env : Env)
  /-- The next effect of the running handler is carried out. -/
  | exec
  /-- The handler of a frame returns to the loop, which may start a new heartbeat interval. -/
  | handled (now : SystemTime)
  /-- The pending send completes, or fails because the receiver is gone. -/
  | sent (ok : Bool)
  /-- The keys of the table are collected, in the enumeration order of the map. -/
  | collect (ids : List GrantId)
  /-- The last lines of `run`. -/
  | finish

end Loop

/-- The driver task and what it shares. -/
structure Loop where
  pc : Loop.Pc
  driver : Driver
  /-- The period of the heartbeat interval. -/
  heartbeat : Duration
  shutdown : Latch
  closed : Latch
  /-- Every effect carried out, in order. -/
  done : List Effect

namespace Loop

/-- `join` has spawned the driver. -/
def initial : Loop :=
  { pc := .start, driver := .initial, heartbeat := .fromSecs 60 (by decide), shutdown := .new
    closed := .new, done := [] }

/-- `wrap_client`. -/
def wrapClient (msg : pb.ClientMessage.Msg) : pb.JoinMessage :=
  { msg := some (.consumer { msg := some (.client { msg := some msg }) }) }

/-- The frames of the shutdown branch. -/
def deregisterFrame : pb.JoinMessage := wrapClient .deregister

/-- Enter `select!`: the shutdown branch takes part unless its latch is closed already. -/
def enterSelect (s : Loop) : Loop := { s with pc := .select (!s.shutdown.isClosed) }

/-- A frame that the outbound channel accepted. -/
def enqueue (s : Loop) (ok : Bool) (frame : pb.JoinMessage) : Loop :=
  if ok then { s with done := s.done ++ [.enqueue frame] } else s

/-- The branch of an inbound item. -/
def inbound [UuidCrate] (s : Loop) (env : Env) :
    Option (Except Status pb.JoinMessage) → Loop
  | some (.ok join) =>
    let (driver, result) := s.driver.handleInbound env join
    { s with driver, pc := .handling result }
  | some (.error status) => { s with pc := .broken (.error (.transport status)) }
  | none => { s with pc := .broken (.error (.sessionClosed "stream ended")) }

/-- The end of the inbound branch: an error leaves `run` through the `?`. -/
def afterInbound (s : Loop) (now : SystemTime) : Result (Option SystemTime) → Loop
  | .ok none => s.enterSelect
  | .ok (some ttl) => { s with heartbeat := heartbeatDelay ttl now }.enterSelect
  | .error (.error e) => { s with pc := .returned (.error e) }
  | .error .panic => { s with pc := .panicked }

/-- One step. -/
def step [UuidCrate] (s : Loop) : Event → Option Loop
  | .start =>
    match s.pc with
    | .start => some s.enterSelect
    | _ => none
  | .shutdown => some { s with shutdown := s.shutdown.close }
  | .takeShutdown =>
    match s.pc with
    | .select true => s.shutdown.closed { s with pc := .deregister }
    | _ => none
  | .takeTick now =>
    match s.pc with
    | .select _ => some { s with pc := .heartbeat (heartbeatFrame now) }
    | _ => none
  | .takeInbound item env =>
    match s.pc with
    | .select _ => some (s.inbound env item)
    | _ => none
  | .exec =>
    match s.driver.pending with
    | [] => none
    | e :: rest =>
      some { s with driver := { s.driver with pending := rest }, done := s.done ++ [e] }
  | .handled now =>
    match s.pc, s.driver.pending with
    | .handling result, [] => some (s.afterInbound now result)
    | _, _ => none
  | .sent ok =>
    match s.pc with
    | .heartbeat frame =>
      if ok then some (s.enqueue ok frame).enterSelect
      else some { s with pc := .broken (.error (.sessionClosed "outbound dropped")) }
    | .deregister => some { s.enqueue ok deregisterFrame with pc := .sendClosed }
    | .sendClosed =>
      some { s.enqueue ok (closedFrame "client shutdown") with pc := .broken (.ok ()) }
    | _ => none
  | .collect ids =>
    match s.pc with
    | .broken result =>
      if ids.Perm s.driver.grants.keys then
        some { s with driver := ids.foldl Driver.removeGrant s.driver, pc := .cleanup result }
      else none
    | _ => none
  | .finish =>
    match s.pc, s.driver.pending with
    | .cleanup result, [] => some { s with closed := s.closed.close, pc := .returned result }
    | _, _ => none

/-- The driver task from its spawn on. -/
def machine [UuidCrate] : Machine Loop Event where
  init s := s = initial
  step := step

/-! ## The steps as a relation -/

/-- One step, by what makes it possible. -/
inductive Step [UuidCrate] : Loop → Event → Loop → Prop
  | start {s : Loop} (hpc : s.pc = .start) : Step s .start s.enterSelect
  | shutdown {s : Loop} : Step s .shutdown { s with shutdown := s.shutdown.close }
  | takeShutdown {s : Loop} (hpc : s.pc = .select true) (hclosed : s.shutdown.isClosed = true) :
      Step s .takeShutdown { s with pc := .deregister }
  | takeTick {s : Loop} {armed : Bool} (now : SystemTime) (hpc : s.pc = .select armed) :
      Step s (.takeTick now) { s with pc := .heartbeat (heartbeatFrame now) }
  | takeInbound {s : Loop} {armed : Bool} (item : Option (Except Status pb.JoinMessage))
      (env : Env) (hpc : s.pc = .select armed) :
      Step s (.takeInbound item env) (s.inbound env item)
  | exec {s : Loop} {e : Effect} {rest : List Effect} (hpending : s.driver.pending = e :: rest) :
      Step s .exec { s with driver := { s.driver with pending := rest }, done := s.done ++ [e] }
  | handled {s : Loop} {result : Result (Option SystemTime)} (now : SystemTime)
      (hpc : s.pc = .handling result) (hpending : s.driver.pending = []) :
      Step s (.handled now) (s.afterInbound now result)
  | heartbeatSent {s : Loop} {frame : pb.JoinMessage} (hpc : s.pc = .heartbeat frame) :
      Step s (.sent true) (s.enqueue true frame).enterSelect
  | heartbeatFailed {s : Loop} {frame : pb.JoinMessage} (hpc : s.pc = .heartbeat frame) :
      Step s (.sent false)
        { s with pc := .broken (.error (.sessionClosed "outbound dropped")) }
  | deregisterSent {s : Loop} (ok : Bool) (hpc : s.pc = .deregister) :
      Step s (.sent ok) { s.enqueue ok deregisterFrame with pc := .sendClosed }
  | closedSent {s : Loop} (ok : Bool) (hpc : s.pc = .sendClosed) :
      Step s (.sent ok)
        { s.enqueue ok (closedFrame "client shutdown") with pc := .broken (.ok ()) }
  | collect {s : Loop} {result : Except ClientError Unit} (ids : List GrantId)
      (hpc : s.pc = .broken result) (hids : ids.Perm s.driver.grants.keys) :
      Step s (.collect ids)
        { s with driver := ids.foldl Driver.removeGrant s.driver, pc := .cleanup result }
  | finish {s : Loop} {result : Except ClientError Unit} (hpc : s.pc = .cleanup result)
      (hpending : s.driver.pending = []) :
      Step s .finish { s with closed := s.closed.close, pc := .returned result }

/-- **Every step is one of these.** -/
theorem step_cases [UuidCrate] {s t : Loop} {e : Event} (h : s.step e = some t) : Step s e t := by
  cases e with
  | start =>
    simp only [step] at h
    split at h
    · next hpc => cases h; exact .start hpc
    · cases h
  | shutdown => cases h; exact .shutdown
  | takeShutdown =>
    simp only [step] at h
    split at h
    · next hpc =>
      obtain ⟨hclosed, rfl⟩ := Latch.closed_eq_some.1 h
      exact .takeShutdown hpc hclosed
    · cases h
  | takeTick now =>
    simp only [step] at h
    split at h
    · next hpc => cases h; exact .takeTick now hpc
    · cases h
  | takeInbound item env =>
    simp only [step] at h
    split at h
    · next hpc => cases h; exact .takeInbound item env hpc
    · cases h
  | exec =>
    simp only [step] at h
    split at h
    · cases h
    · next hpending => cases h; exact .exec hpending
  | handled now =>
    simp only [step] at h
    split at h
    · next hpc hpending => cases h; exact .handled now hpc hpending
    · cases h
  | sent ok =>
    simp only [step] at h
    split at h
    · next hpc =>
      cases ok with
      | true => cases h; exact .heartbeatSent hpc
      | false => cases h; exact .heartbeatFailed hpc
    · next hpc => cases h; exact .deregisterSent ok hpc
    · next hpc => cases h; exact .closedSent ok hpc
    · cases h
  | collect ids =>
    simp only [step] at h
    split at h
    · next hpc =>
      split at h
      · next hids => cases h; exact .collect ids hpc hids
      · cases h
    · cases h
  | finish =>
    simp only [step] at h
    split at h
    · next hpc hpending => cases h; exact .finish hpc hpending
    · cases h

/-- What a step does to shared memory: the next effect of a handler, or a frame sent. -/
def carried (s : Loop) : Event → List Effect
  | .exec => s.driver.pending.take 1
  | .sent true =>
    match s.pc with
    | .heartbeat frame => [.enqueue frame]
    | .deregister => [.enqueue deregisterFrame]
    | .sendClosed => [.enqueue (closedFrame "client shutdown")]
    | _ => []
  | _ => []

/-- The log grows by what a step carries out. -/
theorem done_step [UuidCrate] {s t : Loop} {e : Event} (hst : s.step e = some t) :
    t.done = s.done ++ s.carried e := by
  cases step_cases hst with
  | exec hpending => simp [carried, hpending]
  | @handled result now => rcases result with (_ | _) | (_ | _) <;> exact (List.append_nil _).symm
  | takeInbound item => rcases item with _ | ⟨_ | _⟩ <;> exact (List.append_nil _).symm
  | heartbeatSent hpc => simp [carried, hpc, enqueue, enterSelect]
  | deregisterSent ok hpc => cases ok <;> simp [carried, hpc, enqueue]
  | closedSent ok hpc => cases ok <;> simp [carried, hpc, enqueue]
  | _ => exact (List.append_nil _).symm

/-- A step carries out a pending effect, or changes the driver by edits and sends at most a frame. -/
theorem driver_step [UuidCrate] {s t : Loop} {e : Event} (hst : s.step e = some t) :
    (∃ eff rest, s.driver.pending = eff :: rest ∧ s.carried e = [eff] ∧
        t.driver = { s.driver with pending := rest }) ∨
      Driver.Edits s.driver t.driver ∧ ∀ eff ∈ s.carried e, ∃ frame, eff = .enqueue frame := by
  cases step_cases hst with
  | @exec eff rest hpending => exact .inl ⟨eff, rest, hpending, by simp [carried, hpending], rfl⟩
  | takeInbound item env =>
    refine .inr ⟨?_, by simp [carried]⟩
    rcases item with _ | ⟨_ | join⟩
    · exact .refl
    · exact .refl
    · exact s.driver.handleInbound_edits env join
  | collect ids => exact .inr ⟨s.driver.removeGrants_edits ids, by simp [carried]⟩
  | @handled result now => rcases result with (_ | _) | (_ | _) <;> exact .inr ⟨.refl, by simp [carried]⟩
  | heartbeatSent hpc => exact .inr ⟨.refl, by simp [carried, hpc]⟩
  | deregisterSent ok hpc | closedSent ok hpc =>
    cases ok <;> exact .inr ⟨.refl, by simp [carried, hpc]⟩
  | _ => exact .inr ⟨.refl, by simp [carried]⟩

/-- Nothing keeps the driver from carrying out what is pending. -/
theorem run_exec [UuidCrate] (s : Loop) :
    machine.run s (List.replicate s.driver.pending.length .exec) =
      some { s with driver := { s.driver with pending := [] }
                    done := s.done ++ s.driver.pending } := by
  generalize hp : s.driver.pending = effects
  induction effects generalizing s with
  | nil =>
    rw [List.append_nil, List.length_nil, ← hp]
    rfl
  | cons e rest ih =>
    have hstep : machine.step s .exec =
        some { s with driver := { s.driver with pending := rest }, done := s.done ++ [e] } := by
      show s.step .exec = _
      simp only [step, hp]
    rw [List.length_cons, List.replicate_succ, Machine.run_cons, hstep, Option.bind_some,
      ih _ rfl, List.append_assoc]
    rfl

end Loop

end Splitter
