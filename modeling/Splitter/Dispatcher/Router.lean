import Splitter.Driver.Exit
import Splitter.Lib.Broadcast

/-!
# The grants router

`dispatcher.rs`: `build` spawns the driver through `join`, later subscribes a receiver to the grants
channel, at its tail, and starts a router that hands every assignment it receives to `run_chain`. A
lagged receive is a warning.

Two properties of the assignments the driver sends: none is lost after the subscription
(`noneLost_iff`) and none is lost from the start (`noneLostFromStart_iff`). Both fail on the code,
and the theorems say exactly in which runs they hold.
-/

namespace Splitter

/-- What the router hands to `run_chain`. -/
structure Assigned where
  id : GrantId
  shard : Shard
  ownership : OwnershipRef
  deriving DecidableEq

/-- The assignment an event announces. -/
def GrantEvent.assigned? : GrantEvent → Option Assigned
  | .assigned id shard ownership => some { id, shard, ownership }
  | .removed _ => none

/-- The driver task is gone, and with it the sender of the grants channel. -/
def Loop.gone (s : Loop) : Bool :=
  match s.pc with
  | .returned _ | .panicked => true
  | _ => false

/-- The grant event a step of the driver sends. -/
def Loop.sends (s : Loop) : Loop.Event → Option GrantEvent
  | .exec => s.driver.pending.head?.bind Effect.event?
  | _ => none

/-- The driver sends events one at a time, and only when it carries out an effect. -/
theorem Loop.events_step [UuidCrate] {s t : Loop} {e : Loop.Event} (hst : s.step e = some t) :
    Effect.events t.done = Effect.events s.done ++ (s.sends e).toList := by
  rw [done_step hst, Effect.events_append]
  congr 1
  cases step_cases hst with
  | @exec e rest hpending =>
    rw [sends, carried, hpending]
    cases e <;> rfl
  | heartbeatSent hpc => rw [carried, hpc]; rfl
  | deregisterSent ok hpc => cases ok <;> simp [carried, hpc, sends, Effect.events, Effect.event?]
  | closedSent ok hpc => cases ok <;> simp [carried, hpc, sends, Effect.events, Effect.event?]
  | _ => rfl

/-- The driver task and the grants router of one `build`. -/
structure Router where
  loop : Loop
  /-- The router's receiver, from `subscribe_grants` on. -/
  receiver : Option Nat
  /-- The number of events sent before the subscription. -/
  since : Nat
  handed : List Assigned
  running : Bool

namespace Router

inductive Event
  | driver (e : Loop.Event)
  /-- `join.subscribe_grants()`, whose receiver starts at the tail, and the spawn of the router. -/
  | subscribe
  /-- One iteration of the router's loop. -/
  | recv

/-- The capacity of the grants channel. -/
def capacity : Nat := 256

/-- `join` has returned: the driver is spawned and nobody is subscribed yet. -/
def initial : Router :=
  { loop := .initial, receiver := none, since := 0, handed := [], running := true }

/-- Every grant event sent. -/
def sent (s : Router) : List GrantEvent := Effect.events s.loop.done

/-- The assignments of a list of events. -/
def assignments (es : List GrantEvent) : List Assigned := es.filterMap GrantEvent.assigned?

/-- What a receive leads to: an assignment is handed on, the rest is logged. -/
def handle (s : Router) (pos : Nat) : Broadcast.Received GrantEvent → Router
  | .value e => { s with receiver := some pos, handed := s.handed ++ e.assigned?.toList }
  | .lagged _ => { s with receiver := some pos }

def step [UuidCrate] (s : Router) : Event → Option Router
  | .driver e => (s.loop.step e).map fun loop => { s with loop }
  | .subscribe =>
    match s.receiver with
    | none => some { s with receiver := some s.sent.length, since := s.sent.length }
    | some _ => none
  | .recv =>
    match s.receiver, s.running with
    | some pos, true =>
      match Broadcast.recv capacity s.sent pos with
      | some (received, pos) => some (s.handle pos received)
      | none => if s.loop.gone then some { s with running := false } else none
    | _, _ => none

def machine [UuidCrate] : Machine Router Event where
  init s := s = initial
  step := step

/-- One step, by what makes it possible. -/
inductive Step [UuidCrate] : Router → Event → Router → Prop
  | driver {s : Router} {e : Loop.Event} {loop : Loop} (hst : s.loop.step e = some loop) :
      Step s (.driver e) { s with loop }
  | subscribe {s : Router} (hnone : s.receiver = none) :
      Step s .subscribe { s with receiver := some s.sent.length, since := s.sent.length }
  | recv {s : Router} {pos pos' : Nat} {received : Broadcast.Received GrantEvent}
      (hpos : s.receiver = some pos)
      (hrecv : Broadcast.recv capacity s.sent pos = some (received, pos')) :
      Step s .recv (s.handle pos' received)
  | closed {s : Router} {pos : Nat} (hpos : s.receiver = some pos) :
      Step s .recv { s with running := false }

theorem step_cases [UuidCrate] {s t : Router} {e : Event} (h : s.step e = some t) :
    Step s e t := by
  cases e with
  | driver e =>
    obtain ⟨loop, hst, rfl⟩ := Option.map_eq_some_iff.1 h
    exact .driver hst
  | subscribe =>
    simp only [step] at h
    split at h
    · next hnone => cases h; exact .subscribe hnone
    · cases h
  | recv =>
    simp only [step] at h
    split at h
    · next pos hpos _ =>
      split at h
      · next received pos' hrecv => cases h; exact .recv hpos hrecv
      · split at h
        · cases h; exact .closed hpos
        · cases h
    · cases h

/-- A run of the driver is a run of the system. -/
theorem run_driver [UuidCrate] (s : Router) (es : List Loop.Event) :
    machine.run s (es.map .driver) =
      (Loop.machine.run s.loop es).map fun loop => { s with loop } := by
  induction es generalizing s with
  | nil => rfl
  | cons e es ih =>
    rw [List.map_cons, Machine.run_cons, Machine.run_cons]
    show ((s.loop.step e).map _).bind _ = ((s.loop.step e).bind _).map _
    cases s.loop.step e with
    | none => rfl
    | some loop => exact ih _

/-! ## What can be lost -/

/-- **No assignment is lost after the subscription**: those handed on and those the receiver will
still be given are those sent since then, each once and in order. -/
def NoneLost (s : Router) : Prop :=
  ∀ pos, s.receiver = some pos →
    s.handed ++ assignments (Broadcast.unread capacity s.sent pos) =
      assignments (s.sent.drop s.since)

/-- **No assignment is lost from the start**: the same for all that were ever sent. -/
def NoneLostFromStart (s : Router) : Prop :=
  ∀ pos, s.receiver = some pos →
    s.handed ++ assignments (Broadcast.unread capacity s.sent pos) = assignments s.sent

/-- The driver does not send to a full channel whose oldest unread event is an assignment. -/
def KeepsUnread (s : Router) : Event → Prop
  | .driver e => (s.loop.sends e).isSome → ∀ pos, s.receiver = some pos →
      ¬ Broadcast.Evicts GrantEvent.assigned? capacity s.sent pos
  | _ => True

/-- The subscription comes before the first assignment. -/
def SubscribesInTime (s : Router) : Event → Prop
  | .subscribe => assignments s.sent = []
  | _ => True

/-- The receiver and the subscription point lie in the log. -/
structure Placed (s : Router) : Prop where
  receiver : ∀ pos, s.receiver = some pos → pos ≤ s.sent.length
  since : s.since ≤ s.sent.length
  handed : s.receiver = none → s.handed = []

/-- The account of a receive. -/
theorem account_handle {s : Router} {pos pos' : Nat} {received : Broadcast.Received GrantEvent}
    (hrecv : Broadcast.recv capacity s.sent pos = some (received, pos')) :
    (s.handle pos' received).handed ++ assignments (Broadcast.unread capacity s.sent pos') =
      s.handed ++ assignments (Broadcast.unread capacity s.sent pos) := by
  cases received with
  | value e => exact Broadcast.filterMap_unread_recv hrecv
  | lagged n => exact Broadcast.filterMap_unread_recv hrecv

theorem Placed.initial : Placed initial :=
  ⟨nofun, Nat.le_refl _, fun _ => rfl⟩

section
variable [UuidCrate]

/-- What a step of the driver does to the log. -/
theorem sent_driver {s : Router} {e : Loop.Event} {loop : Loop}
    (hst : s.loop.step e = some loop) :
    Router.sent { s with loop } = s.sent ++ (s.loop.sends e).toList :=
  Loop.events_step hst

theorem Placed.step {s t : Router} {e : Event} (h : Placed s) (hst : s.step e = some t) :
    Placed t := by
  cases step_cases hst with
  | @driver le loop hloop =>
    have hle : s.sent.length ≤ (Router.sent { s with loop }).length := by
      rw [sent_driver hloop, List.length_append]
      exact Nat.le_add_right ..
    exact ⟨fun pos hpos => (h.receiver pos hpos).trans hle, h.since.trans hle, h.handed⟩
  | subscribe hnone => exact ⟨fun pos hpos => by cases hpos; exact Nat.le_refl _, Nat.le_refl _, nofun⟩
  | @recv pos pos' received hpos hrecv =>
    have hle := Broadcast.recv_le hrecv
    cases received with
    | value e => exact ⟨fun p hp => by cases hp; exact hle, h.since, nofun⟩
    | lagged n => exact ⟨fun p hp => by cases hp; exact hle, h.since, nofun⟩
  | closed hpos => exact ⟨h.receiver, h.since, h.handed⟩

/-- The account of a driver step, for the assignments sent from a point of the log on. -/
theorem account_driver_iff {s : Router} {e : Loop.Event} {loop : Loop}
    (hst : s.loop.step e = some loop) {pos n : Nat} (hpos : pos ≤ s.sent.length)
    (hn : n ≤ s.sent.length)
    (h : s.handed ++ assignments (Broadcast.unread capacity s.sent pos) =
      assignments (s.sent.drop n)) :
    s.handed ++ assignments (Broadcast.unread capacity (Router.sent { s with loop }) pos) =
        assignments ((Router.sent { s with loop }).drop n) ↔
      ((s.loop.sends e).isSome → ¬ Broadcast.Evicts GrantEvent.assigned? capacity s.sent pos) := by
  rw [sent_driver hst]
  cases hsend : s.loop.sends e with
  | none => simpa using h
  | some ev =>
    rw [Option.toList_some, List.drop_append_of_le_length hn]
    have hiff := Broadcast.filterMap_unread_send h hpos (by decide) ev
    rw [assignments, assignments, List.filterMap_append]
    simpa [assignments] using hiff

/-- The driver's step keeps an account exactly if it pushes out no assignment; without a receiver
there is nothing to keep. -/
theorem keeps_driver_iff {s : Router} {e : Loop.Event} {loop : Loop}
    (hst : s.loop.step e = some loop) (hI : Placed s) {n : Nat} (hn : n ≤ s.sent.length)
    (h : ∀ pos, s.receiver = some pos →
      s.handed ++ assignments (Broadcast.unread capacity s.sent pos) =
        assignments (s.sent.drop n)) :
    (∀ pos, s.receiver = some pos →
      s.handed ++ assignments (Broadcast.unread capacity (Router.sent { s with loop }) pos) =
        assignments ((Router.sent { s with loop }).drop n)) ↔ KeepsUnread s (.driver e) := by
  constructor
  · intro ht hsend pos hpos
    exact (account_driver_iff hst (hI.receiver pos hpos) hn (h pos hpos)).1 (ht pos hpos) hsend
  · intro hk pos hpos
    exact (account_driver_iff hst (hI.receiver pos hpos) hn (h pos hpos)).2
      fun hsend => hk hsend pos hpos

/-- **One step, after the subscription.** -/
theorem NoneLost.step_iff {s t : Router} {e : Event} (hI : Placed s) (h : NoneLost s)
    (hst : s.step e = some t) : NoneLost t ↔ KeepsUnread s e := by
  cases step_cases hst with
  | driver hloop => exact keeps_driver_iff hloop hI hI.since h
  | subscribe hnone =>
    refine iff_of_true ?_ trivial
    rintro _ ⟨⟩
    show s.handed ++ assignments (Broadcast.unread capacity s.sent s.sent.length) =
      assignments (s.sent.drop s.sent.length)
    rw [hI.handed hnone, Broadcast.unread_tail, List.drop_length]
    rfl
  | @recv pos pos' received hpos hrecv =>
    refine iff_of_true (fun p hp => ?_) trivial
    have hacc := (account_handle hrecv).trans (h pos hpos)
    cases received <;> (cases hp; exact hacc)
  | closed hpos => exact iff_of_true h trivial

/-- **One step, from the start.** The subscription loses what was sent before it. -/
theorem NoneLostFromStart.step_iff {s t : Router} {e : Event} (hI : Placed s)
    (h : NoneLostFromStart s) (hst : s.step e = some t) :
    NoneLostFromStart t ↔ KeepsUnread s e ∧ SubscribesInTime s e := by
  cases step_cases hst with
  | driver hloop =>
    rw [and_iff_left (show SubscribesInTime s (.driver _) from trivial)]
    exact keeps_driver_iff hloop hI (Nat.zero_le _) h
  | subscribe hnone =>
    rw [and_iff_right (show KeepsUnread s .subscribe from trivial)]
    have hacc : s.handed ++ assignments (Broadcast.unread capacity s.sent s.sent.length) = [] := by
      rw [hI.handed hnone, Broadcast.unread_tail]
      rfl
    constructor
    · intro ht
      exact (ht _ rfl).symm.trans hacc
    · rintro hnil _ ⟨⟩
      exact hacc.trans (show assignments s.sent = [] from hnil).symm
  | @recv pos pos' received hpos hrecv =>
    refine iff_of_true (fun p hp => ?_) ⟨trivial, trivial⟩
    have hacc := (account_handle hrecv).trans (h pos hpos)
    cases received <;> (cases hp; exact hacc)
  | closed hpos => exact iff_of_true h ⟨trivial, trivial⟩

/-- **When no assignment is lost in steady state.** In every run of the driver and the router, no
assignment sent after the subscription is lost exactly if the driver never sends to a full channel
whose oldest unread event is an assignment. -/
theorem noneLost_iff (es : List Event) :
    machine.Always NoneLost initial es ↔ machine.Guarded KeepsUnread initial es :=
  Machine.always_iff_guarded (I := Placed) (fun _ _ _ h hst => h.step hst)
    (fun _ _ _ hI h hst => h.step_iff hI hst) .initial nofun

/-- **When no assignment is lost at start-up.** In every run, no assignment the driver ever sends is
lost exactly if, besides, none is sent before the subscription. -/
theorem noneLostFromStart_iff (es : List Event) :
    machine.Always NoneLostFromStart initial es ↔
      machine.Guarded (fun s e => KeepsUnread s e ∧ SubscribesInTime s e) initial es :=
  Machine.always_iff_guarded (I := Placed) (fun _ _ _ h hst => h.step hst)
    (fun _ _ _ hI h hst => h.step_iff hI hst) .initial nofun

end

/-! ## Two lossy runs -/

/-- A message with 129 entries of one grant. Each entry but the first replaces the one before it,
so the message makes 257 events. -/
def burstFrame : pb.JoinMessage :=
  Loop.wrapClient (.assign (List.replicate 129
    { id := "g", shard := some (ClusterMap.wireShard 2), state := 1, lease := none
      assigned := none }))

/-- The driver takes the burst, with the router subscribed. -/
def burstTaken : List Event :=
  [.driver .start, .subscribe, .driver (.takeInbound (some (.ok burstFrame)) Loop.epochEnv)]

/-- What the burst makes the driver do: how many effects, how many assignments among them, and how
many of these a full channel keeps; and the router, subscribed at the first event, has handed none
on. -/
theorem burstTaken_pending :
    let := UuidCrate.pair
    (machine.run initial burstTaken).map (fun s =>
      let es := Effect.events s.loop.driver.pending
      ((s.loop.driver.pending.length, (assignments es).length,
        (assignments (Broadcast.unread capacity es 0)).length),
        s.receiver, s.since, s.handed.length, s.loop.done.length)) =
      some ((771, 129, 128), some 0, 0, 0, 0) := by
  decide +kernel

/-- **A burst is lost.** The first of the assignments falls out of the channel before the router
runs. -/
theorem burst_lost :
    let := UuidCrate.pair
    ∃ t, machine.run initial
        (burstTaken ++ (List.replicate 771 Loop.Event.exec).map .driver) = some t ∧
      ¬ NoneLost t := by
  let := UuidCrate.pair
  obtain ⟨s, hrun, heq⟩ := Option.map_eq_some_iff.1 burstTaken_pending
  simp only [Prod.mk.injEq] at heq
  obtain ⟨⟨hpending, hassigned, hkept⟩, hreceiver, hsince, hhanded, hdone⟩ := heq
  have hhanded := List.length_eq_zero_iff.1 hhanded
  have hdone := List.length_eq_zero_iff.1 hdone
  have hexec := congrArg (Option.map fun loop => { s with loop }) (Loop.run_exec s.loop)
  rw [hpending, ← run_driver, Option.map_some] at hexec
  refine ⟨{ s with
      loop := { s.loop with
        driver := { s.loop.driver with pending := [] }
        done := s.loop.done ++ s.loop.driver.pending } }, ?_, fun h => ?_⟩
  · rw [Machine.run_append, hrun, Option.bind_some]
    exact hexec
  · have hlen := congrArg List.length (h 0 hreceiver)
    simp only [sent, hhanded, hsince, hdone, List.nil_append, List.drop_zero] at hlen
    omega

/-- **An early assignment is lost.** The server answers before `build` subscribes the router. -/
theorem early_assignment_lost :
    let := UuidCrate.pair
    ∃ t, machine.run initial
        (.driver .start :: (Loop.takeAssign "g").map .driver ++ [.subscribe]) = some t ∧
      ¬ NoneLostFromStart t := by
  let := UuidCrate.pair
  refine ⟨_, rfl, fun h => absurd (h _ rfl) (by decide)⟩

end Router

end Splitter
