import Splitter.Cluster.Basic
import Splitter.Ownership
import Splitter.Session

/-!
# The consumer driver's message handlers

`consumer.rs`: the driver's grant table and what it does for each inbound message. The driver's own
fields are changed at once, for nobody else sees them. What it does to memory that other tasks see
(an ownership's latches, the grant events, the published cluster map) it appends to `pending`, in
program order, and the loop carries these effects out one at a time.

A handler that reads a timestamp can panic; it is then the last thing the driver does, with the
effects it had before that. `history` is bookkeeping for statements about what was handled for which
assignment, and nothing reads it.
-/

namespace Splitter

/-- The address of an `Arc<Ownership>`, one for each call of `Ownership::new`. It is what tells two
assignments of one grant id apart. -/
abbrev OwnershipRef := Nat

/-- Emitted to broadcast subscribers whenever the grant table changes. -/
inductive GrantEvent
  | assigned (id : GrantId) (shard : Shard) (ownership : OwnershipRef)
  | removed (id : GrantId)
  deriving DecidableEq

/-- What the driver does to memory that other tasks see. -/
inductive Effect
  /-- `Ownership::new`. -/
  | new (r : OwnershipRef) (o : Ownership)
  /-- The three signal watchers, with their copy of the grant, and the expiration timer. -/
  | spawnHelpers (r : OwnershipRef) (g : pb.Grant)
  | activate (r : OwnershipRef)
  | revoke (r : OwnershipRef)
  | expire (r : OwnershipRef)
  | counterpartLoaded (r : OwnershipRef)
  | counterpartUnloaded (r : OwnershipRef)
  | setExpiration (r : OwnershipRef) (deadline : SystemTime)
  /-- The abort of the grant's helper tasks. -/
  | abortHelpers (r : OwnershipRef)
  /-- A send on the grants channel. -/
  | event (e : GrantEvent)
  /-- A send on the cluster watch channel. -/
  | publish (map : ClusterMap)
  /-- A frame accepted by the outbound channel. -/
  | enqueue (frame : pb.JoinMessage)

/-- What the driver has handled for one assignment. -/
inductive Handled
  | assign (r : OwnershipRef) (g : pb.Grant)
  | promote (r : OwnershipRef) (g : pb.Grant)
  | revoke (r : OwnershipRef) (g : pb.Grant)
  | notify (r : OwnershipRef) (state : GrantState)
  deriving DecidableEq

/-- An entry of the grant table. Its helper tasks are known by the ownership they watch. -/
structure ActiveGrant where
  pbGrant : pb.Grant
  ownership : OwnershipRef
  revoked : Bool
  deriving DecidableEq

/-- The fields of `Driver` that only the driver task changes. -/
structure Driver where
  grants : HashMap GrantId ActiveGrant
  cluster : ClusterMap
  next : OwnershipRef
  pending : List Effect
  history : List Handled

/-- The two readings of the clock for one assignment: the default lease starts at the first, and
`Ownership::new` compares the lease with the second. -/
structure Readings where
  lease : SystemTime
  created : SystemTime

/-- What a handler finds outside: the clock, and whether the cluster watch channel still has a
receiver (a value sent to no receiver is not kept). -/
structure Env where
  clock : OwnershipRef → Readings
  clusterObserved : Bool

namespace Driver

/-- The driver `ConsumerClient::join` starts. -/
def initial : Driver :=
  { grants := ∅, cluster := ClusterMap.empty, next := 0, pending := [], history := [] }

/-- Append to the effects of the running handler. -/
def emit (self : Driver) (effects : List Effect) : Driver :=
  { self with pending := self.pending ++ effects }

/-- Append to the bookkeeping. -/
def record (self : Driver) (h : Handled) : Driver := { self with history := self.history ++ [h] }

/-! ## Grant messages -/

/-- `remove_grant`; an id that is not in the table is passed over. -/
def removeGrant (self : Driver) (id : GrantId) : Driver :=
  match self.grants.lookup id with
  | none => self
  | some entry =>
    { self with grants := self.grants.erase id }.emit
      [.expire entry.ownership, .abortHelpers entry.ownership, .event (.removed id)]

/-- The second half of `on_assign`: a fresh ownership, its helpers, the table entry, the event. -/
def enterGrant (self : Driver) (g : pb.Grant) (shard : Shard) (expiration now : SystemTime) :
    Driver :=
  let id : GrantId := ⟨g.id⟩
  let state := grantStateFromI32 g.state
  let r := self.next
  (({ self with
      grants := self.grants.insert id
        { pbGrant := g, ownership := r
          revoked := decide (state = GrantState.revoked ∨ state = GrantState.revokedUnloaded) }
      next := r + 1 }.emit
    [.new r (Ownership.new state expiration now), .spawnHelpers r g,
      .event (.assigned id shard r)]).record (.assign r g))

/-- The lease an assignment starts with: the grant's own, or 30 seconds from now. -/
def leaseExpiration (now : SystemTime) (lease : Option Timestamp) : Result SystemTime :=
  match lease with
  | some ts => timestampToSystemTime ts
  | none => now.add (Duration.fromSecs 30 (by decide))

/-- `on_assign`. An id that is in the table already is removed first. -/
def onAssign (clock : OwnershipRef → Readings) (self : Driver) (g : pb.Grant) :
    Driver × Result Unit :=
  match g.shard.bind fun s => (Shard.tryFrom s).toOption with
  | none => (self, pure ())
  | some shard =>
    let now := clock self.next
    match leaseExpiration now.lease g.lease with
    | .error fault => (self, .error fault)
    | .ok expiration =>
      ((self.removeGrant ⟨g.id⟩).enterGrant g shard expiration now.created, pure ())

/-- `on_promote` on the entry it finds. -/
def promoteEntry (self : Driver) (g : pb.Grant) (entry : ActiveGrant) : Driver :=
  ({ self with grants := self.grants.insert ⟨g.id⟩ { entry with pbGrant := g } }.emit
    [.activate entry.ownership]).record (.promote entry.ownership g)

/-- `on_promote`. -/
def onPromote (self : Driver) (g : pb.Grant) : Driver × Result Unit :=
  match self.grants.lookup ⟨g.id⟩ with
  | none => (self, pure ())
  | some entry => (self.promoteEntry g entry, pure ())

/-- `on_revoke` on the entry it finds. -/
def revokeEntry (self : Driver) (g : pb.Grant) (newExpiration : Option SystemTime)
    (entry : ActiveGrant) : Driver :=
  ({ self with
      grants := self.grants.insert ⟨g.id⟩ { entry with revoked := true, pbGrant := g } }.emit
    ((newExpiration.map (Effect.setExpiration entry.ownership)).toList ++
      [Effect.revoke entry.ownership])).record (.revoke entry.ownership g)

/-- `on_revoke`; the lease is read before the table is. -/
def onRevoke (self : Driver) (g : pb.Grant) : Driver × Result Unit :=
  match g.lease.mapM timestampToSystemTime with
  | .error fault => (self, .error fault)
  | .ok newExpiration =>
    match self.grants.lookup ⟨g.id⟩ with
    | none => (self, pure ())
    | some entry => (self.revokeEntry g newExpiration entry, pure ())

/-- What a `Notify` does to the ownership of its target, by the state of the update. -/
def notifyEffects (r : OwnershipRef) : GrantState → List Effect
  | .allocatedLoaded => [.counterpartLoaded r]
  | .revokedUnloaded => [.counterpartUnloaded r]
  | _ => []

/-- `on_notify` on the entry it finds. -/
def notifyEntry (self : Driver) (updateState : GrantState) (entry : ActiveGrant) : Driver :=
  (self.emit (notifyEffects entry.ownership updateState)).record
    (.notify entry.ownership updateState)

/-- `on_notify`. -/
def onNotify (self : Driver) (n : pb.Notify) : Driver :=
  match n.target, n.update with
  | some target, some update =>
    match self.grants.lookup ⟨target.id⟩ with
    | none => self
    | some entry => self.notifyEntry (grantStateFromI32 update.state) entry
  | _, _ => self

/-- The ownerships a lease extension reaches: those of the entries not revoked. -/
def extended (self : Driver) : List OwnershipRef :=
  (self.grants.entries.filter fun e => !e.2.revoked).map (·.2.ownership)

/-- The loop of `on_extend`. -/
def extendLeases (self : Driver) (newLease : SystemTime) : Driver :=
  self.emit (self.extended.map fun r => .setExpiration r newLease)

/-- `on_extend`. -/
def onExtend (self : Driver) (lease : Option Timestamp) : Driver × Result Unit :=
  match lease.mapM timestampToSystemTime with
  | .error fault => (self, .error fault)
  | .ok none => (self, pure ())
  | .ok (some newLease) => (self.extendLeases newLease, pure ())

/-- A loop `for g in grants`, which a panic ends. -/
def forGrants (f : Driver → pb.Grant → Driver × Result Unit) (self : Driver) :
    List pb.Grant → Driver × Result Unit
  | [] => (self, pure ())
  | g :: grants =>
    match f self g with
    | (self, .ok ()) => forGrants f self grants
    | (self, .error fault) => (self, .error fault)

/-- `handle_client_message`. -/
def handleClientMessage (env : Env) (self : Driver) (msg : pb.ClientMessage) :
    Driver × Result Unit :=
  match msg.msg with
  | none => (self, pure ())
  | some (.assign grants) => self.forGrants (onAssign env.clock) grants
  | some (.promote grants) => self.forGrants onPromote grants
  | some (.revoke grants) => self.forGrants onRevoke grants
  | some (.notify n) => (self.onNotify n, pure ())
  | some (.extend lease) => self.onExtend lease
  | some (.register _) | some .deregister | some (.released _) | some (.update _)
  | some .status => (self, pure ())

/-! ## Frames -/

section
variable [UuidCrate]

/-- `self.cluster.send(..)` to a channel with a receiver. -/
def publishCluster (self : Driver) (next : ClusterMap) : Driver :=
  { self with cluster := next }.emit [.publish next]

/-- The cluster branch of `handle_inbound`: a map that applies is published, a message that does
not is passed over with a warning. -/
def handleCluster (env : Env) (self : Driver) (msg : pb.ClusterMessage) : Driver × Result Unit :=
  match self.cluster.apply msg with
  | .ok next =>
    (if env.clusterObserved then self.publishCluster next else self, pure ())
  | .error (.error _) => (self, pure ())
  | .error .panic => (self, .error .panic)

/-- The session branch of `handle_inbound`: the new session lease, if the frame has one, and an
error where the server ends the session. -/
def handleSession (msg : sessionPb.Message) : Result (Option SystemTime) :=
  match classify msg with
  | .ok (some (.established ttl)) => pure (some ttl)
  | .ok (some (.heartbeatAck ttl)) => pure (some ttl)
  | .ok (some (.closed error)) => .error (.error (.sessionClosed error))
  | .ok none => pure none
  | .error fault => .error fault

/-- `handle_inbound`. -/
def handleInbound (env : Env) (self : Driver) (join : pb.JoinMessage) :
    Driver × Result (Option SystemTime) :=
  match join.msg with
  | none => (self, pure none)
  | some (.session msg) => (self, handleSession msg)
  | some (.consumer { msg := some (.cluster cm) }) =>
    let (self, result) := self.handleCluster env cm
    (self, result.map fun _ => none)
  | some (.consumer { msg := some (.client client) }) =>
    let (self, result) := self.handleClientMessage env client
    (self, result.map fun _ => none)
  | some (.consumer { msg := none }) => (self, pure none)

end

end Driver

end Splitter
