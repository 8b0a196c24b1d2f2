import Splitter.Lib.Fold
import Splitter.Lib.HashMap
import Splitter.Lib.Machine
import Splitter.Wrap

/-!
# The cluster map

`cluster.rs`: the immutable snapshot of the cluster a consumer mirrors, and the application of a
`ClusterMessage` to it. The map keeps two indexes, the grants under their id and the grant ids
under their consumer; `apply` edits both through `applyAssignment`, `updateGrant`, `dropGrant` and
`removeConsumer`. `applyChange` is cut at its five `if let` blocks, one definition each.
-/

namespace Splitter

structure ClusterId where
  version : Int64
  origin : Option Instance
  timestamp : SystemTime
  deriving DecidableEq

structure GrantEntry where
  id : GrantId
  shard : Shard
  state : GrantState
  consumer : ConsumerId
  deriving DecidableEq

structure ConsumerEntry where
  consumer : Instance
  grants : List GrantId
  deriving DecidableEq

structure ClusterMap where
  id : ClusterId
  consumers : HashMap ConsumerId ConsumerEntry
  grants : HashMap GrantId GrantEntry
  shards : List Shard

namespace ClusterMap

/-- `ClusterMap::empty`. -/
def empty : ClusterMap :=
  { id := { version := 0, origin := none, timestamp := SystemTime.unixEpoch }
    consumers := ∅
    grants := ∅
    shards := [] }

/-! ## The four edits -/

/-- One iteration of the grant loop of `apply_assignment`: the id is pushed on the consumer's list
and the grant is written under its id, whatever either index held for it before. -/
def assignGrant (cid : ConsumerId) (map : ClusterMap) (g : pb.GrantInfo) : Result ClusterMap := do
  let gid : GrantId := ⟨g.id⟩
  let shard ← okOrInvalid g.shard "GrantInfo without shard"
  let shard ← Shard.tryFrom shard
  let state := grantStateFromI32 g.state
  pure
    { map with
      consumers := map.consumers.modify cid fun entry =>
        { entry with grants := entry.grants ++ [gid] }
      grants := map.grants.insert gid { id := gid, shard, state, consumer := cid } }

/-- `consumers.entry(id).or_insert_with(..)`: a consumer that is known keeps the instance it was
first seen with. -/
def enterConsumer (map : ClusterMap) (consumer : Instance) : ClusterMap :=
  { map with consumers := map.consumers.orInsert consumer.id { consumer, grants := [] } }

/-- `apply_assignment`. -/
def applyAssignment [UuidCrate] (map : ClusterMap) (assign : pb.Assignment) :
    Result ClusterMap := do
  let consumerPb ← okOrInvalid assign.consumer "Assignment without consumer"
  let consumer ← Instance.tryFrom consumerPb
  assign.grants.foldlM (assignGrant consumer.id) (map.enterConsumer consumer)

/-- `update_grant`: a grant that is not in the map is passed over, its shard unread. -/
def updateGrant (map : ClusterMap) (g : pb.GrantInfo) : Result ClusterMap :=
  let gid : GrantId := ⟨g.id⟩
  match map.grants.lookup gid with
  | none => pure map
  | some entry => do
    let shard ← (g.shard.map Shard.tryFrom).getD (pure entry.shard)
    let state := grantStateFromI32 g.state
    pure { map with grants := map.grants.insert gid { entry with shard, state } }

/-- `drop_grant`. -/
def dropGrant (map : ClusterMap) (gid : GrantId) : ClusterMap :=
  match map.grants.lookup gid with
  | none => map
  | some entry =>
    { map with
      grants := map.grants.erase gid
      consumers := map.consumers.modify entry.consumer fun c =>
        { c with grants := c.grants.filter (· ≠ gid) } }

/-- `remove_consumer`: the grants to delete are read off the consumer's list. -/
def removeConsumer (map : ClusterMap) (cid : ConsumerId) : ClusterMap :=
  match map.consumers.lookup cid with
  | none => map
  | some entry =>
    { map with
      consumers := map.consumers.erase cid
      grants := map.grants.eraseAll entry.grants }

/-! ## Messages -/

/-- `decode_shards`. -/
def decodeShards (raw : List pb.Shard) : Result (List Shard) := raw.mapM Shard.tryFrom

/-- The `shards` block of a change: replace the shard list and drop the grants off it. -/
def changeShards (next : ClusterMap) (shards : List pb.Shard) : Result ClusterMap := do
  let shards ← decodeShards shards
  let dropIds := next.grants.keysWhere fun g => decide (g.shard ∉ shards)
  pure (dropIds.foldl dropGrant { next with shards })

/-- The `assign` block of a change, and the assignments of a snapshot. -/
def changeAssign [UuidCrate] (next : ClusterMap) (assignments : List pb.Assignment) :
    Result ClusterMap :=
  assignments.foldlM applyAssignment next

/-- The `update` block of a change. -/
def changeUpdate (next : ClusterMap) (grants : List pb.GrantInfo) : Result ClusterMap :=
  grants.foldlM updateGrant next

/-- The `unassign` block of a change. -/
def changeUnassign (next : ClusterMap) (grants : List String) : Result ClusterMap :=
  pure (grants.foldl (fun next gid => next.dropGrant ⟨gid⟩) next)

/-- The consumers a `remove` block names; an id that does not parse is ignored with a warning. -/
def removedIds [UuidCrate] (consumers : List String) : List ConsumerId :=
  consumers.filterMap fun cid => (InstanceId.tryFrom cid).toOption

/-- The `remove` block of a change. -/
def changeRemove [UuidCrate] (next : ClusterMap) (consumers : List String) :
    Result ClusterMap :=
  pure ((removedIds consumers).foldl removeConsumer next)

/-- A block `if let Some(part) = part`, which runs if the part is present. -/
def ifPart {α : Type} (part : Option α) (next : ClusterMap)
    (block : ClusterMap → α → Result ClusterMap) : Result ClusterMap :=
  match part with
  | some part => block next part
  | none => pure next

/-- `apply_change` up to its `remove` block, the last one and the only one that cannot fail after
the others succeeded. -/
def changeParts [UuidCrate] (self : ClusterMap) (change : pb.Change) (version : Int64)
    (timestamp : SystemTime) : Result ClusterMap := do
  let next := { self with id := { version, origin := self.id.origin, timestamp } }
  let next ← ifPart change.shards next changeShards
  let next ← ifPart change.assign next changeAssign
  let next ← ifPart change.update next changeUpdate
  ifPart change.unassign next changeUnassign

/-- `apply_change`. -/
def applyChange [UuidCrate] (self : ClusterMap) (change : pb.Change) (version : Int64)
    (timestamp : SystemTime) : Result ClusterMap := do
  let next ← self.changeParts change version timestamp
  ifPart change.remove next changeRemove

/-- `apply_snapshot`. -/
def applySnapshot [UuidCrate] (snap : pb.Snapshot) (version : Int64) (timestamp : SystemTime) :
    Result ClusterMap := do
  let shards ← decodeShards snap.shards
  let origin ← snap.origin.mapM Instance.tryFromLocation
  changeAssign { id := { version, origin, timestamp }, consumers := ∅, grants := ∅, shards }
    snap.assignments

/-- The timestamp of a cluster message, the epoch if it has none. -/
def messageTimestamp (msg : pb.ClusterMessage) : Result SystemTime :=
  match msg.timestamp with
  | some ts => timestampToSystemTime ts
  | none => pure SystemTime.unixEpoch

/-- `ClusterMap::apply`. -/
def apply [UuidCrate] (self : ClusterMap) (msg : pb.ClusterMessage) : Result ClusterMap := do
  let timestamp ← messageTimestamp msg
  match msg.msg with
  | some (.snapshot snap) => applySnapshot snap msg.version timestamp
  | some (.change change) => self.applyChange change msg.version timestamp
  | none => .error (.error (.invalidMessage "ClusterMessage without a variant"))

/-- The map after a message: a rejected message leaves it as it was. -/
def receive [UuidCrate] (self : ClusterMap) (msg : pb.ClusterMessage) : ClusterMap :=
  match self.apply msg with
  | .ok next => next
  | .error _ => self

/-- The cluster maps a consumer goes through: from the empty map, one message after the other. -/
def machine [UuidCrate] : Machine ClusterMap pb.ClusterMessage where
  init map := map = empty
  step map msg := some (map.receive msg)

end ClusterMap

end Splitter
