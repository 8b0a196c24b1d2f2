import Mathlib.Data.List.AList

/-!
# Wire messages

The protobuf messages of the splitter data plane as the generated code presents them: a missing
sub-message is `none`, an enumeration travels as its number, and a `oneof` is an optional sum. The
namespaces `pb`, `locationPb` and `sessionPb` are the three proto packages. Fields that no
modelled function reads (the load report of `Status`) are left out.
-/

namespace Splitter

/-- `google.protobuf.Timestamp`. -/
structure Timestamp where
  seconds : Int64
  nanos : Int32
  deriving DecidableEq

namespace locationPb

/-- `location.Location`. -/
structure Location where
  region : String
  node : String
  deriving DecidableEq

/-- `location.Instance`. -/
structure Instance where
  id : String
  location : Option Location
  created : Option Timestamp
  name : String
  deriving DecidableEq

end locationPb

namespace pb

/-- `QualifiedServiceName`. -/
structure QualifiedServiceName where
  tenant : String
  service : String
  deriving DecidableEq

/-- `QualifiedDomainName`. -/
structure QualifiedDomainName where
  service : Option QualifiedServiceName
  name : String
  deriving DecidableEq

/-- `DomainKey`. -/
structure DomainKey where
  region : String
  key : String
  deriving DecidableEq

/-- `QualifiedDomainKey`. -/
structure QualifiedDomainKey where
  domain : Option QualifiedDomainName
  key : Option DomainKey
  deriving DecidableEq

/-- `DomainKeyName`. -/
structure DomainKeyName where
  domain : String
  name : String
  deriving DecidableEq

/-- `Shard`; `type` is the number of a `DomainType`. -/
structure Shard where
  domain : Option QualifiedDomainName
  type : Int32
  region : String
  «from» : String
  «to» : String
  deriving DecidableEq

/-- `Instance`, the instance of the location package with a peer endpoint. -/
structure Instance where
  «instance» : Option locationPb.Instance
  endpoint : String
  deriving DecidableEq

/-- The `DomainType` enumeration. -/
inductive DomainType
  | invalid | unit | global | regional
  deriving DecidableEq

/-- The `GrantState` enumeration. -/
inductive GrantState
  | unknown | active | allocated | revoked | allocatedLoaded | revokedUnloaded
  deriving DecidableEq

/-- `Grant`, a shard with a lease; `state` is the number of a `GrantState`. -/
structure Grant where
  id : String
  shard : Option Shard
  state : Int32
  lease : Option Timestamp
  assigned : Option Timestamp
  deriving DecidableEq

/-! ## Cluster messages -/

/-- `ClusterMessage.GrantInfo`. -/
structure GrantInfo where
  id : String
  shard : Option Shard
  state : Int32
  deriving DecidableEq

/-- `ClusterMessage.Assignment`. -/
structure Assignment where
  consumer : Option Instance
  grants : List GrantInfo
  deriving DecidableEq

/-- `ClusterMessage.Snapshot`. -/
structure Snapshot where
  assignments : List Assignment
  origin : Option locationPb.Instance
  shards : List Shard
  deriving DecidableEq

/-- `ClusterMessage.Change`. The five parts are optional messages holding one repeated field each:
`Assign.assignments`, `Update.grants`, `Unassign.grants`, `Remove.consumers`, `Shards.shards`. -/
structure Change where
  assign : Option (List Assignment)
  update : Option (List GrantInfo)
  unassign : Option (List String)
  remove : Option (List String)
  shards : Option (List Shard)
  deriving DecidableEq

/-- The `oneof` of `ClusterMessage`. -/
inductive ClusterMessage.Msg
  | snapshot (snap : Snapshot)
  | change (change : Change)
  deriving DecidableEq

/-- `ClusterMessage`. -/
structure ClusterMessage where
  msg : Option ClusterMessage.Msg
  id : String
  version : Int64
  timestamp : Option Timestamp
  deriving DecidableEq

/-! ## Client messages -/

/-- `ClientMessage.Register`. -/
structure Register where
  consumer : Option Instance
  service : Option QualifiedServiceName
  domains : List QualifiedDomainName
  active : List Grant
  names : List DomainKeyName
  capacityLimit : UInt64
  deriving DecidableEq

/-- `ClientMessage.Notify`. -/
structure Notify where
  update : Option Grant
  target : Option Grant
  deriving DecidableEq

/-- The `oneof` of `ClientMessage`. -/
inductive ClientMessage.Msg
  | register (r : Register)
  | deregister
  | extend (lease : Option Timestamp)
  | assign (grants : List Grant)
  | promote (grants : List Grant)
  | revoke (grants : List Grant)
  | released (grants : List Grant)
  | update (grant : Option Grant)
  | notify (n : Notify)
  | status
  deriving DecidableEq

/-- `ClientMessage`. -/
structure ClientMessage where
  msg : Option ClientMessage.Msg
  deriving DecidableEq

end pb

namespace sessionPb

/-- The `oneof` of the session `Message`. -/
inductive Request
  | establish (client : Option locationPb.Instance) (id : String)
  | established (ttl : Option Timestamp) (server : Option locationPb.Instance)
  | heartbeat (now : Option Timestamp)
  | ack (ttl : Option Timestamp)
  | closed (error : String)
  deriving DecidableEq

/-- The session sub-protocol's `Message`. -/
structure Message where
  request : Option Request
  deriving DecidableEq

end sessionPb

namespace pb

/-- The `oneof` of `ConsumerMessage`. -/
inductive ConsumerMessage.Msg
  | client (m : ClientMessage)
  | cluster (m : ClusterMessage)
  deriving DecidableEq

/-- `ConsumerMessage`. -/
structure ConsumerMessage where
  msg : Option ConsumerMessage.Msg
  deriving DecidableEq

/-- The `oneof` of `JoinMessage`. -/
inductive JoinMessage.Msg
  | session (m : sessionPb.Message)
  | consumer (m : ConsumerMessage)
  deriving DecidableEq

/-- `JoinMessage`, the frame of the `Join` stream in both directions. -/
structure JoinMessage where
  msg : Option JoinMessage.Msg
  deriving DecidableEq

end pb

end Splitter
