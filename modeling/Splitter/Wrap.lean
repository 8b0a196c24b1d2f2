import Splitter.Types

/-!
# Conversions between wire messages and native types

`wrap.rs`. A conversion that can miss a required field is a `Result`; the order of the checks is
the code's, and so is the text of every error.
-/

namespace Splitter

/-- The native instance of a consumer: the location package's instance and a peer endpoint. -/
structure Instance where
  id : InstanceId
  location : Location
  name : InstanceName
  created : SystemTime
  endpoint : Endpoint
  deriving DecidableEq

/-- `Option::ok_or_else` with an `InvalidMessage` error. -/
def okOrInvalid {α : Type} (value : Option α) (msg : String) : Result α :=
  match value with
  | some v => .ok v
  | none => .error (.error (.invalidMessage msg))

/-- A field that must be present. -/
def required {α : Type} (value : Option α) (field : String) : Result α :=
  okOrInvalid value s!"missing field: {field}"

/-! ## Timestamps -/

/-- Seconds and nanoseconds are clamped at zero one by one, then added to the epoch. -/
def timestampToSystemTime (ts : Timestamp) : Result SystemTime := do
  let secs := (max ts.seconds.toInt 0).toNat
  let nanos := (max ts.nanos.toInt 0).toNat
  SystemTime.unixEpoch.add (← Duration.new secs nanos)

def systemTimeToTimestamp (t : SystemTime) : Timestamp :=
  if 0 ≤ t.nanos then
    { seconds := Int64.ofInt (t.nanos / nanosPerSec)
      nanos := Int32.ofInt (t.nanos % nanosPerSec) }
  else { seconds := 0, nanos := 0 }

/-! ## Location and instance -/

def Location.ofPb (l : locationPb.Location) : Location :=
  { region := ⟨l.region⟩, node := ⟨l.node⟩ }

def Location.toPb (l : Location) : locationPb.Location :=
  { region := l.region.str, node := l.node.str }

/-- `Location::default`. -/
def Location.default : Location := { region := ⟨""⟩, node := ⟨""⟩ }

section
variable [UuidCrate]

/-- `TryFrom<location_pb::Instance>`: the endpoint is not part of that message. -/
def Instance.tryFromLocation (p : locationPb.Instance) : Result Instance := do
  let created ← required p.created "location.Instance.created"
  let id ← (InstanceId.tryFrom p.id).mapError fun e =>
    .error (.invalidMessage s!"invalid instance id '{p.id}': {e}")
  let created ← timestampToSystemTime created
  pure
    { id
      location := (p.location.map Location.ofPb).getD Location.default
      name := ⟨p.name⟩
      created
      endpoint := ⟨""⟩ }

/-- `TryFrom<pb::Instance>`. -/
def Instance.tryFrom (p : pb.Instance) : Result Instance := do
  let inner ← required p.instance "Instance.instance"
  let inst ← Instance.tryFromLocation inner
  pure { inst with endpoint := ⟨p.endpoint⟩ }

/-- `From<Instance> for location_pb::Instance`. -/
def Instance.toLocationPb (i : Instance) : locationPb.Instance :=
  { id := UuidCrate.display i.id.uuid
    location := some i.location.toPb
    created := some (systemTimeToTimestamp i.created)
    name := i.name.str }

/-- `From<Instance> for pb::Instance`. -/
def Instance.toPb (i : Instance) : pb.Instance :=
  { «instance» := some i.toLocationPb, endpoint := i.endpoint.str }

end

/-! ## Names -/

def QualifiedServiceName.ofPb (p : pb.QualifiedServiceName) : QualifiedServiceName :=
  { tenant := ⟨p.tenant⟩, service := ⟨p.service⟩ }

def QualifiedServiceName.toPb (q : QualifiedServiceName) : pb.QualifiedServiceName :=
  { tenant := q.tenant.str, service := q.service.str }

def QualifiedDomainName.tryFrom (p : pb.QualifiedDomainName) : Result QualifiedDomainName := do
  let service ← required p.service "QualifiedDomainName.service"
  pure { service := .ofPb service, name := ⟨p.name⟩ }

def QualifiedDomainName.toPb (d : QualifiedDomainName) : pb.QualifiedDomainName :=
  { service := some d.service.toPb, name := d.name.str }

def DomainKey.ofPb (p : pb.DomainKey) : DomainKey :=
  { region := ⟨p.region⟩, key := p.key }

def DomainKey.toPb (d : DomainKey) : pb.DomainKey :=
  { region := d.region.str, key := d.key }

/-- `DomainKey::default`. -/
def DomainKey.default : DomainKey := { region := ⟨""⟩, key := "" }

def QualifiedDomainKey.tryFrom (p : pb.QualifiedDomainKey) : Result QualifiedDomainKey := do
  let domain ← required p.domain "QualifiedDomainKey.domain"
  let domain ← QualifiedDomainName.tryFrom domain
  pure { domain, key := (p.key.map DomainKey.ofPb).getD DomainKey.default }

def QualifiedDomainKey.toPb (k : QualifiedDomainKey) : pb.QualifiedDomainKey :=
  { domain := some k.domain.toPb, key := some k.key.toPb }

def DomainKeyName.ofPb (p : pb.DomainKeyName) : DomainKeyName :=
  { domain := ⟨p.domain⟩, name := p.name }

def DomainKeyName.toPb (n : DomainKeyName) : pb.DomainKeyName :=
  { domain := n.domain.str, name := n.name }

/-! ## Enumerations -/

/-- `pb::DomainType::try_from(i32)`. -/
def pb.DomainType.tryFrom (v : Int32) : Option pb.DomainType :=
  if v = 0 then some .invalid
  else if v = 1 then some .unit
  else if v = 2 then some .global
  else if v = 3 then some .regional
  else none

def DomainType.ofPb : pb.DomainType → DomainType
  | .invalid => .invalid
  | .unit => .unit
  | .global => .global
  | .regional => .regional

def DomainType.toPb : DomainType → pb.DomainType
  | .invalid => .invalid
  | .unit => .unit
  | .global => .global
  | .regional => .regional

/-- `ty as i32`, the number of a domain type. -/
def pb.DomainType.toI32 : pb.DomainType → Int32
  | .invalid => 0
  | .unit => 1
  | .global => 2
  | .regional => 3

def domainTypeFromI32 (v : Int32) : DomainType :=
  .ofPb ((pb.DomainType.tryFrom v).getD .invalid)

/-- `pb::GrantState::try_from(i32)`. -/
def pb.GrantState.tryFrom (v : Int32) : Option pb.GrantState :=
  if v = 0 then some .unknown
  else if v = 1 then some .active
  else if v = 2 then some .allocated
  else if v = 3 then some .revoked
  else if v = 4 then some .allocatedLoaded
  else if v = 5 then some .revokedUnloaded
  else none

/-- `state as i32`, the number of a grant state. -/
def pb.GrantState.toI32 : pb.GrantState → Int32
  | .unknown => 0
  | .active => 1
  | .allocated => 2
  | .revoked => 3
  | .allocatedLoaded => 4
  | .revokedUnloaded => 5

def GrantState.ofPb : pb.GrantState → GrantState
  | .unknown => .unknown
  | .active => .active
  | .allocated => .allocated
  | .revoked => .revoked
  | .allocatedLoaded => .allocatedLoaded
  | .revokedUnloaded => .revokedUnloaded

def grantStateFromI32 (v : Int32) : GrantState :=
  .ofPb ((pb.GrantState.tryFrom v).getD .unknown)

/-- A grant state read back from its own number is itself. -/
@[simp] theorem pb.GrantState.tryFrom_toI32 (s : pb.GrantState) : tryFrom s.toI32 = some s := by
  cases s <;> rfl

/-- The number of a grant state tells the states apart. -/
theorem pb.GrantState.toI32_injective : Function.Injective pb.GrantState.toI32 := by
  intro a b h
  have hread := congrArg tryFrom h
  rwa [tryFrom_toI32, tryFrom_toI32, Option.some.injEq] at hread

/-! ## Shard -/

def Shard.tryFrom (p : pb.Shard) : Result Shard := do
  let domain ← required p.domain "Shard.domain"
  let domain ← QualifiedDomainName.tryFrom domain
  pure
    { domain
      kind := domainTypeFromI32 p.type
      region := ⟨p.region⟩
      «from» := p.from
      «to» := p.to }

/-- `From<Shard> for pb::Shard`. -/
def Shard.toPb (s : Shard) : pb.Shard :=
  { domain := some s.domain.toPb
    type := s.kind.toPb.toI32
    region := s.region.str
    «from» := s.from
    «to» := s.to }

end Splitter
