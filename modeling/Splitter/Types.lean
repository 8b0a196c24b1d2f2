import Mathlib.Algebra.Ring.Int.Defs
import Mathlib.Algebra.Ring.Nat
import Splitter.Proto

/-!
# Native types

The domain types of `ids.rs`, the errors of `error.rs` and the standard library's clock types. A
`SystemTime` or `Duration` carries its range, so that arithmetic that would leave it has no value:
where the code panics on such a sum the model has `Fault.panic`.
-/

namespace Splitter

/-! ## Identifiers -/

/-- A 128-bit identifier of the `uuid` crate. -/
structure Uuid where
  val : BitVec 128
  deriving DecidableEq

/-- The `uuid` crate, as far as the client uses it: its text parser, with the parser's error text,
and its canonical text. -/
class UuidCrate where
  parseStr : String → Except String Uuid
  display : Uuid → String

/-- A crate that reads and prints two canonical texts, for runs on concrete inputs. -/
@[reducible] def UuidCrate.pair : UuidCrate where
  parseStr s :=
    if s = "00000000-0000-0000-0000-00000000000a" then .ok ⟨10⟩
    else if s = "00000000-0000-0000-0000-00000000000b" then .ok ⟨11⟩
    else .error "invalid length"
  display u :=
    if u = ⟨10⟩ then "00000000-0000-0000-0000-00000000000a"
    else "00000000-0000-0000-0000-00000000000b"

/-- Identifier of a consumer instance. -/
structure InstanceId where
  uuid : Uuid
  deriving DecidableEq

/-- Consumer identity is instance identity. -/
abbrev ConsumerId := InstanceId

/-- `InstanceId::try_from`, the text parser of the `uuid` crate. -/
def InstanceId.tryFrom [UuidCrate] (s : String) : Except String InstanceId :=
  (UuidCrate.parseStr s).map InstanceId.mk

/-- Identifier of a grant, the server's own string. -/
structure GrantId where
  str : String
  deriving DecidableEq

/-- A deployment region. -/
structure Region where
  str : String
  deriving DecidableEq

/-- A node or pod name within a region. -/
structure NodeName where
  str : String
  deriving DecidableEq

/-- A tenant namespace. -/
structure TenantName where
  str : String
  deriving DecidableEq

/-- A service namespace within a tenant. -/
structure ServiceName where
  str : String
  deriving DecidableEq

/-- A domain namespace within a service. -/
structure DomainName where
  str : String
  deriving DecidableEq

/-- A dial-able peer endpoint. -/
structure Endpoint where
  str : String
  deriving DecidableEq

/-- Human-readable instance name. -/
structure InstanceName where
  str : String
  deriving DecidableEq

structure Location where
  region : Region
  node : NodeName
  deriving DecidableEq

structure QualifiedServiceName where
  tenant : TenantName
  service : ServiceName
  deriving DecidableEq

structure QualifiedDomainName where
  service : QualifiedServiceName
  name : DomainName
  deriving DecidableEq

structure DomainKey where
  region : Region
  key : String
  deriving DecidableEq

structure QualifiedDomainKey where
  domain : QualifiedDomainName
  key : DomainKey
  deriving DecidableEq

inductive DomainType
  | invalid | unit | global | regional
  deriving DecidableEq

inductive GrantState
  | unknown | active | allocated | revoked | allocatedLoaded | revokedUnloaded
  deriving DecidableEq

/-- A unit of work: a domain with an optional region and a half-open key range. -/
structure Shard where
  domain : QualifiedDomainName
  kind : DomainType
  region : Region
  «from» : String
  «to» : String
  deriving DecidableEq

/-- A named key of the registration options. -/
structure DomainKeyName where
  domain : DomainName
  name : String
  deriving DecidableEq

/-! ## Clock -/

/-- Nanoseconds in a second. -/
def nanosPerSec : Nat := 1000000000

/-- A `std::time::Duration`: below `2^64` seconds. -/
structure Duration where
  nanos : Nat
  bound : nanos < 2 ^ 64 * nanosPerSec
  deriving DecidableEq

/-- A `std::time::SystemTime` on Linux: nanoseconds from the Unix epoch, whose whole seconds fit a
signed 64-bit field. -/
structure SystemTime where
  nanos : Int
  lower : -(2 ^ 63 * nanosPerSec) ≤ nanos
  upper : nanos < 2 ^ 63 * nanosPerSec
  deriving DecidableEq

/-- `UNIX_EPOCH`. -/
def SystemTime.unixEpoch : SystemTime := ⟨0, by decide, by decide⟩

/-! ## Errors -/

/-- The status codes of gRPC. -/
inductive Code
  | ok | cancelled | unknown | invalidArgument | deadlineExceeded | notFound | alreadyExists
  | permissionDenied | resourceExhausted | failedPrecondition | aborted | outOfRange
  | unimplemented | internal | unavailable | dataLoss | unauthenticated
  deriving DecidableEq

/-- A gRPC status. -/
structure Status where
  code : Code
  message : String
  deriving DecidableEq

/-- `ClientError`. The transport set-up error is carried as its text. -/
inductive ClientError
  | notOwned
  | draining
  | noResolution
  | revoked
  | expired
  | sessionClosed (msg : String)
  | cancelled
  | invalidMessage (msg : String)
  | transport (status : Status)
  | transportSetup (error : String)
  deriving DecidableEq

/-- How a computation of the client can fail: by returning an error, or by a panic of the standard
library, which unwinds the task that runs it. -/
inductive Fault
  | error (e : ClientError)
  | panic
  deriving DecidableEq

/-- The result of a computation that can return an error or panic. -/
abbrev Result := Except Fault

/-! ## Clock arithmetic -/

/-- `Duration::new`, which carries surplus nanoseconds into the seconds and panics where these
overflow. -/
def Duration.new (secs nanos : Nat) : Result Duration :=
  if h : secs * nanosPerSec + nanos < 2 ^ 64 * nanosPerSec then
    .ok ⟨secs * nanosPerSec + nanos, h⟩
  else .error .panic

/-- `SystemTime + Duration`, which panics where the sum is not representable. -/
def SystemTime.add (t : SystemTime) (d : Duration) : Result SystemTime :=
  if h : t.nanos + d.nanos < 2 ^ 63 * nanosPerSec then
    .ok ⟨t.nanos + d.nanos, by have := t.lower; omega, h⟩
  else .error .panic

/-- `Duration::from_secs` at a number of seconds the type holds. -/
def Duration.fromSecs (secs : Nat) (h : secs < 2 ^ 64) : Duration :=
  ⟨secs * nanosPerSec, Nat.mul_lt_mul_of_pos_right h (by decide)⟩

end Splitter
