import Splitter.Timestamp
import Splitter.UuidText

/-!
# Wire round trips

The paired conversions of `wrap.rs`. A pair is a codec: what is encoded is decoded to itself, and so
encoding what a message is decoded to is a normal form of it (`Codec.of_decode_encode`). It holds of
names, keys and shards, and of instances created at or after the epoch (`wire_round_trip`).
-/

namespace Splitter

/-- A pair of conversions that carries the values in `valid` over the wire. -/
structure Codec {α μ : Type} (decode : μ → Result α) (encode : α → μ) (valid : α → Prop) :
    Prop where
  decode_encode : ∀ a, valid a → decode (encode a) = .ok a
  normal : ∀ m a, decode m = .ok a → decode (encode a) = .ok a

/-- Where only valid values are decoded, re-encoding is a normal form. -/
theorem Codec.of_decode_encode {α μ : Type} {decode : μ → Result α} {encode : α → μ}
    {valid : α → Prop} (hencode : ∀ a, valid a → decode (encode a) = .ok a)
    (hvalid : ∀ m a, decode m = .ok a → valid a) : Codec decode encode valid :=
  ⟨hencode, fun m a h => hencode a (hvalid m a h)⟩

/-- A pair that carries every value. -/
theorem Codec.total {α μ : Type} {decode : μ → Result α} {encode : α → μ}
    (hencode : ∀ a, decode (encode a) = .ok a) : Codec decode encode fun _ => True :=
  .of_decode_encode (fun a _ => hencode a) fun _ _ _ => trivial

/-! ## Names, keys and shards -/

/-- A number of a domain type is read as that type. -/
theorem domainTypeFromI32_toI32 (d : DomainType) : domainTypeFromI32 d.toPb.toI32 = d := by
  cases d with
  | invalid => rfl
  | unit => rfl
  | global => rfl
  | regional => rfl

/-- A field that is there is taken. -/
@[simp] theorem required_some {α : Type} (v : α) (field : String) :
    required (some v) field = .ok v := rfl

theorem QualifiedDomainName.tryFrom_toPb (d : QualifiedDomainName) :
    QualifiedDomainName.tryFrom d.toPb = .ok d := rfl

theorem QualifiedDomainKey.tryFrom_toPb (k : QualifiedDomainKey) :
    QualifiedDomainKey.tryFrom k.toPb = .ok k := rfl

theorem DomainKeyName.ofPb_toPb (n : DomainKeyName) : DomainKeyName.ofPb n.toPb = n := rfl

theorem Shard.tryFrom_toPb (s : Shard) : Shard.tryFrom s.toPb = .ok s := by
  unfold Shard.tryFrom
  simp only [toPb, required_some, Except.ok_bind, QualifiedDomainName.tryFrom_toPb,
    domainTypeFromI32_toI32]
  rfl

/-! ## Instances -/

section
variable [UuidCrate]

/-- What a message of the location package with both required fields is decoded to. -/
theorem Instance.tryFromLocation_ok {p : locationPb.Instance} {ts : Timestamp} {id : InstanceId}
    {created : SystemTime} (hts : p.created = some ts) (hid : InstanceId.tryFrom p.id = .ok id)
    (hcreated : timestampToSystemTime ts = .ok created) :
    Instance.tryFromLocation p = .ok
      { id
        location := (p.location.map Location.ofPb).getD Location.default
        name := ⟨p.name⟩
        created
        endpoint := ⟨""⟩ } := by
  unfold Instance.tryFromLocation
  rw [hts, required_some, Except.ok_bind, hid]
  simp only [Except.mapError, Except.ok_bind, hcreated]
  rfl

/-- The location package's message, from which the endpoint is missing. -/
theorem Instance.tryFromLocation_toLocationPb
    (huuid : ∀ u : Uuid, UuidCrate.parseStr (UuidCrate.display u) = .ok u) (i : Instance)
    (h : 0 ≤ i.created.nanos) :
    Instance.tryFromLocation i.toLocationPb = .ok { i with endpoint := ⟨""⟩ } := by
  have hid : InstanceId.tryFrom i.toLocationPb.id = .ok i.id := by
    rw [InstanceId.tryFrom, toLocationPb, huuid]
    rfl
  exact Instance.tryFromLocation_ok rfl hid (timestampToSystemTime_systemTimeToTimestamp h)

/-- The instance with its endpoint. -/
theorem Instance.tryFrom_toPb
    (huuid : ∀ u : Uuid, UuidCrate.parseStr (UuidCrate.display u) = .ok u) (i : Instance)
    (h : 0 ≤ i.created.nanos) : Instance.tryFrom i.toPb = .ok i := by
  have hinner := Instance.tryFromLocation_toLocationPb huuid i h
  unfold Instance.tryFrom
  simp only [toPb, required_some, Except.ok_bind, hinner]
  rfl

/-- A decoded instance was created at or after the epoch. -/
theorem Instance.created_of_tryFromLocation {p : locationPb.Instance} {i : Instance}
    (h : Instance.tryFromLocation p = .ok i) : 0 ≤ i.created.nanos := by
  obtain ⟨ts, -, h⟩ := Except.bind_eq_ok.1 h
  obtain ⟨id, -, h⟩ := Except.bind_eq_ok.1 h
  obtain ⟨created, hcreated, h⟩ := Except.bind_eq_ok.1 h
  cases h
  rw [timestampToSystemTime_ok.1 hcreated]
  exact ts.instant_nonneg

theorem Instance.created_of_tryFrom {p : pb.Instance} {i : Instance}
    (h : Instance.tryFrom p = .ok i) : 0 ≤ i.created.nanos := by
  obtain ⟨inner, -, h⟩ := Except.bind_eq_ok.1 h
  obtain ⟨inst, hinst, h⟩ := Except.bind_eq_ok.1 h
  cases h
  exact Instance.created_of_tryFromLocation (i := inst) hinst

/-- **Wire round trip.** Instances, shards, keys and names are carried over the wire: decoding the
encoding of a value gives the value back, and whatever a message is decoded to is decoded from its
own encoding as well. For instances this rests on the identifier parser reading canonical texts. -/
theorem wire_round_trip
    (huuid : ∀ u : Uuid, UuidCrate.parseStr (UuidCrate.display u) = .ok u) :
    Codec Instance.tryFrom Instance.toPb (fun i => SystemTime.unixEpoch.nanos ≤ i.created.nanos) ∧
      Codec Shard.tryFrom Shard.toPb (fun _ => True) ∧
      Codec QualifiedDomainKey.tryFrom QualifiedDomainKey.toPb (fun _ => True) ∧
      Codec QualifiedDomainName.tryFrom QualifiedDomainName.toPb (fun _ => True) ∧
      Codec (fun p => .ok (DomainKeyName.ofPb p)) DomainKeyName.toPb (fun _ => True) :=
  ⟨.of_decode_encode (Instance.tryFrom_toPb huuid) fun _ _ => Instance.created_of_tryFrom,
    .total Shard.tryFrom_toPb, .total QualifiedDomainKey.tryFrom_toPb,
    .total QualifiedDomainName.tryFrom_toPb, .total fun n => congrArg _ n.ofPb_toPb⟩

end

/-- A consumer with an endpoint, created a second and a half after the epoch. -/
def advertised : Instance :=
  { id := ⟨⟨0xa⟩⟩
    location := ⟨⟨"eu"⟩, ⟨"node"⟩⟩
    name := ⟨"consumer"⟩
    created := ⟨1500000000, by decide, by decide⟩
    endpoint := ⟨"a:1"⟩ }

/-- It is carried with its endpoint, by the crate on canonical texts. -/
theorem advertised_round_trip :
    let := UuidCrate.canonical
    Instance.tryFrom advertised.toPb = .ok advertised :=
  let := UuidCrate.canonical
  (wire_round_trip Uuid.parseText_text).1.decode_encode advertised (by decide)

end Splitter
