import Splitter.Cluster.Refine
import Splitter.Driver.Instructions
import Splitter.Timestamp

/-!
# Messages that panic

The driver adds every timestamp it reads to the epoch, and an assignment without a lease gets one of
30 seconds from now; the addition panics where the sum is not a `SystemTime`. A panic ends the driver
task without its clean-up.

`Reads` lists the instants a computation forms, up to where it stops at an invalid field, and
`Traces` says that a computation panics exactly if one of them is out of range.
`completes_iff`: a frame is handled without a panic exactly if every instant its handling forms is
in range.
-/

namespace Splitter

/-! ## Instants -/

/-- A timestamp is out of range only by surplus nanoseconds, in the last two seconds of the range. -/
theorem Timestamp.instant_lt_iff (ts : Timestamp) :
    ts.instant < SystemTime.limit ↔
      ¬ (ts.seconds.toInt = 2 ^ 63 - 1 ∧ 1000000000 ≤ ts.nanos.toInt ∨
        ts.seconds.toInt = 2 ^ 63 - 2 ∧ 2000000000 ≤ ts.nanos.toInt) := by
  have hsecs := ts.seconds.toInt_lt
  have hnanos := ts.nanos.toInt_lt
  unfold instant SystemTime.limit nanosPerSec
  omega

/-- The computation panics. -/
def Panics {α : Type} (r : Result α) : Prop := r = .error .panic

/-- What does not panic forms no instant out of range. -/
theorem panics_iff_nil {α : Type} {r : Result α} (h : ¬ Panics r) :
    Panics r ↔ ∃ t ∈ ([] : List Int), SystemTime.limit ≤ t :=
  iff_of_false h (by simp)

/-- An addition to the clock panics exactly if the sum is out of range. -/
theorem SystemTime.add_panics (t : SystemTime) (d : Duration) :
    Panics (t.add d) ↔ SystemTime.limit ≤ t.nanos + d.nanos := by
  unfold Panics SystemTime.add SystemTime.limit
  split
  · next h => exact iff_of_false (fun h => by cases h) (Int.not_le.2 h)
  · next h => exact iff_of_true rfl (Int.not_lt.1 h)

/-- **A timestamp panics exactly if its instant is out of range.** -/
theorem timestampToSystemTime_panics (ts : Timestamp) :
    Panics (timestampToSystemTime ts) ↔ SystemTime.limit ≤ ts.instant := by
  rw [timestampToSystemTime_add, SystemTime.add_panics, ts.epoch_add_duration]

/-! ## Reads -/

/-- The instants a computation forms, and whether it then goes on. -/
structure Reads where
  instants : List Int
  goesOn : Bool

namespace Reads

/-- Nothing is read. -/
def nothing : Reads := { instants := [], goesOn := true }

/-- A field is checked. -/
def check (valid : Bool) : Reads := { instants := [], goesOn := valid }

/-- An instant is formed. -/
def one (t : Int) : Reads := { instants := [t], goesOn := true }

def andThen (p q : Reads) : Reads :=
  { instants := p.instants ++ if p.goesOn then q.instants else []
    goesOn := p.goesOn && q.goesOn }

/-- A loop. -/
def each {α : Type} (reads : α → Reads) : List α → Reads
  | [] => nothing
  | a :: as => (reads a).andThen (each reads as)

/-- A part that may be missing. -/
def ifPart {α : Type} (reads : α → Reads) : Option α → Reads
  | none => nothing
  | some a => reads a

@[simp] theorem andThen_nothing (p : Reads) : p.andThen nothing = p := by
  simp [andThen, nothing]

/-- Every instant is a `SystemTime`. -/
def InRange (p : Reads) : Prop := ∀ t ∈ p.instants, t < SystemTime.limit

theorem inRange_andThen {p q : Reads} :
    (p.andThen q).InRange ↔ p.InRange ∧ (p.goesOn = true → q.InRange) := by
  unfold InRange andThen
  cases p.goesOn <;> simp [or_imp, forall_and]

end Reads

/-- The computation panics exactly if an instant it forms is out of range, and succeeds exactly if
none is and no check fails. -/
structure Traces {α : Type} (r : Result α) (p : Reads) : Prop where
  panics : Panics r ↔ ¬ p.InRange
  succeeds : (∃ a, r = .ok a) ↔ p.goesOn = true ∧ p.InRange

namespace Traces

variable {α β : Type}

/-- A computation that cannot panic reads nothing. -/
theorem of_total {r : Result α} (h : ¬ Panics r) : Traces r (.check r.isOk) where
  panics := iff_of_false h (by simp [Reads.InRange, Reads.check])
  succeeds := by cases r <;> simp [Reads.InRange, Reads.check, Except.isOk, Except.toBool]

/-- An invalid field. -/
theorem invalid (e : ClientError) : Traces (.error (.error e) : Result α) (.check false) :=
  of_total fun h => by cases h

theorem pure (a : α) : Traces (Pure.pure a : Result α) .nothing := of_total fun h => by cases h

/-- A timestamp is read. -/
theorem timestamp (ts : Timestamp) : Traces (timestampToSystemTime ts) (.one ts.instant) where
  panics := by
    rw [timestampToSystemTime_panics]
    simp [Reads.InRange, Reads.one]
  succeeds := by
    have hp := timestampToSystemTime_panics ts
    have honly := Driver.PanicsOnly.timestampToSystemTime ts
    cases h : timestampToSystemTime ts with
    | ok t =>
      rw [h] at hp
      have : ¬ SystemTime.limit ≤ ts.instant := fun hle => by cases hp.2 hle
      simpa [Reads.InRange, Reads.one] using this
    | error fault =>
      cases fault with
      | error e => exact absurd h (honly e)
      | panic =>
        rw [h] at hp
        simpa [Reads.InRange, Reads.one] using hp.1 rfl

/-- **Two computations in a row** panic where the first does, and where the second does once the
first has succeeded. -/
theorem panics_bind {x : Result α} {f : α → Result β} {p q : Reads} (hx : Traces x p)
    (hf : ∀ a, x = .ok a → (Panics (f a) ↔ ¬ q.InRange)) :
    Panics (x >>= f) ↔ ¬ (p.andThen q).InRange := by
  rw [Reads.inRange_andThen]
  rcases x with (e | _) | a
  · have hrange : p.InRange := by
      by_contra h
      cases hx.panics.2 h
    refine iff_of_false (fun h => by cases h) fun h => h ⟨hrange, fun hgo => ?_⟩
    obtain ⟨a, ha⟩ := hx.succeeds.2 ⟨hgo, hrange⟩
    cases ha
  · exact iff_of_true rfl fun h => hx.panics.1 rfl h.1
  · obtain ⟨hgo, hrange⟩ := hx.succeeds.1 ⟨a, rfl⟩
    show Panics (f a) ↔ _
    rw [hf a rfl]
    simp [hgo, hrange]

/-- **Two computations in a row.** -/
theorem bind {x : Result α} {f : α → Result β} {p q : Reads} (hx : Traces x p)
    (hf : ∀ a, x = .ok a → Traces (f a) q) : Traces (x >>= f) (p.andThen q) where
  panics := hx.panics_bind fun a ha => (hf a ha).panics
  succeeds := by
    have hgoesOn : (p.andThen q).goesOn = true ↔ p.goesOn = true ∧ q.goesOn = true := by
      simp [Reads.andThen]
    rw [Reads.inRange_andThen, hgoesOn]
    constructor
    · rintro ⟨b, hb⟩
      obtain ⟨a, ha, hb⟩ := Except.bind_eq_ok.1 hb
      obtain ⟨hgo, hrange⟩ := hx.succeeds.1 ⟨a, ha⟩
      obtain ⟨hgo', hrange'⟩ := (hf a ha).succeeds.1 ⟨b, hb⟩
      exact ⟨⟨hgo, hgo'⟩, hrange, fun _ => hrange'⟩
    · rintro ⟨⟨hgo, hgo'⟩, hrange, hrange'⟩
      obtain ⟨a, ha⟩ := hx.succeeds.2 ⟨hgo, hrange⟩
      obtain ⟨b, hb⟩ := (hf a ha).succeeds.2 ⟨hgo', hrange' hgo⟩
      exact ⟨b, Except.bind_eq_ok.2 ⟨a, ha, hb⟩⟩

/-- A loop whose iterations read what their element holds. -/
theorem foldlM {σ : Type} {f : σ → α → Result σ} {reads : α → Reads}
    (hf : ∀ s a, Traces (f s a) (reads a)) (l : List α) (s : σ) :
    Traces (l.foldlM f s) (.each reads l) := by
  induction l generalizing s with
  | nil => exact .pure s
  | cons a l ih =>
    rw [List.foldlM_cons]
    exact (hf s a).bind fun t _ => ih t

/-- The same computation with another result. -/
theorem bind_pure {x : Result α} {p : Reads} (hx : Traces x p) (f : α → β) :
    Traces (x >>= fun a => Pure.pure (f a)) p := by
  have h := hx.bind fun a _ => pure (f a)
  rwa [Reads.andThen_nothing] at h

/-- A part that may be missing. -/
theorem mapM {f : α → Result β} {reads : α → Reads} (hf : ∀ a, Traces (f a) (reads a))
    (x : Option α) : Traces (x.mapM f) (.ifPart reads x) := by
  cases x with
  | none => exact .pure none
  | some a => exact (hf a).bind_pure some

end Traces

/-! ## Cluster messages -/

/-- The computation cannot panic. -/
theorem not_panics_of_bind {α β : Type} {x : Result α} {f : α → Result β} (hx : ¬ Panics x)
    (hf : ∀ a, ¬ Panics (f a)) : ¬ Panics (x >>= f) := by
  rcases x with (e | _) | a
  · exact fun h => by cases h
  · exact absurd rfl hx
  · exact hf a

theorem okOrInvalid_total {α : Type} (value : Option α) (msg : String) :
    ¬ Panics (okOrInvalid value msg) := by
  cases value <;> exact fun h => by cases h

/-- A shard holds no timestamp. -/
theorem shard_total (p : pb.Shard) : ¬ Panics (Shard.tryFrom p) := by
  refine not_panics_of_bind (okOrInvalid_total _ _) fun domain => ?_
  refine not_panics_of_bind ?_ fun _ h => by cases h
  exact not_panics_of_bind (okOrInvalid_total _ _) fun _ h => by cases h

namespace ClusterMap

theorem assignGrant_total (cid : ConsumerId) (m : ClusterMap) (g : pb.GrantInfo) :
    ¬ Panics (assignGrant cid m g) := by
  refine not_panics_of_bind (okOrInvalid_total _ _) fun s => ?_
  exact not_panics_of_bind (shard_total s) fun _ h => by cases h

theorem updateGrant_total (m : ClusterMap) (g : pb.GrantInfo) : ¬ Panics (m.updateGrant g) := by
  unfold updateGrant
  simp only
  split
  · exact fun h => by cases h
  · refine not_panics_of_bind ?_ fun _ h => by cases h
    cases g.shard with
    | none => exact fun h => by cases h
    | some s => exact shard_total s

end ClusterMap

/-- The entry of an assignment has a valid shard. -/
def pb.GrantInfo.valid (g : pb.GrantInfo) : Bool := g.shard.any fun s => (Shard.tryFrom s).isOk

/-- A grant is assigned exactly if its shard is valid. -/
theorem traces_assignGrant (cid : ConsumerId) (m : ClusterMap) (g : pb.GrantInfo) :
    Traces (ClusterMap.assignGrant cid m g) (.check g.valid) := by
  have heq : (ClusterMap.assignGrant cid m g).isOk = g.valid := by
    unfold ClusterMap.assignGrant pb.GrantInfo.valid
    cases g.shard with
    | none => rfl
    | some s =>
      rcases h : Shard.tryFrom s with fault | shard <;>
        simp [okOrInvalid, h, bind, Except.bind, pure, Except.pure, Except.isOk, Except.toBool]
  rw [← heq]
  exact .of_total (ClusterMap.assignGrant_total cid m g)

section
variable [UuidCrate]

/-- What the conversion of an instance reads: its id is checked before its time is converted. -/
def locationPb.Instance.reads (p : locationPb.Instance) : Reads :=
  match p.created with
  | none => .check false
  | some created => (Reads.check (InstanceId.tryFrom p.id).isOk).andThen (.one created.instant)

theorem traces_instance (p : locationPb.Instance) :
    Traces (Instance.tryFromLocation p) p.reads := by
  unfold Instance.tryFromLocation locationPb.Instance.reads
  cases p.created with
  | none => exact .invalid _
  | some created =>
    have hid : ∀ msg : String → String,
        Traces ((InstanceId.tryFrom p.id).mapError fun e => .error (.invalidMessage (msg e)))
          (.check (InstanceId.tryFrom p.id).isOk) := by
      intro msg
      cases InstanceId.tryFrom p.id with
      | ok id => exact .pure id
      | error e => exact .invalid _
    exact (hid _).bind fun id _ => (Traces.timestamp created).bind_pure _

/-- What the conversion of a consumer reads. -/
def pb.Instance.reads (p : pb.Instance) : Reads :=
  match p.instance with
  | none => .check false
  | some inner => inner.reads

theorem traces_consumer (p : pb.Instance) : Traces (Instance.tryFrom p) p.reads := by
  obtain ⟨inner, endpoint⟩ := p
  cases inner with
  | none => exact .invalid _
  | some inner => exact (traces_instance inner).bind_pure _

/-- What an assignment reads: the time of its consumer, and then no more. -/
def pb.Assignment.reads (a : pb.Assignment) : Reads :=
  match a.consumer with
  | none => .check false
  | some p => p.reads.andThen (.each (fun g => .check g.valid) a.grants)

theorem traces_applyAssignment (m : ClusterMap) (a : pb.Assignment) :
    Traces (m.applyAssignment a) a.reads := by
  obtain ⟨consumer, grants⟩ := a
  cases consumer with
  | none => exact .invalid _
  | some p =>
    exact (traces_consumer p).bind fun consumer _ =>
      .foldlM (traces_assignGrant consumer.id) grants (m.enterConsumer consumer)

theorem traces_changeAssign (m : ClusterMap) (as : List pb.Assignment) :
    Traces (m.changeAssign as) (.each pb.Assignment.reads as) :=
  .foldlM traces_applyAssignment as m

end

/-- A list of shards. -/
def shardReads (raw : List pb.Shard) : Reads := .check (raw.mapM Shard.tryFrom).isOk

theorem traces_decodeShards (raw : List pb.Shard) :
    Traces (ClusterMap.decodeShards raw) (shardReads raw) := by
  refine .of_total ?_
  induction raw with
  | nil => exact fun h => by cases h
  | cons s raw ih =>
    unfold ClusterMap.decodeShards
    rw [List.mapM_cons]
    exact not_panics_of_bind (shard_total s) fun _ => not_panics_of_bind ih fun _ h => by cases h

theorem traces_changeShards (m : ClusterMap) (raw : List pb.Shard) :
    Traces (m.changeShards raw) (shardReads raw) :=
  (traces_decodeShards raw).bind_pure _

/-- A block of a change that may be missing. -/
theorem traces_ifPart {α : Type} {block : ClusterMap → α → Result ClusterMap} {reads : α → Reads}
    (h : ∀ m a, Traces (block m a) (reads a)) (part : Option α) (m : ClusterMap) :
    Traces (ClusterMap.ifPart part m block) (.ifPart reads part) := by
  cases part with
  | none => exact .pure m
  | some a => exact h m a

/-- The last blocks of a change hold no timestamp. -/
theorem ifPart_total {α : Type} {block : ClusterMap → α → Result ClusterMap}
    (h : ∀ m a, ¬ Panics (block m a)) (part : Option α) (m : ClusterMap) :
    ¬ Panics (ClusterMap.ifPart part m block) := by
  cases part with
  | none => exact fun h => by cases h
  | some a => exact h m a

/-- What follows and cannot panic does not matter. -/
theorem panics_bind_of_total {α β : Type} {x : Result α} {f : α → Result β}
    (hf : ∀ a, ¬ Panics (f a)) : Panics (x >>= f) ↔ Panics x := by
  rcases x with fault | a
  · exact ⟨fun h => by cases h; rfl, fun h => by cases h; rfl⟩
  · exact iff_of_false (hf a) fun h => by cases h

theorem changeUpdate_total (m : ClusterMap) (grants : List pb.GrantInfo) :
    ¬ Panics (m.changeUpdate grants) := by
  unfold ClusterMap.changeUpdate
  induction grants generalizing m with
  | nil => exact fun h => by cases h
  | cons g grants ih =>
    rw [List.foldlM_cons]
    exact not_panics_of_bind (ClusterMap.updateGrant_total m g) fun m => ih m

section
variable [UuidCrate]

/-- What a change reads. -/
def pb.Change.reads (change : pb.Change) : Reads :=
  (Reads.ifPart shardReads change.shards).andThen
    (.ifPart (.each pb.Assignment.reads) change.assign)

theorem applyChange_panics (m : ClusterMap) (change : pb.Change) (version : Int64)
    (timestamp : SystemTime) :
    Panics (m.applyChange change version timestamp) ↔ ¬ change.reads.InRange := by
  have hremove : ∀ m, ¬ Panics (ClusterMap.ifPart change.remove m ClusterMap.changeRemove) :=
    ifPart_total (fun _ _ h => by cases h) _
  have hrest : ∀ m, ¬ Panics (ClusterMap.ifPart change.update m ClusterMap.changeUpdate >>=
      fun m => ClusterMap.ifPart change.unassign m ClusterMap.changeUnassign) := fun m =>
    not_panics_of_bind (ifPart_total changeUpdate_total _ m)
      (ifPart_total (fun _ _ h => by cases h) _)
  unfold ClusterMap.applyChange ClusterMap.changeParts
  rw [panics_bind_of_total hremove]
  simp only
  rw [← bind_assoc, panics_bind_of_total hrest]
  exact ((traces_ifPart traces_changeShards _ _).bind fun m _ =>
    traces_ifPart traces_changeAssign _ m).panics

/-- What a snapshot reads. -/
def pb.Snapshot.reads (snap : pb.Snapshot) : Reads :=
  (shardReads snap.shards).andThen
    ((Reads.ifPart locationPb.Instance.reads snap.origin).andThen
      (.each pb.Assignment.reads snap.assignments))

theorem traces_applySnapshot (snap : pb.Snapshot) (version : Int64) (timestamp : SystemTime) :
    Traces (ClusterMap.applySnapshot snap version timestamp) snap.reads :=
  (traces_decodeShards _).bind fun _ _ =>
    (Traces.mapM traces_instance _).bind fun _ _ => traces_changeAssign _ _

/-- What a cluster message reads. -/
def pb.ClusterMessage.reads (msg : pb.ClusterMessage) : Reads :=
  (Reads.ifPart (fun ts => .one ts.instant) msg.timestamp).andThen
    (match msg.msg with
    | some (.snapshot snap) => snap.reads
    | some (.change change) => change.reads
    | none => .check false)

/-- **A cluster message panics exactly if an instant it reads is out of range.** -/
theorem apply_panics (m : ClusterMap) (msg : pb.ClusterMessage) :
    Panics (m.apply msg) ↔ ¬ msg.reads.InRange := by
  have htimestamp : Traces (ClusterMap.messageTimestamp msg)
      (.ifPart (fun ts => .one ts.instant) msg.timestamp) := by
    unfold ClusterMap.messageTimestamp
    cases msg.timestamp with
    | none => exact .pure _
    | some ts => exact .timestamp ts
  refine htimestamp.panics_bind fun timestamp _ => ?_
  obtain ⟨body, id, version, _⟩ := msg
  rcases body with _ | (snap | change)
  · exact (Traces.invalid _).panics
  · exact (traces_applySnapshot snap version timestamp).panics
  · exact applyChange_panics m change version timestamp

/-! ## Frames -/

/-- The instants the handling of one entry forms. -/
def Instruction.instants : Instruction → List Int
  | .assign g now =>
    match decodedShard g with
    | none => []
    | some _ => [g.lease.elim (now.lease.nanos + 30 * nanosPerSec) Timestamp.instant]
  | .promote _ | .notify _ => []
  | .revoke g => (g.lease.map Timestamp.instant).toList
  | .extend lease => (lease.map Timestamp.instant).toList

/-- The instant the handling of a session frame forms. -/
def sessionPb.Message.instants (msg : sessionPb.Message) : List Int :=
  match msg.request with
  | some (.established (some ttl) _) | some (.ack (some ttl)) => [ttl.instant]
  | _ => []

/-- The instants the handling of a frame forms. -/
def Driver.instants (env : Env) (self : Driver) (join : pb.JoinMessage) : List Int :=
  match join.msg with
  | some (.session msg) => msg.instants
  | some (.consumer { msg := some (.cluster cm) }) => cm.reads.instants
  | some (.consumer { msg := some (.client client) }) =>
    (self.instructions env client).flatMap Instruction.instants
  | _ => []

/-- The driver's turn at a frame: its handling and the delay to the next heartbeat, at a reading of
the clock. -/
def Driver.turn (env : Env) (self : Driver) (join : pb.JoinMessage) (now : SystemTime) :
    Result (Option Duration) :=
  (self.handleInbound env join).2.map fun ttl => ttl.map fun ttl => heartbeatDelay ttl now

end

namespace Driver

/-- The lease an assignment starts with, the grant's own or 30 seconds from now. -/
theorem leaseExpiration_panics (now : SystemTime) (lease : Option Timestamp) :
    Panics (leaseExpiration now lease) ↔
      SystemTime.limit ≤ lease.elim (now.nanos + 30 * nanosPerSec) Timestamp.instant := by
  cases lease with
  | none => exact SystemTime.add_panics now _
  | some ts => exact timestampToSystemTime_panics ts

/-- An entry panics exactly if an instant it forms is out of range. -/
theorem perform_panics (self : Driver) (i : Instruction) :
    Panics (self.perform i).2 ↔ ∃ t ∈ i.instants, SystemTime.limit ≤ t := by
  have hlease : ∀ lease : Option Timestamp, Panics (lease.mapM timestampToSystemTime) ↔
      ∃ t ∈ (lease.map Timestamp.instant).toList, SystemTime.limit ≤ t := by
    intro lease
    rw [(Traces.mapM Traces.timestamp lease).panics]
    cases lease <;> simp [Reads.ifPart, Reads.InRange, Reads.nothing, Reads.one]
  cases i with
  | assign g now =>
    have hlease := leaseExpiration_panics now.lease g.lease
    simp only [perform, onAssign, Instruction.instants, decodedShard]
    cases g.shard.bind fun s => (Shard.tryFrom s).toOption with
    | none => exact panics_iff_nil fun h => by cases h
    | some shard =>
      simp only [List.mem_singleton, exists_eq_left, ← hlease]
      cases leaseExpiration now.lease g.lease with
      | error fault => simp [Panics]
      | ok expiration => exact iff_of_false (fun h => by cases h) fun h => by cases h
  | promote g =>
    refine iff_of_false (fun h => ?_) (by simp [Instruction.instants])
    simp only [perform, onPromote] at h
    split at h <;> cases h
  | revoke g =>
    rw [Instruction.instants, ← hlease]
    simp only [perform, onRevoke]
    cases g.lease.mapM timestampToSystemTime with
    | error fault => simp [Panics]
    | ok lease =>
      refine iff_of_false ?_ fun h => by cases h
      simp only
      split <;> exact fun h => by cases h
  | notify n => exact panics_iff_nil fun h => by cases h
  | extend lease =>
    rw [Instruction.instants, ← hlease]
    simp only [perform, onExtend]
    rcases lease.mapM timestampToSystemTime with fault | (_ | lease)
    · simp [Panics]
    · exact iff_of_false (fun h => by cases h) fun h => by cases h
    · exact iff_of_false (fun h => by cases h) fun h => by cases h

/-- An entry that fails panics. -/
theorem perform_panicsOnly (self : Driver) (i : Instruction) : PanicsOnly (self.perform i).2 := by
  cases i with
  | assign g now => exact onAssign_panicsOnly _ self g
  | promote g => exact onPromote_panicsOnly self g
  | revoke g => exact onRevoke_panicsOnly self g
  | notify n => exact .pure ()
  | extend lease => exact onExtend_panicsOnly self lease

/-- So does a list of entries. -/
theorem follow_panics (self : Driver) (is : List Instruction) :
    Panics (self.follow is).2 ↔ ∃ t ∈ is.flatMap Instruction.instants, SystemTime.limit ≤ t := by
  induction is generalizing self with
  | nil => exact panics_iff_nil fun h => by cases h
  | cons i is ih =>
    have hi := self.perform_panics i
    have honly := self.perform_panicsOnly i
    simp only [List.flatMap_cons, List.mem_append, or_and_right, exists_or, ← hi, follow]
    rcases hperform : self.perform i with ⟨next, (e | _) | _⟩
    · exact absurd (congrArg Prod.snd hperform) (honly e)
    · exact iff_of_true rfl (.inl rfl)
    · rw [ih next]
      exact (or_iff_right fun h => by cases h).symm

theorem handleSession_panics (msg : sessionPb.Message) :
    Panics (handleSession msg) ↔ ∃ t ∈ msg.instants, SystemTime.limit ≤ t := by
  have hclassify : Panics (handleSession msg) ↔ Panics (classify msg) := by
    unfold handleSession
    rcases classify msg with fault | (_ | _ | _ | _)
    · simp [Panics]
    all_goals exact iff_of_false (fun h => by cases h) fun h => by cases h
  have htime : ∀ (ts : Timestamp) (f : SystemTime → SessionEvent),
      Panics (timestampToSystemTime ts >>= fun t => pure (some (f t))) ↔
        ∃ t ∈ [ts.instant], SystemTime.limit ≤ t := by
    intro ts f
    rw [panics_bind_of_total (fun _ h => by cases h), timestampToSystemTime_panics]
    simp
  rw [hclassify]
  obtain ⟨_ | request⟩ := msg
  · exact panics_iff_nil fun h => by cases h
  cases request with
  | established ttl server =>
    cases ttl with
    | none => exact panics_iff_nil fun h => by cases h
    | some ttl => exact htime ttl .established
  | ack ttl =>
    cases ttl with
    | none => exact panics_iff_nil fun h => by cases h
    | some ttl => exact htime ttl .heartbeatAck
  | _ => exact panics_iff_nil fun h => by cases h

/-- The same failure with another result. -/
theorem panics_map {α β : Type} (x : Result α) (f : α → β) : Panics (x.map f) ↔ Panics x := by
  rcases x with (e | _) | a <;> simp [Panics, Except.map]

section
variable [UuidCrate]

/-- The handling of a frame panics exactly if an instant it forms is out of range. -/
theorem handleInbound_panics (env : Env) (self : Driver) (join : pb.JoinMessage) :
    Panics (self.handleInbound env join).2 ↔
      ∃ t ∈ self.instants env join, SystemTime.limit ≤ t := by
  obtain ⟨_ | (msg | ⟨_ | (client | cm)⟩)⟩ := join
  · exact panics_iff_nil fun h => by cases h
  · exact handleSession_panics msg
  · exact panics_iff_nil fun h => by cases h
  · show Panics ((self.handleClientMessage env client).2.map _) ↔ _
    rw [panics_map, handleClientMessage_follow]
    exact follow_panics self _
  · show Panics ((self.handleCluster env cm).2.map _) ↔ _
    have happly : Panics (self.handleCluster env cm).2 ↔ Panics (self.cluster.apply cm) := by
      unfold handleCluster
      rcases self.cluster.apply cm with (e | _) | next
      · exact iff_of_false (fun h => by cases h) fun h => by cases h
      · exact iff_of_true rfl rfl
      · exact iff_of_false (fun h => by cases h) fun h => by cases h
    rw [panics_map, happly, apply_panics, Reads.InRange]
    push Not
    exact Iff.rfl

/-- **When a frame is handled without a panic**: exactly if every instant its handling forms is a
`SystemTime`, whatever the driver, the clock and the frame. -/
theorem completes_iff (env : Env) (self : Driver) (join : pb.JoinMessage) (now : SystemTime) :
    ¬ Panics (self.turn env join now) ↔ ∀ t ∈ self.instants env join, t < SystemTime.limit := by
  have hturn : Panics (self.turn env join now) ↔ Panics (self.handleInbound env join).2 :=
    panics_map _ _
  rw [hturn, self.handleInbound_panics env join]
  push Not
  exact Iff.rfl

end

/-- The coordinator extends every lease, to the first instant out of range. -/
def lateExtend : pb.JoinMessage :=
  Loop.wrapClient (.extend (some { seconds := 9223372036854775807, nanos := 1000000000 }))

/-- **A message panics the driver**: the nanoseconds of its timestamp carry the seconds past the
range of the clock. -/
theorem lateExtend_panics :
    let := UuidCrate.pair
    ¬ ∀ (env : Env) (self : Driver) (join : pb.JoinMessage) (now : SystemTime),
      ¬ Panics (self.turn env join now) := by
  let := UuidCrate.pair
  have hpanics : Panics (initial.turn Loop.epochEnv lateExtend SystemTime.unixEpoch) := by
    unfold Panics
    decide +kernel
  exact fun h => h _ _ _ _ hpanics

end Driver

end Splitter
