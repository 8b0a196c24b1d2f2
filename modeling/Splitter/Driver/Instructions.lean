import Splitter.Driver.Loop
import Splitter.Driver.Exit

/-!
# One grant at a time

A client message is a list of entries, and a handler takes them one after the other: an
`Instruction` is one such entry. `GrantRecord.receive` is what an instruction means for the one
grant it is about, whatever else the driver holds. `record_perform` and `record_follow`: the driver
does for each grant exactly that, so what it keeps of a grant is a function of the instructions that
concern it (`Loop.Tracks`).
-/

namespace Splitter

/-- One entry of a client message, as its handler takes it; an assignment is taken with the readings
of the clock it is given. -/
inductive Instruction
  | assign (g : pb.Grant) (now : Readings)
  | promote (g : pb.Grant)
  | revoke (g : pb.Grant)
  | notify (n : pb.Notify)
  | extend (lease : Option Timestamp)

namespace Instruction

/-- The instruction concerns a grant: it names it, or it extends every lease. -/
def concerns (id : GrantId) : Instruction → Bool
  | .assign g _ | .promote g | .revoke g => decide (id = ⟨g.id⟩)
  | .notify n => decide (n.target.map (fun target => GrantId.mk target.id) = some id)
  | .extend _ => true

end Instruction

namespace Driver

/-! ## Messages as instructions -/

/-- The handler of an entry. -/
def perform (self : Driver) : Instruction → Driver × Result Unit
  | .assign g now => onAssign (fun _ => now) self g
  | .promote g => self.onPromote g
  | .revoke g => self.onRevoke g
  | .notify n => (self.onNotify n, pure ())
  | .extend lease => self.onExtend lease

/-- The handlers of a list of entries, which a panic ends. -/
def follow (self : Driver) : List Instruction → Driver × Result Unit
  | [] => (self, pure ())
  | i :: is =>
    match self.perform i with
    | (self, .ok ()) => follow self is
    | (self, .error fault) => (self, .error fault)

/-- The entries of an `Assign`, each with the readings it is given. -/
def assignInstructions (clock : OwnershipRef → Readings) (self : Driver) :
    List pb.Grant → List Instruction
  | [] => []
  | g :: grants =>
    .assign g (clock self.next) :: assignInstructions clock (onAssign clock self g).1 grants

/-- The entries of a client message. -/
def instructions (env : Env) (self : Driver) (msg : pb.ClientMessage) : List Instruction :=
  match msg.msg with
  | some (.assign grants) => assignInstructions env.clock self grants
  | some (.promote grants) => grants.map .promote
  | some (.revoke grants) => grants.map .revoke
  | some (.notify n) => [.notify n]
  | some (.extend lease) => [.extend lease]
  | _ => []

/-- The entries of a frame. -/
def frameInstructions (env : Env) (self : Driver) (join : pb.JoinMessage) : List Instruction :=
  match join.msg with
  | some (.consumer { msg := some (.client client) }) => self.instructions env client
  | _ => []

theorem onAssign_readings (clock : OwnershipRef → Readings) (self : Driver) (g : pb.Grant) :
    onAssign clock self g = self.perform (.assign g (clock self.next)) := rfl

theorem forGrants_follow {f : Driver → pb.Grant → Driver × Result Unit}
    {e : pb.Grant → Instruction} (hf : ∀ self g, f self g = perform self (e g))
    (self : Driver) (grants : List pb.Grant) :
    self.forGrants f grants = self.follow (grants.map e) := by
  induction grants generalizing self with
  | nil => rfl
  | cons g grants ih =>
    simp only [forGrants, List.map_cons, follow, hf]
    rcases self.perform (e g) with ⟨next, fault | _⟩
    · rfl
    · exact ih next

theorem forGrants_assign (clock : OwnershipRef → Readings) (self : Driver)
    (grants : List pb.Grant) :
    self.forGrants (onAssign clock) grants = self.follow (assignInstructions clock self grants) := by
  induction grants generalizing self with
  | nil => rfl
  | cons g grants ih =>
    simp only [forGrants, assignInstructions, follow, ← onAssign_readings]
    rcases onAssign clock self g with ⟨next, fault | _⟩
    · rfl
    · exact ih next

/-- **A client message is handled entry by entry.** -/
theorem handleClientMessage_follow (env : Env) (self : Driver) (msg : pb.ClientMessage) :
    self.handleClientMessage env msg = self.follow (self.instructions env msg) := by
  rcases msg with ⟨_ | msg⟩
  · rfl
  · cases msg with
    | assign grants => exact forGrants_assign env.clock self grants
    | promote grants => exact forGrants_follow (e := .promote) (fun _ _ => rfl) self grants
    | revoke grants => exact forGrants_follow (e := .revoke) (fun _ _ => rfl) self grants
    | extend lease =>
      show self.onExtend lease = _
      simp only [instructions, follow, perform]
      rcases self.onExtend lease with ⟨next, fault | _⟩ <;> rfl
    | _ => rfl

end Driver

/-! ## What an instruction means for one grant -/

/-- The shard of a grant on the wire, if it has a valid one. -/
def decodedShard (g : pb.Grant) : Option Shard :=
  g.shard.bind fun s => (Shard.tryFrom s).toOption

/-- What the driver keeps of one grant: its entry, and the ownership the entry points to. -/
structure GrantRecord where
  pbGrant : pb.Grant
  revoked : Bool
  ownership : Ownership
  deriving DecidableEq

namespace GrantRecord

/-- The record an assignment starts, unless the shard is missing or invalid or the lease panics. -/
def assigned (g : pb.Grant) (now : Readings) : Option GrantRecord :=
  match decodedShard g, Driver.leaseExpiration now.lease g.lease with
  | some _, .ok expiration =>
    let state := grantStateFromI32 g.state
    some
      { pbGrant := g
        revoked := decide (state = GrantState.revoked ∨ state = GrantState.revokedUnloaded)
        ownership := Ownership.new state expiration now.created }
  | _, _ => none

/-- An ownership after a lease, if the message carries one. -/
def setLease (o : Ownership) (lease : Option SystemTime) : Ownership :=
  lease.elim o o.setExpiration

/-- An ownership after a notification that its counterpart is in a state. -/
def notified (o : Ownership) : GrantState → Ownership
  | .allocatedLoaded => o.counterpartLoaded
  | .revokedUnloaded => o.counterpartUnloaded
  | _ => o

/-- What an instruction that concerns a grant makes of its record; one that panics leaves it. -/
def receive (rec : Option GrantRecord) : Instruction → Option GrantRecord
  | .assign g now => (assigned g now).or rec
  | .promote g => rec.map fun rec => { rec with pbGrant := g, ownership := rec.ownership.activate }
  | .revoke g =>
    match g.lease.mapM timestampToSystemTime with
    | .error _ => rec
    | .ok lease =>
      rec.map fun rec =>
        { pbGrant := g, revoked := true, ownership := (setLease rec.ownership lease).revoke }
  | .notify n =>
    match n.update with
    | none => rec
    | some update =>
      rec.map fun rec =>
        { rec with ownership := notified rec.ownership (grantStateFromI32 update.state) }
  | .extend lease =>
    match lease.mapM timestampToSystemTime with
    | .ok (some lease) =>
      rec.map fun rec =>
        if rec.revoked then rec else { rec with ownership := rec.ownership.setExpiration lease }
    | _ => rec

end GrantRecord

namespace Driver

/-- What the driver keeps of a grant, with the ownerships in a memory. -/
def grantRecord (mem : Memory) (self : Driver) (id : GrantId) : Option GrantRecord :=
  (self.grants.lookup id).bind fun entry =>
    (mem entry.ownership).map fun ownership =>
      { pbGrant := entry.pbGrant, revoked := entry.revoked, ownership }

/-- The entries of the table have ownerships of their own. -/
def Apart (self : Driver) : Prop :=
  ∀ id id' entry entry', self.grants.lookup id = some entry →
    self.grants.lookup id' = some entry' → entry.ownership = entry'.ownership → id = id'

end Driver

/-! ## Changes of one ownership -/

theorem Memory.modify_apply (mem : Memory) (r k : OwnershipRef) (f : Ownership → Ownership) :
    mem.modify r f k = if k = r then (mem k).map f else mem k := by
  split
  · next hk => rw [hk, modify, Function.update_self]
  · next hk => rw [modify, Function.update_of_ne hk]

/-- A lease for several ownerships. -/
theorem Effect.foldl_setExpiration (lease : SystemTime) (refs : List OwnershipRef) (mem : Memory)
    (k : OwnershipRef) :
    (refs.map fun r => Effect.setExpiration r lease).foldl Effect.exec mem k =
      if k ∈ refs then (mem k).map fun o => o.setExpiration lease else mem k := by
  induction refs generalizing mem with
  | nil => simp
  | cons r refs ih =>
    rw [List.map_cons, List.foldl_cons, ih]
    show (if k ∈ refs then ((mem.modify r fun o => o.setExpiration lease) k).map _ else
      (mem.modify r fun o => o.setExpiration lease) k) = _
    rw [Memory.modify_apply]
    by_cases hk : k = r <;> by_cases hmem : k ∈ refs <;>
      simp [hk, hmem, Function.comp_def, Ownership.setExpiration]

namespace Driver

/-- A grant that is not in the table has no record to change. -/
theorem grantRecord_absent {d : Driver} {k : GrantId} (hnone : d.grants.lookup k = none)
    (mem : Memory) (change : GrantRecord → GrantRecord) (id : GrantId) :
    grantRecord mem d id =
      if id = k then (grantRecord mem d id).map change else grantRecord mem d id := by
  split
  · next hid =>
    subst hid
    have hrec : grantRecord mem d id = none := by rw [grantRecord, hnone]; rfl
    rw [hrec]
    rfl
  · rfl

/-- The entry of one id is overwritten and its ownership changed: the other grants keep their
records. -/
theorem grantRecord_touch {mem mem' : Memory} {d d' : Driver} (hd : d.Apart) {k : GrantId}
    {entry new : ActiveGrant} {f : Ownership → Ownership} {change : GrantRecord → GrantRecord}
    (hentry : d.grants.lookup k = some entry)
    (hlookup : ∀ id, d'.grants.lookup id = if id = k then some new else d.grants.lookup id)
    (hown : new.ownership = entry.ownership)
    (hmem : ∀ r, mem' r = if r = entry.ownership then (mem r).map f else mem r)
    (hchange : ∀ o, change { pbGrant := entry.pbGrant, revoked := entry.revoked, ownership := o } =
      { pbGrant := new.pbGrant, revoked := new.revoked, ownership := f o }) (id : GrantId) :
    grantRecord mem' d' id =
      if id = k then (grantRecord mem d id).map change else grantRecord mem d id := by
  unfold grantRecord
  rw [hlookup]
  split
  · next hid =>
    rw [hid, hentry, Option.bind_some, Option.bind_some, hown, hmem, if_pos rfl, Option.map_map,
      Option.map_map]
    congr 1
    funext o
    exact (hchange o).symm
  · next hne =>
    cases hl : d.grants.lookup id with
    | none => rfl
    | some other =>
      have hother : other.ownership ≠ entry.ownership := fun heq => hne (hd _ _ _ _ hl hentry heq)
      rw [Option.bind_some, Option.bind_some, hmem, if_neg hother]

/-- A table with the same ownerships under the same ids. -/
theorem Apart.congr {d d' : Driver} (h : d.Apart)
    (heq : ∀ k, (d'.grants.lookup k).map (·.ownership) = (d.grants.lookup k).map (·.ownership)) :
    d'.Apart := by
  have hback : ∀ k entry', d'.grants.lookup k = some entry' →
      ∃ entry, d.grants.lookup k = some entry ∧ entry.ownership = entry'.ownership := by
    intro k entry' hk
    have hmap := heq k
    rw [hk] at hmap
    exact Option.map_eq_some_iff.1 hmap.symm
  intro id id' entry entry' hid hid' hown
  obtain ⟨old, hold, hown₁⟩ := hback id entry hid
  obtain ⟨old', hold', hown₂⟩ := hback id' entry' hid'
  exact h id id' old old' hold hold' (by rw [hown₁, hown₂, hown])

/-- **Every edit keeps the entries apart**: a new entry gets an ownership that no entry has. -/
theorem Apart.edit {log : List Effect} {d d' : Driver} (h : d.Apart)
    (hl : Ledger (log ++ d.pending) d) (he : Edit d d') : d'.Apart := by
  have hold : ∀ id entry, d.grants.lookup id = some entry → entry.ownership ≠ d.next := by
    intro id entry hentry heq
    have hsome := hl.held id entry hentry
    rw [heq, hl.fresh _ (Nat.le_refl _)] at hsome
    cases hsome
  cases he with
  | remove k =>
    intro id id' entry entry' hid hid'
    rw [lookup_removeGrant] at hid hid'
    split at hid
    · cases hid
    split at hid'
    · cases hid'
    exact h id id' entry entry' hid hid'
  | enter g shard expiration now hfree =>
    intro id id' entry entry' hid hid' heq
    replace hid := (AList.lookup_insert_ite _ _ _ _).symm.trans hid
    replace hid' := (AList.lookup_insert_ite _ _ _ _).symm.trans hid'
    split at hid <;> split at hid'
    · next hk hk' => rw [hk, hk']
    · next hk hk' =>
      cases hid
      exact absurd heq.symm (hold _ _ hid')
    · next hk hk' =>
      cases hid'
      exact absurd heq (hold _ _ hid)
    · exact h id id' entry entry' hid hid' heq
  | promote g entry hentry => exact h.congr (Ledger.map_insert hentry rfl)
  | revoke g newExpiration entry hentry => exact h.congr (Ledger.map_insert hentry rfl)
  | notify | extend | publish => exact h

/-- The ledger and the separation of the entries, kept together. -/
theorem Apart.edits {log : List Effect} {d d' : Driver} (h : d.Apart)
    (hl : Ledger (log ++ d.pending) d) (he : Edits d d') : d'.Apart :=
  (he.invariant (I := fun d => Ledger (log ++ d.pending) d ∧ d.Apart)
    (fun _ _ hd hstep => ⟨hd.1.edit hstep, hd.2.edit hd.1 hstep⟩) ⟨hl, h⟩).2

/-! ## One instruction -/

/-- The memory once everything pending is carried out. -/
def settled (log : List Effect) (self : Driver) : Memory := Effect.memoryAfter (log ++ self.pending)

theorem settled_emit (log : List Effect) (d d' : Driver) {effects : List Effect}
    (h : d'.pending = d.pending ++ effects) :
    settled log d' = effects.foldl Effect.exec (settled log d) := by
  rw [settled, h, ← List.append_assoc, Effect.memoryAfter_append]
  rfl

/-- An extension reaches the ownerships of the entries that are not revoked. -/
theorem mem_extended {d : Driver} {r : OwnershipRef} :
    r ∈ d.extended ↔
      ∃ id entry, d.grants.lookup id = some entry ∧ entry.revoked = false ∧ entry.ownership = r := by
  simp only [extended, List.mem_map, List.mem_filter, Bool.not_eq_true']
  constructor
  · rintro ⟨⟨id, entry⟩, ⟨hmem, hrevoked⟩, rfl⟩
    exact ⟨id, entry, AList.mem_lookup_iff.2 hmem, hrevoked, rfl⟩
  · rintro ⟨id, entry, hentry, hrevoked, rfl⟩
    exact ⟨⟨id, entry⟩, ⟨AList.mem_lookup_iff.1 hentry, hrevoked⟩, rfl⟩

/-- It reaches the ownership of an entry exactly if that entry is not revoked. -/
theorem Apart.extended_iff {d : Driver} (hd : d.Apart) {id : GrantId} {entry : ActiveGrant}
    (hentry : d.grants.lookup id = some entry) :
    entry.ownership ∈ d.extended ↔ entry.revoked = false := by
  rw [mem_extended]
  constructor
  · rintro ⟨id', entry', hentry', hrevoked, heq⟩
    obtain rfl := hd _ _ _ _ hentry' hentry heq
    rw [hentry] at hentry'
    cases hentry'
    exact hrevoked
  · exact fun hrevoked => ⟨id, entry, hentry, hrevoked, rfl⟩

/-- A fresh ownership is no entry's. -/
theorem grantRecord_enter {log : List Effect} {d : Driver} (hl : Ledger (log ++ d.pending) d)
    (g : pb.Grant) (shard : Shard) (expiration now : SystemTime) (id : GrantId) :
    let d' := d.enterGrant g shard expiration now
    grantRecord (settled log d') d' id =
      if id = ⟨g.id⟩ then
        some
          { pbGrant := g
            revoked := decide (grantStateFromI32 g.state = GrantState.revoked ∨
              grantStateFromI32 g.state = GrantState.revokedUnloaded)
            ownership := Ownership.new (grantStateFromI32 g.state) expiration now }
      else grantRecord (settled log d) d id := by
  intro d'
  have hlookup : d'.grants.lookup id = if id = ⟨g.id⟩ then _ else d.grants.lookup id :=
    AList.lookup_insert_ite ..
  have hmem : settled log d' = Function.update (settled log d) d.next
      (some (Ownership.new (grantStateFromI32 g.state) expiration now)) :=
    settled_emit log d d' rfl
  rw [grantRecord, grantRecord, hlookup, hmem]
  split
  · rw [Option.bind_some, Function.update_self]
    rfl
  · cases hentry : d.grants.lookup id with
    | none => rfl
    | some entry =>
      have hne : entry.ownership ≠ d.next := by
        intro heq
        have hsome := hl.held id entry hentry
        rw [heq, hl.fresh _ (Nat.le_refl _)] at hsome
        cases hsome
      rw [Option.bind_some, Option.bind_some, Function.update_of_ne hne]

section
variable {log : List Effect} {d : Driver} (hd : d.Apart)
include hd

/-- A removed grant has no record, and the others keep theirs. -/
theorem grantRecord_remove (k id : GrantId) :
    grantRecord (settled log (d.removeGrant k)) (d.removeGrant k) id =
      if id = k then none else grantRecord (settled log d) d id := by
  have hlookup := d.lookup_removeGrant k id
  split
  · next hid =>
    rw [if_pos hid] at hlookup
    rw [grantRecord, hlookup]
    rfl
  · next hid =>
    rw [if_neg hid] at hlookup
    rw [grantRecord, grantRecord, hlookup]
    cases hentry : d.grants.lookup id with
    | none => rfl
    | some entry =>
      rw [Option.bind_some, Option.bind_some]
      congr 1
      unfold removeGrant
      cases hold : d.grants.lookup k with
      | none => rfl
      | some old =>
        have hne : entry.ownership ≠ old.ownership := fun heq => hid (hd _ _ _ _ hentry hold heq)
        rw [settled_emit log d _ rfl]
        show (settled log d).modify _ _ _ = _
        rw [Memory.modify_apply, if_neg hne]

/-- An assignment starts a new record, or does nothing at all. -/
theorem grantRecord_assign (hl : Ledger (log ++ d.pending) d) (g : pb.Grant) (now : Readings)
    (id : GrantId) :
    let d' := (d.perform (.assign g now)).1
    grantRecord (settled log d') d' id =
      if id = ⟨g.id⟩ then GrantRecord.receive (grantRecord (settled log d) d id) (.assign g now)
      else grantRecord (settled log d) d id := by
  simp only [perform, onAssign, GrantRecord.receive, GrantRecord.assigned, decodedShard]
  split
  · next hnone =>
    rw [hnone]
    exact (ite_self _).symm
  · next shard hshard =>
    rw [hshard]
    cases hexp : leaseExpiration now.lease g.lease with
    | error fault => exact (ite_self _).symm
    | ok expiration =>
      have hremoved := hd.edit hl (.remove d ⟨g.id⟩)
      refine (grantRecord_enter (hl.removeGrant ⟨g.id⟩) g shard expiration _ id).trans ?_
      split
      · rfl
      · next hne => rw [grantRecord_remove hd, if_neg hne]

theorem grantRecord_promote (g : pb.Grant) (id : GrantId) :
    let d' := (d.perform (.promote g)).1
    grantRecord (settled log d') d' id =
      if id = ⟨g.id⟩ then GrantRecord.receive (grantRecord (settled log d) d id) (.promote g)
      else grantRecord (settled log d) d id := by
  cases hentry : d.grants.lookup ⟨g.id⟩ with
  | none =>
    have hself : (d.perform (.promote g)).1 = d := by simp only [perform, onPromote, hentry]
    rw [hself]
    exact grantRecord_absent hentry _ _ id
  | some entry =>
    have hself : (d.perform (.promote g)).1 = d.promoteEntry g entry := by
      simp only [perform, onPromote, hentry]
    rw [hself]
    have hlookup : ∀ id, (d.promoteEntry g entry).grants.lookup id =
        if id = ⟨g.id⟩ then some { entry with pbGrant := g } else d.grants.lookup id :=
      fun id => AList.lookup_insert_ite ..
    refine grantRecord_touch (f := Ownership.activate) hd hentry hlookup rfl (fun r => ?_)
      (fun o => rfl) id
    rw [settled_emit log d (d.promoteEntry g entry) rfl]
    exact Memory.modify_apply ..

theorem grantRecord_revoke (g : pb.Grant) (id : GrantId) :
    let d' := (d.perform (.revoke g)).1
    grantRecord (settled log d') d' id =
      if id = ⟨g.id⟩ then GrantRecord.receive (grantRecord (settled log d) d id) (.revoke g)
      else grantRecord (settled log d) d id := by
  simp only [perform, onRevoke, GrantRecord.receive]
  cases hlease : g.lease.mapM timestampToSystemTime with
  | error fault => exact (ite_self _).symm
  | ok lease =>
    cases hentry : d.grants.lookup ⟨g.id⟩ with
    | none => exact grantRecord_absent hentry _ _ id
    | some entry =>
      have hlookup : ∀ id, (d.revokeEntry g lease entry).grants.lookup id =
          if id = ⟨g.id⟩ then some { entry with revoked := true, pbGrant := g }
          else d.grants.lookup id := fun id => AList.lookup_insert_ite ..
      refine grantRecord_touch (f := fun o => (GrantRecord.setLease o lease).revoke) hd hentry
        hlookup rfl (fun r => ?_) (fun o => rfl) id
      rw [settled_emit log d (d.revokeEntry g lease entry) rfl]
      cases lease with
      | none => exact Memory.modify_apply ..
      | some lease =>
        show ((settled log d).modify _ _).modify _ _ r = _
        rw [Memory.modify_apply, Memory.modify_apply]
        split
        · rw [Option.map_map]; rfl
        · rfl

theorem grantRecord_notify (n : pb.Notify) (id : GrantId) :
    let d' := (d.perform (.notify n)).1
    grantRecord (settled log d') d' id =
      if (Instruction.notify n).concerns id then
        GrantRecord.receive (grantRecord (settled log d) d id) (.notify n)
      else grantRecord (settled log d) d id := by
  rcases n with ⟨update, _ | target⟩
  · rfl
  cases update with
  | none => exact (ite_self _).symm
  | some update =>
    have hconcerns : (Instruction.concerns id (.notify ⟨some update, some target⟩) = true) =
        (id = ⟨target.id⟩) := by
      simp [Instruction.concerns, eq_comm]
    simp only [hconcerns, perform, onNotify, GrantRecord.receive]
    cases hentry : d.grants.lookup ⟨target.id⟩ with
    | none => exact grantRecord_absent hentry _ _ id
    | some entry =>
      set state := grantStateFromI32 update.state
      have hlookup : ∀ id, (d.notifyEntry state entry).grants.lookup id =
          if id = ⟨target.id⟩ then some entry else d.grants.lookup id := by
        intro id
        split
        · next hid => rw [hid]; exact hentry
        · rfl
      refine grantRecord_touch (f := fun o => GrantRecord.notified o state) hd hentry
        hlookup rfl (fun r => ?_) (fun o => rfl) id
      rw [settled_emit log d (d.notifyEntry state entry) rfl]
      cases state with
      | allocatedLoaded | revokedUnloaded => exact Memory.modify_apply ..
      | _ => exact (by simp [notifyEffects, GrantRecord.notified])

/-- An extension reaches every grant that is not revoked. -/
theorem grantRecord_extend (lease : Option Timestamp) (id : GrantId) :
    let d' := (d.perform (.extend lease)).1
    grantRecord (settled log d') d' id =
      GrantRecord.receive (grantRecord (settled log d) d id) (.extend lease) := by
  simp only [perform, onExtend, GrantRecord.receive]
  split
  · next hlease => rw [hlease]
  · next hlease => rw [hlease]
  · next newLease hlease =>
    rw [hlease, settled_emit log d (d.extendLeases newLease) rfl]
    unfold grantRecord
    show (d.grants.lookup id).bind _ = _
    cases hentry : d.grants.lookup id with
    | none => rfl
    | some entry =>
      have hiff := hd.extended_iff hentry
      rw [Option.bind_some, Option.bind_some, Effect.foldl_setExpiration]
      show _ = (((settled log d) entry.ownership).map _).map _
      rw [Option.map_map]
      split
      · next hmem =>
        rw [Option.map_map]
        congr 1
        funext o
        simp [hiff.1 hmem]
      · next hmem =>
        congr 1
        funext o
        have hrevoked : entry.revoked = true := by simpa using mt hiff.2 hmem
        simp [hrevoked]

/-- **One instruction, one grant**: the grant it concerns makes of it what the instruction means, and
the others keep their records. -/
theorem grantRecord_perform (hl : Ledger (log ++ d.pending) d) (i : Instruction) (id : GrantId) :
    grantRecord (settled log (d.perform i).1) (d.perform i).1 id =
      if i.concerns id then GrantRecord.receive (grantRecord (settled log d) d id) i
      else grantRecord (settled log d) d id := by
  cases i with
  | assign g now => simpa [Instruction.concerns] using grantRecord_assign hd hl g now id
  | promote g => simpa [Instruction.concerns] using grantRecord_promote hd g id
  | revoke g => simpa [Instruction.concerns] using grantRecord_revoke hd g id
  | notify n => exact grantRecord_notify hd n id
  | extend lease => exact grantRecord_extend hd lease id

end

/-! ## Lists of instructions -/

/-- What every instruction keeps, a list of them keeps. -/
theorem follow_invariant {P : Driver → Prop} (hstep : ∀ d i, P d → P (d.perform i).1) {d : Driver}
    (h : P d) (is : List Instruction) : P (d.follow is).1 := by
  induction is generalizing d with
  | nil => exact h
  | cons i is ih =>
    have hi := hstep d i h
    simp only [follow]
    rcases hperform : d.perform i with ⟨next, fault | _⟩
    · rw [hperform] at hi
      exact hi
    · rw [hperform] at hi
      exact ih hi

theorem perform_edits (self : Driver) (i : Instruction) : Edits self (self.perform i).1 := by
  cases i with
  | assign g now => exact onAssign_edits _ self g
  | promote g => exact onPromote_edits self g
  | revoke g => exact onRevoke_edits self g
  | notify n => exact onNotify_edits self n
  | extend lease => exact onExtend_edits self lease

/-- **Each grant goes its own way**: where no instruction panics, the record of a grant after a list
of instructions is what those that concern it make of it. -/
theorem grantRecord_follow {log : List Effect} {d : Driver} (hl : Ledger (log ++ d.pending) d)
    (hd : d.Apart) {is : List Instruction} (hok : (d.follow is).2 = .ok ()) (id : GrantId) :
    grantRecord (settled log (d.follow is).1) (d.follow is).1 id =
      (is.filter (·.concerns id)).foldl GrantRecord.receive (grantRecord (settled log d) d id) := by
  induction is generalizing d with
  | nil => rfl
  | cons i is ih =>
    have hperform := grantRecord_perform hd hl i id
    have hedits := d.perform_edits i
    simp only [follow] at hok ⊢
    rcases hi : d.perform i with ⟨next, fault | _⟩
    · rw [hi] at hok
      cases hok
    · rw [hi] at hok hperform hedits
      refine (ih (hl.edits hedits) (hd.edits hl hedits) hok).trans ?_
      rw [hperform, List.filter_cons]
      split <;> rfl

end Driver

end Splitter
