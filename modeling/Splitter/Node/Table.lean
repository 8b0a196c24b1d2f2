import Splitter.Driver.Replay
import Splitter.Node.Handover
import Splitter.Node.Shadow

/-!
# The driver's table between two messages

What everybody else in a node can rely on whenever the driver is between two messages, in every run
of the node. `events_mirror`: the grant events say what the table says, and an announced ownership
that is not in the table has expired. `lease_bookkeeping`: the entry of a grant, its flag and its
lease, and the latch that goes with the flag, are what the messages about it make of them.
-/

namespace Splitter

namespace Node

/-- What the grant events sent so far say of the table and of the ownerships they announced. -/
structure Mirrored (s : Node) : Prop where
  /-- A replay has exactly the entries of the table, with the shard of their assignment. -/
  table : ∀ id shard r, replay (Effect.events s.loop.done) id = some (shard, r) ↔
    ∃ entry g, s.loop.driver.grants.lookup id = some entry ∧ entry.ownership = r ∧
      Handled.assign r g ∈ s.loop.driver.history ∧ decodedShard g = some shard
  /-- The events of an id alternate between an assignment and a removal. -/
  alternates : ∀ id, Alternates id (Effect.events s.loop.done)
    ((s.loop.driver.grants.lookup id).map (·.ownership))
  /-- An announced ownership that is not in the table under its id has expired. -/
  expired : ∀ id shard r, GrantEvent.assigned id shard r ∈ Effect.events s.loop.done →
    (∃ entry, s.loop.driver.grants.lookup id = some entry ∧ entry.ownership = r) ∨
      s.memory.Expired r
  /-- At most one ownership of an id is live. -/
  live : ∀ id shard shard' r r', GrantEvent.assigned id shard r ∈ Effect.events s.loop.done →
    GrantEvent.assigned id shard' r' ∈ Effect.events s.loop.done →
    ¬ s.memory.Expired r → ¬ s.memory.Expired r' → r = r'

/-- What the driver has expired is expired in the node. -/
theorem Shadow.expired {s : Node} (h : s.Shadow) {r : OwnershipRef}
    (hr : (Effect.memoryAfter s.loop.done).Expired r) : s.memory.Expired r := by
  obtain ⟨o, ho, hexp⟩ := hr
  obtain ⟨o', ho', hup⟩ := h.present r o ho
  exact ⟨o', ho', hup.expired hexp⟩

section
variable [UuidCrate]

/-- The driver of a node keeps its books. -/
theorem booked_run {es : List Event} {s : Node} (hrun : machine.run initial es = some s) :
    s.loop.driver.Booked s.loop.done := by
  refine Machine.run_invariant (I := fun s : Node => s.loop.driver.Booked s.loop.done)
    (fun s e t h hst => ?_) Driver.Booked.initial hrun
  rcases step_loop hst with ⟨e, hloop, -⟩ | ⟨hloop, -⟩
  · exact Loop.booked_step h hloop
  · rw [hloop]
    exact h

/-- **Grant events mirror the driver's table.** In every run of a node, whenever the driver is
between two messages. -/
theorem events_mirror {es : List Event} {s : Node} (hrun : machine.run initial es = some s)
    (hb : s.loop.BetweenMessages) : s.Mirrored := by
  have htidy := (tracks_run hrun).tidy
  have hl := htidy.ledger
  have hbooked := booked_run hrun
  have hannounced := hbooked.announced
  rw [htidy.pending_nil hb, List.append_nil] at hl hannounced
  have hexpired : ∀ id shard r, GrantEvent.assigned id shard r ∈ Effect.events s.loop.done →
      (∃ entry, s.loop.driver.grants.lookup id = some entry ∧ entry.ownership = r) ∨
        s.memory.Expired r :=
    fun id shard r hr => (hl.announced id shard r hr).imp_right (shadow_run hrun).expired
  refine ⟨fun id shard r => ?_, hl.alternates, hexpired,
    fun id shard shard' r r' hr hr' hlive hlive' => ?_⟩
  · obtain ⟨htable, hmem⟩ := (hl.alternates id).replay
    constructor
    · intro hreplay
      rw [hreplay, Option.map_some] at htable
      obtain ⟨entry, hentry, hown⟩ := Option.map_eq_some_iff.1 htable.symm
      obtain ⟨g, hg, -, hshard⟩ := hannounced id shard r (hmem shard r hreplay)
      exact ⟨entry, g, hentry, hown, hg, hshard⟩
    · rintro ⟨entry, g, hentry, rfl, hg, hshard⟩
      rw [hentry, Option.map_some] at htable
      obtain ⟨⟨shard', r⟩, hreplay, rfl⟩ := Option.map_eq_some_iff.1 htable
      obtain ⟨g', hg', -, hshard'⟩ := hannounced id shard' _ (hmem shard' _ hreplay)
      obtain rfl := hbooked.once _ g g' hg hg'
      rw [hshard] at hshard'
      cases hshard'
      exact hreplay
  · obtain ⟨entry, hentry, rfl⟩ := (hexpired id shard r hr).resolve_right hlive
    obtain ⟨entry', hentry', rfl⟩ := (hexpired id shard' r' hr').resolve_right hlive'
    rw [hentry] at hentry'
    cases hentry'
    rfl

/-- **Lease bookkeeping.** In every run of a node, whenever the driver is between two messages: the
flag of an entry is set exactly if the revoked latch of its ownership is closed; its lease is the
last that counted, of the assignment that made it, the revokes of its id and the extensions that
found it not revoked; and an extension does not reach an entry that is revoked. -/
theorem lease_bookkeeping {es : List Event} {s : Node} (hrun : machine.run initial es = some s)
    (hb : s.loop.BetweenMessages) {id : GrantId} {entry : ActiveGrant}
    (hentry : s.loop.driver.grants.lookup id = some entry) :
    ∃ o pre g now first post, s.memory entry.ownership = some o ∧
      (entry.revoked = true ↔ o.revoked.isClosed = true) ∧
      told es id = pre ++ .assign g now :: post ∧
      (Instruction.assign g now).Starts ∧ (∀ i ∈ post, ¬ i.Starts) ∧
      Driver.leaseExpiration now.lease g.lease = .ok first ∧
      o.expiration =
        ((Instruction.leases (GrantRecord.startsRevoked g) post).getLast?).getD first ∧
      (entry.revoked = true → entry.ownership ∉ s.loop.driver.extended) := by
  have htracks := tracks_run hrun
  have hnil := htracks.tidy.pending_nil hb
  have hl := htracks.tidy.ledger
  have hrec := htracks.records hb.following id
  rw [hnil, List.append_nil] at hl
  rw [Driver.settled, hnil, List.append_nil, Driver.grantRecord, hentry, Option.bind_some] at hrec
  obtain ⟨o, ho⟩ := Option.isSome_iff_exists.1 (hl.held id entry hentry)
  rw [ho, Option.map_some] at hrec
  obtain ⟨g, now, first, post, hstarted⟩ := GrantRecord.Started.of_receive hrec.symm
  obtain ⟨pre, hsplit⟩ := hstarted.split
  obtain ⟨o', ho', hup⟩ := (shadow_run hrun).present _ o ho
  have hlatch : o.revoked.isClosed = entry.revoked := hstarted.latch
  refine ⟨o', pre, g, now, first, post, ho', ?_, hsplit, hstarted.starts, hstarted.last,
    hstarted.initially, ?_, fun hrevoked hmem => ?_⟩
  · rw [hup.revoked, hlatch]
  · rw [hup.expiration]
    exact hstarted.lease
  · rw [(htracks.apart.extended_iff hentry).1 hmem] at hrevoked
    cases hrevoked

end

/-! ## Runs -/

/-- A grant on the wire with a lease. -/
def leasedGrant (gid : String) (state : pb.GrantState) (seconds : Int64) : pb.Grant :=
  { wireGrant gid state with lease := some { seconds, nanos := 0 } }

/-- A grant that is extended, revoked with a lease and extended again. -/
def leaseRun : List Event :=
  .driver .start :: deliver (.assign [leasedGrant "g" .active 10]) 3 ++
    deliver (.extend (some { seconds := 20, nanos := 0 })) 1 ++
    deliver (.revoke [leasedGrant "g" .revoked 15]) 2 ++
    deliver (.extend (some { seconds := 30, nanos := 0 })) 0

/-- The events of a grant that is assigned twice in one message. -/
theorem events_mirror_reassigned :
    let := UuidCrate.pair
    ∃ s, machine.run initial
        (.driver .start :: deliver (.assign [wireGrant "g" .active, wireGrant "g" .active]) 9) =
          some s ∧ s.Mirrored := by
  let := UuidCrate.pair
  have hrun : machine.run initial
      (.driver .start :: deliver (.assign [wireGrant "g" .active, wireGrant "g" .active]) 9) =
        some _ := rfl
  exact ⟨_, hrun, events_mirror hrun trivial⟩

/-- The latch of a revoked grant, by its flag. -/
theorem lease_bookkeeping_revoked :
    let := UuidCrate.pair
    ∃ s entry o, machine.run initial leaseRun = some s ∧
      s.loop.driver.grants.lookup ⟨"g"⟩ = some entry ∧ s.memory entry.ownership = some o ∧
      o.revoked.isClosed = true := by
  let := UuidCrate.pair
  have hend : (machine.run initial leaseRun).map
      (fun s => (decide s.loop.BetweenMessages, s.loop.driver.grants.lookup ⟨"g"⟩)) =
        some (true, some { pbGrant := leasedGrant "g" .revoked 15, ownership := 0
                           revoked := true }) := by decide +kernel
  obtain ⟨s, hrun, hend⟩ := Option.map_eq_some_iff.1 hend
  obtain ⟨hb, hentry⟩ := Prod.mk.inj hend
  obtain ⟨o, -, -, -, -, -, ho, hflag, -⟩ := lease_bookkeeping hrun (of_decide_eq_true hb) hentry
  exact ⟨s, _, o, hrun, hentry, ho, hflag.1 rfl⟩

end Node

end Splitter
