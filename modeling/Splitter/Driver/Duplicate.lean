import Splitter.Driver.Lease

/-!
# Duplicate assignments

An assignment handled a second time makes a fresh ownership, and of the old one keeps nothing. What
the instructions after the first made of the latches (`Signalled.run`) and of the lease is compared
with what a fresh ownership starts with: the duplicate leaves the grant's life cycle as it was
exactly if nothing has happened to the grant that the assignment itself does not say
(`duplicate_idempotent_iff`). The other grants are never touched.
-/

namespace Splitter

namespace Instruction

def promotes : Instruction → Bool
  | .promote _ => true
  | _ => false

/-- A notification that the counterpart is in a state. -/
def notifies (state : GrantState) : Instruction → Bool
  | .notify n => decide (n.update.map (fun update => grantStateFromI32 update.state) = some state)
  | _ => false

end Instruction

/-! ## The life cycle of a grant -/

/-- Two ownerships at the same point of the life cycle: the latches the driver closes, and the
lease. -/
structure Ownership.SameCycle (o o' : Ownership) : Prop where
  active : o'.active.isClosed = o.active.isClosed
  revoked : o'.revoked.isClosed = o.revoked.isClosed
  loaded : o'.unloader.loaded.isClosed = o.unloader.loaded.isClosed
  unloaded : o'.loader.unloaded.isClosed = o.loader.unloaded.isClosed
  expiration : o'.expiration = o.expiration

namespace GrantRecord

/-- The latches that instructions close besides the one of a revoke. -/
structure Signalled (is : List Instruction) (o o' : Ownership) : Prop where
  active : o'.active.isClosed = (o.active.isClosed || is.any Instruction.promotes)
  loaded : o'.unloader.loaded.isClosed =
    (o.unloader.loaded.isClosed || is.any (Instruction.notifies .allocatedLoaded))
  unloaded : o'.loader.unloaded.isClosed =
    (o.loader.unloaded.isClosed || is.any (Instruction.notifies .revokedUnloaded))

theorem Signalled.nil (o : Ownership) : Signalled [] o o := by
  constructor <;> simp

theorem Signalled.append {is js : List Instruction} {o o' o'' : Ownership}
    (h : Signalled is o o') (h' : Signalled js o' o'') : Signalled (is ++ js) o o'' where
  active := by rw [h'.active, h.active, List.any_append, Bool.or_assoc]
  loaded := by rw [h'.loaded, h.loaded, List.any_append, Bool.or_assoc]
  unloaded := by rw [h'.unloaded, h.unloaded, List.any_append, Bool.or_assoc]

/-- **One instruction** that starts no record. -/
theorem Signalled.receive {rec rec' : GrantRecord} {i : Instruction} (hi : ¬ i.Starts)
    (h : receive (some rec) i = some rec') : Signalled [i] rec.ownership rec'.ownership := by
  have hsame (hpromotes : i.promotes = false) (hnotifies : ∀ state, i.notifies state = false)
      (hactive : rec'.ownership.active = rec.ownership.active)
      (hunloader : rec'.ownership.unloader = rec.ownership.unloader)
      (hloader : rec'.ownership.loader = rec.ownership.loader) :
      Signalled [i] rec.ownership rec'.ownership := by
    constructor <;> simp [hpromotes, hnotifies, hactive, hunloader, hloader]
  cases i with
  | assign g now =>
    have hnone : assigned g now = none := Option.not_isSome_iff_eq_none.1 hi
    rw [GrantRecord.receive, hnone] at h
    cases h
    exact hsame rfl (fun _ => rfl) rfl rfl rfl
  | promote g =>
    cases h
    constructor <;> simp [Ownership.activate, Latch.close, Instruction.promotes,
      Instruction.notifies]
  | revoke g =>
    simp only [GrantRecord.receive] at h
    split at h
    · cases h
      exact hsame rfl (fun _ => rfl) rfl rfl rfl
    · next lease _ =>
      cases h
      cases lease <;> exact hsame rfl (fun _ => rfl) rfl rfl rfl
  | notify n =>
    simp only [GrantRecord.receive] at h
    cases hupdate : n.update with
    | none =>
      rw [hupdate] at h
      cases h
      exact hsame rfl (fun state => by simp [Instruction.notifies, hupdate]) rfl rfl rfl
    | some update =>
      rw [hupdate] at h
      cases h
      cases hstate : grantStateFromI32 update.state
      all_goals
        constructor <;>
          simp [notified, Ownership.counterpartLoaded, Ownership.counterpartUnloaded, Latch.close,
            Instruction.promotes, Instruction.notifies, hupdate, hstate]
  | extend lease =>
    simp only [GrantRecord.receive] at h
    split at h
    · simp only [Option.map_some, Option.some.injEq] at h
      split at h
      all_goals
        cases h
        exact hsame rfl (fun _ => rfl) rfl rfl rfl
    · cases h
      exact hsame rfl (fun _ => rfl) rfl rfl rfl

/-- **Instructions that start no record**: the one there is goes on, with its account and its
signals. -/
theorem Started.run {is post : List Instruction} {rec : GrantRecord} {g : pb.Grant}
    {now : Readings} {first : SystemTime} (h : Started is rec g now first post)
    {more : List Instruction} (hmore : ∀ i ∈ more, ¬ i.Starts) :
    ∃ rec', more.foldl GrantRecord.receive (some rec) = some rec' ∧
      Started (is ++ more) rec' g now first (post ++ more) ∧
      Signalled more rec.ownership rec'.ownership := by
  induction more using List.reverseRecOn with
  | nil => exact ⟨rec, rfl, by simpa using h, Signalled.nil _⟩
  | append_singleton more i ih =>
    obtain ⟨mid, hmid, hstarted, hsignalled⟩ :=
      ih fun j hj => hmore j (List.mem_append_left _ hj)
    have hi : ¬ i.Starts := hmore i (by simp)
    obtain ⟨rec', hrec', hnext⟩ := hstarted.receive hi
    refine ⟨rec', ?_, by simpa using hnext, hsignalled.append (Signalled.receive hi hrec')⟩
    rw [List.foldl_concat, hmid, hrec']

/-! ## What a duplicate finds -/

/-- The assignment is the last one that started a record, and `post` came after it. -/
structure CreatedBy (is : List Instruction) (g : pb.Grant) (now : Readings)
    (post : List Instruction) : Prop where
  split : ∃ pre, is = pre ++ .assign g now :: post
  starts : (Instruction.assign g now).Starts
  last : ∀ i ∈ post, ¬ i.Starts

/-- The account of the record that an assignment started, with its signals. -/
theorem CreatedBy.account {is post : List Instruction} {g : pb.Grant} {now : Readings}
    (h : CreatedBy is g now post) :
    ∃ rec new first, is.foldl receive none = some rec ∧ assigned g now = some new ∧
      Started is rec g now first post ∧ Signalled post new.ownership rec.ownership := by
  obtain ⟨pre, rfl⟩ := h.split
  obtain ⟨new, hnew⟩ := Option.isSome_iff_exists.1 h.starts
  obtain ⟨first, hstarted⟩ : ∃ first, Started (pre ++ [.assign g now]) new g now first [] :=
    Started.new hnew
  obtain ⟨rec, hrec, hrun, hsignalled⟩ := hstarted.run h.last
  refine ⟨rec, new, first, ?_, hnew, by simpa using hrun, hsignalled⟩
  rw [List.foldl_append, List.foldl_cons, receive, hnew, Option.some_or, hrec]

/-- A record was started by some assignment. -/
theorem CreatedBy.of_receive {is : List Instruction} {rec : GrantRecord}
    (h : is.foldl receive none = some rec) : ∃ g now post, CreatedBy is g now post := by
  obtain ⟨g, now, first, post, hstarted⟩ := Started.of_receive h
  exact ⟨g, now, post, hstarted.split, hstarted.starts, hstarted.last⟩

/-- Nothing came after an assignment that it does not say itself: no promotion of a grant that was
not assigned active, no revoke of one that was not assigned revoked, no notification of the
counterpart, and the lease is the one that the duplicate sets. -/
structure Unchanged (g : pb.Grant) (first fresh : SystemTime) (post : List Instruction) : Prop where
  promoted : post.any Instruction.promotes = true → grantStateFromI32 g.state = .active
  revoked : post.any Instruction.revokes = true → startsRevoked g = true
  loaded : post.any (Instruction.notifies .allocatedLoaded) = false
  unloaded : post.any (Instruction.notifies .revokedUnloaded) = false
  lease : ((Instruction.leases (startsRevoked g) post).getLast?).getD first = fresh

/-- The latches of a new ownership. -/
theorem new_latches (g : pb.Grant) (expiration now : SystemTime) :
    let o := Ownership.new (grantStateFromI32 g.state) expiration now
    o.active.isClosed = decide (grantStateFromI32 g.state = .active) ∧
      o.revoked.isClosed = startsRevoked g := by
  simp only [Ownership.new, startsRevoked]
  constructor
  all_goals
    split
    · next hstate => simp [hstate, Latch.close]
    · next hstate => simp [hstate]

/-- **A fresh ownership and the old one** are at the same point exactly if nothing has changed. -/
theorem CreatedBy.sameCycle_iff {is post : List Instruction} {g : pb.Grant} {now now' : Readings}
    {rec rec' : GrantRecord} (h : CreatedBy is g now post) (hrec : is.foldl receive none = some rec)
    (hdup : assigned g now' = some rec') :
    rec.ownership.SameCycle rec'.ownership ↔
      ∀ first fresh, Driver.leaseExpiration now.lease g.lease = .ok first →
        Driver.leaseExpiration now'.lease g.lease = .ok fresh → Unchanged g first fresh post := by
  obtain ⟨old, new, first, hold, hnew, hstarted, hsignalled⟩ := h.account
  obtain rfl : rec = old := Option.some.inj (hrec.symm.trans hold)
  obtain ⟨first', hfirst', rfl⟩ := assigned_eq_some hnew
  obtain ⟨fresh, hfresh, rfl⟩ := assigned_eq_some hdup
  have hrevoked : rec.ownership.revoked.isClosed =
      (startsRevoked g || post.any Instruction.revokes) := hstarted.latch.trans hstarted.flag
  have hactive := hsignalled.active
  have hloaded := hsignalled.loaded
  have hunloaded := hsignalled.unloaded
  rw [(new_latches g first' now.created).1] at hactive
  obtain ⟨hfreshActive, hfreshRevoked⟩ := new_latches g fresh now'.created
  constructor
  · intro hsame start fresh' hstart hfresh'
    obtain rfl : first = start := Except.ok.inj (hstarted.initially.symm.trans hstart)
    obtain rfl : fresh = fresh' := Except.ok.inj (hfresh.symm.trans hfresh')
    refine ⟨fun hp => ?_, fun hr => ?_, ?_, ?_, ?_⟩
    · have heq := hsame.active
      rw [hactive, hp, Bool.or_true] at heq
      exact of_decide_eq_true (hfreshActive.symm.trans heq)
    · have heq := hsame.revoked
      rw [hrevoked, hr, Bool.or_true] at heq
      exact hfreshRevoked.symm.trans heq
    · have heq := hsame.loaded
      rw [hloaded] at heq
      exact (Bool.or_eq_false_iff.1 heq.symm).2
    · have heq := hsame.unloaded
      rw [hunloaded] at heq
      exact (Bool.or_eq_false_iff.1 heq.symm).2
    · rw [← hstarted.lease]
      exact hsame.expiration.symm
  · intro hunchanged
    have hu := hunchanged first fresh hstarted.initially hfresh
    refine ⟨?_, ?_, ?_, ?_, ?_⟩
    · rw [hactive]
      refine hfreshActive.trans ?_
      cases hp : post.any Instruction.promotes with
      | true => simp [hu.promoted hp]
      | false => rw [Bool.or_false]
    · rw [hrevoked]
      refine hfreshRevoked.trans ?_
      cases hr : post.any Instruction.revokes with
      | true => rw [hu.revoked hr, Bool.or_true]
      | false => rw [Bool.or_false]
    · rw [hloaded, hu.loaded]
      rfl
    · rw [hunloaded, hu.unloaded]
      rfl
    · rw [hstarted.lease, hu.lease]
      rfl

end GrantRecord

namespace Driver

/-- The entries of the other grants stay where they are. -/
theorem lookup_assign (d : Driver) (g : pb.Grant) (now : Readings) {k : GrantId}
    (hk : k ≠ ⟨g.id⟩) : (d.perform (.assign g now)).1.grants.lookup k = d.grants.lookup k := by
  simp only [perform, onAssign]
  split
  · rfl
  · split
    · rfl
    · refine (AList.lookup_insert_ite _ _ _ _).trans ?_
      rw [if_neg hk, lookup_removeGrant, if_neg hk]

/-- An assignment handled once more leaves its grant's life cycle as it was, and the other grants
altogether. -/
structure Idempotent (log : List Effect) (d : Driver) (g : pb.Grant) (now : Readings) : Prop where
  self : ∀ rec, grantRecord (settled log d) d ⟨g.id⟩ = some rec →
    ∃ rec', grantRecord (settled log (d.perform (.assign g now)).1) (d.perform (.assign g now)).1
      ⟨g.id⟩ = some rec' ∧ rec.ownership.SameCycle rec'.ownership
  others : ∀ k, k ≠ ⟨g.id⟩ →
    (d.perform (.assign g now)).1.grants.lookup k = d.grants.lookup k ∧
    grantRecord (settled log (d.perform (.assign g now)).1) (d.perform (.assign g now)).1 k =
      grantRecord (settled log d) d k

/-- **A duplicate on a driver** that made of the grant what a list of instructions says. -/
theorem idempotent_iff {log : List Effect} {d : Driver} (hl : Ledger (log ++ d.pending) d)
    (hd : d.Apart) {is post : List Instruction} {g : pb.Grant} {now : Readings}
    (hrec : grantRecord (settled log d) d ⟨g.id⟩ = is.foldl GrantRecord.receive none)
    (h : GrantRecord.CreatedBy is g now post) (now' : Readings) :
    Idempotent log d g now' ↔
      ∀ first fresh, leaseExpiration now.lease g.lease = .ok first →
        leaseExpiration now'.lease g.lease = .ok fresh →
          GrantRecord.Unchanged g first fresh post := by
  have hperform := fun k => grantRecord_assign hd hl g now' k
  have hothers : ∀ k, k ≠ ⟨g.id⟩ →
      (d.perform (.assign g now')).1.grants.lookup k = d.grants.lookup k ∧
      grantRecord (settled log (d.perform (.assign g now')).1) (d.perform (.assign g now')).1 k =
        grantRecord (settled log d) d k := by
    intro k hk
    exact ⟨d.lookup_assign g now' hk, (hperform k).trans (if_neg hk)⟩
  obtain ⟨rec, -, -, hold, -⟩ := h.account
  rw [hold] at hrec
  have hself := (hperform ⟨g.id⟩).trans (if_pos rfl)
  rw [hrec, GrantRecord.receive] at hself
  cases hdup : GrantRecord.assigned g now' with
  | some rec' =>
    rw [hdup, Option.some_or] at hself
    rw [← h.sameCycle_iff hold hdup]
    constructor
    · intro hidem
      obtain ⟨rec₂, hrec₂, hsame⟩ := hidem.self rec hrec
      obtain rfl : rec' = rec₂ := Option.some.inj (hself.symm.trans hrec₂)
      exact hsame
    · intro hsame
      refine ⟨fun rec₁ hrec₁ => ?_, hothers⟩
      obtain rfl : rec = rec₁ := Option.some.inj (hrec.symm.trans hrec₁)
      exact ⟨rec', hself, hsame⟩
  | none =>
    rw [hdup, Option.none_or] at hself
    constructor
    · -- the shard was valid the first time, so it is the lease that panics now
      intro _ first fresh _ hfresh
      obtain ⟨new, hnew⟩ := Option.isSome_iff_exists.1 h.starts
      unfold GrantRecord.assigned at hnew hdup
      rw [hfresh] at hdup
      split at hnew
      · next hshard _ =>
        rw [hshard] at hdup
        cases hdup
      · cases hnew
    · intro _
      refine ⟨fun rec₁ hrec₁ => ?_, hothers⟩
      obtain rfl : rec = rec₁ := Option.some.inj (hrec.symm.trans hrec₁)
      exact ⟨rec, hself, ⟨rfl, rfl, rfl, rfl, rfl⟩⟩

end Driver

namespace Loop

section
variable [UuidCrate]

/-- What concerned a grant, in a run and in the entries of the next message that are handled. -/
def toldBy (es : List Event) (is : List Instruction) (id : GrantId) : List Instruction :=
  told es id ++ is.filter (·.concerns id)

/-- The driver between two entries of a message that follows a run. -/
structure Reached (es : List Event) (is : List Instruction) (log : List Effect) (d : Driver) :
    Prop where
  ledger : Ledger (log ++ d.pending) d
  apart : d.Apart
  records : ∀ id, Driver.grantRecord (Driver.settled log d) d id =
    (toldBy es is id).foldl GrantRecord.receive none

theorem reached_follow {es : List Event} {s : Loop} (hrun : machine.run initial es = some s)
    (hb : s.BetweenMessages) {is : List Instruction} (hok : (s.driver.follow is).2 = .ok ()) :
    Reached es is s.done (s.driver.follow is).1 := by
  have htracks : Tracks s ([] ++ machine.outputs heard initial es) :=
    Machine.run_outputs (I := Tracks) (fun _ _ _ _ h hst => h.step hst) Tracks.initial hrun
  have hl := htracks.tidy.ledger
  have hd := htracks.apart
  have hkept := Driver.follow_invariant
    (P := fun d => Ledger (s.done ++ d.pending) d ∧ d.Apart)
    (fun d i h => ⟨h.1.edits (d.perform_edits i), h.2.edits h.1 (d.perform_edits i)⟩) ⟨hl, hd⟩ is
  refine ⟨hkept.1, hkept.2, fun id => ?_⟩
  rw [Driver.grantRecord_follow hl hd hok id, htracks.records hb.following id, toldBy,
    List.foldl_append]
  rfl

/-- **Duplicate assignments.** Wherever the driver can take an entry (between two messages, or
between two entries of one), every entry of its table was created by an assignment, and handling
that assignment once more leaves the grant as it was exactly if nothing has happened to it since
that the assignment does not say. -/
theorem duplicate_idempotent_iff {es : List Event} {s : Loop}
    (hrun : machine.run initial es = some s) (hb : s.BetweenMessages) (is : List Instruction)
    (hok : (s.driver.follow is).2 = .ok ()) {id : GrantId} {entry : ActiveGrant}
    (hentry : (s.driver.follow is).1.grants.lookup id = some entry) :
    (∃ g now post, GrantRecord.CreatedBy (toldBy es is id) g now post) ∧
      ∀ g now post, GrantRecord.CreatedBy (toldBy es is id) g now post → ∀ now',
        (Driver.Idempotent s.done (s.driver.follow is).1 g now' ↔
          ∀ first fresh, Driver.leaseExpiration now.lease g.lease = .ok first →
            Driver.leaseExpiration now'.lease g.lease = .ok fresh →
              GrantRecord.Unchanged g first fresh post) := by
  have hreached := reached_follow hrun hb hok
  constructor
  · have hheld := hreached.ledger.held id entry hentry
    obtain ⟨o, ho⟩ := Option.isSome_iff_exists.1 hheld
    have hrec := hreached.records id
    rw [Driver.grantRecord, hentry, Option.bind_some, Driver.settled, ho] at hrec
    exact GrantRecord.CreatedBy.of_receive hrec.symm
  · intro g now post h now'
    obtain rfl : id = ⟨g.id⟩ := by
      obtain ⟨pre, hsplit⟩ := h.split
      have hmem : Instruction.assign g now ∈ toldBy es is id := by simp [hsplit]
      rw [toldBy, told, ← List.filter_append, List.mem_filter] at hmem
      exact of_decide_eq_true hmem.2
    exact Driver.idempotent_iff hreached.ledger hreached.apart (hreached.records _) h now'

end

/-- A grant that was only assigned takes a duplicate. -/
theorem duplicate_idempotent_assigned :
    let := UuidCrate.pair
    ∃ s, machine.run initial (.start :: takeClient (.assign [allocatedGrant "g"]) 3) = some s ∧
      Driver.Idempotent s.done s.driver (allocatedGrant "g") (epochEnv.clock 1) := by
  let := UuidCrate.pair
  have hrun : machine.run initial (.start :: takeClient (.assign [allocatedGrant "g"]) 3) =
      some _ := rfl
  have hcreated : GrantRecord.CreatedBy
      (toldBy (.start :: takeClient (.assign [allocatedGrant "g"]) 3) [] ⟨"g"⟩)
      (allocatedGrant "g") (epochEnv.clock 0) [] :=
    ⟨⟨[], rfl⟩, rfl, fun i hi => by cases hi⟩
  refine ⟨_, hrun, ((duplicate_idempotent_iff hrun trivial [] rfl rfl).2 _ _ _ hcreated
    _).2 ?_⟩
  intro first fresh hfirst hfresh
  obtain rfl : first = fresh := Except.ok.inj (hfirst.symm.trans hfresh)
  exact ⟨fun h => (by cases h), fun h => (by cases h), rfl, rfl, rfl⟩

/-- A grant that was promoted since it was assigned: the duplicate opens its `active` latch. -/
theorem promoted_not_idempotent :
    let := UuidCrate.pair
    ∃ s entry, machine.run initial aloneRun = some s ∧ s.BetweenMessages ∧
      s.driver.grants.lookup ⟨"g"⟩ = some entry ∧
      told aloneRun ⟨"g"⟩ = [.assign (allocatedGrant "g") (epochEnv.clock 0),
        .promote (allocatedGrant "g")] ∧
      ¬ Driver.Idempotent s.done s.driver (allocatedGrant "g") (epochEnv.clock 0) := by
  let := UuidCrate.pair
  have hrun : machine.run initial aloneRun = some _ := rfl
  refine ⟨_, _, hrun, trivial, rfl, rfl, fun hidem => ?_⟩
  obtain ⟨rec', hrec', hsame⟩ := hidem.self _ rfl
  cases hrec'
  exact absurd hsame.active (by decide)


end Loop

end Splitter
