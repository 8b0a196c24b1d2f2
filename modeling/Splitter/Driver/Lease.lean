import Splitter.Driver.Independence

/-!
# The lease of a grant

What the instructions that concern a grant leave of it, in their own terms: the record was started
by the last assignment that was taken, it is revoked exactly if that assignment or a later message
revoked it, its latch and its flag agree, and its lease is the last one that counted
(`Started.of_receive`). A revoke counts with the lease it carries, an extension only while the grant
is not revoked.
-/

namespace Splitter

namespace Instruction

/-- An assignment that starts a record. -/
def Starts : Instruction → Prop
  | .assign g now => (GrantRecord.assigned g now).isSome
  | _ => False

/-- A revoke, unless it panics. -/
def revokes : Instruction → Bool
  | .revoke g => (g.lease.mapM timestampToSystemTime).toOption.isSome
  | _ => false

/-- The lease an instruction sets on a grant that is revoked, or is not. -/
def sets (revoked : Bool) : Instruction → Option SystemTime
  | .revoke g => (g.lease.mapM timestampToSystemTime).toOption.join
  | .extend lease => if revoked then none else (lease.mapM timestampToSystemTime).toOption.join
  | _ => none

/-- The leases that a list of instructions sets on a grant, in order. -/
def leases (revoked : Bool) : List Instruction → List SystemTime
  | [] => []
  | i :: is => (i.sets revoked).toList ++ leases (revoked || i.revokes) is

/-- One more instruction finds the grant revoked at once or by then. -/
theorem leases_concat (revoked : Bool) (is : List Instruction) (i : Instruction) :
    leases revoked (is ++ [i]) = leases revoked is ++ (i.sets (revoked || is.any revokes)).toList := by
  induction is generalizing revoked with
  | nil => simp [leases]
  | cons j is ih => simp [leases, ih, Bool.or_assoc]

end Instruction

namespace GrantRecord

/-- The state of an assignment is one of a revoked grant. -/
def startsRevoked (g : pb.Grant) : Bool :=
  let state := grantStateFromI32 g.state
  decide (state = GrantState.revoked ∨ state = GrantState.revokedUnloaded)

/-- How a record came about: the assignment that started it, and what the instructions after it made
of its flag, its latch and its lease. -/
structure Started (is : List Instruction) (rec : GrantRecord) (g : pb.Grant) (now : Readings)
    (first : SystemTime) (post : List Instruction) : Prop where
  split : ∃ pre, is = pre ++ .assign g now :: post
  starts : (assigned g now).isSome
  last : ∀ i ∈ post, ¬ i.Starts
  initially : Driver.leaseExpiration now.lease g.lease = .ok first
  flag : rec.revoked = (startsRevoked g || post.any Instruction.revokes)
  latch : rec.ownership.revoked.isClosed = rec.revoked
  lease : rec.ownership.expiration =
    ((Instruction.leases (startsRevoked g) post).getLast?).getD first

/-- What an assignment starts a record with. -/
theorem assigned_eq_some {g : pb.Grant} {now : Readings} {rec : GrantRecord}
    (h : assigned g now = some rec) :
    ∃ first, Driver.leaseExpiration now.lease g.lease = .ok first ∧
      rec = { pbGrant := g, revoked := startsRevoked g
              ownership := Ownership.new (grantStateFromI32 g.state) first now.created } := by
  unfold assigned at h
  split at h
  · next first _ hfirst =>
    cases h
    exact ⟨first, hfirst, rfl⟩
  · cases h

/-- The record an assignment starts. -/
theorem Started.new {is : List Instruction} {g : pb.Grant} {now : Readings} {rec : GrantRecord}
    (h : assigned g now = some rec) :
    ∃ first, Started (is ++ [.assign g now]) rec g now first [] := by
  obtain ⟨first, hfirst, rfl⟩ := assigned_eq_some h
  refine ⟨first, ⟨is, rfl⟩, Option.isSome_of_eq_some h, (fun i hi => by cases hi), hfirst,
    ?_, ?_, rfl⟩
  · simp
  · simp only [Ownership.new, startsRevoked]
    split
    · next hstate => simp [hstate, Latch.close]
    · next hstate => simp [hstate]

/-- An instruction that starts no record leaves the account of the one there is. -/
theorem Started.concat {is post : List Instruction} {rec rec' : GrantRecord} {g : pb.Grant}
    {now : Readings} {first : SystemTime} {i : Instruction} (h : Started is rec g now first post)
    (hi : ¬ i.Starts) (hflag : rec'.revoked = (rec.revoked || i.revokes))
    (hlatch : rec'.ownership.revoked.isClosed = rec'.revoked)
    (hlease : rec'.ownership.expiration = (i.sets rec.revoked).getD rec.ownership.expiration) :
    Started (is ++ [i]) rec' g now first (post ++ [i]) where
  split := by
    obtain ⟨pre, rfl⟩ := h.split
    exact ⟨pre, by simp⟩
  starts := h.starts
  last := by
    intro j hj
    rcases List.mem_append.1 hj with hj | hj
    · exact h.last j hj
    · rwa [List.mem_singleton.1 hj]
  initially := h.initially
  flag := by rw [hflag, h.flag, List.any_append, Bool.or_assoc]; simp
  latch := hlatch
  lease := by
    rw [hlease, Instruction.leases_concat, ← h.flag, List.getLast?_append, h.lease]
    cases i.sets rec.revoked <;> rfl

/-- Without a record there is nothing to change. -/
theorem receive_none {i : Instruction} (hi : ¬ i.Starts) : receive none i = none := by
  cases i with
  | assign g now =>
    have hnone : assigned g now = none := Option.not_isSome_iff_eq_none.1 hi
    rw [receive, hnone]
    rfl
  | promote g => rfl
  | revoke g => simp only [receive]; split <;> rfl
  | notify n => simp only [receive]; split <;> rfl
  | extend lease => simp only [receive]; split <;> rfl

/-- **One instruction** that starts no record, on the record there is. -/
theorem Started.receive {is post : List Instruction} {rec : GrantRecord} {g : pb.Grant}
    {now : Readings} {first : SystemTime} {i : Instruction} (h : Started is rec g now first post)
    (hi : ¬ i.Starts) :
    ∃ rec', receive (some rec) i = some rec' ∧
      Started (is ++ [i]) rec' g now first (post ++ [i]) := by
  have hsame {rec' : GrantRecord} (hflag : rec'.revoked = rec.revoked)
      (hlatch : rec'.ownership.revoked = rec.ownership.revoked)
      (hlease : rec'.ownership.expiration = rec.ownership.expiration)
      (hrevokes : i.revokes = false) (hsets : i.sets rec.revoked = none) :
      Started (is ++ [i]) rec' g now first (post ++ [i]) := by
    refine h.concat hi ?_ ?_ ?_
    · rw [hflag, hrevokes, Bool.or_false]
    · rw [hlatch, hflag, h.latch]
    · rw [hlease, hsets]
      rfl
  cases i with
  | assign g' now' =>
    have hnone : assigned g' now' = none := Option.not_isSome_iff_eq_none.1 hi
    refine ⟨rec, ?_, hsame rfl rfl rfl rfl rfl⟩
    rw [GrantRecord.receive, hnone]
    rfl
  | promote g' => exact ⟨_, rfl, hsame rfl rfl rfl rfl rfl⟩
  | revoke g' =>
    simp only [GrantRecord.receive]
    cases hlease : g'.lease.mapM timestampToSystemTime with
    | error fault =>
      refine ⟨rec, rfl, hsame rfl rfl rfl ?_ ?_⟩
      · simp [Instruction.revokes, hlease, Except.toOption]
      · simp [Instruction.sets, hlease, Except.toOption]
    | ok lease =>
      refine ⟨_, rfl, h.concat hi ?_ rfl ?_⟩
      · simp [Instruction.revokes, hlease, Except.toOption]
      · simp only [Instruction.sets, hlease, Except.toOption]
        cases lease <;> rfl
  | notify n =>
    simp only [GrantRecord.receive]
    cases n.update with
    | none => exact ⟨rec, rfl, hsame rfl rfl rfl rfl rfl⟩
    | some update =>
      refine ⟨_, rfl, hsame rfl ?_ ?_ rfl rfl⟩
      all_goals
        simp only [notified]
        split <;> rfl
  | extend lease =>
    simp only [GrantRecord.receive]
    rcases hlease : lease.mapM timestampToSystemTime with fault | _ | newLease
    · refine ⟨rec, rfl, hsame rfl rfl rfl rfl ?_⟩
      simp [Instruction.sets, hlease, Except.toOption]
    · refine ⟨rec, rfl, hsame rfl rfl rfl rfl ?_⟩
      simp [Instruction.sets, hlease, Except.toOption]
    · cases hrevoked : rec.revoked with
      | true =>
        refine ⟨rec, by simp [hrevoked], hsame rfl rfl rfl rfl ?_⟩
        simp [Instruction.sets, hrevoked]
      | false =>
        refine ⟨{ rec with ownership := rec.ownership.setExpiration newLease }, by simp [hrevoked],
          h.concat hi ?_ h.latch ?_⟩
        · simp [Instruction.revokes]
        · simp [Instruction.sets, hrevoked, hlease, Except.toOption, Ownership.setExpiration]

/-- **The account of a record**: a record that a list of instructions leaves was started by one of
them, and is what those after it made of it. -/
theorem Started.of_receive {is : List Instruction} {rec : GrantRecord}
    (h : is.foldl GrantRecord.receive none = some rec) :
    ∃ g now first post, Started is rec g now first post := by
  induction is using List.reverseRecOn generalizing rec with
  | nil => cases h
  | append_singleton is i ih =>
    rw [List.foldl_concat] at h
    by_cases hi : i.Starts
    · cases i with
      | assign g now =>
        obtain ⟨new, hnew⟩ := Option.isSome_iff_exists.1 hi
        rw [GrantRecord.receive, hnew, Option.some_or] at h
        cases h
        obtain ⟨first, hstarted⟩ : ∃ first, Started (is ++ [.assign g now]) _ g now first [] :=
          Started.new hnew
        exact ⟨g, now, first, [], hstarted⟩
      | _ => exact hi.elim
    · cases hold : is.foldl GrantRecord.receive none with
      | none =>
        rw [hold, receive_none hi] at h
        cases h
      | some old =>
        obtain ⟨g, now, first, post, hstarted⟩ := ih hold
        obtain ⟨rec', hrec', hnext⟩ := hstarted.receive hi
        rw [hold, hrec'] at h
        cases h
        exact ⟨g, now, first, _, hnext⟩

end GrantRecord

end Splitter
