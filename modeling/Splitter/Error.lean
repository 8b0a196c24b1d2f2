import Splitter.Types

/-!
# Errors and gRPC statuses

`error.rs`: the status a domain error travels as, the error a status of a peer is read as, and the
errors worth a retry. The two translations are not inverse to each other: `isOwnership_recovered`
says which errors a peer's caller retries though the peer itself would not.
-/

namespace Splitter

namespace ClientError

/-- `ClientError::into_grpc`. -/
def intoGrpc : ClientError → Status
  | .notOwned => ⟨.outOfRange, "not owned"⟩
  | .draining => ⟨.aborted, "draining"⟩
  | .noResolution => ⟨.unavailable, "no resolution"⟩
  | .revoked => ⟨.aborted, "revoked"⟩
  | .expired => ⟨.deadlineExceeded, "expired"⟩
  | .sessionClosed msg => ⟨.unavailable, msg⟩
  | .cancelled => ⟨.cancelled, "cancelled"⟩
  | .invalidMessage m => ⟨.invalidArgument, m⟩
  | .transport s => s
  | .transportSetup e => ⟨.unavailable, e⟩

/-- `ClientError::from_grpc`. -/
def fromGrpc (status : Status) : ClientError :=
  if status.code = .outOfRange then .notOwned
  else if status.code = .aborted then .draining
  else .transport status

/-- `ClientError::is_ownership`. -/
def isOwnership : ClientError → Bool
  | .notOwned => true
  | .draining => true
  | .transport s => decide (s.code = .unavailable)
  | _ => false

/-- The errors that are not worth a retry where they arise, but arrive at a caller as such. -/
def misread : ClientError → Bool
  | .noResolution => true
  | .revoked => true
  | .sessionClosed _ => true
  | .transport s => decide (s.code = .outOfRange ∨ s.code = .aborted)
  | .transportSetup _ => true
  | _ => false

/-- **Recovered errors.** An error that travelled as a status is worth a retry exactly if it was
before or is misread. -/
theorem isOwnership_recovered (e : ClientError) :
    (fromGrpc e.intoGrpc).isOwnership = (e.isOwnership || e.misread) := by
  cases e with
  | transport s =>
    obtain ⟨code, message⟩ := s
    cases code <;> rfl
  | _ => rfl

/-- A misread error is not worth a retry where it arises. -/
theorem isOwnership_of_misread {e : ClientError} (h : e.misread = true) :
    e.isOwnership = false := by
  cases e with
  | transport s =>
    rcases of_decide_eq_true h with hcode | hcode
    all_goals
      rw [isOwnership, hcode]
      rfl
  | notOwned => cases h
  | draining => cases h
  | _ => rfl

end ClientError

end Splitter
