import Splitter.Wrap

/-!
# Latches and ownerships

`latch.rs` and `ownership.rs`: the one-shot signal, the bundle of signals a grant's life cycle is
driven by, and the `wait_for_*` helpers. A wait is a `tokio::select!`; it is given branch by branch,
as the result of taking that branch, and a branch can be taken only where its latch is closed. Which
of several ready branches is taken is left open.

No operation opens a latch: `Ownership.Le` is the order in which latches only close, and every
operation goes up in it.
-/

namespace Splitter

/-! ## Latches -/

/-- A one-shot signal. -/
structure Latch where
  isClosed : Bool
  deriving DecidableEq

namespace Latch

/-- `Latch::new`. -/
def new : Latch := ⟨false⟩

/-- `Latch::close`, which does nothing the second time. -/
def close (_ : Latch) : Latch := ⟨true⟩

@[simp] theorem isClosed_new : new.isClosed = false := rfl

/-- A branch of a `select!` that awaits the latch: it can be taken once the latch is closed. -/
def closed {α : Type} (l : Latch) (result : α) : Option α :=
  if l.isClosed then some result else none

theorem closed_eq_some {α : Type} {l : Latch} {a b : α} :
    l.closed a = some b ↔ l.isClosed = true ∧ a = b := by
  unfold closed
  split <;> simp_all

end Latch

/-! ## Ownerships -/

/-- Handover controls of a grant that is taken over. -/
structure Loader where
  unloaded : Latch
  load : Latch
  deriving DecidableEq

/-- `Loader::new`. -/
def Loader.new : Loader := { unloaded := .new, load := .new }

/-- Handover controls of a grant that is given up. -/
structure Unloader where
  loaded : Latch
  unload : Latch
  deriving DecidableEq

/-- `Unloader::new`. -/
def Unloader.new : Unloader := { loaded := .new, unload := .new }

/-- The signals of one grant's life cycle, and its lease. -/
structure Ownership where
  active : Latch
  revoked : Latch
  expired : Latch
  requestRevokeSignal : Latch
  loader : Loader
  unloader : Unloader
  expiration : SystemTime
  deriving DecidableEq

namespace Ownership

/-- `Ownership::new`: the latches of a state already reached are closed, and `expired` is when the
clock has passed the lease. -/
def new (initialState : GrantState) (expiration now : SystemTime) : Ownership :=
  { active := if initialState = .active then Latch.new.close else .new
    revoked :=
      if initialState = .revoked ∨ initialState = .revokedUnloaded then Latch.new.close else .new
    expired := if now.nanos > expiration.nanos then Latch.new.close else .new
    requestRevokeSignal := .new
    loader := .new
    unloader := .new
    expiration }

/-! ### The driver's side -/

def setExpiration (o : Ownership) (deadline : SystemTime) : Ownership :=
  { o with expiration := deadline }

def activate (o : Ownership) : Ownership := { o with active := o.active.close }

def revoke (o : Ownership) : Ownership := { o with revoked := o.revoked.close }

def expire (o : Ownership) : Ownership := { o with expired := o.expired.close }

def counterpartLoaded (o : Ownership) : Ownership :=
  { o with unloader := { o.unloader with loaded := o.unloader.loaded.close } }

def counterpartUnloaded (o : Ownership) : Ownership :=
  { o with loader := { o.loader with unloaded := o.loader.unloaded.close } }

/-! ### The user's side -/

def requestRevoke (o : Ownership) : Ownership :=
  { o with requestRevokeSignal := o.requestRevokeSignal.close }

/-- `Loader::load`. -/
def load (o : Ownership) : Ownership :=
  { o with loader := { o.loader with load := o.loader.load.close } }

/-- `Unloader::unload`. -/
def unload (o : Ownership) : Ownership :=
  { o with unloader := { o.unloader with unload := o.unloader.unload.close } }

/-! ### Latches only close -/

/-- Every latch closed in the first ownership is closed in the second. -/
structure Le (o o' : Ownership) : Prop where
  active : o.active.isClosed = true → o'.active.isClosed = true
  revoked : o.revoked.isClosed = true → o'.revoked.isClosed = true
  expired : o.expired.isClosed = true → o'.expired.isClosed = true
  requestRevokeSignal :
    o.requestRevokeSignal.isClosed = true → o'.requestRevokeSignal.isClosed = true
  unloaded : o.loader.unloaded.isClosed = true → o'.loader.unloaded.isClosed = true
  load : o.loader.load.isClosed = true → o'.loader.load.isClosed = true
  loaded : o.unloader.loaded.isClosed = true → o'.unloader.loaded.isClosed = true
  unload : o.unloader.unload.isClosed = true → o'.unloader.unload.isClosed = true

variable (o : Ownership)

theorem Le.refl : o.Le o := ⟨id, id, id, id, id, id, id, id⟩

theorem Le.trans {o₁ o₂ o₃ : Ownership} (h : o₁.Le o₂) (h' : o₂.Le o₃) : o₁.Le o₃ where
  active := h'.active ∘ h.active
  revoked := h'.revoked ∘ h.revoked
  expired := h'.expired ∘ h.expired
  requestRevokeSignal := h'.requestRevokeSignal ∘ h.requestRevokeSignal
  unloaded := h'.unloaded ∘ h.unloaded
  load := h'.load ∘ h.load
  loaded := h'.loaded ∘ h.loaded
  unload := h'.unload ∘ h.unload

theorem le_setExpiration (t : SystemTime) : o.Le (o.setExpiration t) := { Le.refl o with }

theorem le_activate : o.Le o.activate := { Le.refl o with active := fun _ => rfl }

theorem le_revoke : o.Le o.revoke := { Le.refl o with revoked := fun _ => rfl }

theorem le_expire : o.Le o.expire := { Le.refl o with expired := fun _ => rfl }

theorem le_counterpartLoaded : o.Le o.counterpartLoaded :=
  { Le.refl o with loaded := fun _ => rfl }

theorem le_counterpartUnloaded : o.Le o.counterpartUnloaded :=
  { Le.refl o with unloaded := fun _ => rfl }

theorem le_requestRevoke : o.Le o.requestRevoke :=
  { Le.refl o with requestRevokeSignal := fun _ => rfl }

theorem le_load : o.Le o.load := { Le.refl o with load := fun _ => rfl }

theorem le_unload : o.Le o.unload := { Le.refl o with unload := fun _ => rfl }

/-! ## Waits -/

/-- The branches of the `select!`s a grant's task waits in, by the latch they await. `go` is no
branch: it names the steps that do not wait. -/
inductive Branch
  | go | active | unloaded | revoked | expired | action | loaded | closed
  deriving DecidableEq

/-- `wait_for_unload`. -/
def waitForUnload : Branch → Option (Except ClientError Unit)
  | .active => o.active.closed (.ok ())
  | .unloaded => o.loader.unloaded.closed (.ok ())
  | .revoked => o.revoked.closed (.error .revoked)
  | .expired => o.expired.closed (.error .expired)
  | _ => none

/-- `wait_for_active`. -/
def waitForActive : Branch → Option (Except ClientError Unit)
  | .active => o.active.closed (.ok ())
  | .revoked => o.revoked.closed (.error .revoked)
  | .expired => o.expired.closed (.error .expired)
  | _ => none

/-- `wait_for_revoke`. -/
def waitForRevoke : Branch → Option (Except ClientError Unit)
  | .revoked => o.revoked.closed (.ok ())
  | .expired => o.expired.closed (.error .expired)
  | _ => none

/-- `wait_for_load`. -/
def waitForLoad : Branch → Option (Except ClientError Unit)
  | .loaded => o.unloader.loaded.closed (.ok ())
  | .expired => o.expired.closed (.error .expired)
  | _ => none

/-- `wait_for_action`. -/
def waitForAction (action : Latch) : Branch → Option (Except ClientError Unit)
  | .action => action.closed (.ok ())
  | .expired => o.expired.closed (.error .expired)
  | _ => none

/-! ### What the end of a wait says -/

variable {o} {b : Branch} {e : ClientError} {action : Latch}

theorem waitForUnload_ok (h : o.waitForUnload b = some (.ok ())) :
    o.active.isClosed = true ∨ o.loader.unloaded.isClosed = true := by
  cases b <;> simp_all [waitForUnload, Latch.closed_eq_some]

theorem waitForUnload_error (h : o.waitForUnload b = some (.error e)) :
    b = .revoked ∧ e = .revoked ∧ o.revoked.isClosed = true ∨
      b = .expired ∧ e = .expired ∧ o.expired.isClosed = true := by
  cases b <;> simp_all [waitForUnload, Latch.closed_eq_some]

theorem waitForActive_ok (h : o.waitForActive b = some (.ok ())) :
    b = .active ∧ o.active.isClosed = true := by
  cases b <;> simp_all [waitForActive, Latch.closed_eq_some]

theorem waitForActive_error (h : o.waitForActive b = some (.error e)) :
    b = .revoked ∧ e = .revoked ∧ o.revoked.isClosed = true ∨
      b = .expired ∧ e = .expired ∧ o.expired.isClosed = true := by
  cases b <;> simp_all [waitForActive, Latch.closed_eq_some]

theorem waitForRevoke_ok (h : o.waitForRevoke b = some (.ok ())) :
    b = .revoked ∧ o.revoked.isClosed = true := by
  cases b <;> simp_all [waitForRevoke, Latch.closed_eq_some]

theorem waitForRevoke_error (h : o.waitForRevoke b = some (.error e)) :
    b = .expired ∧ e = .expired ∧ o.expired.isClosed = true := by
  cases b <;> simp_all [waitForRevoke, Latch.closed_eq_some]

theorem waitForAction_ok (h : o.waitForAction action b = some (.ok ())) :
    b = .action ∧ action.isClosed = true := by
  cases b <;> simp_all [waitForAction, Latch.closed_eq_some]

theorem waitForAction_error (h : o.waitForAction action b = some (.error e)) :
    b = .expired ∧ e = .expired ∧ o.expired.isClosed = true := by
  cases b <;> simp_all [waitForAction, Latch.closed_eq_some]

end Ownership

end Splitter
