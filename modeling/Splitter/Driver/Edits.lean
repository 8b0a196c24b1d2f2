import Mathlib.Logic.Relation
import Splitter.Driver.Basic

/-!
# What a handler can do to the driver

Every handler is a sequence of a few kinds of edits: an entry is removed or entered, a found entry
is promoted, revoked or notified, the leases are extended, a cluster map is published.
`handleInbound_edits` says so once, and an invariant of the driver is proved edit by edit
(`Edits.invariant`).
-/

namespace Splitter

namespace Driver

/-- One change a handler makes. -/
inductive Edit : Driver → Driver → Prop
  | remove (self : Driver) (id : GrantId) : Edit self (self.removeGrant id)
  | enter (self : Driver) (g : pb.Grant) (shard : Shard) (expiration now : SystemTime)
      (hfree : self.grants.lookup ⟨g.id⟩ = none) :
      Edit self (self.enterGrant g shard expiration now)
  | promote (self : Driver) (g : pb.Grant) (entry : ActiveGrant)
      (hentry : self.grants.lookup ⟨g.id⟩ = some entry) : Edit self (self.promoteEntry g entry)
  | revoke (self : Driver) (g : pb.Grant) (newExpiration : Option SystemTime)
      (entry : ActiveGrant) (hentry : self.grants.lookup ⟨g.id⟩ = some entry) :
      Edit self (self.revokeEntry g newExpiration entry)
  | notify (self : Driver) (target : String) (updateState : GrantState) (entry : ActiveGrant)
      (hentry : self.grants.lookup ⟨target⟩ = some entry) :
      Edit self (self.notifyEntry updateState entry)
  | extend (self : Driver) (newLease : SystemTime) : Edit self (self.extendLeases newLease)
  | publish (self : Driver) (next : ClusterMap) : Edit self (self.publishCluster next)

/-- Any number of edits. -/
abbrev Edits : Driver → Driver → Prop := Relation.ReflTransGen Edit

/-- What every edit preserves, a handler preserves. -/
theorem Edits.invariant {I : Driver → Prop} (hstep : ∀ d d', I d → Edit d d' → I d')
    {d d' : Driver} (h : Edits d d') (hd : I d) : I d' := by
  induction h with
  | refl => exact hd
  | tail _ hlast ih => exact hstep _ _ ih hlast

/-- A removed id is not in the table. -/
theorem lookup_removeGrant (self : Driver) (id k : GrantId) :
    (self.removeGrant id).grants.lookup k = if k = id then none else self.grants.lookup k := by
  unfold removeGrant
  split
  · next hnone =>
    split
    · next hk => rw [hk, hnone]
    · rfl
  · exact AList.lookup_erase_ite _ _ _

theorem onAssign_edits (clock : OwnershipRef → Readings) (self : Driver) (g : pb.Grant) :
    Edits self (onAssign clock self g).1 := by
  unfold onAssign
  split
  · exact .refl
  · next shard hshard =>
    simp only
    split
    · exact .refl
    · next expiration hexp =>
      refine .tail (.single (.remove self ⟨g.id⟩)) (.enter _ g shard expiration _ ?_)
      rw [lookup_removeGrant, if_pos rfl]

theorem onPromote_edits (self : Driver) (g : pb.Grant) : Edits self (self.onPromote g).1 := by
  unfold onPromote
  split
  · exact .refl
  · next entry hentry => exact .single (.promote self g entry hentry)

theorem onRevoke_edits (self : Driver) (g : pb.Grant) : Edits self (self.onRevoke g).1 := by
  unfold onRevoke
  split
  · exact .refl
  · next newExpiration _ =>
    split
    · exact .refl
    · next entry hentry => exact .single (.revoke self g newExpiration entry hentry)

theorem onNotify_edits (self : Driver) (n : pb.Notify) : Edits self (self.onNotify n) := by
  unfold onNotify
  split
  · next target update _ _ =>
    split
    · exact .refl
    · next entry hentry => exact .single (.notify self target.id _ entry hentry)
  · exact .refl

theorem onExtend_edits (self : Driver) (lease : Option Timestamp) :
    Edits self (self.onExtend lease).1 := by
  unfold onExtend
  split
  · exact .refl
  · exact .refl
  · next newLease _ => exact .single (.extend self newLease)

/-- A loop of handlers, cut short by a panic or not. -/
theorem forGrants_edits {f : Driver → pb.Grant → Driver × Result Unit}
    (hf : ∀ self g, Edits self (f self g).1) (self : Driver) (grants : List pb.Grant) :
    Edits self (self.forGrants f grants).1 := by
  induction grants generalizing self with
  | nil => exact .refl
  | cons g grants ih =>
    have hg := hf self g
    unfold forGrants
    split
    · next next heq =>
      rw [heq] at hg
      exact hg.trans (ih next)
    · next next fault heq =>
      rw [heq] at hg
      exact hg

/-- The removals of the clean-up. -/
theorem removeGrants_edits (self : Driver) (ids : List GrantId) :
    Edits self (ids.foldl removeGrant self) := by
  induction ids generalizing self with
  | nil => exact .refl
  | cons id ids ih => exact .head (.remove self id) (ih _)

theorem handleClientMessage_edits (env : Env) (self : Driver) (msg : pb.ClientMessage) :
    Edits self (self.handleClientMessage env msg).1 := by
  unfold handleClientMessage
  split
  · exact .refl
  · exact forGrants_edits (onAssign_edits env.clock) self _
  · exact forGrants_edits onPromote_edits self _
  · exact forGrants_edits onRevoke_edits self _
  · exact onNotify_edits self _
  · exact onExtend_edits self _
  all_goals exact .refl

section
variable [UuidCrate]

theorem handleCluster_edits (env : Env) (self : Driver) (msg : pb.ClusterMessage) :
    Edits self (self.handleCluster env msg).1 := by
  unfold handleCluster
  split
  · next next _ =>
    simp only
    split
    · exact .single (.publish self next)
    · exact .refl
  · exact .refl
  · exact .refl

/-- **A frame is handled by edits**, whatever it holds and whatever comes of it. -/
theorem handleInbound_edits (env : Env) (self : Driver) (join : pb.JoinMessage) :
    Edits self (self.handleInbound env join).1 := by
  unfold handleInbound
  split
  · exact .refl
  · exact .refl
  · exact handleCluster_edits env self _
  · exact handleClientMessage_edits env self _
  · exact .refl

end

/-! ## How a handler can fail -/

/-- The computation returns no error; it may panic. -/
def PanicsOnly {α : Type} (r : Result α) : Prop := ∀ e, r ≠ .error (.error e)

theorem PanicsOnly.pure {α : Type} (a : α) : PanicsOnly (pure a : Result α) := fun _ => nofun

theorem PanicsOnly.bind {α β : Type} {x : Result α} {f : α → Result β} (hx : PanicsOnly x)
    (hf : ∀ a, PanicsOnly (f a)) : PanicsOnly (x >>= f) := by
  intro e h
  cases x with
  | error fault =>
    cases h
    exact hx e rfl
  | ok a => exact hf a e h

theorem PanicsOnly.map {α β : Type} {x : Result α} (f : α → β) (hx : PanicsOnly x) :
    PanicsOnly (x.map f) := by
  intro e h
  cases x with
  | error fault =>
    cases h
    exact hx e rfl
  | ok a => cases h

theorem PanicsOnly.add (t : SystemTime) (d : Duration) : PanicsOnly (t.add d) := by
  intro e h
  unfold SystemTime.add at h
  split at h <;> cases h

theorem PanicsOnly.timestampToSystemTime (ts : Timestamp) :
    PanicsOnly (timestampToSystemTime ts) := by
  refine PanicsOnly.bind (fun e h => ?_) fun d => PanicsOnly.add _ d
  unfold Duration.new at h
  split at h <;> cases h

theorem PanicsOnly.leaseExpiration (now : SystemTime) (lease : Option Timestamp) :
    PanicsOnly (leaseExpiration now lease) := by
  unfold Driver.leaseExpiration
  split
  · exact .timestampToSystemTime _
  · exact .add _ _

theorem PanicsOnly.mapM {α β : Type} {f : α → Result β} (hf : ∀ a, PanicsOnly (f a))
    (x : Option α) : PanicsOnly (x.mapM f) := by
  cases x with
  | none => exact .pure none
  | some a => exact PanicsOnly.map some (hf a)

/-- A handler that fails with the failure of a computation that panics only. -/
theorem PanicsOnly.of_error {α β : Type} {x : Result α} {fault : Fault} (hx : PanicsOnly x)
    (h : x = .error fault) : PanicsOnly (.error fault : Result β) := by
  intro e he
  cases he
  exact hx e h

theorem onAssign_panicsOnly (clock : OwnershipRef → Readings) (self : Driver) (g : pb.Grant) :
    PanicsOnly (onAssign clock self g).2 := by
  unfold onAssign
  split
  · exact .pure ()
  · simp only
    split
    · next hlease => exact (PanicsOnly.leaseExpiration _ _).of_error hlease
    · exact .pure ()

theorem onPromote_panicsOnly (self : Driver) (g : pb.Grant) :
    PanicsOnly (self.onPromote g).2 := by
  unfold onPromote
  split <;> exact .pure ()

theorem onRevoke_panicsOnly (self : Driver) (g : pb.Grant) : PanicsOnly (self.onRevoke g).2 := by
  unfold onRevoke
  split
  · next hlease => exact (PanicsOnly.mapM .timestampToSystemTime _).of_error hlease
  · split <;> exact .pure ()

theorem onExtend_panicsOnly (self : Driver) (lease : Option Timestamp) :
    PanicsOnly (self.onExtend lease).2 := by
  unfold onExtend
  split
  · next hlease => exact (PanicsOnly.mapM .timestampToSystemTime _).of_error hlease
  · exact .pure ()
  · exact .pure ()

theorem forGrants_panicsOnly {f : Driver → pb.Grant → Driver × Result Unit}
    (hf : ∀ self g, PanicsOnly (f self g).2) (self : Driver) (grants : List pb.Grant) :
    PanicsOnly (self.forGrants f grants).2 := by
  induction grants generalizing self with
  | nil => exact .pure ()
  | cons g grants ih =>
    have hg := hf self g
    unfold forGrants
    split
    · next next heq => exact ih next
    · next next fault heq =>
      rw [heq] at hg
      exact hg

theorem handleClientMessage_panicsOnly (env : Env) (self : Driver) (msg : pb.ClientMessage) :
    PanicsOnly (self.handleClientMessage env msg).2 := by
  unfold handleClientMessage
  split
  · exact .pure ()
  · exact forGrants_panicsOnly (onAssign_panicsOnly env.clock) self _
  · exact forGrants_panicsOnly onPromote_panicsOnly self _
  · exact forGrants_panicsOnly onRevoke_panicsOnly self _
  · exact .pure ()
  · exact onExtend_panicsOnly self _
  all_goals exact .pure ()

/-- The frame ends the session. -/
def EndsSession (join : pb.JoinMessage) : Prop :=
  ∃ msg error, join.msg = some (.session msg) ∧ msg.request = some (.closed error)

theorem classify_panicsOnly (msg : sessionPb.Message) : PanicsOnly (classify msg) := by
  unfold classify
  split
  · exact .bind (.timestampToSystemTime _) fun _ => .pure _
  · exact .bind (.timestampToSystemTime _) fun _ => .pure _
  · exact .pure _
  · exact .pure _

/-- The session branch returns an error exactly where the server ends the session. -/
theorem handleSession_error_iff (msg : sessionPb.Message) :
    (∃ e, handleSession msg = .error (.error e)) ↔
      ∃ error, msg.request = some (.closed error) := by
  unfold handleSession
  cases hc : classify msg with
  | error fault =>
    refine iff_of_false ?_ ?_
    · rintro ⟨e, he⟩
      exact (classify_panicsOnly msg).of_error hc e he
    · rintro ⟨error, he⟩
      simp [classify_eq_closed.2 he] at hc
  | ok event =>
    rcases event with _ | ⟨_ | _ | _⟩
    all_goals simp [pure, Except.pure, ← classify_eq_closed, hc]

section
variable [UuidCrate]

theorem handleCluster_panicsOnly (env : Env) (self : Driver) (msg : pb.ClusterMessage) :
    PanicsOnly (self.handleCluster env msg).2 := by
  unfold handleCluster
  split
  · exact .pure ()
  · exact .pure ()
  · exact fun _ => nofun

/-- **Where an error comes from.** A handler returns an error, as opposed to a panic, exactly where
the frame ends the session. -/
theorem handleInbound_error_iff (env : Env) (self : Driver) (join : pb.JoinMessage) :
    (∃ e, (self.handleInbound env join).2 = .error (.error e)) ↔ EndsSession join := by
  unfold handleInbound EndsSession
  split
  · next h => simp [h, pure, Except.pure]
  · next msg h => simp [h, handleSession_error_iff]
  · next cm h =>
    have hp := (handleCluster_panicsOnly env self cm).map fun _ : Unit => (none : Option SystemTime)
    simp only [h]
    refine iff_of_false ?_ (by simp)
    rintro ⟨e, he⟩
    exact hp e he
  · next cm h =>
    have hp :=
      (handleClientMessage_panicsOnly env self cm).map fun _ : Unit => (none : Option SystemTime)
    simp only [h]
    refine iff_of_false ?_ (by simp)
    rintro ⟨e, he⟩
    exact hp e he
  · next h => simp [h, pure, Except.pure]

end

end Driver

end Splitter
