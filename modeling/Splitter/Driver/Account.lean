import Splitter.Driver.Loop
import Splitter.Lib.Counter

/-!
# The driver's account

Every latch the driver closes and everything it has still to carry out is there because of a
message it handled: `Accounted` says so of an ownership, `Grounded` of the driver, with the fact
that an ownership is only ever allocated at an address of its own. Every edit and every effect
carried out keeps it (`Grounded.edit`, `Grounded.exec`).
-/

namespace Splitter

/-! ## What was handled -/

/-- The driver has handled a promotion of the assignment, or was assigned it as active. -/
def Activated (history : List Handled) (r : OwnershipRef) : Prop :=
  (∃ g, Handled.assign r g ∈ history ∧ grantStateFromI32 g.state = .active) ∨
    ∃ g, Handled.promote r g ∈ history

/-- The driver has handled a notification that the counterpart has unloaded. -/
def CounterpartUnloaded (history : List Handled) (r : OwnershipRef) : Prop :=
  Handled.notify r .revokedUnloaded ∈ history

/-- The driver has handled a revoke of the assignment, or was assigned it as revoked. -/
def RevokeHandled (history : List Handled) (r : OwnershipRef) : Prop :=
  (∃ g, Handled.assign r g ∈ history ∧
      (grantStateFromI32 g.state = .revoked ∨ grantStateFromI32 g.state = .revokedUnloaded)) ∨
    ∃ g, Handled.revoke r g ∈ history

/-- The latches that the driver alone closes are closed for a reason. -/
structure Accounted (history : List Handled) (r : OwnershipRef) (o : Ownership) : Prop where
  active : o.active.isClosed = true → Activated history r
  unloaded : o.loader.unloaded.isClosed = true → CounterpartUnloaded history r
  revoked : o.revoked.isClosed = true → RevokeHandled history r

/-- The two signals of a task are open. -/
def Unsignalled (o : Ownership) : Prop :=
  o.loader.load.isClosed = false ∧ o.unloader.unload.isClosed = false

namespace Effect

/-- An effect is there because of something the driver has handled. Handlers send no frames. -/
def Justified (history : List Handled) : Effect → Prop
  | .new r o => Accounted history r o ∧ Unsignalled o
  | .spawnHelpers r g => Handled.assign r g ∈ history
  | .activate r => Activated history r
  | .revoke r => RevokeHandled history r
  | .counterpartUnloaded r => CounterpartUnloaded history r
  | .enqueue _ => False
  | _ => True

/-- The addresses a list of effects allocates. -/
def allocations (effects : List Effect) : List OwnershipRef :=
  effects.filterMap fun
    | .new r _ => some r
    | _ => none

theorem allocations_append (effects effects' : List Effect) :
    allocations (effects ++ effects') = allocations effects ++ allocations effects' :=
  List.filterMap_append ..

end Effect

section
variable {history history' : List Handled} {r : OwnershipRef}

theorem Activated.mono (hsub : history ⊆ history') (h : Activated history r) :
    Activated history' r :=
  h.imp (fun ⟨g, hg, hactive⟩ => ⟨g, hsub hg, hactive⟩) fun ⟨g, hg⟩ => ⟨g, hsub hg⟩

theorem RevokeHandled.mono (hsub : history ⊆ history') (h : RevokeHandled history r) :
    RevokeHandled history' r :=
  h.imp (fun ⟨g, hg, hrevoked⟩ => ⟨g, hsub hg, hrevoked⟩) fun ⟨g, hg⟩ => ⟨g, hsub hg⟩

theorem Accounted.mono {o : Ownership} (hsub : history ⊆ history') (h : Accounted history r o) :
    Accounted history' r o where
  active hclosed := (h.active hclosed).mono hsub
  unloaded hclosed := hsub (h.unloaded hclosed)
  revoked hclosed := (h.revoked hclosed).mono hsub

theorem Effect.Justified.mono {e : Effect} (hsub : history ⊆ history')
    (h : e.Justified history) : e.Justified history' := by
  cases e with
  | new r o => exact ⟨h.1.mono hsub, h.2⟩
  | spawnHelpers r g => exact hsub h
  | activate r => exact Activated.mono hsub h
  | revoke r => exact RevokeHandled.mono hsub h
  | counterpartUnloaded r => exact hsub h
  | enqueue frame => exact h
  | _ => trivial

/-- A fresh ownership is accounted for by the assignment it is made for. -/
theorem Accounted.new {g : pb.Grant} {expiration now : SystemTime}
    (h : Handled.assign r g ∈ history) :
    Accounted history r (Ownership.new (grantStateFromI32 g.state) expiration now) where
  active hclosed := by
    by_contra hnot
    have hstate : grantStateFromI32 g.state ≠ .active := fun hs => hnot (.inl ⟨g, h, hs⟩)
    simp [Ownership.new, hstate] at hclosed
  unloaded hclosed := by simp [Ownership.new, Loader.new] at hclosed
  revoked hclosed := by
    by_contra hnot
    have hstate : ¬ (grantStateFromI32 g.state = .revoked ∨
        grantStateFromI32 g.state = .revokedUnloaded) := fun hs => hnot (.inl ⟨g, h, hs⟩)
    simp [Ownership.new, hstate] at hclosed

end

/-! ## What handlers leave pending -/

namespace Driver

/-- Everything pending is justified, and what is to be allocated is fresh in memory. -/
structure Grounded (mem : Memory) (d : Driver) : Prop where
  justified : ∀ e ∈ d.pending, e.Justified d.history
  nodup : (Effect.allocations d.pending).Nodup
  fresh : ∀ r ∈ Effect.allocations d.pending, r < d.next ∧ mem r = none
  allocated : ∀ r, d.next ≤ r → mem r = none

theorem Grounded.initial : Grounded Memory.empty initial where
  justified _ h := by cases h
  nodup := List.nodup_nil
  fresh _ h := by cases h
  allocated _ _ := rfl

/-- An edit that allocates nothing keeps the driver grounded if its effects are justified. -/
theorem Grounded.append {mem : Memory} {d d' : Driver} {effects : List Effect}
    (h : Grounded mem d) (hpending : d'.pending = d.pending ++ effects)
    (hsub : d.history ⊆ d'.history) (hjust : ∀ e ∈ effects, e.Justified d'.history)
    (halloc : Effect.allocations effects = []) (hnext : d'.next = d.next) : Grounded mem d' where
  justified e he := by
    rw [hpending, List.mem_append] at he
    rcases he with he | he
    · exact (h.justified e he).mono hsub
    · exact hjust e he
  nodup := by
    rw [hpending, Effect.allocations_append, halloc, List.append_nil]
    exact h.nodup
  fresh r hr := by
    rw [hpending, Effect.allocations_append, halloc, List.append_nil] at hr
    rw [hnext]
    exact h.fresh r hr
  allocated := by
    rw [hnext]
    exact h.allocated

/-- Each address is allocated once. -/
theorem Grounded.counter {mem : Memory} {d : Driver} (h : Grounded mem d) :
    Counter.Fresh d.next (Effect.allocations d.pending) (mem · = none) :=
  ⟨h.nodup, h.fresh, h.allocated⟩

theorem Grounded.enterGrant {mem : Memory} {d : Driver} (h : Grounded mem d) (g : pb.Grant)
    (shard : Shard) (expiration now : SystemTime) :
    Grounded mem (d.enterGrant g shard expiration now) := by
  set d' := d.enterGrant g shard expiration now with hd'
  set o := Ownership.new (grantStateFromI32 g.state) expiration now with ho
  have hpending : d'.pending = d.pending ++ [.new d.next o, .spawnHelpers d.next g,
      .event (.assigned ⟨g.id⟩ shard d.next)] := rfl
  have hhistory : d'.history = d.history ++ [.assign d.next g] := rfl
  have hmem : Handled.assign d.next g ∈ d'.history := by simp [hhistory]
  have halloc : Effect.allocations d'.pending = Effect.allocations d.pending ++ [d.next] := by
    rw [hpending, Effect.allocations_append]
    rfl
  have hcounter : Counter.Fresh d'.next (Effect.allocations d'.pending) (mem · = none) := by
    rw [halloc]
    exact h.counter.push
  refine ⟨fun e he => ?_, hcounter.nodup, hcounter.due, hcounter.unused⟩
  rw [hpending, List.mem_append] at he
  rcases he with he | he
  · exact (h.justified e he).mono (by simp [hhistory])
  · simp only [List.mem_cons, List.not_mem_nil, or_false] at he
    rcases he with rfl | rfl | rfl
    · exact ⟨.new hmem, rfl, rfl⟩
    · exact hmem
    · trivial

/-- **Every edit keeps the driver grounded.** -/
theorem Grounded.edit {mem : Memory} {d d' : Driver} (h : Grounded mem d) (he : Edit d d') :
    Grounded mem d' := by
  cases he with
  | remove id =>
    unfold removeGrant
    split
    · exact h
    · exact h.append rfl (List.Subset.refl _) (by simp [Effect.Justified]) rfl rfl
  | enter g shard expiration now => exact h.enterGrant g shard expiration now
  | promote g entry =>
    refine h.append rfl (by simp [promoteEntry, record, emit]) ?_ rfl rfl
    simp [Effect.Justified, Activated, promoteEntry, record, emit]
  | revoke g newExpiration entry =>
    refine h.append rfl (by simp [revokeEntry, record, emit]) ?_ ?_ rfl
    · cases newExpiration <;>
        simp [Effect.Justified, RevokeHandled, revokeEntry, record, emit]
    · cases newExpiration <;> rfl
  | notify target updateState entry =>
    refine h.append rfl (by simp [notifyEntry, record, emit]) ?_ ?_ rfl
    · cases updateState <;>
        simp [notifyEffects, Effect.Justified, CounterpartUnloaded, notifyEntry, record, emit]
    · cases updateState <;> rfl
  | extend newLease =>
    refine h.append rfl (List.Subset.refl _) ?_ ?_ rfl
    · simp [Effect.Justified]
    · simp [Effect.allocations]
  | publish next => exact h.append rfl (List.Subset.refl _) (by simp [Effect.Justified]) rfl rfl

/-- Edits only add to the history. -/
theorem history_edit {d d' : Driver} (he : Edit d d') : d.history ⊆ d'.history := by
  cases he with
  | remove id =>
    unfold removeGrant
    split <;> exact List.Subset.refl _
  | enter | promote | revoke | notify =>
    simp [enterGrant, promoteEntry, revokeEntry, notifyEntry, record, emit]
  | extend | publish => exact List.Subset.refl _

theorem history_edits {d d' : Driver} (he : Edits d d') : d.history ⊆ d'.history :=
  he.invariant (I := fun d' => d.history ⊆ d'.history)
    (fun _ _ h hstep => List.Subset.trans h (history_edit hstep)) (List.Subset.refl _)

/-- A memory with the same addresses. -/
theorem Grounded.congr {mem mem' : Memory} {d : Driver} (h : Grounded mem d)
    (hdom : ∀ r, mem r = none → mem' r = none) : Grounded mem' d where
  justified := h.justified
  nodup := h.nodup
  fresh r hr := ⟨(h.fresh r hr).1, hdom r (h.fresh r hr).2⟩
  allocated r hr := hdom r (h.allocated r hr)

/-- Carrying out the next effect keeps the driver grounded. -/
theorem Grounded.exec {mem : Memory} {d : Driver} {e : Effect} {rest : List Effect}
    (h : Grounded mem d) (hpending : d.pending = e :: rest) :
    Grounded (e.exec mem) { d with pending := rest } := by
  have hjust : ∀ e' ∈ rest, e'.Justified d.history :=
    fun e' he' => h.justified e' (by simp [hpending, he'])
  have hcounter := h.counter
  rw [hpending] at hcounter
  have hrest : Counter.Fresh d.next (Effect.allocations rest) (e.exec mem · = none) := by
    cases e with
    | new r o =>
      refine Counter.Fresh.pop (r := r) hcounter fun k hne hk => ?_
      exact (Function.update_of_ne hne ..).trans hk
    | event => exact hcounter
    | _ => exact Counter.Fresh.mono hcounter (Memory.le_exec mem (by trivial)).2
  exact ⟨hjust, hrest.nodup, hrest.due, hrest.unused⟩

end Driver

end Splitter
