import Mathlib.Logic.Function.Basic
import Splitter.Driver.Edits

/-!
# The driver's effects on shared memory

`Effect.exec` carries an effect out on the ownerships in memory. `Ledger` is what holds between the
driver's table and everything the driver has done so far: for each grant id the events sent
alternate between an assignment and a removal, ending with the assignment in the table if there is
one, and an announced ownership that is not in the table any more has expired. Every edit keeps it
(`Ledger.edit`).
-/

namespace Splitter

/-- The ownerships in memory, by address. -/
abbrev Memory := OwnershipRef → Option Ownership

/-- Nothing allocated. -/
def Memory.empty : Memory := fun _ => none

/-- Change the ownership at an address. -/
def Memory.modify (mem : Memory) (r : OwnershipRef) (f : Ownership → Ownership) : Memory :=
  Function.update mem r ((mem r).map f)

namespace Effect

/-- Carry out an effect on the ownerships. -/
def exec (mem : Memory) : Effect → Memory
  | .new r o => Function.update mem r (some o)
  | .activate r => mem.modify r Ownership.activate
  | .revoke r => mem.modify r Ownership.revoke
  | .expire r => mem.modify r Ownership.expire
  | .counterpartLoaded r => mem.modify r Ownership.counterpartLoaded
  | .counterpartUnloaded r => mem.modify r Ownership.counterpartUnloaded
  | .setExpiration r deadline => mem.modify r fun o => o.setExpiration deadline
  | .spawnHelpers _ _ | .abortHelpers _ | .event _ | .publish _ | .enqueue _ => mem

/-- The event an effect sends. -/
def event? : Effect → Option GrantEvent
  | .event e => some e
  | _ => none

/-- The effect neither allocates an ownership nor sends an event. -/
def Quiet : Effect → Prop
  | .new _ _ | .event _ => False
  | _ => True

/-- The memory a list of effects leaves. -/
def memoryAfter (log : List Effect) : Memory := log.foldl exec Memory.empty

/-- The events of a list of effects. -/
def events (log : List Effect) : List GrantEvent := log.filterMap event?

theorem memoryAfter_append (log effects : List Effect) :
    memoryAfter (log ++ effects) = effects.foldl exec (memoryAfter log) := List.foldl_append

theorem events_append (log effects : List Effect) :
    events (log ++ effects) = events log ++ events effects := List.filterMap_append ..

end Effect

/-- The second memory has the ownerships of the first, with more latches closed. -/
def Memory.Le (mem mem' : Memory) : Prop :=
  (∀ r (o : Ownership), mem r = some o → ∃ o', mem' r = some o' ∧ o.Le o') ∧
    ∀ r, mem r = none → mem' r = none

namespace Memory

theorem Le.refl (mem : Memory) : mem.Le mem :=
  ⟨fun _ o h => ⟨o, h, Ownership.Le.refl o⟩, fun _ h => h⟩

theorem Le.trans {m₁ m₂ m₃ : Memory} (h : m₁.Le m₂) (h' : m₂.Le m₃) : m₁.Le m₃ := by
  refine ⟨fun r o ho => ?_, fun r hr => h'.2 r (h.2 r hr)⟩
  obtain ⟨o₂, ho₂, hle⟩ := h.1 r o ho
  obtain ⟨o₃, ho₃, hle'⟩ := h'.1 r o₂ ho₂
  exact ⟨o₃, ho₃, hle.trans hle'⟩

/-- An address that has an ownership keeps one. -/
theorem Le.isSome {mem mem' : Memory} {r : OwnershipRef} (h : mem.Le mem') (hr : (mem r).isSome) :
    (mem' r).isSome := by
  obtain ⟨o, ho⟩ := Option.isSome_iff_exists.1 hr
  obtain ⟨o', ho', -⟩ := h.1 r o ho
  exact Option.isSome_of_eq_some ho'

theorem le_modify (mem : Memory) (r : OwnershipRef) {f : Ownership → Ownership}
    (hf : ∀ o : Ownership, o.Le (f o)) : mem.Le (mem.modify r f) := by
  constructor
  · intro k o ho
    by_cases hk : k = r
    · subst hk
      exact ⟨f o, by rw [modify, Function.update_self, ho]; rfl, hf o⟩
    · exact ⟨o, by rw [modify, Function.update_of_ne hk, ho], Ownership.Le.refl o⟩
  · intro k hk
    by_cases hkr : k = r
    · subst hkr
      rw [modify, Function.update_self, hk]
      rfl
    · rw [modify, Function.update_of_ne hkr, hk]

/-- A quiet effect only closes latches. -/
theorem le_exec (mem : Memory) {e : Effect} (h : e.Quiet) : mem.Le (e.exec mem) := by
  cases e with
  | new | event => exact h.elim
  | activate r => exact le_modify mem r Ownership.le_activate
  | revoke r => exact le_modify mem r Ownership.le_revoke
  | expire r => exact le_modify mem r Ownership.le_expire
  | counterpartLoaded r => exact le_modify mem r Ownership.le_counterpartLoaded
  | counterpartUnloaded r => exact le_modify mem r Ownership.le_counterpartUnloaded
  | setExpiration r t => exact le_modify mem r fun o => o.le_setExpiration t
  | spawnHelpers | abortHelpers | publish | enqueue => exact Le.refl mem

theorem le_exec_all {effects : List Effect} (h : ∀ e ∈ effects, e.Quiet) (mem : Memory) :
    mem.Le (effects.foldl Effect.exec mem) := by
  induction effects generalizing mem with
  | nil => exact Le.refl mem
  | cons e es ih =>
    exact (le_exec mem (h e (List.mem_cons_self ..))).trans
      (ih (fun e he => h e (List.mem_cons_of_mem _ he)) _)

end Memory

/-! ## The events of one grant id -/

/-- The grant id of an event. -/
def GrantEvent.id : GrantEvent → GrantId
  | .assigned id _ _ => id
  | .removed id => id

/-- The events of a grant id alternate between an assignment and a removal. The last index is the
assignment that is not removed yet. -/
inductive Alternates (id : GrantId) : List GrantEvent → Option OwnershipRef → Prop
  | nil : Alternates id [] none
  | other {es : List GrantEvent} {o : Option OwnershipRef} {e : GrantEvent} (h : e.id ≠ id) :
      Alternates id es o → Alternates id (es ++ [e]) o
  | assigned {es : List GrantEvent} (shard : Shard) (r : OwnershipRef) :
      Alternates id es none → Alternates id (es ++ [.assigned id shard r]) (some r)
  | removed {es : List GrantEvent} {r : OwnershipRef} :
      Alternates id es (some r) → Alternates id (es ++ [.removed id]) none

/-! ## The ledger -/

/-- The ownership at an address has expired. -/
def Memory.Expired (mem : Memory) (r : OwnershipRef) : Prop :=
  ∃ o, mem r = some o ∧ o.expired.isClosed = true

theorem Memory.Expired.mono {mem mem' : Memory} {r : OwnershipRef} (h : mem.Expired r)
    (hle : mem.Le mem') : mem'.Expired r := by
  obtain ⟨o, ho, hexp⟩ := h
  obtain ⟨o', ho', hoo⟩ := hle.1 r o ho
  exact ⟨o', ho', hoo.expired hexp⟩

/-- `expire` expires the ownership it finds. -/
theorem Memory.expired_modify {mem : Memory} {r : OwnershipRef} (hr : (mem r).isSome) :
    (mem.modify r Ownership.expire).Expired r := by
  obtain ⟨o, ho⟩ := Option.isSome_iff_exists.1 hr
  refine ⟨o.expire, ?_, rfl⟩
  rw [Memory.modify, Function.update_self, ho]
  rfl

/-- What the effects so far have to do with the driver's table. -/
structure Ledger (log : List Effect) (d : Driver) : Prop where
  fresh : ∀ r, d.next ≤ r → Effect.memoryAfter log r = none
  held : ∀ id entry, d.grants.lookup id = some entry →
    (Effect.memoryAfter log entry.ownership).isSome
  alternates : ∀ id,
    Alternates id (Effect.events log) ((d.grants.lookup id).map (·.ownership))
  announced : ∀ id shard r, GrantEvent.assigned id shard r ∈ Effect.events log →
    (∃ entry, d.grants.lookup id = some entry ∧ entry.ownership = r) ∨
      (Effect.memoryAfter log).Expired r

namespace Ledger

theorem initial : Ledger [] Driver.initial where
  fresh _ _ := rfl
  held _ _ h := by cases h
  alternates _ := .nil
  announced _ _ _ h := by cases h

theorem events_quiet {effects : List Effect} (h : ∀ e ∈ effects, e.Quiet) :
    Effect.events effects = [] := by
  refine List.filterMap_eq_nil_iff.2 fun e he => ?_
  have hq := h e he
  cases e with
  | event => exact hq.elim
  | _ => rfl

/-- Quiet effects keep the ledger, if the table keeps its ownerships. -/
theorem quiet {log effects : List Effect} {d d' : Driver} (h : Ledger log d)
    (hq : ∀ e ∈ effects, e.Quiet) (hnext : d'.next = d.next)
    (hgrants : ∀ id, (d'.grants.lookup id).map (·.ownership) =
      (d.grants.lookup id).map (·.ownership)) : Ledger (log ++ effects) d' := by
  have hle : (Effect.memoryAfter log).Le (Effect.memoryAfter (log ++ effects)) := by
    rw [Effect.memoryAfter_append]
    exact Memory.le_exec_all hq _
  have hev : Effect.events (log ++ effects) = Effect.events log := by
    rw [Effect.events_append, events_quiet hq, List.append_nil]
  have hsome : ∀ id entry', d'.grants.lookup id = some entry' →
      ∃ entry, d.grants.lookup id = some entry ∧ entry.ownership = entry'.ownership := by
    intro id entry' hentry'
    have hmap := hgrants id
    rw [hentry'] at hmap
    exact Option.map_eq_some_iff.1 hmap.symm
  refine ⟨fun r hr => ?_, fun id entry' hentry' => ?_, fun id => ?_, fun id shard r hr => ?_⟩
  · exact hle.2 r (h.fresh r (hnext ▸ hr))
  · obtain ⟨entry, hentry, heq⟩ := hsome id entry' hentry'
    rw [← heq]
    exact hle.isSome (h.held id entry hentry)
  · rw [hev, hgrants]
    exact h.alternates id
  · rw [hev] at hr
    rcases h.announced id shard r hr with ⟨entry, hentry, rfl⟩ | hexp
    · left
      have hmap := hgrants id
      rw [hentry] at hmap
      obtain ⟨entry', hentry', heq⟩ := Option.map_eq_some_iff.1 hmap
      exact ⟨entry', hentry', heq⟩
    · exact .inr (hexp.mono hle)

/-- A removal: the ownership expires and the removal is announced. -/
theorem removeGrant {log : List Effect} {d : Driver} (h : Ledger (log ++ d.pending) d)
    (id : GrantId) : Ledger (log ++ (d.removeGrant id).pending) (d.removeGrant id) := by
  have hlookup := d.lookup_removeGrant id
  cases hl : d.grants.lookup id with
  | none =>
    have hself : d.removeGrant id = d := by simp only [Driver.removeGrant, hl]
    rw [hself]
    exact h
  | some entry =>
    set r := entry.ownership
    have hpending : (d.removeGrant id).pending =
        d.pending ++ [.expire r, .abortHelpers r, .event (.removed id)] := by
      simp only [Driver.removeGrant, hl, Driver.emit]
      rfl
    have hnext : (d.removeGrant id).next = d.next := by
      simp only [Driver.removeGrant, hl, Driver.emit]
    have hmem : Effect.memoryAfter (log ++ (d.removeGrant id).pending) =
        (Effect.memoryAfter (log ++ d.pending)).modify r Ownership.expire := by
      rw [hpending, ← List.append_assoc, Effect.memoryAfter_append]
      rfl
    have hev : Effect.events (log ++ (d.removeGrant id).pending) =
        Effect.events (log ++ d.pending) ++ [.removed id] := by
      rw [hpending, ← List.append_assoc, Effect.events_append]
      rfl
    have hle : (Effect.memoryAfter (log ++ d.pending)).Le
        ((Effect.memoryAfter (log ++ d.pending)).modify r Ownership.expire) :=
      Memory.le_modify _ r Ownership.le_expire
    refine ⟨fun k hk => ?_, fun k entry' hentry' => ?_, fun k => ?_, fun k shard r' hr' => ?_⟩
    · rw [hmem]
      exact hle.2 k (h.fresh k (hnext ▸ hk))
    · rw [hlookup] at hentry'
      split at hentry'
      · cases hentry'
      · rw [hmem]
        exact hle.isSome (h.held k entry' hentry')
    · rw [hev, hlookup]
      have halt := h.alternates k
      split
      · next hk =>
        subst hk
        rw [hl] at halt
        exact .removed halt
      · next hk => exact .other (fun he => hk he.symm) halt
    · rw [hev, List.mem_append, List.mem_singleton] at hr'
      rw [hmem, hlookup]
      rcases hr' with hr' | hr'
      · rcases h.announced k shard r' hr' with ⟨entry', hentry', heq⟩ | hexp
        · by_cases hk : k = id
          · subst hk
            rw [hl] at hentry'
            cases hentry'
            rw [← heq]
            exact .inr (Memory.expired_modify (h.held k entry hl))
          · rw [if_neg hk]
            exact .inl ⟨entry', hentry', heq⟩
        · exact .inr (hexp.mono hle)
      · cases hr'

/-- An assignment of an id that is not in the table. -/
theorem enterGrant {log : List Effect} {d : Driver} (h : Ledger (log ++ d.pending) d)
    (g : pb.Grant) (shard : Shard) (expiration now : SystemTime)
    (hfree : d.grants.lookup ⟨g.id⟩ = none) :
    Ledger (log ++ (d.enterGrant g shard expiration now).pending)
      (d.enterGrant g shard expiration now) := by
  set d' := d.enterGrant g shard expiration now with hd'
  set mem := Effect.memoryAfter (log ++ d.pending) with hmemdef
  set o := Ownership.new (grantStateFromI32 g.state) expiration now with ho
  have hpending : d'.pending = d.pending ++ [.new d.next o, .spawnHelpers d.next g,
      .event (.assigned ⟨g.id⟩ shard d.next)] := rfl
  have hmem : Effect.memoryAfter (log ++ d'.pending) = Function.update mem d.next (some o) := by
    rw [hpending, ← List.append_assoc, Effect.memoryAfter_append]
    rfl
  have hev : Effect.events (log ++ d'.pending) =
      Effect.events (log ++ d.pending) ++ [.assigned ⟨g.id⟩ shard d.next] := by
    rw [hpending, ← List.append_assoc, Effect.events_append]
    rfl
  have hlookup : ∀ k, d'.grants.lookup k = if k = ⟨g.id⟩ then
      some { pbGrant := g, ownership := d.next
             revoked := decide (grantStateFromI32 g.state = GrantState.revoked ∨
               grantStateFromI32 g.state = GrantState.revokedUnloaded) }
      else d.grants.lookup k := fun k => AList.lookup_insert_ite _ _ _ _
  have hold : ∀ r, (mem r).isSome → r ≠ d.next := by
    rintro r hr rfl
    rw [hmemdef, h.fresh _ (Nat.le_refl _)] at hr
    cases hr
  refine ⟨fun r hr => ?_, fun k entry hentry => ?_, fun k => ?_, fun k shard' r hr => ?_⟩
  · have hlt : d.next < r := hr
    rw [hmem, Function.update_of_ne (Nat.ne_of_gt hlt)]
    exact h.fresh r (Nat.le_of_lt hlt)
  · rw [hmem]
    rw [hlookup] at hentry
    split at hentry
    · cases hentry
      rw [Function.update_self]
      rfl
    · have hs := h.held k entry hentry
      rw [Function.update_of_ne (hold _ hs)]
      exact hs
  · rw [hev, hlookup]
    have halt := h.alternates k
    split
    · next hk =>
      subst hk
      rw [hfree] at halt
      exact .assigned shard d.next halt
    · next hk => exact .other (fun he => hk he.symm) halt
  · rw [hev, List.mem_append, List.mem_singleton] at hr
    rw [hmem, hlookup]
    rcases hr with hr | hr
    · rcases h.announced k shard' r hr with ⟨entry, hentry, heq⟩ | ⟨o', ho', hexp⟩
      · have hk : k ≠ ⟨g.id⟩ := by
          rintro rfl
          rw [hfree] at hentry
          cases hentry
        rw [if_neg hk]
        exact .inl ⟨entry, hentry, heq⟩
      · right
        refine ⟨o', ?_, hexp⟩
        rw [Function.update_of_ne (hold r (Option.isSome_of_eq_some ho'))]
        exact ho'
    · cases hr
      rw [if_pos rfl]
      exact .inl ⟨_, rfl, rfl⟩

/-- Overwriting an entry under the id it has leaves its ownership in the table. -/
theorem map_insert {grants : HashMap GrantId ActiveGrant} {id : GrantId} {old new : ActiveGrant}
    (hold : grants.lookup id = some old) (heq : new.ownership = old.ownership) (k : GrantId) :
    ((grants.insert id new).lookup k).map (·.ownership) =
      (grants.lookup k).map (·.ownership) := by
  rw [AList.lookup_insert_ite]
  split
  · next hk => rw [hk, hold, Option.map_some, Option.map_some, heq]
  · rfl

/-- **Every edit keeps the ledger.** -/
theorem edit {log : List Effect} {d d' : Driver} (h : Ledger (log ++ d.pending) d)
    (he : Driver.Edit d d') : Ledger (log ++ d'.pending) d' := by
  cases he with
  | remove id => exact h.removeGrant id
  | enter g shard expiration now hfree => exact h.enterGrant g shard expiration now hfree
  | promote g entry hentry =>
    rw [show (d.promoteEntry g entry).pending = d.pending ++ [.activate entry.ownership] from rfl,
      ← List.append_assoc]
    exact h.quiet (by simp [Effect.Quiet]) rfl (map_insert hentry rfl)
  | revoke g newExpiration entry hentry =>
    rw [show (d.revokeEntry g newExpiration entry).pending = d.pending ++
        ((newExpiration.map (Effect.setExpiration entry.ownership)).toList ++
          [Effect.revoke entry.ownership]) from rfl, ← List.append_assoc]
    refine h.quiet ?_ rfl (map_insert hentry rfl)
    cases newExpiration <;> simp [Effect.Quiet]
  | notify target updateState entry hentry =>
    rw [show (d.notifyEntry updateState entry).pending = d.pending ++
        Driver.notifyEffects entry.ownership updateState from rfl, ← List.append_assoc]
    refine h.quiet ?_ rfl fun _ => rfl
    cases updateState <;> simp [Driver.notifyEffects, Effect.Quiet]
  | extend newLease =>
    rw [show (d.extendLeases newLease).pending = d.pending ++
        d.extended.map (fun r => .setExpiration r newLease) from rfl, ← List.append_assoc]
    exact h.quiet (by simp [Effect.Quiet]) rfl fun _ => rfl
  | publish next =>
    rw [show (d.publishCluster next).pending = d.pending ++ [.publish next] from rfl,
      ← List.append_assoc]
    exact h.quiet (by simp [Effect.Quiet]) rfl fun _ => rfl

theorem edits {log : List Effect} {d d' : Driver} (h : Ledger (log ++ d.pending) d)
    (he : Driver.Edits d d') : Ledger (log ++ d'.pending) d' :=
  he.invariant (I := fun d => Ledger (log ++ d.pending) d) (fun _ _ hd hstep => hd.edit hstep) h

end Ledger

end Splitter
