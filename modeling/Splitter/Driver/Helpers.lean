import Splitter.Driver.Exit
import Splitter.Lib.Fold

/-!
# The helpers of the assignments

The driver spawns the helper tasks of an assignment when it enters it into the table and aborts them
when it removes it. `Tended` is its account of them: helpers run for the entries of the table, each
entry its own, and where they are aborted the ownership has expired. `tended_step`: every step of
the driver keeps it.
-/

namespace Splitter

namespace Effect

/-- Carry out an effect on the helpers of the assignments, which are there or not, and aborted or
not. -/
def tend (helpers : OwnershipRef → Option Bool) : Effect → OwnershipRef → Option Bool
  | .spawnHelpers r _ => Function.update helpers r (some false)
  | .abortHelpers r => Function.update helpers r ((helpers r).map fun _ => true)
  | _ => helpers

/-- The helpers a list of effects leaves. -/
def helpersAfter (log : List Effect) : OwnershipRef → Option Bool := log.foldl tend fun _ => none

theorem helpersAfter_append (log effects : List Effect) :
    helpersAfter (log ++ effects) = effects.foldl tend (helpersAfter log) := List.foldl_append

/-- An effect neither spawns helpers nor aborts them. -/
def Untended : Effect → Prop
  | .spawnHelpers _ _ | .abortHelpers _ => False
  | _ => True

/-- Effects that leave the helpers alone. -/
theorem helpersAfter_untended (log : List Effect) {effects : List Effect}
    (h : ∀ e ∈ effects, e.Untended) : helpersAfter (log ++ effects) = helpersAfter log := by
  rw [helpersAfter_append]
  refine List.foldl_eq_self fun e he => ?_
  have hu := h e he
  cases e with
  | spawnHelpers | abortHelpers => exact hu.elim
  | _ => rfl

end Effect

namespace Driver

/-- The table has an entry with the ownership. -/
def Tabled (d : Driver) (r : OwnershipRef) : Prop :=
  ∃ id entry, d.grants.lookup id = some entry ∧ entry.ownership = r

/-- The driver's account of the helpers. -/
structure Tended (log : List Effect) (d : Driver) : Prop where
  fresh : ∀ r, d.next ≤ r → Effect.helpersAfter log r = none
  spawned : ∀ r, r < d.next → Effect.helpersAfter log r ≠ none
  running : ∀ r, Effect.helpersAfter log r = some false ↔ d.Tabled r
  aborted : ∀ r, Effect.helpersAfter log r = some true → (Effect.memoryAfter log).Expired r
  unique : ∀ id id' entry entry', d.grants.lookup id = some entry →
    d.grants.lookup id' = some entry' → entry.ownership = entry'.ownership → id = id'

namespace Tended

variable {log effects : List Effect} {d d' : Driver}

theorem initial : Tended [] Driver.initial where
  fresh _ _ := rfl
  spawned _ h := absurd h (Nat.not_lt_zero _)
  running r := iff_of_false (fun h => by cases h) fun h => by
    obtain ⟨_, _, h, -⟩ := h
    cases h
  aborted _ h := by cases h
  unique _ _ _ _ h := by cases h

/-- A log that leaves the same. -/
theorem congr {log' : List Effect} (h : d.Tended log)
    (hhelpers : Effect.helpersAfter log' = Effect.helpersAfter log)
    (hmem : Effect.memoryAfter log' = Effect.memoryAfter log) (hgrants : d'.grants = d.grants)
    (hnext : d'.next = d.next) : d'.Tended log' where
  fresh := by rw [hhelpers, hnext]; exact h.fresh
  spawned := by rw [hhelpers, hnext]; exact h.spawned
  running := by unfold Tabled; rw [hhelpers, hgrants]; exact h.running
  aborted := by rw [hhelpers, hmem]; exact h.aborted
  unique := by rw [hgrants]; exact h.unique

/-- Effects that leave the helpers alone, and an edit that leaves the ownerships in the table. -/
theorem untended (h : d.Tended log) (hq : ∀ e ∈ effects, e.Quiet)
    (hu : ∀ e ∈ effects, e.Untended) (hnext : d'.next = d.next)
    (hgrants : ∀ id, (d'.grants.lookup id).map (·.ownership) =
      (d.grants.lookup id).map (·.ownership)) : d'.Tended (log ++ effects) := by
  have hhelpers := Effect.helpersAfter_untended log hu
  have hsome : ∀ {d₁ d₂ : Driver}, (∀ id, (d₁.grants.lookup id).map (·.ownership) =
      (d₂.grants.lookup id).map (·.ownership)) → ∀ id entry, d₁.grants.lookup id = some entry →
        ∃ entry', d₂.grants.lookup id = some entry' ∧ entry'.ownership = entry.ownership := by
    intro d₁ d₂ heq id entry hentry
    have hmap := heq id
    rw [hentry] at hmap
    exact Option.map_eq_some_iff.1 hmap.symm
  have htabled : ∀ r, d.Tabled r ↔ d'.Tabled r := fun r => by
    constructor
    · rintro ⟨id, entry, hentry, rfl⟩
      obtain ⟨entry', hentry', heq⟩ := hsome (fun id => (hgrants id).symm) id entry hentry
      exact ⟨id, entry', hentry', heq⟩
    · rintro ⟨id, entry, hentry, rfl⟩
      obtain ⟨entry', hentry', heq⟩ := hsome hgrants id entry hentry
      exact ⟨id, entry', hentry', heq⟩
  refine ⟨?_, ?_, fun r => ?_, fun r hr => ?_, fun id id' entry entry' he he' heq => ?_⟩
  · rw [hhelpers, hnext]
    exact h.fresh
  · rw [hhelpers, hnext]
    exact h.spawned
  · rw [hhelpers]
    exact (h.running r).trans (htabled r)
  · rw [hhelpers] at hr
    rw [Effect.memoryAfter_append]
    exact (h.aborted r hr).mono (Memory.le_exec_all hq _)
  · obtain ⟨e, hlookup, hown⟩ := hsome hgrants id entry he
    obtain ⟨e', hlookup', hown'⟩ := hsome hgrants id' entry' he'
    exact h.unique id id' e e' hlookup hlookup' (by rw [hown, hown', heq])

/-- A removal aborts the helpers of the entry, whose ownership has expired. -/
theorem removeGrant (h : d.Tended (log ++ d.pending)) (hledger : Ledger (log ++ d.pending) d)
    (id : GrantId) : (d.removeGrant id).Tended (log ++ (d.removeGrant id).pending) := by
  have hlookup := d.lookup_removeGrant id
  cases hl : d.grants.lookup id with
  | none =>
    have hself : d.removeGrant id = d := by simp only [Driver.removeGrant, hl]
    rw [hself]
    exact h
  | some entry =>
    set r := entry.ownership with hr
    have hpending : (d.removeGrant id).pending =
        d.pending ++ [.expire r, .abortHelpers r, .event (.removed id)] := by
      simp only [Driver.removeGrant, hl, Driver.emit]
      rfl
    have hnext : (d.removeGrant id).next = d.next := by
      simp only [Driver.removeGrant, hl, Driver.emit]
    have hrunning : Effect.helpersAfter (log ++ d.pending) r = some false :=
      (h.running r).2 ⟨id, entry, hl, rfl⟩
    have hhelpers : Effect.helpersAfter (log ++ (d.removeGrant id).pending) =
        Function.update (Effect.helpersAfter (log ++ d.pending)) r (some true) := by
      rw [hpending, ← List.append_assoc, Effect.helpersAfter_append]
      simp only [List.foldl_cons, List.foldl_nil, Effect.tend, hrunning, Option.map_some]
    have hmem : Effect.memoryAfter (log ++ (d.removeGrant id).pending) =
        (Effect.memoryAfter (log ++ d.pending)).modify r Ownership.expire := by
      rw [hpending, ← List.append_assoc, Effect.memoryAfter_append]
      rfl
    have hold : ∀ k e, (d.removeGrant id).grants.lookup k = some e →
        k ≠ id ∧ d.grants.lookup k = some e := by
      intro k e he
      rw [hlookup] at he
      exact Option.ite_none_left_eq_some.1 he
    refine ⟨fun k hk => ?_, fun k hk => ?_, fun k => ?_, fun k hk => ?_,
      fun k k' e e' he he' heq => h.unique k k' e e' (hold k e he).2 (hold k' e' he').2 heq⟩
    · have hne : k ≠ r := by
        rintro rfl
        exact absurd (h.fresh r (hnext ▸ hk)) (by rw [hrunning]; exact fun h => by cases h)
      rw [hhelpers, Function.update_of_ne hne]
      exact h.fresh k (hnext ▸ hk)
    · by_cases hkr : k = r
      · rw [hhelpers, hkr, Function.update_self]
        exact fun h => by cases h
      · rw [hhelpers, Function.update_of_ne hkr]
        exact h.spawned k (hnext ▸ hk)
    · by_cases hkr : k = r
      · rw [hhelpers, hkr, Function.update_self]
        refine iff_of_false (fun h => by cases h) fun htabled => ?_
        obtain ⟨k', e, he, heq⟩ := htabled
        obtain ⟨hne, he⟩ := hold k' e he
        exact hne (h.unique k' id e entry he hl heq)
      · rw [hhelpers, Function.update_of_ne hkr, h.running k]
        constructor
        · rintro ⟨k', e, he, rfl⟩
          refine ⟨k', e, ?_, rfl⟩
          rw [hlookup, if_neg, he]
          rintro rfl
          rw [hl] at he
          cases he
          exact hkr rfl
        · rintro ⟨k', e, he, rfl⟩
          exact ⟨k', e, (hold k' e he).2, rfl⟩
    · rw [hmem]
      by_cases hkr : k = r
      · rw [hkr]
        exact Memory.expired_modify (hledger.held id entry hl)
      · rw [hhelpers, Function.update_of_ne hkr] at hk
        exact (h.aborted k hk).mono (Memory.le_modify _ r Ownership.le_expire)

/-- An assignment has helpers of its own. -/
theorem enterGrant (h : d.Tended (log ++ d.pending)) (hledger : Ledger (log ++ d.pending) d)
    (g : pb.Grant) (shard : Shard) (expiration now : SystemTime)
    (hfree : d.grants.lookup ⟨g.id⟩ = none) :
    (d.enterGrant g shard expiration now).Tended
      (log ++ (d.enterGrant g shard expiration now).pending) := by
  set d' := d.enterGrant g shard expiration now with hd'
  set o := Ownership.new (grantStateFromI32 g.state) expiration now with ho
  have hpending : d'.pending = d.pending ++ [.new d.next o, .spawnHelpers d.next g,
      .event (.assigned ⟨g.id⟩ shard d.next)] := rfl
  have hhelpers : Effect.helpersAfter (log ++ d'.pending) =
      Function.update (Effect.helpersAfter (log ++ d.pending)) d.next (some false) := by
    rw [hpending, ← List.append_assoc, Effect.helpersAfter_append]
    rfl
  have hmem : Effect.memoryAfter (log ++ d'.pending) =
      Function.update (Effect.memoryAfter (log ++ d.pending)) d.next (some o) := by
    rw [hpending, ← List.append_assoc, Effect.memoryAfter_append]
    rfl
  have hlookup : ∀ k, d'.grants.lookup k = if k = ⟨g.id⟩ then
      some { pbGrant := g, ownership := d.next
             revoked := decide (grantStateFromI32 g.state = GrantState.revoked ∨
               grantStateFromI32 g.state = GrantState.revokedUnloaded) }
      else d.grants.lookup k := fun k => AList.lookup_insert_ite _ _ _ _
  have hold : ∀ k e, d.grants.lookup k = some e → e.ownership ≠ d.next := by
    intro k e he heq
    have hheld := hledger.held k e he
    rw [heq, hledger.fresh _ (Nat.le_refl _)] at hheld
    cases hheld
  have hcases : ∀ k e, d'.grants.lookup k = some e →
      k = ⟨g.id⟩ ∧ e.ownership = d.next ∨ d.grants.lookup k = some e := by
    intro k e he
    rw [hlookup] at he
    split at he
    · next hk =>
      cases he
      exact .inl ⟨hk, rfl⟩
    · exact .inr he
  refine ⟨fun k hk => ?_, fun k hk => ?_, fun k => ?_, fun k hk => ?_,
    fun k k' e e' he he' heq => ?_⟩
  · have hlt : d.next < k := hk
    rw [hhelpers, Function.update_of_ne (Nat.ne_of_gt hlt)]
    exact h.fresh k (Nat.le_of_lt hlt)
  · by_cases hkr : k = d.next
    · rw [hhelpers, hkr, Function.update_self]
      exact fun h => by cases h
    · rw [hhelpers, Function.update_of_ne hkr]
      exact h.spawned k (Nat.lt_of_le_of_ne (Nat.le_of_lt_succ hk) hkr)
  · by_cases hkr : k = d.next
    · rw [hhelpers, hkr, Function.update_self]
      exact iff_of_true rfl ⟨⟨g.id⟩, _, by rw [hlookup, if_pos rfl], rfl⟩
    · rw [hhelpers, Function.update_of_ne hkr, h.running k]
      constructor
      · rintro ⟨k', e, he, rfl⟩
        refine ⟨k', e, ?_, rfl⟩
        rw [hlookup, if_neg, he]
        rintro rfl
        rw [hfree] at he
        cases he
      · rintro ⟨k', e, he, rfl⟩
        exact ⟨k', e, (hcases k' e he).resolve_left fun hnew => hkr hnew.2, rfl⟩
  · have hkr : k ≠ d.next := by
      rintro rfl
      rw [hhelpers, Function.update_self] at hk
      cases hk
    rw [hhelpers, Function.update_of_ne hkr] at hk
    obtain ⟨o', ho', hexp⟩ := h.aborted k hk
    exact ⟨o', by rw [hmem, Function.update_of_ne hkr]; exact ho', hexp⟩
  · rcases hcases k e he with ⟨rfl, hown⟩ | he <;> rcases hcases k' e' he' with ⟨rfl, hown'⟩ | he'
    · rfl
    · exact absurd (heq.symm.trans hown) (hold k' e' he')
    · exact absurd (heq.trans hown') (hold k e he)
    · exact h.unique k k' e e' he he' heq

/-- **Every edit.** -/
theorem edit (h : d.Tended (log ++ d.pending)) (hledger : Ledger (log ++ d.pending) d)
    (he : Edit d d') : d'.Tended (log ++ d'.pending) := by
  cases he with
  | remove id => exact h.removeGrant hledger id
  | enter g shard expiration now hfree => exact h.enterGrant hledger g shard expiration now hfree
  | promote g entry hentry =>
    rw [show (d.promoteEntry g entry).pending = d.pending ++ [.activate entry.ownership] from rfl,
      ← List.append_assoc]
    exact h.untended (by simp [Effect.Quiet]) (by simp [Effect.Untended]) rfl
      (Ledger.map_insert hentry rfl)
  | revoke g newExpiration entry hentry =>
    rw [show (d.revokeEntry g newExpiration entry).pending = d.pending ++
        ((newExpiration.map (Effect.setExpiration entry.ownership)).toList ++
          [Effect.revoke entry.ownership]) from rfl, ← List.append_assoc]
    refine h.untended ?_ ?_ rfl (Ledger.map_insert hentry rfl)
    · cases newExpiration <;> simp [Effect.Quiet]
    · cases newExpiration <;> simp [Effect.Untended]
  | notify target updateState entry hentry =>
    rw [show (d.notifyEntry updateState entry).pending = d.pending ++
        notifyEffects entry.ownership updateState from rfl, ← List.append_assoc]
    refine h.untended ?_ ?_ rfl fun _ => rfl
    · cases updateState <;> simp [notifyEffects, Effect.Quiet]
    · cases updateState <;> simp [notifyEffects, Effect.Untended]
  | extend newLease =>
    rw [show (d.extendLeases newLease).pending = d.pending ++
        d.extended.map (fun r => .setExpiration r newLease) from rfl, ← List.append_assoc]
    exact h.untended (by simp [Effect.Quiet]) (by simp [Effect.Untended]) rfl fun _ => rfl
  | publish next =>
    rw [show (d.publishCluster next).pending = d.pending ++ [.publish next] from rfl,
      ← List.append_assoc]
    exact h.untended (by simp [Effect.Quiet]) (by simp [Effect.Untended]) rfl fun _ => rfl

end Tended

end Driver

/-! ## The loop -/

namespace Loop

/-- The account of the helpers, with what is still to be carried out. -/
def Tended (s : Loop) : Prop := s.driver.Tended (s.done ++ s.driver.pending)

theorem Tended.initial : Tended initial := Driver.Tended.initial

/-- **The step lemma.** -/
theorem tended_step [UuidCrate] {s t : Loop} {e : Event} (h : s.Tended) (htidy : s.Tidy)
    (hst : s.step e = some t) : t.Tended := by
  unfold Tended at h ⊢
  rw [done_step hst]
  rcases driver_step hst with ⟨eff, rest, hpending, hcarried, hdriver⟩ | ⟨hedits, hframes⟩
  · rw [hpending] at h
    rw [hcarried, hdriver, List.append_assoc]
    exact h.congr rfl rfl rfl rfl
  · -- a frame that is sent in between changes neither the helpers nor the ownerships
    have hedited : t.driver.Tended (s.done ++ t.driver.pending) :=
      (hedits.invariant
        (I := fun d => Ledger (s.done ++ d.pending) d ∧ d.Tended (s.done ++ d.pending))
        (fun _ _ hd he => ⟨hd.1.edit he, hd.2.edit hd.1 he⟩) ⟨htidy.ledger, h⟩).2
    have hhelpers : Effect.helpersAfter (s.done ++ s.carried e) = Effect.helpersAfter s.done := by
      refine Effect.helpersAfter_untended _ fun eff heff => ?_
      obtain ⟨frame, rfl⟩ := hframes eff heff
      trivial
    have hmem : Effect.memoryAfter (s.done ++ s.carried e) = Effect.memoryAfter s.done := by
      rw [Effect.memoryAfter_append]
      refine List.foldl_eq_self fun eff heff => ?_
      obtain ⟨frame, rfl⟩ := hframes eff heff
      rfl
    refine hedited.congr ?_ ?_ rfl rfl
    · rw [Effect.helpersAfter_append, hhelpers, ← Effect.helpersAfter_append]
    · rw [Effect.memoryAfter_append, hmem, ← Effect.memoryAfter_append]

end Loop

end Splitter
