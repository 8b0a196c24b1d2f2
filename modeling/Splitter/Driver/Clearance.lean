import Splitter.Driver.Account
import Splitter.Driver.Independence
import Splitter.Driver.Replay

/-!
# By whose word a grant is taken over

A grant may be taken over once the driver has recorded that its assignment was activated or that its
counterpart has unloaded. `Loop.cleared_step`: the driver records either for an assignment of a
grant only by an instruction that names the grant, so a grant that the coordinator has not cleared
is not cleared.
-/

namespace Splitter

/-- The instruction lets an assignment of the grant take over: it assigns it as active, promotes it,
or says that its counterpart has unloaded. -/
def Instruction.Clears (id : GrantId) : Instruction → Prop
  | .assign g _ => id = ⟨g.id⟩ ∧ grantStateFromI32 g.state = .active
  | .promote g => id = ⟨g.id⟩
  | .notify n => ∃ target update, n.target = some target ∧ n.update = some update ∧
      id = ⟨target.id⟩ ∧ grantStateFromI32 update.state = .revokedUnloaded
  | .revoke _ | .extend _ => False

namespace Handled

/-- The assignment a record is about. -/
def ref : Handled → OwnershipRef
  | .assign r _ | .promote r _ | .revoke r _ | .notify r _ => r

/-- The record lets its assignment take over. -/
def Clears : Handled → Prop
  | .assign _ g => grantStateFromI32 g.state = .active
  | .promote _ _ => True
  | .notify _ state => state = .revokedUnloaded
  | .revoke _ _ => False

end Handled

/-- The records of an assignment that let it take over. -/
theorem exists_clears {history : List Handled} {r : OwnershipRef} :
    (∃ h ∈ history, h.ref = r ∧ h.Clears) ↔
      Activated history r ∨ CounterpartUnloaded history r := by
  constructor
  · rintro ⟨h, hmem, rfl, hclears⟩
    cases h with
    | assign r g => exact .inl (.inl ⟨g, hmem, hclears⟩)
    | promote r g => exact .inl (.inr ⟨g, hmem⟩)
    | revoke r g => exact hclears.elim
    | notify r state =>
      cases (show state = .revokedUnloaded from hclears)
      exact .inr hmem
  · rintro ((⟨g, hmem, hactive⟩ | ⟨g, hmem⟩) | hmem)
    · exact ⟨_, hmem, rfl, hactive⟩
    · exact ⟨_, hmem, rfl, trivial⟩
    · exact ⟨_, hmem, rfl, rfl⟩

/-- Some assignment of the grant may take over. -/
def Cleared (history : List Handled) (id : GrantId) : Prop :=
  ∃ r g, Handled.assign r g ∈ history ∧ id = ⟨g.id⟩ ∧ ∃ h ∈ history, h.ref = r ∧ h.Clears

/-- A record clears the assignment it is about, unless it is an assignment that was known before. -/
theorem Cleared.of_append {history : List Handled} {h : Handled} {id : GrantId}
    (hc : Cleared (history ++ [h]) id) :
    Cleared history id ∨
      (h.Clears ∧ ∃ g, Handled.assign h.ref g ∈ history ++ [h] ∧ id = ⟨g.id⟩) ∨
        ∃ r g, h = .assign r g ∧ ∃ h' ∈ history, h'.ref = r := by
  obtain ⟨r, g, hassign, hid, h', hmem, rfl, hclears⟩ := hc
  rcases List.mem_append.1 hmem with hold | hnew
  · rcases List.mem_append.1 hassign with hassign | hassign
    · exact .inl ⟨_, g, hassign, hid, h', hold, rfl, hclears⟩
    · exact .inr (.inr ⟨_, g, (List.mem_singleton.1 hassign).symm, h', hold, rfl⟩)
  · cases List.mem_singleton.1 hnew
    exact .inr (.inl ⟨hclears, g, hassign, hid⟩)

namespace Driver

/-- The entries of the table are assignments of their id, and no record is about an ownership yet to
be made. -/
structure Filed (d : Driver) : Prop where
  keyed : ∀ id entry, d.grants.lookup id = some entry →
    ∃ g, Handled.assign entry.ownership g ∈ d.history ∧ id = ⟨g.id⟩
  known : ∀ h ∈ d.history, h.ref < d.next

namespace Filed

variable {d d' : Driver}

theorem initial : Filed Driver.initial where
  keyed _ _ h := by cases h
  known _ h := by cases h

/-- An entry that is overwritten in place, with a record about its ownership. -/
theorem overwrite (h : d.Filed) {id : GrantId} {entry new : ActiveGrant} {rec : Handled}
    (hentry : d.grants.lookup id = some entry)
    (hgrants : ∀ k, d'.grants.lookup k = if k = id then some new else d.grants.lookup k)
    (hown : new.ownership = entry.ownership) (hhistory : d'.history = d.history ++ [rec])
    (href : rec.ref = entry.ownership) (hnext : d'.next = d.next) : d'.Filed where
  keyed k entry' hk := by
    rw [hgrants] at hk
    rw [hhistory]
    split at hk
    · next hkid =>
      cases hk
      obtain ⟨g, hg, hid⟩ := h.keyed id entry hentry
      exact ⟨g, by rw [hown]; exact List.mem_append_left _ hg, hkid.trans hid⟩
    · obtain ⟨g, hg, hid⟩ := h.keyed k entry' hk
      exact ⟨g, List.mem_append_left _ hg, hid⟩
  known rec' hrec := by
    rw [hhistory, List.mem_append, List.mem_singleton] at hrec
    rw [hnext]
    rcases hrec with hold | rfl
    · exact h.known rec' hold
    · obtain ⟨g, hg, -⟩ := h.keyed id entry hentry
      rw [href]
      exact h.known _ hg

/-- **Every edit.** -/
theorem edit (h : d.Filed) (he : Edit d d') : d'.Filed := by
  cases he with
  | remove id =>
    refine ⟨fun k entry hk => ?_, ?_⟩
    · rw [lookup_removeGrant] at hk
      split at hk
      · cases hk
      · unfold removeGrant
        split
        · exact h.keyed k entry hk
        · exact h.keyed k entry hk
    · unfold removeGrant
      split
      · exact h.known
      · exact h.known
  | enter g shard expiration now hfree =>
    refine ⟨fun k entry hk => ?_, fun rec hrec => ?_⟩
    · replace hk := (AList.lookup_insert_ite _ _ _ _).symm.trans hk
      split at hk
      · next hkid =>
        cases hk
        exact ⟨g, List.mem_append_right _ (List.mem_singleton.2 rfl), hkid⟩
      · obtain ⟨g', hg', hid⟩ := h.keyed k entry hk
        exact ⟨g', List.mem_append_left _ hg', hid⟩
    · show rec.ref < d.next + 1
      rcases List.mem_append.1 hrec with hold | hnew
      · exact Nat.lt_succ_of_lt (h.known rec hold)
      · cases List.mem_singleton.1 hnew
        exact Nat.lt_succ_self _
  | promote g entry hentry =>
    exact h.overwrite hentry (fun k => AList.lookup_insert_ite _ _ _ _) rfl rfl rfl rfl
  | revoke g newExpiration entry hentry =>
    exact h.overwrite hentry (fun k => AList.lookup_insert_ite _ _ _ _) rfl rfl rfl rfl
  | notify target updateState entry hentry =>
    refine h.overwrite hentry (fun k => ?_) rfl rfl rfl rfl
    split
    · next hk => rw [hk]; exact hentry
    · rfl
  | extend newLease => exact ⟨h.keyed, h.known⟩
  | publish next => exact ⟨h.keyed, h.known⟩

end Filed

/-! ## One instruction -/

/-- A record about the ownership of an entry clears the id of the entry. -/
theorem Filed.cleared_record {log : List Effect} {d : Driver} {entry : ActiveGrant} {h : Handled}
    {id k : GrantId} (hf : d.Filed) (hb : Booked log d) (hentry : d.grants.lookup k = some entry)
    (href : h.ref = entry.ownership) (hnot : ∀ r g, h ≠ .assign r g)
    (hc : Cleared (d.history ++ [h]) id) : Cleared d.history id ∨ h.Clears ∧ id = k := by
  rcases hc.of_append with hold | ⟨hclears, g, hg, rfl⟩ | ⟨r, g, rfl, -⟩
  · exact .inl hold
  · obtain ⟨g', hg', rfl⟩ := hf.keyed k entry hentry
    rcases List.mem_append.1 hg with hg | hg
    · rw [href] at hg
      cases hb.once _ _ _ hg hg'
      exact .inr ⟨hclears, rfl⟩
    · exact absurd (List.mem_singleton.1 hg).symm (hnot _ _)
  · exact absurd rfl (hnot r g)

/-- **An instruction clears the grant it names.** -/
theorem Filed.cleared_perform {log : List Effect} {d : Driver} (hf : d.Filed) (hb : Booked log d)
    (i : Instruction) {id : GrantId} (hc : Cleared (d.perform i).1.history id) :
    Cleared d.history id ∨ i.Clears id := by
  cases i with
  | assign g now =>
    simp only [perform, onAssign] at hc
    split at hc
    · exact .inl hc
    · split at hc
      · exact .inl hc
      · set d₀ := d.removeGrant ⟨g.id⟩ with hd₀
        have hf₀ : d₀.Filed := hf.edit (.remove d _)
        have hhistory : d₀.history = d.history := by
          rw [hd₀, removeGrant]
          split <;> rfl
        rcases hc.of_append with hold | ⟨hclears, g', hg', rfl⟩ | ⟨r, g', heq, h, hmem, hr⟩
        · rw [hhistory] at hold
          exact .inl hold
        · rcases List.mem_append.1 hg' with hg' | hg'
          · exact absurd (hf₀.known _ hg') (Nat.lt_irrefl _)
          · cases List.mem_singleton.1 hg'
            exact .inr ⟨rfl, hclears⟩
        · -- a record about the ownership that is only now made
          cases heq
          have hlt := hf₀.known h hmem
          rw [hr] at hlt
          exact absurd hlt (Nat.lt_irrefl _)
  | promote g =>
    simp only [perform, onPromote] at hc
    split at hc
    · exact .inl hc
    · next entry hentry =>
      have hrec : ∀ r g', Handled.promote entry.ownership g ≠ .assign r g' :=
        fun _ _ h => by cases h
      exact (hf.cleared_record hb hentry rfl hrec hc).imp_right (·.2)
  | revoke g =>
    simp only [perform, onRevoke] at hc
    split at hc
    · exact .inl hc
    · split at hc
      · exact .inl hc
      · next entry hentry =>
        have hrec : ∀ r g', Handled.revoke entry.ownership g ≠ .assign r g' :=
          fun _ _ h => by cases h
        exact (hf.cleared_record hb hentry rfl hrec hc).imp_right (·.1)
  | notify n =>
    simp only [perform, onNotify] at hc
    split at hc
    · next target update htarget hupdate =>
      split at hc
      · exact .inl hc
      · next entry hentry =>
        have hrec : ∀ r g', Handled.notify entry.ownership (grantStateFromI32 update.state) ≠
            .assign r g' := fun _ _ h => by cases h
        exact (hf.cleared_record hb hentry rfl hrec hc).imp_right fun h =>
          ⟨target, update, htarget, hupdate, h.2, h.1⟩
    · exact .inl hc
  | extend lease =>
    simp only [perform, onExtend] at hc
    split at hc
    · exact .inl hc
    · exact .inl hc
    · exact .inl hc

/-- Some instruction of a list clears a grant that the list clears. -/
theorem Filed.cleared_follow {log : List Effect} {d : Driver} (hf : d.Filed) (hb : Booked log d)
    (is : List Instruction) {id : GrantId} (hc : Cleared (d.follow is).1.history id) :
    Cleared d.history id ∨ ∃ i ∈ is, i.Clears id := by
  induction is generalizing d with
  | nil => exact .inl hc
  | cons i is ih =>
    have hf' : (d.perform i).1.Filed :=
      (d.perform_edits i).invariant (fun _ _ hd he => hd.edit he) hf
    have hb' := hb.perform i
    have hfirst : Cleared (d.perform i).1.history id → _ := hf.cleared_perform hb i
    simp only [follow] at hc
    rcases hperform : d.perform i with ⟨next, fault | _⟩
    · rw [hperform] at hc hfirst
      exact (hfirst hc).imp_right fun hi => ⟨i, List.mem_cons_self .., hi⟩
    · rw [hperform] at hc hfirst hf' hb'
      rcases ih hf' hb' hc with hnext | ⟨j, hj, hclears⟩
      · exact (hfirst hnext).imp_right fun hi => ⟨i, List.mem_cons_self .., hi⟩
      · exact .inr ⟨j, List.mem_cons_of_mem _ hj, hclears⟩

/-- The removals of the clean-up record nothing. -/
theorem history_removeGrants (d : Driver) (ids : List GrantId) :
    (ids.foldl removeGrant d).history = d.history := by
  refine List.foldl_invariant (P := fun d' : Driver => d'.history = d.history)
    (fun d' id h => ?_) rfl
  rw [← h, removeGrant]
  split <;> rfl

end Driver

/-! ## One step of the driver -/

namespace Loop

variable [UuidCrate]

/-- A frame clears a grant only by an instruction it carries. -/
theorem cleared_inbound {log : List Effect} {d : Driver} (hf : d.Filed) (hb : d.Booked log)
    (env : Env) (join : pb.JoinMessage) {id : GrantId}
    (hc : Cleared (d.handleInbound env join).1.history id) :
    Cleared d.history id ∨ ∃ i ∈ d.frameInstructions env join, i.Clears id := by
  rcases join with ⟨_ | msg | ⟨_ | client | cm⟩⟩
  · exact .inl hc
  · exact .inl hc
  · exact .inl hc
  · have hfollow : (d.handleInbound env
        { msg := some (.consumer { msg := some (.client client) }) }).1 =
        (d.follow (d.instructions env client)).1 :=
      congrArg Prod.fst (d.handleClientMessage_follow env client)
    rw [hfollow] at hc
    exact hf.cleared_follow hb _ hc
  · have hsame : (d.handleCluster env cm).1.history = d.history := by
      unfold Driver.handleCluster
      split
      · simp only
        split <;> rfl
      · rfl
      · rfl
    exact .inl (hsame ▸ hc)

/-- **The driver clears a grant only by an instruction it takes.** -/
theorem cleared_step {s t : Loop} {e : Event} (hf : s.driver.Filed) (hb : s.driver.Booked s.done)
    (hst : s.step e = some t) {id : GrantId} (hc : Cleared t.driver.history id) :
    Cleared s.driver.history id ∨ ∃ i ∈ s.heard e, i.Clears id := by
  cases step_cases hst with
  | takeInbound item env hpc =>
    rcases item with _ | ⟨status | join⟩
    · exact .inl hc
    · exact .inl hc
    · exact cleared_inbound hf hb env join hc
  | collect ids hpc hids =>
    rw [show Loop.driver _ = _ from rfl, Driver.history_removeGrants] at hc
    exact .inl hc
  | @handled result now => rcases result with (_ | _) | (_ | _) <;> exact .inl hc
  | deregisterSent ok | closedSent ok => cases ok <;> exact .inl hc
  | _ => exact .inl hc

/-- The driver of a run is filed. -/
theorem filed_step {s t : Loop} {e : Event} (hf : s.driver.Filed) (hst : s.step e = some t) :
    t.driver.Filed := by
  rcases driver_step hst with ⟨eff, rest, -, -, hdriver⟩ | ⟨hedits, -⟩
  · rw [hdriver]
    exact ⟨hf.keyed, hf.known⟩
  · exact hedits.invariant (fun _ _ hd he => hd.edit he) hf

end Loop

end Splitter
