import Splitter.Node.Lapse

/-!
# Leases keep consumers apart

Any number of consumers to which a coordinator assigns one shard, each with the ownership of its
assignment and the expiration timer beside it. Leases travel in `Assign`, `Extend` and `Revoke`
messages, which arrive late, in any order and more than once, and the clock of a consumer may be
off by `skew`.

`one_live`: where the coordinator gives a consumer a lease only when every lease it has ever given
to another one is over by more than the skew, and the timers run when they are due, at most one
consumer has an assignment that has not expired, however the messages are delivered.
-/

namespace Splitter

namespace ExpirationTimer

/-- The deadline the timer has read, until it looks again. -/
def Pc.deadline : Pc → Option SystemTime
  | .readNow deadline | .select deadline | .parked deadline _ => some deadline
  | _ => none

/-- The assignment has not expired. -/
def Live (s : ExpirationTimer) : Prop := s.ownership.expired.isClosed = false

/-- A timer of a fresh ownership. -/
def spawn (ownership : Ownership) : ExpirationTimer :=
  { pc := .check, ownership, notifying := false }

end ExpirationTimer

/-- The consumers of a shard and the leases on the wire, at a time in nanoseconds. -/
structure Leasing (ι : Type) where
  now : Int
  /-- Every lease the coordinator has given to a consumer. -/
  leases : ι → List SystemTime
  /-- The assignment that the driver of a consumer has in its table, or had last. -/
  holder : ι → Option ExpirationTimer

namespace Leasing

open ClockedTimer (clock)
open ExpirationTimer (Act Pc)

variable {ι : Type}

inductive Event (ι : Type)
  /-- The coordinator gives a consumer a lease. -/
  | lease (i : ι) (lease : SystemTime)
  /-- `on_assign`, with the clock `Ownership::new` reads; an assignment it replaces has expired. -/
  | assign (i : ι) (state : GrantState) (lease read : SystemTime)
  /-- A step of the timer, a `set_expiration` of `on_extend` or `on_revoke`, or `remove_grant`. -/
  | holder (i : ι) (e : ExpirationTimer.Event)
  | elapse (now : Int)

/-- A clock of a consumer. -/
def Near (skew : Nat) (now : Int) (read : SystemTime) : Prop :=
  now ≤ read.nanos + skew ∧ read.nanos ≤ now + skew

instance (skew : Nat) (now : Int) (read : SystemTime) : Decidable (Near skew now read) :=
  inferInstanceAs (Decidable (_ ∧ _))

/-- What a step of an assignment may come from: a clock of the consumer, a lease on the wire, and
`remove_grant`, which expires the ownership before it aborts the timer. -/
def Arises (skew : Nat) (s : Leasing ι) (i : ι) (timer : ExpirationTimer) :
    ExpirationTimer.Event → Prop
  | .timer (.advance read) => Near skew s.now read
  | .write lease => lease ∈ s.leases i
  | .abort => timer.ownership.expired.isClosed = true
  | _ => True

instance (skew : Nat) (s : Leasing ι) (i : ι) (timer : ExpirationTimer) :
    (e : ExpirationTimer.Event) → Decidable (s.Arises skew i timer e)
  | .timer (.advance read) => inferInstanceAs (Decidable (Near skew s.now read))
  | .write lease => inferInstanceAs (Decidable (lease ∈ s.leases i))
  | .abort => inferInstanceAs (Decidable (_ = true))
  | .timer .slept | .timer .notified | .notifyWaiters | .expire => isTrue trivial

def setHolder [DecidableEq ι] (s : Leasing ι) (i : ι) (timer : ExpirationTimer) : Leasing ι :=
  { s with holder := Function.update s.holder i (some timer) }

def step [DecidableEq ι] (skew : Nat) (s : Leasing ι) : Event ι → Option (Leasing ι)
  | .lease i lease =>
    some { s with leases := Function.update s.leases i (lease :: s.leases i) }
  | .assign i state lease read =>
    if lease ∈ s.leases i ∧ Near skew s.now read then
      some (s.setHolder i (.spawn (.new state lease read)))
    else none
  | .holder i e =>
    match s.holder i with
    | some timer => if s.Arises skew i timer e then (timer.step e).map (s.setHolder i) else none
    | none => none
  | .elapse now => if s.now ≤ now then some { s with now } else none

/-- No lease has been given yet. -/
def machine [DecidableEq ι] (skew : Nat) : Machine (Leasing ι) (Event ι) where
  init s := (∀ i, s.leases i = []) ∧ ∀ i, s.holder i = none
  step := step skew

/-! ## What keeps them apart -/

/-- The timer sleeps, not past its deadline by more than its clock is off, or is over. -/
def Rests (skew : Nat) (now : Int) (timer : ExpirationTimer) : Prop :=
  timer.pc = .returned ∨
    ∃ deadline woken, timer.pc = .parked deadline woken ∧ now ≤ deadline.nanos + skew

/-- What a step must meet. The coordinator has waited for the leases of the other consumers to end
by every clock, and time passes only while the timers have nothing to do. -/
def Lawful (skew : Nat) (s : Leasing ι) : Event ι → Prop
  | .lease i _ => ∀ j, j ≠ i → ∀ l ∈ s.leases j, l.nanos + skew < s.now
  | .elapse now => ∀ i timer, s.holder i = some timer → Rests skew now timer
  | _ => True

/-- At most one consumer has an assignment that has not expired. -/
def OneLive (s : Leasing ι) : Prop :=
  ∀ i j t u, s.holder i = some t → s.holder j = some u → t.Live → u.Live → i = j

/-! ## The invariant -/

/-- A consumer has a lease that is not over by every clock. -/
def Open (skew : Nat) (s : Leasing ι) (i : ι) : Prop :=
  ∃ l ∈ s.leases i, s.now ≤ l.nanos + skew

/-- What is known of an assignment: its lease and the deadline its timer has read were on the wire,
a live one has an open lease, and the timer returns from an expired one only. -/
structure Leased (skew : Nat) (s : Leasing ι) (i : ι) (timer : ExpirationTimer) : Prop where
  expiration : timer.ownership.expiration ∈ s.leases i
  deadline : ∀ d, timer.pc.deadline = some d → d ∈ s.leases i
  live : timer.Live → s.Open skew i
  returned : timer.pc = .returned → timer.ownership.expired.isClosed = true

/-- What holds in every state. -/
structure Apart (skew : Nat) (s : Leasing ι) : Prop where
  exclusive : ∀ i j, s.Open skew i → s.Open skew j → i = j
  leased : ∀ i timer, s.holder i = some timer → s.Leased skew i timer

variable {skew : Nat} {s t : Leasing ι} {i : ι} {timer timer' : ExpirationTimer}

theorem Apart.oneLive (h : s.Apart skew) : s.OneLive := fun i j t u ht hu hlive hlive' =>
  h.exclusive i j ((h.leased i t ht).live hlive) ((h.leased j u hu).live hlive')

theorem Apart.initial [DecidableEq ι] (h : (machine skew).init s) : s.Apart skew where
  exclusive i j hopen := by
    obtain ⟨l, hl, -⟩ := hopen
    rw [h.1 i] at hl
    cases hl
  leased i timer htimer := by
    rw [h.2 i] at htimer
    cases htimer

/-- Leases stay on the wire. -/
theorem Leased.mono (h : s.Leased skew i timer) (hnow : t.now = s.now)
    (hleases : s.leases i ⊆ t.leases i) : t.Leased skew i timer where
  expiration := hleases h.expiration
  deadline d hd := hleases (h.deadline d hd)
  live hlive := by
    obtain ⟨l, hl, hle⟩ := h.live hlive
    exact ⟨l, hleases hl, hnow ▸ hle⟩
  returned := h.returned

/-- What changes one assignment leaves what is known of the others. -/
theorem Apart.setHolder [DecidableEq ι] (h : s.Apart skew) (hnew : s.Leased skew i timer) :
    (s.setHolder i timer).Apart skew where
  exclusive := h.exclusive
  leased j u hu := by
    by_cases hj : j = i
    · subst hj
      cases (Function.update_self ..).symm.trans hu
      exact hnew.mono rfl (List.Subset.refl _)
    · exact (h.leased j u ((Function.update_of_ne hj ..).symm.trans hu)).mono rfl
        (List.Subset.refl _)

/-- A fresh assignment has expired, or its lease is open. -/
theorem leased_spawn {state : GrantState} {lease read : SystemTime} (hlease : lease ∈ s.leases i)
    (hnear : Near skew s.now read) : s.Leased skew i (.spawn (.new state lease read)) where
  expiration := hlease
  deadline d hd := by cases hd
  live hlive := by
    refine ⟨lease, hlease, ?_⟩
    have hread : ¬ read.nanos > lease.nanos := fun hgt => by
      have hlive : (Ownership.new state lease read).expired.isClosed = false := hlive
      simp only [Ownership.new, if_pos hgt] at hlive
      cases hlive
    have hnow := hnear.1
    omega
  returned hpc := by cases hpc

/-- The timer's own steps: the deadline it reads is the lease, and it returns from an expired
ownership only. -/
theorem Leased.run {act : Act} (h : s.Leased skew i timer) (hrun : timer.run act = some timer') :
    s.Leased skew i timer' := by
  obtain ⟨pc, o, notifying⟩ := timer
  cases act with
  | advance now =>
    cases pc with
    | parked | returned => cases hrun
    | check =>
      cases hrun
      refine ⟨h.expiration, fun d hd => ?_, h.live, fun hpc => ?_⟩
      · simp only [ExpirationTimer.goto] at hd
        split at hd
        · cases hd
        · cases hd
      · simp only [ExpirationTimer.goto] at hpc
        split at hpc
        · next hexp => exact hexp
        · cases hpc
    | readDeadline =>
      cases hrun
      refine ⟨h.expiration, fun d hd => ?_, h.live, fun hpc => by cases hpc⟩
      cases hd
      exact h.expiration
    | readNow deadline =>
      cases hrun
      refine ⟨h.expiration, fun d hd => ?_, h.live, fun hpc => ?_⟩
      · simp only [ExpirationTimer.goto] at hd
        split at hd
        · cases hd
        · exact h.deadline d hd
      · simp only [ExpirationTimer.goto] at hpc
        split at hpc
        · cases hpc
        · cases hpc
    | select deadline =>
      cases hrun
      exact ⟨h.expiration, h.deadline, h.live, fun hpc => by cases hpc⟩
    | recheck =>
      cases hrun
      exact ⟨h.expiration, fun d hd => (by cases hd), h.live, fun hpc => by cases hpc⟩
    | recheckNow deadline =>
      cases hrun
      refine ⟨h.expiration, fun d hd => ?_, h.live, fun hpc => ?_⟩
      · simp only [ExpirationTimer.goto] at hd
        split at hd
        · cases hd
        · cases hd
      · simp only [ExpirationTimer.goto] at hpc
        split at hpc
        · cases hpc
        · cases hpc
    | expire =>
      cases hrun
      exact ⟨h.expiration, fun d hd => (by cases hd), fun hlive => (by cases hlive),
        fun _ => rfl⟩
  | slept =>
    cases pc with
    | parked deadline woken =>
      cases hrun
      exact ⟨h.expiration, fun d hd => (by cases hd), h.live, fun hpc => by cases hpc⟩
    | _ => cases hrun
  | notified =>
    cases pc with
    | parked deadline woken =>
      cases woken with
      | true =>
        cases hrun
        exact ⟨h.expiration, fun d hd => (by cases hd), h.live, fun hpc => by cases hpc⟩
      | false => cases hrun
    | _ => cases hrun

/-- A step of an assignment. -/
theorem Leased.step {e : ExpirationTimer.Event} (h : s.Leased skew i timer)
    (he : s.Arises skew i timer e) (hst : timer.step e = some timer') :
    s.Leased skew i timer' := by
  cases e with
  | timer act => exact h.run hst
  | write lease =>
    simp only [ExpirationTimer.step] at hst
    split at hst
    · cases hst
    · cases hst
      exact ⟨he, h.deadline, h.live, h.returned⟩
  | notifyWaiters =>
    simp only [ExpirationTimer.step] at hst
    split at hst
    · cases hst
      obtain ⟨pc, o, notifying⟩ := timer
      cases pc with
      | parked deadline woken =>
        exact ⟨h.expiration, h.deadline, h.live, fun hpc => by cases hpc⟩
      | _ => exact ⟨h.expiration, h.deadline, h.live, h.returned⟩
    · cases hst
  | expire =>
    cases hst
    exact ⟨h.expiration, h.deadline, fun hlive => (by cases hlive), fun _ => rfl⟩
  | abort =>
    simp only [ExpirationTimer.step] at hst
    split at hst
    · cases hst
      exact ⟨h.expiration, fun d hd => (by cases hd), h.live, fun _ => he⟩
    · cases hst

/-- **The step lemma.** -/
theorem Apart.step [DecidableEq ι] {e : Event ι} (h : s.Apart skew)
    (hst : s.step skew e = some t) (hlaw : s.Lawful skew e) : t.Apart skew := by
  cases e with
  | lease i lease =>
    cases hst
    have hsub : ∀ j, s.leases j ⊆ Function.update s.leases i (lease :: s.leases i) j := by
      intro j
      by_cases hj : j = i
      · subst hj
        rw [Function.update_self]
        exact List.subset_cons_self ..
      · rw [Function.update_of_ne hj]
        exact List.Subset.refl _
    -- no other consumer has a lease that is still open
    have hone : ∀ j, Open skew { s with
        leases := Function.update s.leases i (lease :: s.leases i) } j → j = i := by
      rintro j ⟨l, hl, hle⟩
      by_contra hj
      have hl : l ∈ s.leases j := by
        have hl : l ∈ Function.update s.leases i (lease :: s.leases i) j := hl
        rwa [Function.update_of_ne hj] at hl
      have hover := hlaw j hj l hl
      have hle : s.now ≤ l.nanos + skew := hle
      omega
    exact
      { exclusive := fun j k hj hk => (hone j hj).trans (hone k hk).symm
        leased := fun j u hu => (h.leased j u hu).mono rfl (hsub j) }
  | assign i state lease read =>
    obtain ⟨hc, heq⟩ := Option.ite_none_right_eq_some.1 hst
    cases heq
    exact h.setHolder (leased_spawn hc.1 hc.2)
  | holder i e =>
    simp only [Leasing.step] at hst
    split at hst
    · next timer htimer =>
      obtain ⟨he, hst⟩ := Option.ite_none_right_eq_some.1 hst
      obtain ⟨timer', htimer', rfl⟩ := Option.map_eq_some_iff.1 hst
      exact h.setHolder ((h.leased i timer htimer).step he htimer')
    · cases hst
  | elapse now =>
    obtain ⟨hle, heq⟩ := Option.ite_none_right_eq_some.1 hst
    cases heq
    have hclose : ∀ j, Open skew { s with now } j → s.Open skew j := by
      rintro j ⟨l, hl, hopen⟩
      exact ⟨l, hl, Int.le_trans hle hopen⟩
    refine
      { exclusive := fun j k hj hk => h.exclusive j k (hclose j hj) (hclose k hk)
        leased := fun j u hu => ?_ }
    have hleased := h.leased j u hu
    refine ⟨hleased.expiration, hleased.deadline, fun hlive => ?_, hleased.returned⟩
    -- the timer that lets time pass sleeps to a deadline that is not over
    rcases hlaw j u hu with hret | ⟨deadline, woken, hparked, hle⟩
    · have hexp := hleased.returned hret
      have hlive : u.ownership.expired.isClosed = false := hlive
      rw [hexp] at hlive
      cases hlive
    · exact ⟨deadline, hleased.deadline deadline (by rw [hparked]; rfl), hle⟩

/-- **Leases keep consumers apart.** In every run in which the coordinator waits for the leases of
the other consumers and the timers run when they are due, at most one consumer has an assignment
that has not expired. -/
theorem one_live [DecidableEq ι] {es : List (Event ι)} (hinit : (machine skew).init s)
    (h : (machine skew).Guarded (Lawful skew) s es) : (machine skew).Always OneLive s es :=
  (Machine.always_of_guarded (I := Apart skew) (fun _ _ _ h hst hlaw => h.step hst hlaw)
    (.initial hinit) h).mono fun _ ht => ht.oneLive

/-! ## A run -/

/-- Nothing has been leased yet. -/
def unleased : Leasing Bool :=
  { now := 0, leases := fun _ => [], holder := fun _ => none }

/-- Steps of the timer of the first consumer. -/
def advance (n : Nat) (now : Nat) : List (Event Bool) :=
  List.replicate n (.holder false (.timer (.advance (clock now))))

/-- The first consumer holds a lease of ten nanoseconds, and its timer sleeps. -/
def firstHolds : List (Event Bool) := .assign false .active (clock 10) (clock 0) :: advance 4 0

/-- It has run out. -/
def firstExpires : List (Event Bool) := .holder false (.timer .slept) :: advance 3 10

/-- Then the second one gets a lease. -/
theorem one_live_handover :
    (machine 0).Always OneLive unleased
      ([.lease false (clock 10)] ++ firstHolds ++ [.elapse 10] ++ firstExpires ++
        [.elapse 11, .lease true (clock 20)] ++ [.assign true .active (clock 20) (clock 11)]) := by
  refine one_live ⟨fun _ => rfl, fun _ => rfl⟩ ?_
  have hquiet : ∀ es : List (Event Bool), (∀ e ∈ es, ∀ t, Lawful 0 t e) → ∀ t,
      (machine 0).Guarded (Lawful 0) t es := fun es h t => Machine.guarded_of_forall h
  refine Machine.guarded_append.2 ⟨?_, fun t _ => hquiet _ (by simp [Lawful]) t⟩
  refine Machine.guarded_append.2 ⟨?_, ?_⟩
  · refine Machine.guarded_append.2 ⟨?_, fun t _ => hquiet _
      (by simp [firstExpires, advance, Lawful]) t⟩
    refine Machine.guarded_append.2 ⟨?_, ?_⟩
    · refine Machine.guarded_append.2 ⟨?_, fun t _ => hquiet _
        (by simp [firstHolds, advance, Lawful]) t⟩
      exact Machine.guarded_cons.2 fun t ht =>
        ⟨fun j hj l hl => (by cases hl), Machine.guarded_nil⟩
    · rintro t ⟨⟩
      refine Machine.guarded_cons.2 fun t ht => ⟨?_, Machine.guarded_nil⟩
      rintro (_ | _) timer ⟨⟩
      exact .inr ⟨clock 10, false, rfl, by decide⟩
  · rintro t ⟨⟩
    refine Machine.guarded_cons.2 fun t ht => ⟨?_, ?_⟩
    · rintro (_ | _) timer ⟨⟩
      exact .inl rfl
    · cases ht
      refine Machine.guarded_cons.2 fun t ht => ⟨?_, Machine.guarded_nil⟩
      rintro (_ | _) hj l hl
      · cases List.mem_singleton.1 hl
        decide
      · exact absurd rfl hj

end Leasing

end Splitter
