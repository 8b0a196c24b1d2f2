import Splitter.Lib.HashMap
import Splitter.Lib.Machine
import Splitter.Lib.Watch
import Splitter.Ownership

/-!
# The latch at its atomic steps

`latch.rs`: a flag and a watch channel, on which any number of tasks call `close`, `reader` and
`closed`. A step is one access to the flag or the channel, or the clone or drop of a receiver. The
two can disagree for good: `send` stores nothing where there is no receiver.

`latch_wakes`: in no interleaving is a call of `closed` left waiting once the flag is set and every
`close` has ended, and none returns before the flag is set. `step_refines` is the justification of
the latch with one field that the other components are modelled over.
-/

namespace Splitter

open Watch

/-- Where a call of `close` stands that has set the flag: `send` has yet to look for receivers, or
to store the value. -/
inductive ClosePc
  | swapped | sending
  deriving DecidableEq

/-- Where a call of `LatchReader::closed` stands: it found the flag unset, has a receiver to read
the value with, awaits a change, or has returned. -/
inductive ClosedPc
  | checked
  | cloned (rx : Receiver)
  | waiting (rx : Receiver)
  | returned
  deriving DecidableEq

/-- The call has a receiver of its own. -/
def ClosedPc.hasClone : ClosedPc → Bool
  | .checked => false
  | .cloned _ => true
  | .waiting _ => true
  | .returned => false

/-- A call of `LatchReader::closed`, which borrows its reader until it returns. -/
structure ClosedCall where
  reader : Nat
  pc : ClosedPc
  deriving DecidableEq

/-- A latch and the calls on it: the flag, the values sent on the channel, the readers with their
receivers, and the calls of `close` and `closed`. -/
structure LatchState where
  closed : Bool
  sent : List Bool
  readers : HashMap Nat Receiver
  closes : HashMap Nat ClosePc
  calls : HashMap Nat ClosedCall

namespace LatchState

/-- `Latch::new`; the receiver of the new channel is dropped. -/
def new : LatchState := { closed := false, sent := [], readers := ∅, closes := ∅, calls := ∅ }

/-- `receiver_count`: the receivers of the readers, and those the calls of `closed` have cloned. -/
def receiverCount (s : LatchState) : Nat :=
  s.readers.entries.length + (s.calls.values.filter fun call => call.pc.hasClone).length

/-- No call of `closed` borrows the reader. -/
def unborrowed (s : LatchState) (r : Nat) : Bool :=
  s.calls.values.all fun call => decide (call.pc = .returned ∨ call.reader ≠ r)

/-- A call of `closed` goes on. -/
def setCall (s : LatchState) (k reader : Nat) (pc : ClosedPc) : LatchState :=
  { s with calls := s.calls.insert k ⟨reader, pc⟩ }

/-- The steps. `Latch::closed` is `reader`, `closed` on that reader and the drop of it; a call of
`closed` may be dropped at any time. The branch on which `changed` fails is not there: the sender
lives as long as a reader does. -/
inductive Event
  | swap (c : Nat)
  | count (c : Nat)
  | send (c : Nat)
  | reader (r : Nat)
  | cloneReader (r new : Nat)
  | dropReader (r : Nat)
  | check (k r : Nat)
  | clone (k : Nat)
  | borrow (k : Nat)
  | changed (k : Nat)
  | cancel (k : Nat)

/-- One step. -/
def step (s : LatchState) : Event → Option LatchState
  -- the call that finds the flag set is over; the one that sets it goes on to `send`
  | .swap c =>
    if s.closes.lookup c ≠ none then none
    else if s.closed then some s
    else some { s with closed := true, closes := s.closes.insert c .swapped }
  | .count c =>
    if s.closes.lookup c ≠ some .swapped then none
    else if s.receiverCount = 0 then some { s with closes := s.closes.erase c }
    else some { s with closes := s.closes.insert c .sending }
  | .send c =>
    if s.closes.lookup c ≠ some .sending then none
    else some { s with sent := s.sent ++ [true], closes := s.closes.erase c }
  | .reader r =>
    if s.readers.lookup r ≠ none then none
    else some { s with readers := s.readers.insert r ⟨s.sent.length⟩ }
  | .cloneReader r new =>
    if s.readers.lookup new ≠ none then none
    else (s.readers.lookup r).map fun rx => { s with readers := s.readers.insert new rx }
  | .dropReader r =>
    if s.unborrowed r then some { s with readers := s.readers.erase r } else none
  | .check k r =>
    if s.readers.lookup r = none ∨ s.calls.lookup k ≠ none then none
    else some (s.setCall k r (if s.closed then .returned else .checked))
  | .clone k =>
    match s.calls.lookup k with
    | some ⟨r, .checked⟩ => (s.readers.lookup r).map fun rx => s.setCall k r (.cloned rx)
    | _ => none
  | .borrow k =>
    match s.calls.lookup k with
    | some ⟨r, .cloned _⟩ =>
      let borrowed := Receiver.borrowAndUpdate false s.sent
      some (s.setCall k r (if borrowed.1 then .returned else .waiting borrowed.2))
    | _ => none
  | .changed k =>
    match s.calls.lookup k with
    | some ⟨r, .waiting rx⟩ => (rx.changed s.sent).map fun rx => s.setCall k r (.cloned rx)
    | _ => none
  | .cancel k => some { s with calls := s.calls.erase k }

/-- The latch as a machine. -/
def machine : Machine LatchState Event where
  init s := s = new
  step := step

/-! ## The invariant -/

/-- The value is stored, or a call of `close` that has set the flag is still to look for receivers
and store it. -/
def Announced (s : LatchState) : Prop := s.sent ≠ [] ∨ ∃ c, s.closes.lookup c ≠ none

/-- What holds of a call of `closed`: it borrows a reader until it returns; if the flag was set
since it found it unset, that is announced; what it waits for is a change of the value `false`; and
it has returned only if the flag is set. -/
structure CallOk (s : LatchState) (call : ClosedCall) : Prop where
  live : call.pc ≠ .returned → s.readers.lookup call.reader ≠ none
  announced : call.pc ≠ .returned → s.closed = true → s.Announced
  fresh : ∀ rx, call.pc = .waiting rx → Fresh false s.sent rx false
  returned : call.pc = .returned → s.closed = true

/-- What holds of a latch: only `true` is sent, nothing is announced before the flag is set, and all
its calls are in order. -/
structure Inv (s : LatchState) : Prop where
  sent : ∀ value ∈ s.sent, value = true
  flagged : s.Announced → s.closed = true
  calls : ∀ k call, s.calls.lookup k = some call → s.CallOk call

section
variable {s : LatchState}

/-- A value that was stored is `true`. -/
theorem Inv.value_eq (h : Inv s) : value false s.sent = true ↔ s.sent ≠ [] := by
  constructor
  · intro hvalue hnil
    rw [hnil] at hvalue
    cases hvalue
  · intro hne
    have hlast := List.getLast?_eq_some_getLast hne
    rw [value, hlast, Option.getD_some]
    exact h.sent _ (List.getLast_mem hne)

/-- A call of `closed` that has not returned keeps a receiver alive. -/
theorem CallOk.receiverCount_ne_zero {call : ClosedCall} (h : s.CallOk call)
    (hpc : call.pc ≠ .returned) : s.receiverCount ≠ 0 := by
  obtain ⟨rx, hrx⟩ := Option.ne_none_iff_exists'.1 (h.live hpc)
  have hmem := AList.mem_lookup_iff.1 hrx
  have hpos : 0 < s.readers.entries.length := List.length_pos_of_mem hmem
  unfold receiverCount
  omega

/-- A call of `closed` that goes on without returning stays in order. -/
theorem CallOk.advance {r : Nat} {pc pc' : ClosedPc} (h : s.CallOk ⟨r, pc⟩) (hpc : pc ≠ .returned)
    (hpc' : pc' ≠ .returned) (hfresh : ∀ rx, pc' = .waiting rx → Fresh false s.sent rx false) :
    s.CallOk ⟨r, pc'⟩ where
  live _ := h.live hpc
  announced _ := h.announced hpc
  fresh := hfresh
  returned heq := absurd heq hpc'

/-- A call that has returned is in order where the flag is set. -/
theorem CallOk.of_returned (r : Nat) (hflag : s.closed = true) : s.CallOk ⟨r, .returned⟩ where
  live hpc := absurd rfl hpc
  announced hpc := absurd rfl hpc
  fresh rx hrx := by cases hrx
  returned _ := hflag

/-- A call that found the flag unset is in order while it is. -/
theorem CallOk.of_unset {r : Nat} (hlive : s.readers.lookup r ≠ none) (hflag : ¬ s.closed = true) :
    s.CallOk ⟨r, .checked⟩ where
  live _ := hlive
  announced _ hset := absurd hset hflag
  fresh rx hrx := by cases hrx
  returned hpc := by cases hpc

/-- A call that is in order, put in for another one or as a new one. -/
theorem Inv.setCall (h : Inv s) {k r : Nat} {pc : ClosedPc} (hcall : s.CallOk ⟨r, pc⟩) :
    Inv (s.setCall k r pc) where
  sent := h.sent
  flagged := h.flagged
  calls k' call hk' := by
    rw [LatchState.setCall, AList.lookup_insert_ite] at hk'
    split at hk'
    · cases hk'
      exact ⟨hcall.live, hcall.announced, hcall.fresh, hcall.returned⟩
    · have hold := h.calls k' call hk'
      exact ⟨hold.live, hold.announced, hold.fresh, hold.returned⟩

/-- Readers that stay where they are borrowed leave the calls in order. -/
theorem Inv.setReaders (h : Inv s) {readers : HashMap Nat Receiver}
    (hkeep : ∀ k call, s.calls.lookup k = some call → call.pc ≠ .returned →
      readers.lookup call.reader ≠ none) : Inv { s with readers } where
  sent := h.sent
  flagged := h.flagged
  calls k call hk := by
    have hold := h.calls k call hk
    exact ⟨hkeep k call hk, hold.announced, hold.fresh, hold.returned⟩

/-- A new reader leaves the others. -/
theorem Inv.insertReader (h : Inv s) (r : Nat) (rx : Receiver) :
    Inv { s with readers := s.readers.insert r rx } := by
  refine h.setReaders fun k call hk hpc => ?_
  rw [AList.lookup_insert_ite]
  split
  · exact fun hnone => by cases hnone
  · exact (h.calls k call hk).live hpc

end

/-! ## Steps -/

section
variable {s t : LatchState}

/-- **A step keeps the invariant.** -/
theorem Inv.step {e : Event} (h : Inv s) (hst : s.step e = some t) : Inv t := by
  cases e with
  | swap c =>
    simp only [LatchState.step] at hst
    split at hst
    · cases hst
    split at hst
    · cases hst
      exact h
    · -- the flag was unset, so no call has returned, and now the close announces itself
      cases hst
      have hswapped : (s.closes.insert c .swapped).lookup c ≠ none := by
        rw [AList.lookup_insert]
        exact fun hnone => by cases hnone
      exact ⟨h.sent, fun _ => rfl, fun k call hk =>
        have hold := h.calls k call hk
        ⟨hold.live, fun _ _ => .inr ⟨c, hswapped⟩, hold.fresh, fun _ => rfl⟩⟩
  | count c =>
    simp only [LatchState.step] at hst
    split at hst
    · cases hst
    next hc =>
    have hflag : s.closed = true :=
      h.flagged (.inr ⟨c, by rw [not_not.1 hc]; exact fun hnone => by cases hnone⟩)
    split at hst
    · next hzero =>
      -- without a receiver there is no call of `closed` that has not returned
      cases hst
      exact ⟨h.sent, fun _ => hflag, fun k call hk =>
        have hold := h.calls k call hk
        ⟨hold.live, fun hpc => absurd hzero (hold.receiverCount_ne_zero hpc), hold.fresh,
          hold.returned⟩⟩
    · cases hst
      have hsending : (s.closes.insert c .sending).lookup c ≠ none := by
        rw [AList.lookup_insert]
        exact fun hnone => by cases hnone
      exact ⟨h.sent, fun _ => hflag, fun k call hk =>
        have hold := h.calls k call hk
        ⟨hold.live, fun _ _ => .inr ⟨c, hsending⟩, hold.fresh, hold.returned⟩⟩
  | send c =>
    simp only [LatchState.step] at hst
    split at hst
    · cases hst
    next hc =>
    have hflag : s.closed = true :=
      h.flagged (.inr ⟨c, by rw [not_not.1 hc]; exact fun hnone => by cases hnone⟩)
    cases hst
    refine ⟨fun value hvalue => ?_, fun _ => hflag, fun k call hk =>
      have hold := h.calls k call hk
      ⟨hold.live, fun _ _ => .inl (by simp), fun rx hrx => (hold.fresh rx hrx).send [true],
        hold.returned⟩⟩
    rcases List.mem_append.1 hvalue with hvalue | hvalue
    · exact h.sent value hvalue
    · exact List.mem_singleton.1 hvalue
  | reader r =>
    simp only [LatchState.step] at hst
    split at hst
    · cases hst
    cases hst
    exact h.insertReader r _
  | cloneReader r new =>
    simp only [LatchState.step] at hst
    split at hst
    · cases hst
    obtain ⟨rx, -, rfl⟩ := Option.map_eq_some_iff.1 hst
    exact h.insertReader new rx
  | dropReader r =>
    simp only [LatchState.step] at hst
    split at hst
    · next hunborrowed =>
      cases hst
      refine h.setReaders fun k call hk hpc => ?_
      have hall := List.all_eq_true.1 hunborrowed call (AList.mem_values.2 ⟨k, hk⟩)
      rw [AList.lookup_erase_ite, if_neg ((of_decide_eq_true hall).resolve_left hpc)]
      exact (h.calls k call hk).live hpc
    · cases hst
  | check k r =>
    simp only [LatchState.step] at hst
    split at hst
    · cases hst
    next hnew =>
    cases hst
    refine h.setCall ?_
    split
    · next hflag => exact .of_returned r hflag
    · next hflag => exact .of_unset (not_or.1 hnew).1 hflag
  | clone k =>
    simp only [LatchState.step] at hst
    split at hst
    · next r hk =>
      obtain ⟨rx, -, rfl⟩ := Option.map_eq_some_iff.1 hst
      refine h.setCall ((h.calls k _ hk).advance ?_ ?_ ?_)
      · exact fun hpc => by cases hpc
      · exact fun hpc => by cases hpc
      · exact fun rx hrx => by cases hrx
    · cases hst
  | borrow k =>
    simp only [LatchState.step] at hst
    split at hst
    · next r rx hk =>
      have hcall := h.calls k _ hk
      cases hst
      refine h.setCall ?_
      split
      · next hvalue =>
        -- the value is `true`, so it was sent, and the flag set before
        exact .of_returned r (h.flagged (.inl (h.value_eq.1 hvalue)))
      · next hvalue =>
        have hvalue : value false s.sent = false := Bool.eq_false_iff.2 hvalue
        refine hcall.advance (fun hpc => by cases hpc) (fun hpc => by cases hpc) fun rx hrx => ?_
        cases hrx
        have hfresh : Fresh false s.sent ⟨s.sent.length⟩ (value false s.sent) :=
          Fresh.borrow (Nat.le_refl _)
        rw [hvalue] at hfresh
        exact hfresh
    · cases hst
  | changed k =>
    simp only [LatchState.step] at hst
    split at hst
    · next r rx hk =>
      obtain ⟨rx', -, rfl⟩ := Option.map_eq_some_iff.1 hst
      refine h.setCall ((h.calls k _ hk).advance ?_ ?_ ?_)
      · exact fun hpc => by cases hpc
      · exact fun hpc => by cases hpc
      · exact fun rx hrx => by cases hrx
    · cases hst
  | cancel k =>
    cases hst
    exact ⟨h.sent, h.flagged, fun k' call hk' => by
      rw [AList.lookup_erase_ite] at hk'
      split at hk'
      · cases hk'
      · have hold := h.calls k' call hk'
        exact ⟨hold.live, hold.announced, hold.fresh, hold.returned⟩⟩

/-- A new latch is in order. -/
theorem inv_new : Inv new where
  sent value hvalue := by cases hvalue
  flagged hannounced := by
    rcases hannounced with hsent | ⟨c, hc⟩
    · exact absurd rfl hsent
    · exact absurd rfl hc
  calls k call hk := by cases hk

end

/-! ## Wake-ups -/

section
variable {s t : LatchState}

/-- Where the flag is set and every `close` has ended, a call that has not returned finds the value
`true` when it reads it. -/
theorem Inv.value_of_ended (h : Inv s) (hflag : s.closed = true)
    (hended : ∀ c, s.closes.lookup c = none) {k : Nat} {call : ClosedCall}
    (hk : s.calls.lookup k = some call) (hpc : call.pc ≠ .returned) :
    value false s.sent = true := by
  rw [h.value_eq]
  rcases (h.calls k call hk).announced hpc hflag with hsent | ⟨c, hc⟩
  · exact hsent
  · exact absurd (hended c) hc

/-- A call that waits has a change to wake up for. -/
theorem Inv.changed_of_ended (h : Inv s) (hflag : s.closed = true)
    (hended : ∀ c, s.closes.lookup c = none) {k r : Nat} {rx : Receiver}
    (hk : s.calls.lookup k = some ⟨r, .waiting rx⟩) :
    rx.changed s.sent = some ⟨s.sent.length⟩ := by
  have hvalue := h.value_of_ended hflag hended hk fun hpc => by cases hpc
  have hfresh := (h.calls k _ hk).fresh rx rfl
  unfold Receiver.changed
  rw [if_neg]
  intro hseen
  rw [← hfresh.current hseen] at hvalue
  cases hvalue

/-- No wake-up is lost: once the flag is set and no `close` is under way, no call of `closed` waits
without a change to wake up for. And none is false: no call returns before the flag is set. -/
structure Wakes (s : LatchState) : Prop where
  noLost : s.closed = true → (∀ c, s.closes.lookup c = none) →
    ∀ k r rx, s.calls.lookup k = some ⟨r, .waiting rx⟩ → rx.changed s.sent ≠ none
  noFalse : ∀ k r, s.calls.lookup k = some ⟨r, .returned⟩ → s.closed = true

/-- **Latch wake-ups.** In every interleaving of any number of calls, no wake-up is lost or false in
any state that is passed through. -/
theorem latch_wakes (es : List Event) : machine.Always Wakes new es := by
  have hinv : machine.Always Inv new es :=
    Machine.always_of_invariant (fun s e t h hst => h.step hst) inv_new es
  refine hinv.mono fun s h => ⟨fun hflag hended k r rx hk => ?_, fun k r hk => ?_⟩
  · rw [h.changed_of_ended hflag hended hk]
    exact fun hnone => by cases hnone
  · exact (h.calls k _ hk).returned rfl

/-- **A waiting call returns**, by two steps of its own, once the flag is set and every `close` has
ended. -/
theorem closed_returns (h : machine.Reachable s) (hflag : s.closed = true)
    (hended : ∀ c, s.closes.lookup c = none) {k r : Nat} {rx : Receiver}
    (hk : s.calls.lookup k = some ⟨r, .waiting rx⟩) :
    ∃ t, machine.run s [.changed k, .borrow k] = some t ∧
      t.calls.lookup k = some ⟨r, .returned⟩ := by
  have hinv : Inv s := by
    refine h.invariant ?_ fun s e t h hst => h.step hst
    rintro s rfl
    exact inv_new
  have hvalue := hinv.value_of_ended hflag hended hk fun hpc => by cases hpc
  have hchanged : machine.step s (.changed k) = some (s.setCall k r (.cloned ⟨s.sent.length⟩)) := by
    simp only [machine, step, hk, hinv.changed_of_ended hflag hended hk, Option.map_some]
  have hcloned : (s.setCall k r (.cloned ⟨s.sent.length⟩)).calls.lookup k =
      some ⟨r, .cloned ⟨s.sent.length⟩⟩ := AList.lookup_insert _
  refine ⟨(s.setCall k r (.cloned ⟨s.sent.length⟩)).setCall k r .returned, ?_,
    AList.lookup_insert _⟩
  refine (machine.run_cons_eq_some).2 ⟨_, hchanged, (machine.run_cons_eq_some).2 ⟨_, ?_, rfl⟩⟩
  have hborrowed : (Receiver.borrowAndUpdate false s.sent).1 = true := hvalue
  have hreturned : (if (Receiver.borrowAndUpdate false s.sent).1 then ClosedPc.returned
      else .waiting (Receiver.borrowAndUpdate false s.sent).2) = .returned := if_pos hborrowed
  simp only [machine, step, hcloned]
  exact congrArg some (congrArg _ hreturned)

/-! ## The latch as one field -/

/-- What the other components see of a latch. -/
def toLatch (s : LatchState) : Latch := ⟨s.closed⟩

/-- **Refinement.** A step leaves the latch as it is or closes it, and a call of `closed` has
returned only where the branch that awaits the latch can be taken. -/
theorem step_refines {e : Event} (h : Inv s) (hst : s.step e = some t) :
    (t.toLatch = s.toLatch ∨ t.toLatch = s.toLatch.close) ∧
      ∀ k r, t.calls.lookup k = some ⟨r, .returned⟩ → t.toLatch.closed () = some () := by
  constructor
  · cases e with
    | swap c =>
      simp only [step] at hst
      split at hst
      · cases hst
      split at hst
      · cases hst
        exact .inl rfl
      · cases hst
        exact .inr rfl
    | cloneReader r new =>
      simp only [step] at hst
      split at hst
      · cases hst
      · obtain ⟨rx, -, rfl⟩ := Option.map_eq_some_iff.1 hst
        exact .inl rfl
    | clone k =>
      simp only [step] at hst
      split at hst
      · obtain ⟨rx, -, rfl⟩ := Option.map_eq_some_iff.1 hst
        exact .inl rfl
      · cases hst
    | changed k =>
      simp only [step] at hst
      split at hst
      · obtain ⟨rx, -, rfl⟩ := Option.map_eq_some_iff.1 hst
        exact .inl rfl
      · cases hst
    | _ =>
      -- no other step touches the flag
      left
      simp only [step] at hst
      grind [toLatch, setCall]
  · intro k r hk
    exact Latch.closed_eq_some.2 ⟨((h.step hst).calls k _ hk).returned rfl, rfl⟩

end

end LatchState

end Splitter
