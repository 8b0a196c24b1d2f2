import Mathlib.Data.List.Basic

/-!
# Watch channels

A watch channel keeps only the value sent last. A receiver knows the version it has seen, the number
of values sent up to then; a receiver that is woken up may find that several values were sent since,
of which it is given the last. The channel is the list of the values sent, after the initial one.

`Fresh` is what a receiver that tracks the channel keeps: where nothing is unseen, the value it
holds is the current one. A send keeps it of whatever is held (`Fresh.send`), since it makes a
version that is unseen.
-/

namespace Watch

variable {α : Type _}

/-- A receiver, as the version it has seen. -/
structure Receiver where
  seen : Nat
  deriving DecidableEq

/-- The current value. -/
def value (init : α) (sent : List α) : α := sent.getLast?.getD init

/-- The current value is the initial one or one that was sent. -/
theorem value_mem (init : α) (sent : List α) : value init sent ∈ init :: sent := by
  unfold value
  cases h : sent.getLast? with
  | none => exact List.mem_cons_self ..
  | some last => exact List.mem_cons_of_mem _ (List.mem_of_getLast? h)

/-- The receiver that comes with a new channel: the initial value counts as seen. -/
def Receiver.new : Receiver := { seen := 0 }

/-- Everything sent was seen. -/
def Receiver.UpToDate (sent : List α) (rx : Receiver) : Prop := rx.seen = sent.length

/-- The value and the receiver after `borrow_and_update`. `borrow` leaves the receiver as it is. -/
def Receiver.borrowAndUpdate (init : α) (sent : List α) : α × Receiver :=
  (value init sent, { seen := sent.length })

/-- `changed` resolves where a version is unseen, and marks the last one as seen. -/
def Receiver.changed (sent : List α) (rx : Receiver) : Option Receiver :=
  if rx.seen = sent.length then none else some { seen := sent.length }

/-- What is held is the current value, unless something is unseen. -/
structure Fresh (init : α) (sent : List α) (rx : Receiver) (held : α) : Prop where
  seen : rx.seen ≤ sent.length
  current : rx.UpToDate sent → held = value init sent

/-- A receiver that has not gone past what it saw, with the current value. -/
theorem Fresh.borrow {init : α} {sent : List α} {rx : Receiver} (h : rx.seen ≤ sent.length) :
    Fresh init sent rx (value init sent) where
  seen := h
  current _ := rfl

/-- **A send keeps it fresh**, whatever is held. -/
theorem Fresh.send {init : α} {sent : List α} {rx : Receiver} {held : α}
    (h : Fresh init sent rx held) (new : List α) : Fresh init (sent ++ new) rx held := by
  have hlen : (sent ++ new).length = sent.length + new.length := List.length_append
  refine ⟨by rw [hlen]; exact Nat.le_trans h.seen (Nat.le_add_right ..), fun hup => ?_⟩
  have hseen := h.seen
  have hup : rx.seen = sent.length + new.length := hlen ▸ hup
  have hnil : new = [] := by
    refine List.eq_nil_iff_length_eq_zero.2 ?_
    omega
  subst hnil
  rw [List.append_nil]
  refine h.current ?_
  show rx.seen = sent.length
  simpa using hup

end Watch
