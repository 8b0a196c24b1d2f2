import Mathlib.Data.List.Basic

/-!
# Bounded broadcast channels

A broadcast channel keeps the last `cap` messages sent. A receiver is the number of messages it is
past; one that has fallen further behind than the channel reaches is told how many it has missed
and goes on with the oldest message kept. `unread` is what a receiver will still be given.

`filterMap_unread_send` is the conservation law of such a channel for the messages a receiver cares
about: a send keeps what it was given and what it will be given complete exactly if the send does
not push out an unread message it cares about.
-/

namespace Broadcast

variable {α β : Type _}

/-- What a `recv` returns. -/
inductive Received (α : Type _)
  /-- The number of messages missed. -/
  | lagged (n : Nat)
  | value (a : α)
  deriving DecidableEq

/-- The number of messages the channel has dropped. -/
def dropped (cap : Nat) (log : List α) : Nat := log.length - cap

/-- What a receiver at `pos` will still be given. -/
def unread (cap : Nat) (log : List α) (pos : Nat) : List α :=
  log.drop (max pos (dropped cap log))

/-- One `recv`: what it returns, and the receiver afterwards. There is none where the receiver has
everything, and waits. -/
def recv (cap : Nat) (log : List α) (pos : Nat) : Option (Received α × Nat) :=
  if pos < dropped cap log then
    some (.lagged (dropped cap log - pos), dropped cap log)
  else (log[pos]?).map fun a => (.value a, pos + 1)

variable {cap : Nat} {log : List α} {pos : Nat}

theorem length_unread : (unread cap log pos).length = min cap (log.length - pos) := by
  unfold unread dropped
  rw [List.length_drop]
  omega

/-- A receiver that starts at the tail has nothing to read. -/
theorem unread_tail : unread cap log log.length = [] := by
  refine List.drop_eq_nil_of_le ?_
  exact Nat.le_max_left ..

/-- What `recv` does to what is unread: missing messages changes nothing, and a value is the first
of it. -/
theorem recv_cases {r : Received α} {pos' : Nat} (h : recv cap log pos = some (r, pos')) :
    (∃ n, r = .lagged n ∧ unread cap log pos' = unread cap log pos) ∨
      ∃ a, r = .value a ∧ unread cap log pos = a :: unread cap log pos' := by
  unfold recv at h
  split at h
  · next hlt =>
    cases h
    refine .inl ⟨_, rfl, ?_⟩
    unfold unread
    congr 1
    omega
  · next hge =>
    obtain ⟨a, ha, heq⟩ := Option.map_eq_some_iff.1 h
    cases heq
    obtain ⟨hlt, hget⟩ := List.getElem?_eq_some_iff.1 ha
    refine .inr ⟨a, rfl, ?_⟩
    unfold unread
    rw [show max pos (dropped cap log) = pos by omega,
      show max (pos + 1) (dropped cap log) = pos + 1 by omega, ← hget]
    exact List.drop_eq_getElem_cons hlt

/-- A receiver stays within the log. -/
theorem recv_le {r : Received α} {pos' : Nat} (h : recv cap log pos = some (r, pos')) :
    pos' ≤ log.length := by
  unfold recv at h
  split at h
  · cases h
    exact Nat.sub_le ..
  · obtain ⟨a, ha, heq⟩ := Option.map_eq_some_iff.1 h
    cases heq
    exact (List.getElem?_eq_some_iff.1 ha).1

/-- A send appends to what is unread, and pushes the oldest message out of a full channel. -/
theorem unread_send (hpos : pos ≤ log.length) (hcap : 0 < cap) (a : α) :
    unread cap (log ++ [a]) pos =
      (if (unread cap log pos).length = cap then (unread cap log pos).tail
        else unread cap log pos) ++ [a] := by
  rw [length_unread]
  unfold unread dropped
  rw [List.length_append, List.length_singleton]
  split
  · next hfull =>
    rw [List.tail_drop, List.drop_append_of_le_length (by omega)]
    congr 2
    omega
  · next hroom =>
    rw [List.drop_append_of_le_length (by omega)]
    congr 2
    omega

/-- The next send pushes out an unread message that `f` selects. -/
def Evicts (f : α → Option β) (cap : Nat) (log : List α) (pos : Nat) : Prop :=
  (unread cap log pos).length = cap ∧ ∃ a rest, unread cap log pos = a :: rest ∧ (f a).isSome

/-- **Conservation.** As long as what the receiver was given and what it will be given make up the
selected messages sent, a send leaves it so exactly if it pushes none of them out. -/
theorem filterMap_unread_send {f : α → Option β} {given sent : List β}
    (h : given ++ (unread cap log pos).filterMap f = sent) (hpos : pos ≤ log.length)
    (hcap : 0 < cap) (a : α) :
    given ++ (unread cap (log ++ [a]) pos).filterMap f = sent ++ [a].filterMap f ↔
      ¬ Evicts f cap log pos := by
  rw [unread_send hpos hcap, List.filterMap_append, ← List.append_assoc, ← h,
    List.append_cancel_right_eq, List.append_cancel_left_eq]
  unfold Evicts
  by_cases hfull : (unread cap log pos).length = cap
  · rw [if_pos hfull]
    cases hun : unread cap log pos with
    | nil => simp
    | cons b rest =>
      rw [hun] at hfull
      cases hb : f b with
      | none => simp [List.filterMap_cons_none hb, hb]
      | some c =>
        rw [List.tail_cons, List.filterMap_cons_some hb]
        refine iff_of_false (fun heq => ?_) (fun hnot => hnot ⟨hfull, b, rest, rfl, by simp [hb]⟩)
        have hlen := congrArg List.length heq
        simp at hlen
  · rw [if_neg hfull]
    exact iff_of_true rfl fun hev => hfull hev.1

/-- A receive keeps the account: a selected value moves from one side to the other. -/
theorem filterMap_unread_recv {f : α → Option β} {given : List β} {r : Received α} {pos' : Nat}
    (h : recv cap log pos = some (r, pos')) :
    (match r with
      | .value a => given ++ (f a).toList
      | .lagged _ => given) ++ (unread cap log pos').filterMap f =
      given ++ (unread cap log pos).filterMap f := by
  rcases recv_cases h with ⟨n, rfl, hun⟩ | ⟨a, rfl, hun⟩
  · rw [hun]
  · rw [hun, List.append_assoc]
    cases ha : f a with
    | none => simp [List.filterMap_cons_none ha]
    | some b => simp [List.filterMap_cons_some ha]

end Broadcast
