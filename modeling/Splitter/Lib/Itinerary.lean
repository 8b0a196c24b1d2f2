import Splitter.Lib.Machine

/-!
# Itineraries

A route is a list of stops. Who follows it makes the stops in their order, leaves none out and
repeats none, and may leave at any point; after that nothing more happens. `log_of_run` is what such
a journey looks like from outside: a prefix of the route, and at most one leave at its end.
-/

namespace Itinerary

variable {α : Type _}

/-- How far a journey has come. -/
structure Place where
  stops : Nat
  left : Bool

/-- No stop has been made yet. -/
def Place.start : Place := { stops := 0, left := false }

inductive Act (α : Type _)
  | stop (a : α)
  | leave

section
variable [DecidableEq α] (route : List α)

/-- The journeys along a route. -/
def machine : Machine Place (Act α) where
  init p := p = .start
  step p
    | .stop a =>
      if p.left = false ∧ route[p.stops]? = some a then some { p with stops := p.stops + 1 }
      else none
    | .leave => if p.left = false then some { p with left := true } else none

end

/-- What has been done up to a place. -/
def Place.log (route : List α) (p : Place) : List (Act α) :=
  (route.take p.stops).map .stop ++ if p.left then [.leave] else []

/-- The last stop made. -/
def Place.last (route : List α) (p : Place) : Option α := (route.take p.stops).getLast?

/-- A stop is made on the way, and is the last one then. -/
theorem last_of_stop [DecidableEq α] {route : List α} {p q : Place} {a : α}
    (h : (machine route).step p (.stop a) = some q) : q.last route = some a ∧ q.left = false := by
  obtain ⟨⟨hin, hstop⟩, heq⟩ := Option.ite_none_right_eq_some.1 h
  cases heq
  exact ⟨by simp [Place.last, List.take_add_one, hstop], hin⟩

/-- **A journey is a prefix of the route, and at most one leave.** -/
theorem log_of_run [DecidableEq α] {route : List α} {acts : List (Act α)} {p : Place}
    (hrun : (machine route).run .start acts = some p) : acts = p.log route := by
  induction acts using List.reverseRecOn generalizing p with
  | nil =>
    cases hrun
    rfl
  | append_singleton acts act ih =>
    obtain ⟨q, hq, hstep⟩ := (machine route).run_concat_eq_some.1 hrun
    rw [ih hq]
    cases act with
    | stop a =>
      obtain ⟨⟨hin, hstop⟩, heq⟩ := Option.ite_none_right_eq_some.1 hstep
      cases heq
      simp [Place.log, hin, List.take_add_one, hstop]
    | leave =>
      obtain ⟨hin, heq⟩ := Option.ite_none_right_eq_some.1 hstep
      cases heq
      simp [Place.log, hin]

end Itinerary
