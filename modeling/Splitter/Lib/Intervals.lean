import Mathlib.Data.List.Basic
import Mathlib.Order.Lattice

/-!
# Half-open intervals

Intervals of a linear order with an inclusive lower and an exclusive upper bound, each of which may
be missing. A list of boundaries cuts the order into one interval more than it has entries; where
they increase strictly, every point lies in exactly one of them (`exists_filter_cut`).
-/

namespace Interval

variable {α : Type _} [LinearOrder α]

/-- The point lies between the bounds. -/
def Contains (lo hi : Option α) (k : α) : Prop := (∀ l ∈ lo, l ≤ k) ∧ ∀ h ∈ hi, k < h

instance (lo hi : Option α) (k : α) : Decidable (Contains lo hi k) :=
  inferInstanceAs (Decidable (_ ∧ _))

/-- An upper bound at or below the lower one leaves nothing between them. -/
theorem not_contains_of_le {l h : α} (hle : h ≤ l) (k : α) : ¬ Contains (some l) (some h) k :=
  fun hk => absurd (lt_of_lt_of_le (hk.2 h rfl) (le_trans hle (hk.1 l rfl))) (lt_irrefl k)

/-- The intervals that the boundaries cut what lies above `lo` into. -/
def cut : Option α → List α → List (Option α × Option α)
  | lo, [] => [(lo, none)]
  | lo, b :: bs => (lo, some b) :: cut (some b) bs

variable {lo hi : Option α} {b k : α} {bs : List α}

/-- A point below a boundary is not above it. -/
theorem not_contains_above (hk : k < b) : ¬ Contains (some b) hi k :=
  fun h => absurd (h.1 b rfl) (not_le_of_gt hk)

/-- A point above a boundary is not below it. -/
theorem not_contains_below (hk : b ≤ k) : ¬ Contains lo (some b) k :=
  fun h => absurd (h.2 b rfl) (not_lt_of_ge hk)

/-- No interval above a boundary contains a point below it. -/
theorem filter_cut_of_lt (hbs : (b :: bs).Pairwise (· < ·)) (hk : k < b) :
    (cut (some b) bs).filter (fun i => Contains i.1 i.2 k) = [] := by
  induction bs generalizing b with
  | nil =>
    rw [cut, List.filter_cons, if_neg (by simpa using not_contains_above hk), List.filter_nil]
  | cons c bs ih =>
    obtain ⟨hb, hbs⟩ := List.pairwise_cons.1 hbs
    have hkc : k < c := lt_trans hk (hb c (List.mem_cons_self ..))
    rw [cut, List.filter_cons, if_neg (by simpa using not_contains_above hk), ih hbs hkc]

/-- **A partition.** A point above `lo` lies in exactly one interval. -/
theorem exists_filter_cut (hbs : bs.Pairwise (· < ·)) (hk : ∀ l ∈ lo, l ≤ k) :
    ∃ i, (cut lo bs).filter (fun i => Contains i.1 i.2 k) = [i] := by
  induction bs generalizing lo with
  | nil =>
    have hin : Contains lo none k := ⟨hk, fun _ hh => by cases hh⟩
    exact ⟨(lo, none), by rw [cut, List.filter_cons, if_pos (by simpa using hin), List.filter_nil]⟩
  | cons b bs ih =>
    rcases lt_or_ge k b with hb | hb
    · have hin : Contains lo (some b) k := ⟨hk, fun h hh => by cases hh; exact hb⟩
      refine ⟨(lo, some b), ?_⟩
      rw [cut, List.filter_cons, if_pos (by simpa using hin), filter_cut_of_lt hbs hb]
    · have habove : ∀ l ∈ some b, l ≤ k := fun l hl => by cases hl; exact hb
      obtain ⟨i, hi⟩ := ih (List.pairwise_cons.1 hbs).2 habove
      refine ⟨i, ?_⟩
      rw [cut, List.filter_cons, if_neg (by simpa using not_contains_below hb), hi]

end Interval
