import Mathlib.Data.List.Nodup

/-!
# Addresses from a counter

An allocator hands out the value of a counter and counts on; an address is due until it is put to
use. `Counter.Fresh` says that each is put to use once: the due addresses are distinct, below the
counter and not in use, and what the counter has not reached is not in use either. An allocation
keeps it (`Fresh.push`), and so does the use of the address that is due first (`Fresh.pop`).
-/

namespace Counter

/-- The due addresses are fresh, and so are those the counter has not reached. -/
structure Fresh (next : Nat) (due : List Nat) (free : Nat → Prop) : Prop where
  nodup : due.Nodup
  due : ∀ r ∈ due, r < next ∧ free r
  unused : ∀ r, next ≤ r → free r

namespace Fresh

variable {next : Nat} {due : List Nat} {free free' : Nat → Prop}

/-- As many addresses are free. -/
theorem mono (h : Fresh next due free) (hfree : ∀ r, free r → free' r) :
    Fresh next due free' where
  nodup := h.nodup
  due r hr := ⟨(h.due r hr).1, hfree r (h.due r hr).2⟩
  unused r hr := hfree r (h.unused r hr)

/-- An address is handed out. -/
theorem push (h : Fresh next due free) : Fresh (next + 1) (due ++ [next]) free where
  nodup := by
    rw [List.nodup_append]
    refine ⟨h.nodup, List.nodup_singleton _, fun r hr r' hr' heq => ?_⟩
    have hlt := (h.due r hr).1
    rw [heq, List.mem_singleton.1 hr'] at hlt
    exact Nat.lt_irrefl _ hlt
  due r hr := by
    rw [List.mem_append, List.mem_singleton] at hr
    rcases hr with hr | rfl
    · exact ⟨Nat.lt_succ_of_lt (h.due r hr).1, (h.due r hr).2⟩
    · exact ⟨Nat.lt_succ_self _, h.unused _ (Nat.le_refl _)⟩
  unused r hr := h.unused r (Nat.le_of_succ_le hr)

/-- The first of the due addresses is put to use. -/
theorem pop {r : Nat} (h : Fresh next (r :: due) free) (hfree : ∀ k, k ≠ r → free k → free' k) :
    Fresh next due free' := by
  obtain ⟨hnot, hnodup⟩ := List.nodup_cons.1 h.nodup
  refine ⟨hnodup, fun k hk => ?_, fun k hk => ?_⟩
  · have hne : k ≠ r := by
      rintro rfl
      exact hnot hk
    have hdue := h.due k (List.mem_cons_of_mem _ hk)
    exact ⟨hdue.1, hfree k hne hdue.2⟩
  · have hlt := (h.due r (List.mem_cons_self ..)).1
    have hne : k ≠ r := by
      rintro rfl
      exact absurd hk (Nat.not_le.2 hlt)
    exact hfree k hne (h.unused k hk)

end Fresh

end Counter
