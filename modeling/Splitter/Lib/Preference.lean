import Mathlib.Data.List.Basic

/-!
# Searching in order of preference

A search that goes through a list of classes, the preferred ones first, and for each through a
collection whose order means nothing, up to the first hit. `preferred_eq_none` and
`preferred_minimal` say that it is a minimum over the collection: nothing is found exactly if
nothing matches, and what is found is of the first class that a match has.
`preferred_eq_some_of_unique` says when the order of the collection does not show: if the class has
one match.
-/

namespace List

variable {α σ : Type _} [DecidableEq σ]

/-- The first item that matches `p`, the classes of `wanted` tried in order. -/
def preferred (wanted : List σ) (cls : α → σ) (p : α → Bool) (items : List α) : Option α :=
  wanted.findSome? fun s => items.find? fun a => decide (cls a = s) && p a

variable {wanted : List σ} {cls : α → σ} {p : α → Bool} {items : List α} {a : α}

/-- No item of a class matches. -/
theorem find?_cls_eq_none {s : σ} :
    (items.find? fun a => decide (cls a = s) && p a) = none ↔
      ∀ a ∈ items, p a = true → cls a ≠ s := by
  rw [find?_eq_none]
  refine forall₂_congr fun a _ => ?_
  simp only [Bool.and_eq_true, decide_eq_true_eq, not_and]
  exact imp_not_comm

/-- **Nothing is found** exactly if no match is of a wanted class. -/
theorem preferred_eq_none :
    preferred wanted cls p items = none ↔ ∀ a ∈ items, p a = true → cls a ∉ wanted := by
  rw [preferred, findSome?_eq_none_iff]
  constructor
  · intro h a ha hp hmem
    exact find?_cls_eq_none.1 (h _ hmem) a ha hp rfl
  · intro h s hs
    refine find?_cls_eq_none.2 ?_
    rintro a ha hp rfl
    exact h a ha hp hs

/-- What is found is a match of a wanted class, and no match is of a class that comes before. -/
theorem preferred_minimal (h : preferred wanted cls p items = some a) :
    (a ∈ items ∧ p a = true ∧ cls a ∈ wanted) ∧
      ∀ b ∈ items, p b = true → wanted.idxOf (cls a) ≤ wanted.idxOf (cls b) := by
  obtain ⟨before, s, after, rfl, hfind, hbefore⟩ := findSome?_eq_some_iff.1 h
  have hfound := find?_some hfind
  simp only [Bool.and_eq_true, decide_eq_true_eq] at hfound
  obtain ⟨rfl, hp⟩ := hfound
  have ha := mem_of_find?_eq_some hfind
  -- a class that was tried before has no match
  have hnot : ∀ b ∈ items, p b = true → cls b ∉ before := fun b hb hpb hmem =>
    find?_cls_eq_none.1 (hbefore _ hmem) b hb hpb rfl
  refine ⟨⟨ha, hp, mem_append_right _ (mem_cons_self ..)⟩, fun b hb hpb => ?_⟩
  rw [idxOf_append, if_neg (hnot a ha hp), idxOf_cons_self, idxOf_append,
    if_neg (hnot b hb hpb), Nat.zero_add]
  exact Nat.le_add_left ..

/-- **The order does not show** where the class of what is found has one match. -/
theorem preferred_eq_some_of_unique {items' : List α} (hmem : ∀ b, b ∈ items' ↔ b ∈ items)
    (h : preferred wanted cls p items = some a)
    (hunique : ∀ b ∈ items, p b = true → cls b = cls a → b = a) :
    preferred wanted cls p items' = some a := by
  obtain ⟨⟨ha, hp, hwanted⟩, hmin⟩ := preferred_minimal h
  cases h' : preferred wanted cls p items' with
  | none => exact absurd hwanted (preferred_eq_none.1 h' a ((hmem a).2 ha) hp)
  | some b =>
    obtain ⟨⟨hb, hpb, hwanted'⟩, hmin'⟩ := preferred_minimal h'
    have hb := (hmem b).1 hb
    have hidx : wanted.idxOf (cls b) = wanted.idxOf (cls a) :=
      Nat.le_antisymm (hmin' a ((hmem a).2 ha) hp) (hmin b hb hpb)
    rw [hunique b hb hpb ((idxOf_inj hwanted').1 hidx)]

end List
