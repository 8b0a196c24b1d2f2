import Mathlib.Data.Option.Basic
import Splitter.Cluster.Coverage
import Splitter.UuidText

/-!
# Ranges of identifiers

The bounds of a shard are the texts of identifiers, and `shard_covers` compares texts. On canonical
texts that is the comparison of the identifiers as 128-bit numbers (`covers_iff_between`).
-/

namespace Splitter

/-- The text of a bound; no bound is the empty string. -/
def boundText (u : Option Uuid) : String := (u.map Uuid.text).getD ""

/-- A bound is read as the text it is. -/
theorem bound_boundText (u : Option Uuid) : bound (boundText u) = u.map Uuid.text := by
  cases u with
  | none => rfl
  | some u => exact if_neg u.text_ne_empty

/-- The `GLOBAL` shard of a domain between two bounds. -/
def globalShard (domain : QualifiedDomainName) (lo hi : Option Uuid) : Shard :=
  { domain, kind := .global, region := ⟨""⟩, «from» := boundText lo, «to» := boundText hi }

/-- **String order is identifier order.** A global shard covers a key of its domain exactly if the
key's identifier is in the range of the bounds' identifiers, as 128-bit numbers. -/
theorem covers_iff_between (domain : QualifiedDomainName) (region : String) (lo hi : Option Uuid)
    (k : Uuid) :
    shardCovers (globalShard domain lo hi) (keyIn domain region k.text) = true ↔
      (∀ a ∈ lo, a.val ≤ k.val) ∧ ∀ b ∈ hi, k.val < b.val := by
  have hrange : (globalShard domain lo hi).InRange (keyIn domain region k.text) ↔
      (∀ a ∈ lo, a.val ≤ k.val) ∧ ∀ b ∈ hi, k.val < b.val := by
    rw [Shard.InRange, globalShard, bound_boundText, bound_boundText, Interval.Contains,
      Option.forall_mem_map, Option.forall_mem_map]
    refine and_congr (forall₂_congr fun a _ => ?_) (forall₂_congr fun b _ => ?_)
    · rw [← not_lt, ← BitVec.not_lt]
      exact not_congr (Uuid.text_lt_iff k a)
    · exact Uuid.text_lt_iff k b
  rw [shardCovers_iff, hrange]
  exact ⟨fun h => h.2.2, fun h => ⟨rfl, .inl rfl, h⟩⟩

end Splitter
