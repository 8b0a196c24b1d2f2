import Mathlib.Data.List.AList

/-!
# Finite maps

A `HashMap` is a Mathlib association list without duplicate keys, at a constant value type. The
order of its entries stands for the enumeration order of a hash map, which nothing is assumed of:
a statement about every map is one about every order. The lookups of each operation are given by
cases on the key, so that a proof about a map never looks at its entries.
-/

/-- A finite map from `κ` to `ν`. -/
abbrev HashMap (κ ν : Type _) := AList fun _ : κ => ν

namespace AList

variable {κ ν : Type _} [DecidableEq κ]

/-- Change the value under a key that is present (`get_mut` and an assignment through it). -/
def modify (m : HashMap κ ν) (k : κ) (f : ν → ν) : HashMap κ ν :=
  match m.lookup k with
  | some v => m.insert k (f v)
  | none => m

/-- Insert a value under a key that is not present yet (`entry(k).or_insert(v)`). -/
def orInsert (m : HashMap κ ν) (k : κ) (v : ν) : HashMap κ ν :=
  match m.lookup k with
  | some _ => m
  | none => m.insert k v

/-- Remove every key of a list, in order. -/
def eraseAll (m : HashMap κ ν) (ks : List κ) : HashMap κ ν :=
  ks.foldl (fun m k => m.erase k) m

/-- The keys whose value satisfies `p`, in the enumeration order. -/
def keysWhere (m : HashMap κ ν) (p : ν → Bool) : List κ :=
  (m.entries.filter fun e => p e.2).map (·.1)

/-- The values, in the enumeration order. -/
def values (m : HashMap κ ν) : List ν := m.entries.map (·.2)

/-- Keep the entries whose key satisfies `p`. -/
def retain (m : HashMap κ ν) (p : κ → Bool) : HashMap κ ν :=
  ⟨m.entries.filter fun e => p e.1, m.nodupKeys.sublist List.filter_sublist⟩

theorem lookup_insert_ite (m : HashMap κ ν) (k k' : κ) (v : ν) :
    (m.insert k v).lookup k' = if k' = k then some v else m.lookup k' := by
  split
  · next h => rw [h]; exact lookup_insert m
  · next h => exact lookup_insert_ne h

theorem lookup_erase_ite (m : HashMap κ ν) (k k' : κ) :
    (m.erase k).lookup k' = if k' = k then none else m.lookup k' := by
  split
  · next h => rw [h]; exact lookup_erase k m
  · next h => exact lookup_erase_ne h

theorem lookup_modify (m : HashMap κ ν) (k k' : κ) (f : ν → ν) :
    (m.modify k f).lookup k' = if k' = k then (m.lookup k).map f else m.lookup k' := by
  unfold modify
  split
  · next v hv => rw [lookup_insert_ite, hv]; rfl
  · next hv =>
    split
    · next h => rw [h, hv]; rfl
    · rfl

theorem lookup_orInsert (m : HashMap κ ν) (k k' : κ) (v : ν) :
    (m.orInsert k v).lookup k' = if k' = k then some ((m.lookup k).getD v) else m.lookup k' := by
  unfold orInsert
  split
  · next w hw =>
    split
    · next h => rw [h, hw]; rfl
    · rfl
  · next hw => rw [lookup_insert_ite, hw]; rfl

theorem lookup_eraseAll (m : HashMap κ ν) (ks : List κ) (k : κ) :
    (m.eraseAll ks).lookup k = if k ∈ ks then none else m.lookup k := by
  induction ks generalizing m with
  | nil => simp [eraseAll]
  | cons a ks ih =>
    have hstep : m.eraseAll (a :: ks) = (m.erase a).eraseAll ks := rfl
    rw [hstep, ih, lookup_erase_ite]
    by_cases hk : k ∈ ks
    · simp [hk]
    · simp [hk, List.mem_cons]

theorem mem_keysWhere {m : HashMap κ ν} {p : ν → Bool} {k : κ} :
    k ∈ m.keysWhere p ↔ ∃ v, m.lookup k = some v ∧ p v = true := by
  simp only [keysWhere, List.mem_map, List.mem_filter]
  constructor
  · rintro ⟨⟨k', v⟩, ⟨hmem, hp⟩, rfl⟩
    exact ⟨v, mem_lookup_iff.2 hmem, hp⟩
  · rintro ⟨v, hv, hp⟩
    exact ⟨⟨k, v⟩, ⟨mem_lookup_iff.1 hv, hp⟩, rfl⟩

theorem mem_values {m : HashMap κ ν} {v : ν} : v ∈ m.values ↔ ∃ k, m.lookup k = some v := by
  simp only [values, List.mem_map]
  constructor
  · rintro ⟨⟨k, v⟩, hmem, rfl⟩
    exact ⟨k, mem_lookup_iff.2 hmem⟩
  · rintro ⟨k, hv⟩
    exact ⟨⟨k, v⟩, mem_lookup_iff.1 hv, rfl⟩

theorem lookup_retain (m : HashMap κ ν) (p : κ → Bool) (k : κ) :
    (m.retain p).lookup k = if p k then m.lookup k else none := by
  refine Option.ext fun v => ?_
  have hmem : v ∈ (m.retain p).lookup k ↔ v ∈ m.lookup k ∧ p k = true := by
    rw [mem_lookup_iff, mem_lookup_iff]
    exact List.mem_filter
  split
  · next hp => exact hmem.trans (and_iff_left hp)
  · next hp => exact iff_of_false (fun h => hp (hmem.1 h).2) nofun

/-- A map without lookups has no entries. -/
theorem eq_empty_of_lookup {m : HashMap κ ν} (h : ∀ k, m.lookup k = none) : m = ∅ := by
  apply AList.ext
  rw [empty_entries]
  refine List.eq_nil_iff_forall_not_mem.2 fun ⟨k, v⟩ hmem => ?_
  have hv : v ∈ m.lookup k := mem_lookup_iff.2 hmem
  rw [h k] at hv
  cases hv

end AList
