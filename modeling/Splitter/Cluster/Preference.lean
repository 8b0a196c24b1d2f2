import Splitter.Cluster.Lookup
import Splitter.Lib.Preference

/-!
# Which grant a lookup finds

`ClusterMap::lookup` goes through the wanted states and, for each, through a hash map. It is a
search in order of preference, so it realises a minimum over the covering grants whatever the
enumeration order of the map is (`lookup_honours_preference`), and where the best state has one
covering grant the order does not show.
-/

namespace Splitter

namespace ClusterMap

/-- The states a lookup considers, the preferred ones first. -/
def wanted (states : List GrantState) : List GrantState :=
  if states.isEmpty then defaultStates else states

/-- A lookup is a search in order of preference. -/
theorem lookup_eq_preferred (grants : List GrantEntry) (key : QualifiedDomainKey)
    (states : List GrantState) :
    lookup grants key states =
      List.preferred (wanted states) GrantEntry.state (fun g => shardCovers g.shard key) grants :=
  rfl

/-- **State preference.** In every enumeration order of a map, a lookup finds nothing exactly if no
grant in a wanted state covers the key. What it finds covers the key, in the earliest of the states
that covering grants have; and if that state has one covering grant, every order finds that one. -/
theorem lookup_honours_preference (m : ClusterMap) (key : QualifiedDomainKey)
    (states : List GrantState) {grants : List GrantEntry} (horder : grants.Perm m.grants.values) :
    (lookup grants key states = none ↔
        ∀ g ∈ m.grants.values, shardCovers g.shard key = true → g.state ∉ wanted states) ∧
      ∀ g, lookup grants key states = some g →
        (g ∈ m.grants.values ∧ shardCovers g.shard key = true ∧ g.state ∈ wanted states) ∧
        (∀ g' ∈ m.grants.values, shardCovers g'.shard key = true →
          (wanted states).idxOf g.state ≤ (wanted states).idxOf g'.state) ∧
        ((∀ g' ∈ m.grants.values, shardCovers g'.shard key = true → g'.state = g.state → g' = g) →
          ∀ grants', grants'.Perm m.grants.values → lookup grants' key states = some g) := by
  have hmem : ∀ g, g ∈ grants ↔ g ∈ m.grants.values := fun g => horder.mem_iff
  rw [lookup_eq_preferred]
  constructor
  · rw [List.preferred_eq_none]
    exact forall_congr' fun g => by rw [hmem]
  · intro g hg
    obtain ⟨⟨hin, hcovers, hwanted⟩, hmin⟩ := List.preferred_minimal hg
    refine ⟨⟨(hmem g).1 hin, hcovers, hwanted⟩, fun g' hg' => hmin g' ((hmem g').2 hg'), ?_⟩
    intro hunique grants' horder'
    rw [lookup_eq_preferred]
    have hsame : ∀ g', g' ∈ grants' ↔ g' ∈ grants := fun g' => by rw [horder'.mem_iff, hmem]
    refine List.preferred_eq_some_of_unique hsame hg ?_
    intro g' hg'
    exact hunique g' ((hmem g').1 hg')

/-! ## A handover -/

/-- A grant of a domain without bounds, in a state. -/
def unitGrant (id : String) (state : GrantState) : GrantEntry :=
  { id := ⟨id⟩
    shard :=
      { domain := ⟨⟨⟨"t"⟩, ⟨"s"⟩⟩, ⟨"d"⟩⟩, kind := .unit, region := ⟨""⟩, «from» := "", «to» := "" }
    state
    consumer := ⟨⟨10⟩⟩ }

/-- A key of that domain. -/
def unitKey : QualifiedDomainKey := ⟨⟨⟨⟨"t"⟩, ⟨"s"⟩⟩, ⟨"d"⟩⟩, ⟨⟨"eu"⟩, "k"⟩⟩

/-- A map in which two consumers hold the domain, the one that gives it up and the one that takes
over. -/
def handover : ClusterMap :=
  { empty with
    grants := (AList.insert ⟨"old"⟩ (unitGrant "old" .revoked)
      (AList.insert ⟨"new"⟩ (unitGrant "new" .active) ∅)) }

/-- In the other enumeration order of that map the active grant is found as well. -/
theorem handover_prefers_active :
    lookup handover.grants.values unitKey [] = some (unitGrant "new" .active) ∧
      lookup handover.grants.values.reverse unitKey [] = some (unitGrant "new" .active) := by
  have hfirst : lookup handover.grants.values unitKey [] = some (unitGrant "new" .active) := by
    decide
  refine ⟨hfirst, ?_⟩
  have h := (lookup_honours_preference handover unitKey [] (List.Perm.refl _)).2 _ hfirst
  exact h.2.2 (by decide) _ (List.reverse_perm _)

end ClusterMap

end Splitter
