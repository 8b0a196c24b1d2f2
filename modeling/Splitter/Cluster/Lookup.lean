import Splitter.Cluster.Refine

/-!
# Looking a key up

`ClusterMap::lookup`: the grant whose shard covers a key. Which of several matching grants is found
depends on the enumeration order of the map, so the order is an argument, and what is said of a
lookup is said for every order. In the maps a consumer goes through, a grant that is found has an
owner with an entry (`lookup_owner`).
-/

namespace Splitter

/-- `shard_covers`. -/
def shardCovers (shard : Shard) (key : QualifiedDomainKey) : Bool :=
  if shard.domain ≠ key.domain then false
  else if shard.region.str ≠ "" ∧ shard.region ≠ key.key.region then false
  else if shard.from ≠ "" ∧ key.key.key < shard.from then false
  else if shard.to ≠ "" ∧ ¬ key.key.key < shard.to then false
  else true

namespace ClusterMap

/-- The states a lookup without states considers. -/
def defaultStates : List GrantState := [.active, .revoked, .allocatedLoaded, .revokedUnloaded]

/-- `ClusterMap::lookup`, on the grants in the enumeration order of the map. -/
def lookup (grants : List GrantEntry) (key : QualifiedDomainKey) (states : List GrantState) :
    Option GrantEntry :=
  let wanted := if states.isEmpty then defaultStates else states
  wanted.findSome? fun state =>
    grants.find? fun g => decide (g.state = state) && shardCovers g.shard key

/-- A grant that is found is in the map, in one of the wanted states, and covers the key. -/
theorem lookup_eq_some {grants : List GrantEntry} {key : QualifiedDomainKey}
    {states : List GrantState} {g : GrantEntry} (h : lookup grants key states = some g) :
    g ∈ grants ∧ (g.state ∈ states ∨ states = [] ∧ g.state ∈ defaultStates) ∧
      shardCovers g.shard key = true := by
  obtain ⟨state, hwanted, hfind⟩ := List.exists_of_findSome?_eq_some h
  have hfound := List.find?_some hfind
  simp only [Bool.and_eq_true, decide_eq_true_eq] at hfound
  obtain ⟨rfl, hcovers⟩ := hfound
  refine ⟨List.mem_of_find?_eq_some hfind, ?_, hcovers⟩
  split at hwanted
  · next hempty => exact .inr ⟨List.isEmpty_iff.1 hempty, hwanted⟩
  · exact .inl hwanted

/-! ## Owners have entries -/

/-- Every consumer is filed under its own identifier. -/
def Filed (m : ClusterMap) : Prop :=
  ∀ c entry, m.consumers.lookup c = some entry → entry.consumer.id = c

/-- Changing the list of a consumer leaves its instance. -/
theorem Filed.modify {m : ClusterMap} (h : Filed m) (cid : ConsumerId)
    (f : List GrantId → List GrantId) (c : ConsumerId) (entry : ConsumerEntry)
    (hc : (m.consumers.modify cid fun e => { e with grants := f e.grants }).lookup c =
      some entry) : entry.consumer.id = c := by
  rw [AList.lookup_modify] at hc
  split at hc
  · next heq =>
    obtain ⟨old, hold, rfl⟩ := Option.map_eq_some_iff.1 hc
    rw [heq]
    exact h cid old hold
  · exact h c entry hc

/-- Every message leaves the consumers filed. -/
theorem Filed.kept : Kept Filed where
  fresh _ _ _ _ h := by cases h
  relabel _ _ _ h := h
  dropGrant m gid h := by
    unfold ClusterMap.dropGrant
    split
    · exact h
    · exact h.modify _ (fun grants => grants.filter (· ≠ gid))
  updateGrant m g m' h hok := by
    intro c entry hc
    rw [(updateGrant_index hok).1] at hc
    exact h c entry hc
  enterConsumer m consumer h := by
    intro c entry hc
    simp only [ClusterMap.enterConsumer, AList.lookup_orInsert] at hc
    split at hc
    · next heq =>
      subst heq
      cases hc
      cases hl : m.consumers.lookup consumer.id with
      | none => rfl
      | some old => exact h _ old hl
    · exact h c entry hc
  assignGrant m cid g m' h _ hok := by
    obtain ⟨shard, rfl⟩ := assignGrant_ok hok
    exact h.modify cid (fun grants => grants ++ [⟨g.id⟩])
  removeConsumer m cid h := by
    intro c entry hc
    unfold ClusterMap.removeConsumer at hc
    split at hc
    · exact h c entry hc
    · rw [AList.lookup_erase_ite] at hc
      split at hc
      · cases hc
      · exact h c entry hc

/-- In a map a consumer goes through, the owner of a grant has an entry. -/
theorem lookup_owner {m : ClusterMap} (h : Owned m) {g : GrantEntry} (hg : g ∈ m.grants.values) :
    ∃ owner, m.consumers.lookup g.consumer = some owner := by
  obtain ⟨gid, hgid⟩ := AList.mem_values.1 hg
  have howner : m.ownerOf gid = some g.consumer := by
    rw [ownerOf, hgid]
    rfl
  exact Option.isSome_iff_exists.1 (h.known howner)

end ClusterMap

end Splitter
