import Splitter.Cluster.Coverage

/-!
# Partitions of the key space

Boundaries cut the key space of a domain into half-open ranges, the first and the last of them open
to the outside. The shards with these ranges are a partition: every key is covered by one of them,
and where each shard has one active grant a lookup finds the grant of that shard in every
enumeration order of the map (`partition_unique_owner`).
-/

namespace Splitter

/-- The ranges that boundaries cut what lies above a bound into, as the strings of a shard. -/
def ranges : String → List String → List (String × String)
  | lo, [] => [(lo, "")]
  | lo, b :: bs => (lo, b) :: ranges b bs

/-- As intervals they are those that the boundaries cut. -/
theorem map_ranges {lo : String} {bs : List String} (hbs : ∀ b ∈ bs, b ≠ "") :
    (ranges lo bs).map (fun r => (bound r.1, bound r.2)) = Interval.cut (bound lo) bs := by
  induction bs generalizing lo with
  | nil => rfl
  | cons b bs ih =>
    have hb : bound b = some b := if_neg (hbs b (List.mem_cons_self ..))
    rw [ranges, List.map_cons, ih fun c hc => hbs c (List.mem_cons_of_mem _ hc), hb, Interval.cut]

/-- The shards of a domain and region whose ranges are those of the boundaries. -/
structure Partition (domain : QualifiedDomainName) (region : Region) (bs : List String)
    (shards : List Shard) : Prop where
  domain : ∀ s ∈ shards, s.domain = domain
  region : ∀ s ∈ shards, s.region = region
  ranges : shards.map (fun s => (s.from, s.to)) = ranges "" bs

/-- A key of the domain, in the region of the shards unless they have none. -/
def InSpace (domain : QualifiedDomainName) (region : Region) (key : QualifiedDomainKey) : Prop :=
  key.domain = domain ∧ (region.str = "" ∨ region = key.key.region)

/-- Every shard of the partition has one active grant, and no other active grant covers a key of the
space. -/
structure OneActive (m : ClusterMap) (domain : QualifiedDomainName) (region : Region)
    (shards : List Shard) : Prop where
  one : ∀ s ∈ shards, ∃! gid, ∃ g, m.grants.lookup gid = some g ∧ g.state = .active ∧ g.shard = s
  other : ∀ g ∈ m.grants.values, g.state = .active →
    ∀ key, InSpace domain region key → shardCovers g.shard key = true → g.shard ∈ shards

section
variable {domain : QualifiedDomainName} {region : Region} {bs : List String} {shards : List Shard}
  {key : QualifiedDomainKey}

/-- **One shard** of a partition covers a key. -/
theorem Partition.exists_filter_covers (h : Partition domain region bs shards)
    (hne : ∀ b ∈ bs, b ≠ "") (hbs : bs.Pairwise (· < ·)) (hkey : InSpace domain region key) :
    ∃ s, shards.filter (fun s => shardCovers s key) = [s] := by
  have hcut : shards.map (fun s => (bound s.from, bound s.to)) = Interval.cut none bs := by
    have hmap := congrArg (List.map fun r => (bound r.1, bound r.2)) h.ranges
    rw [map_ranges hne, List.map_map] at hmap
    exact hmap
  -- of the shards of the partition, coverage asks for the range alone
  have hrange : ∀ s ∈ shards, shardCovers s key =
      decide (Interval.Contains (bound s.from) (bound s.to) key.key.key) := fun s hs => by
    rw [Bool.eq_iff_iff, decide_eq_true_iff, shardCovers_iff, Shard.InRegion, h.domain s hs,
      h.region s hs]
    exact ⟨fun hcovers => hcovers.2.2, fun hin => ⟨hkey.1.symm, hkey.2, hin⟩⟩
  have hbelow : ∀ l ∈ (none : Option String), l ≤ key.key.key := fun l hl => by cases hl
  obtain ⟨i, hi⟩ := Interval.exists_filter_cut hbs hbelow
  rw [← hcut, List.filter_map] at hi
  rw [List.filter_congr hrange]
  obtain ⟨s, hs, -⟩ := List.map_eq_singleton_iff.1 hi
  exact ⟨s, hs⟩

/-- A shard of the partition that covers the key is that one. -/
theorem shard_eq_of_filter {s s' : Shard}
    (hs : shards.filter (fun s => shardCovers s key) = [s]) (hmem : s' ∈ shards)
    (hcovers : shardCovers s' key = true) : s' = s := by
  have hin : s' ∈ shards.filter (fun s => shardCovers s key) :=
    List.mem_filter.2 ⟨hmem, hcovers⟩
  rw [hs] at hin
  exact List.mem_singleton.1 hin

/-- **A unique owner.** A key of the space is covered by exactly one shard of the partition, and in
a map with one active grant for each shard a lookup among the active grants finds the grant of that
shard in every enumeration order. -/
theorem partition_unique_owner (h : Partition domain region bs shards)
    (hne : ∀ b ∈ bs, b ≠ "") (hbs : bs.Pairwise (· < ·)) (hkey : InSpace domain region key) :
    ∃ s, shards.filter (fun s => shardCovers s key) = [s] ∧
      ∀ m : ClusterMap, OneActive m domain region shards →
        ∃ g ∈ m.grants.values, g.shard = s ∧
          ∀ grants : List GrantEntry, grants.Perm m.grants.values →
            ClusterMap.lookup grants key [.active] = some g := by
  obtain ⟨s, hs⟩ := h.exists_filter_covers hne hbs hkey
  refine ⟨s, hs, fun m hm => ?_⟩
  have hmem : s ∈ shards ∧ shardCovers s key = true := by
    rw [← List.mem_filter (p := fun s => shardCovers s key), hs]
    exact List.mem_singleton_self s
  obtain ⟨gid, ⟨g, hgid, hactive, hshard⟩, hunique⟩ := hm.one s hmem.1
  have hg := AList.mem_values.2 ⟨gid, hgid⟩
  refine ⟨g, hg, hshard, fun grants horder => ?_⟩
  rw [ClusterMap.lookup_eq_preferred]
  cases hfound : List.preferred (ClusterMap.wanted [.active]) GrantEntry.state
      (fun g => shardCovers g.shard key) grants with
  | none =>
    exact absurd (hactive ▸ List.mem_singleton_self _)
      (List.preferred_eq_none.1 hfound g (horder.mem_iff.2 hg) (hshard ▸ hmem.2))
  | some g' =>
    obtain ⟨⟨hg', hcovers, hstate⟩, -⟩ := List.preferred_minimal hfound
    have hstate : g'.state = .active := List.mem_singleton.1 hstate
    have hg' := horder.mem_iff.1 hg'
    -- the grant that is found is active and covers the key, so its shard is that one
    have hshard' : g'.shard = s :=
      shard_eq_of_filter hs (hm.other g' hg' hstate key hkey hcovers) hcovers
    obtain ⟨gid', hgid'⟩ := AList.mem_values.1 hg'
    have hid := hunique gid' ⟨g', hgid', hstate, hshard'⟩
    rw [hid, hgid] at hgid'
    exact hgid'.symm

end

/-! ## Two halves -/

/-- The shard of a domain with these bounds. -/
def half (lo hi : String) : Shard :=
  { domain := ⟨⟨⟨"t"⟩, ⟨"s"⟩⟩, ⟨"d"⟩⟩, kind := .global, region := ⟨""⟩, «from» := lo, «to» := hi }

/-- Two consumers with one half each. -/
def halves : ClusterMap :=
  { ClusterMap.empty with
    grants := (AList.insert ⟨"low"⟩ ⟨⟨"low"⟩, half "" "8", .active, ⟨⟨10⟩⟩⟩
      (AList.insert ⟨"high"⟩ ⟨⟨"high"⟩, half "8" "", .active, ⟨⟨11⟩⟩⟩ ∅)) }

/-- Each half has its grant, and there are no others. -/
theorem halves_oneActive :
    OneActive halves (half "" "").domain ⟨""⟩ [half "" "8", half "8" ""] where
  one s hs := by
    have hgrants : ∀ gid g, halves.grants.lookup gid = some g →
        gid = ⟨"low"⟩ ∧ g.shard = half "" "8" ∨ gid = ⟨"high"⟩ ∧ g.shard = half "8" "" := by
      intro gid g hg
      simp only [halves, AList.lookup_insert_ite] at hg
      split at hg
      · next h => cases hg; exact .inl ⟨h, rfl⟩
      · split at hg
        · next h => cases hg; exact .inr ⟨h, rfl⟩
        · cases hg
    have hne : half "" "8" ≠ half "8" "" := by decide
    rcases List.mem_pair.1 hs with rfl | rfl
    · refine ⟨⟨"low"⟩, ⟨_, rfl, rfl, rfl⟩, ?_⟩
      rintro gid ⟨g, hg, -, hshard⟩
      rcases hgrants gid g hg with ⟨hgid, -⟩ | ⟨-, hother⟩
      · exact hgid
      · exact absurd (hshard.symm.trans hother) hne
    · refine ⟨⟨"high"⟩, ⟨_, rfl, rfl, rfl⟩, ?_⟩
      rintro gid ⟨g, hg, -, hshard⟩
      rcases hgrants gid g hg with ⟨-, hother⟩ | ⟨hgid, -⟩
      · exact absurd (hother.symm.trans hshard) hne
      · exact hgid
  other g hg _ _ _ _ := by
    have hvalues : halves.grants.values.map (·.shard) = [half "" "8", half "8" ""] := rfl
    rw [← hvalues]
    exact List.mem_map_of_mem hg

/-- A key at the boundary belongs to the upper half, in either order of the grants. -/
theorem halves_boundary_owner :
    ∃ g ∈ halves.grants.values, g.shard = half "8" "" ∧
      ∀ grants : List GrantEntry, grants.Perm halves.grants.values →
        ClusterMap.lookup grants (keyIn (half "" "").domain "eu" "8") [.active] = some g := by
  have hpartition : Partition (half "" "").domain ⟨""⟩ ["8"] [half "" "8", half "8" ""] :=
    ⟨by decide, by decide, rfl⟩
  have hkey : InSpace (half "" "").domain ⟨""⟩ (keyIn (half "" "").domain "eu" "8") :=
    ⟨rfl, .inl rfl⟩
  obtain ⟨s, hs, howner⟩ := partition_unique_owner hpartition (by decide) (by decide) hkey
  obtain ⟨g, hg, hshard, hlookup⟩ := howner halves halves_oneActive
  have hupper : s = half "8" "" :=
    (shard_eq_of_filter hs (by decide) (by decide)).symm
  exact ⟨g, hg, hshard.trans hupper, hlookup⟩

end Splitter
