import Mathlib.Data.String.Basic
import Splitter.Cluster.Preference
import Splitter.Lib.Intervals

/-!
# What a shard covers

`shard_covers` in words: a shard covers the keys of its domain and region that lie in its half-open
range, where an empty region or bound is none (`shardCovers_iff`). The kind of the shard is not
looked at: where it and the empty strings of the message say different things the strings decide,
and `coverage_follows_kind_iff` says for which messages the two agree.
-/

namespace Splitter

/-- A bound of a range; the empty string is no bound. -/
def bound (s : String) : Option String := if s = "" then none else some s

/-- What a bound says is said of it where it is not empty. -/
theorem forall_mem_bound {s : String} {P : String → Prop} :
    (∀ b ∈ bound s, P b) ↔ (s ≠ "" → P s) := by
  unfold bound
  split
  · next h => exact ⟨fun _ hne => absurd h hne, fun _ b hb => by cases hb⟩
  · next h => exact ⟨fun hb _ => hb s rfl, fun hs b hb => by cases hb; exact hs h⟩

namespace Shard

/-- The key is in the region of the shard, or the shard has none. -/
def InRegion (shard : Shard) (key : QualifiedDomainKey) : Prop :=
  shard.region.str = "" ∨ shard.region = key.key.region

/-- The key is in the range of the shard. -/
def InRange (shard : Shard) (key : QualifiedDomainKey) : Prop :=
  Interval.Contains (bound shard.from) (bound shard.to) key.key.key

instance (shard : Shard) (key : QualifiedDomainKey) : Decidable (shard.InRegion key) :=
  inferInstanceAs (Decidable (_ ∨ _))

instance (shard : Shard) (key : QualifiedDomainKey) : Decidable (shard.InRange key) :=
  inferInstanceAs (Decidable (Interval.Contains _ _ _))

end Shard

/-- The range of a shard, an empty bound left out. -/
theorem Shard.inRange_iff {shard : Shard} {key : QualifiedDomainKey} :
    shard.InRange key ↔ (shard.from ≠ "" → shard.from ≤ key.key.key) ∧
      (shard.to ≠ "" → key.key.key < shard.to) := by
  rw [Shard.InRange, Interval.Contains, forall_mem_bound, forall_mem_bound]

/-- **Coverage**: the domain, the region and the range. -/
theorem shardCovers_iff {shard : Shard} {key : QualifiedDomainKey} :
    shardCovers shard key = true ↔
      shard.domain = key.domain ∧ shard.InRegion key ∧ shard.InRange key := by
  rw [Shard.inRange_iff, Shard.InRegion]
  unfold shardCovers
  split
  · next h => simp [h]
  next hdomain =>
  split
  · next h => simp [h]
  next hregion =>
  split
  · next h => simp [h, not_le_of_gt h.2]
  next hfrom =>
  split
  · next h => simp [h]
  next hto =>
  have hin : shard.region.str = "" ∨ shard.region = key.key.region := by
    by_contra hout
    exact hregion (not_or.1 hout)
  simp only [true_iff]
  exact ⟨not_not.1 hdomain, hin, fun h => le_of_not_gt fun hlt => hfrom ⟨h, hlt⟩,
    fun h => not_not.1 fun hge => hto ⟨h, hge⟩⟩

/-! ## Empty ranges -/

/-- No key lies between the bounds. -/
def EmptyRange (lo hi : String) : Prop := lo ≠ "" ∧ hi ≠ "" ∧ hi ≤ lo

instance (lo hi : String) : Decidable (EmptyRange lo hi) := inferInstanceAs (Decidable (_ ∧ _))

/-- The empty string is the least. -/
theorem empty_lt {s : String} (h : s ≠ "") : "" < s := by
  rw [String.lt_iff_toList_lt]
  cases hl : s.toList with
  | nil => exact absurd (String.toList_eq_nil_iff.1 hl) h
  | cons c cs => exact List.Lex.nil

/-- A range that is not empty has its lower bound, or the empty string, in it. -/
theorem Shard.exists_inRange {shard : Shard} (h : ¬ EmptyRange shard.from shard.to) :
    ∃ k, ∀ key : QualifiedDomainKey, key.key.key = k → shard.InRange key := by
  refine ⟨shard.from, fun key hkey => Shard.inRange_iff.2 ?_⟩
  rw [hkey]
  refine ⟨fun _ => le_refl _, fun hto => ?_⟩
  rcases eq_or_ne shard.from "" with hfrom | hfrom
  · rw [hfrom]
    exact empty_lt hto
  · exact lt_of_not_ge fun hle => h ⟨hfrom, hto, hle⟩

/-- No key is in an empty range. -/
theorem Shard.not_inRange {shard : Shard} (h : EmptyRange shard.from shard.to)
    (key : QualifiedDomainKey) : ¬ shard.InRange key := by
  obtain ⟨hfrom, hto, hle⟩ := h
  rw [Shard.InRange, bound, bound, if_neg hfrom, if_neg hto]
  exact Interval.not_contains_of_le hle key.key.key

/-! ## The kind of a shard -/

/-- Coverage is what the kind of the shard says: a `UNIT` shard covers its domain, a `REGIONAL` one
the keys of its own region in its range. Lookups then find a grant for every key of a `UNIT` domain,
and a regional grant only for a key of its region. -/
structure Shard.FollowsKind (shard : Shard) : Prop where
  domain : ∀ key, key.domain ≠ shard.domain → shardCovers shard key = false
  unit : shard.kind = .unit → ∀ key, key.domain = shard.domain → shardCovers shard key = true
  regional : shard.kind = .regional → ∀ key, key.domain = shard.domain →
    (shardCovers shard key = true ↔ key.key.region = shard.region ∧ shard.InRange key)
  found : shard.kind = .unit → ∀ (grants : List GrantEntry) key states, key.domain = shard.domain →
    ∀ g ∈ grants, g.shard = shard → g.state ∈ ClusterMap.wanted states →
      ∃ owner, ClusterMap.lookup grants key states = some owner
  routed : shard.kind = .regional → ∀ (grants : List GrantEntry) key states g,
    ClusterMap.lookup grants key states = some g → g.shard = shard → key.key.region = shard.region

/-- Where coverage is right, so are the lookups. -/
theorem Shard.followsKind_of_covers {shard : Shard}
    (hunit : shard.kind = .unit → ∀ key, key.domain = shard.domain → shardCovers shard key = true)
    (hregional : shard.kind = .regional → ∀ key, key.domain = shard.domain →
      (shardCovers shard key = true ↔ key.key.region = shard.region ∧ shard.InRange key)) :
    shard.FollowsKind where
  domain key hkey := by
    rw [Bool.eq_false_iff]
    intro hcovers
    exact hkey (shardCovers_iff.1 hcovers).1.symm
  unit := hunit
  regional := hregional
  found hkind grants key states hkey g hg hshard hstate := by
    refine Option.ne_none_iff_exists'.1 fun hnone => ?_
    rw [ClusterMap.lookup_eq_preferred, List.preferred_eq_none] at hnone
    exact hnone g hg (hshard ▸ hunit hkind key hkey) hstate
  routed hkind grants key states g hg hshard := by
    have hcovers := (ClusterMap.lookup_eq_some hg).2.2
    rw [hshard] at hcovers
    exact ((hregional hkind key (shardCovers_iff.1 hcovers).1.symm).1 hcovers).1

/-- What a decoded shard takes from its message. -/
theorem Shard.tryFrom_fields {p : pb.Shard} {shard : Shard} (h : Shard.tryFrom p = .ok shard) :
    domainTypeFromI32 p.type = shard.kind ∧ p.region = shard.region.str ∧
      p.from = shard.from ∧ p.to = shard.to := by
  obtain ⟨domain, _, h⟩ := Except.bind_eq_ok.1 h
  obtain ⟨name, _, h⟩ := Except.bind_eq_ok.1 h
  cases h
  exact ⟨rfl, rfl, rfl, rfl⟩

/-- The key of a domain in a region. -/
def keyIn (domain : QualifiedDomainName) (region key : String) : QualifiedDomainKey :=
  ⟨domain, ⟨⟨region⟩, key⟩⟩

/-- **A `UNIT` shard** covers its domain exactly if it has neither a region nor a bound. -/
theorem Shard.covers_domain_iff {shard : Shard} :
    (∀ key, key.domain = shard.domain → shardCovers shard key = true) ↔
      shard.region.str = "" ∧ shard.from = "" ∧ shard.to = "" := by
  constructor
  · intro h
    have hat : ∀ key, shard.InRegion (keyIn shard.domain "" key) ∧
        shard.InRange (keyIn shard.domain "" key) := fun key =>
      (shardCovers_iff.1 (h (keyIn shard.domain "" key) rfl)).2
    refine ⟨?_, ?_, ?_⟩
    · rcases (hat "").1 with hregion | hregion
      · exact hregion
      · rw [hregion]
        rfl
    · by_contra hfrom
      exact absurd ((Shard.inRange_iff.1 (hat "").2).1 hfrom) (not_le_of_gt (empty_lt hfrom))
    · by_contra hto
      exact absurd ((Shard.inRange_iff.1 (hat shard.to).2).2 hto) (lt_irrefl _)
  · rintro ⟨hregion, hfrom, hto⟩ key hkey
    exact shardCovers_iff.2 ⟨hkey.symm, .inl hregion,
      Shard.inRange_iff.2 ⟨fun h => absurd hfrom h, fun h => absurd hto h⟩⟩

/-- **A `REGIONAL` shard** covers the keys of its own region only, exactly if it has a region or no
key at all in its range. -/
theorem Shard.covers_region_iff {shard : Shard} :
    (∀ key, key.domain = shard.domain →
        (shardCovers shard key = true ↔ key.key.region = shard.region ∧ shard.InRange key)) ↔
      shard.region.str ≠ "" ∨ EmptyRange shard.from shard.to := by
  constructor
  · intro h
    by_contra hnot
    obtain ⟨hregion, hrange⟩ := not_or.1 hnot
    have hregion := not_not.1 hregion
    obtain ⟨k, hk⟩ := Shard.exists_inRange hrange
    -- a key of a region of its own is covered by a shard that has none
    have hcovers := (h (keyIn shard.domain "r" k) rfl).1
      (shardCovers_iff.2 ⟨rfl, .inl hregion, hk _ rfl⟩)
    rw [← hcovers.1] at hregion
    exact absurd (show "r" = "" from hregion) (by decide)
  · intro h key hkey
    rw [shardCovers_iff]
    constructor
    · rintro ⟨-, hregion | hregion, hrange⟩
      · exact absurd hrange (Shard.not_inRange (h.resolve_left (not_not.2 hregion)) key)
      · exact ⟨hregion.symm, hrange⟩
    · rintro ⟨hregion, hrange⟩
      exact ⟨hkey.symm, .inr hregion.symm, hrange⟩

/-- **Coverage follows the kind** of the shard exactly if a `UNIT` message leaves the region and the
bounds empty, and a `REGIONAL` one has a region or an empty range. -/
theorem coverage_follows_kind_iff {p : pb.Shard} {shard : Shard} (h : Shard.tryFrom p = .ok shard) :
    shard.FollowsKind ↔
      (domainTypeFromI32 p.type = .unit → p.region = "" ∧ p.from = "" ∧ p.to = "") ∧
      (domainTypeFromI32 p.type = .regional → p.region ≠ "" ∨ EmptyRange p.from p.to) := by
  obtain ⟨hkind, hregion, hfrom, hto⟩ := Shard.tryFrom_fields h
  rw [hkind, hregion, hfrom, hto]
  constructor
  · intro hfollows
    exact ⟨fun hunit => Shard.covers_domain_iff.1 (hfollows.unit hunit),
      fun hregional => Shard.covers_region_iff.1 (hfollows.regional hregional)⟩
  · rintro ⟨hunit, hregional⟩
    exact Shard.followsKind_of_covers (fun hk => Shard.covers_domain_iff.2 (hunit hk))
      (fun hk => Shard.covers_region_iff.2 (hregional hk))

/-! ## A unit with bounds -/

/-- A message with bounds, of the kind with that number. -/
def upperHalfPb (type : Int32) : pb.Shard :=
  { domain := some { service := some { tenant := "t", service := "s" }, name := "d" }
    type, region := "", «from» := "8", «to» := "" }

/-- The shard it decodes to, of that kind. -/
def upperHalf (kind : DomainType) : Shard :=
  { domain := ⟨⟨⟨"t"⟩, ⟨"s"⟩⟩, ⟨"d"⟩⟩, kind, region := ⟨""⟩, «from» := "8", «to» := "" }

/-- **The owner of a unit domain is missed.** Its shard is accepted with a lower bound, and a lookup
of a key below it finds nothing although an active grant has the shard. -/
theorem bounded_unit_not_followed :
    Shard.tryFrom (upperHalfPb 1) = .ok (upperHalf .unit) ∧
      ¬ (upperHalf .unit).FollowsKind ∧
      ClusterMap.lookup [⟨⟨"g"⟩, upperHalf .unit, .active, ⟨⟨10⟩⟩⟩]
        (keyIn (upperHalf .unit).domain "eu" "7") [.active] = none := by
  refine ⟨rfl, fun h => ?_, by decide⟩
  have hcovers := h.unit rfl (keyIn (upperHalf .unit).domain "eu" "7") rfl
  exact absurd hcovers (by decide)

/-- The same half of the keys of one region. -/
def regionalHalfPb : pb.Shard := { upperHalfPb 3 with region := "eu" }

/-- The shard it decodes to. -/
def regionalHalf : Shard := { upperHalf .regional with region := ⟨"eu"⟩ }

/-- A `REGIONAL` shard with a region and a bound is followed. -/
theorem regional_half_followed :
    regionalHalf.FollowsKind ∧
      shardCovers regionalHalf (keyIn regionalHalf.domain "eu" "9") = true ∧
        shardCovers regionalHalf (keyIn regionalHalf.domain "us" "9") = false :=
  ⟨(coverage_follows_kind_iff (p := regionalHalfPb) rfl).2 ⟨by decide, by decide⟩, by decide,
    by decide⟩

end Splitter
