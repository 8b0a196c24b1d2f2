import Splitter.Lib.Fold
import Splitter.Wrap

/-!
# Timestamps and instants

`timestamp_to_system_time` and `system_time_to_timestamp` of `wrap.rs`. A protobuf timestamp is one
signed quantity in two fields, and the conversion clamps each field on its own.
`conversion_lawful_iff` says for which timestamps it nevertheless keeps the order, takes what is
before the epoch to the epoch, and is undone by the conversion back.
-/

namespace Splitter

/-- The first instant that is not a `SystemTime`. -/
def SystemTime.limit : Int := 2 ^ 63 * nanosPerSec

/-- The instant a timestamp is converted to, in nanoseconds from the epoch. -/
def Timestamp.instant (ts : Timestamp) : Int :=
  max ts.seconds.toInt 0 * nanosPerSec + max ts.nanos.toInt 0

/-! ## The conversions -/

/-- The conversion of a timestamp, with the clamped fields written out. -/
theorem timestampToSystemTime_eq (ts : Timestamp) : timestampToSystemTime ts =
    (Duration.new (max ts.seconds.toInt 0).toNat (max ts.nanos.toInt 0).toNat >>= fun d =>
      SystemTime.unixEpoch.add d) := rfl

/-- The duration of a timestamp never overflows: its fields are narrower than a duration's. -/
theorem Timestamp.duration_bound (ts : Timestamp) :
    (max ts.seconds.toInt 0).toNat * nanosPerSec + (max ts.nanos.toInt 0).toNat <
      2 ^ 64 * nanosPerSec := by
  have hsecs := ts.seconds.toInt_lt
  have hnanos := ts.nanos.toInt_lt
  unfold nanosPerSec
  omega

/-- What the conversion adds to the epoch. -/
def Timestamp.duration (ts : Timestamp) : Duration := ⟨_, ts.duration_bound⟩

/-- The sum is the instant. -/
theorem Timestamp.epoch_add_duration (ts : Timestamp) :
    SystemTime.unixEpoch.nanos + ts.duration.nanos = ts.instant := by
  show (0 : Int) + (((max ts.seconds.toInt 0).toNat * nanosPerSec +
    (max ts.nanos.toInt 0).toNat : Nat) : Int) = _
  unfold Timestamp.instant
  push_cast
  rw [Int.toNat_of_nonneg (Int.le_max_right _ _), Int.toNat_of_nonneg (Int.le_max_right _ _),
    Int.zero_add]

/-- The conversion is one addition to the epoch. -/
theorem timestampToSystemTime_add (ts : Timestamp) :
    timestampToSystemTime ts = SystemTime.unixEpoch.add ts.duration := by
  have hnew : Duration.new _ _ = .ok ts.duration := dif_pos ts.duration_bound
  rw [timestampToSystemTime_eq, hnew, Except.ok_bind]

/-- An instant is not before the epoch. -/
theorem Timestamp.instant_nonneg (ts : Timestamp) : 0 ≤ ts.instant := by
  unfold Timestamp.instant nanosPerSec
  omega

/-- **A conversion that succeeds** gives the instant. -/
theorem timestampToSystemTime_ok {ts : Timestamp} {t : SystemTime} :
    timestampToSystemTime ts = .ok t ↔ t.nanos = ts.instant := by
  rw [timestampToSystemTime_add, SystemTime.add]
  have hadd := ts.epoch_add_duration
  constructor
  · intro h
    split at h
    · cases h
      exact hadd
    · cases h
  · intro h
    have hlt : SystemTime.unixEpoch.nanos + ts.duration.nanos < 2 ^ 63 * nanosPerSec := by
      rw [hadd, ← h]
      exact t.upper
    rw [dif_pos hlt]
    refine congrArg Except.ok ?_
    obtain ⟨nanos, lower, upper⟩ := t
    cases h
    exact SystemTime.mk.injEq .. ▸ hadd

/-- **Back and forth.** An instant at or after the epoch is what its timestamp is converted to. -/
theorem timestampToSystemTime_systemTimeToTimestamp {t : SystemTime} (h : 0 ≤ t.nanos) :
    timestampToSystemTime (systemTimeToTimestamp t) = .ok t := by
  have hupper := t.upper
  have hdiv : (Int64.ofInt (t.nanos / nanosPerSec)).toInt = t.nanos / nanosPerSec := by
    refine Int64.toInt_ofInt_of_le ?_ ?_
    all_goals
      unfold nanosPerSec at *
      omega
  have hmod : (Int32.ofInt (t.nanos % nanosPerSec)).toInt = t.nanos % nanosPerSec := by
    refine Int32.toInt_ofInt_of_le ?_ ?_
    all_goals
      unfold nanosPerSec at *
      omega
  rw [timestampToSystemTime_ok, systemTimeToTimestamp, if_pos h, Timestamp.instant]
  simp only [hdiv, hmod]
  unfold nanosPerSec
  omega

/-! ## Valid timestamps -/

/-- The nanoseconds are a fraction of a second. -/
def Timestamp.Valid (ts : Timestamp) : Prop :=
  0 ≤ ts.nanos.toInt ∧ ts.nanos.toInt < nanosPerSec

instance (ts : Timestamp) : Decidable ts.Valid := inferInstanceAs (Decidable (_ ∧ _))

/-- What a timestamp denotes, in nanoseconds from the epoch. -/
def Timestamp.denoted (ts : Timestamp) : Int := ts.seconds.toInt * nanosPerSec + ts.nanos.toInt

/-- What a valid timestamp denotes is a `SystemTime`. -/
theorem Timestamp.Valid.representable {ts : Timestamp} (h : ts.Valid) :
    -SystemTime.limit ≤ ts.denoted ∧ ts.denoted < SystemTime.limit := by
  have hlo := ts.seconds.le_toInt
  have hhi := ts.seconds.toInt_lt
  obtain ⟨hnonneg, hlt⟩ := h
  unfold Timestamp.denoted SystemTime.limit nanosPerSec at *
  omega

/-- The two fields are clamped to what they denote together, but for a fraction of a second before
the epoch. -/
theorem Timestamp.Valid.instant_eq {ts : Timestamp} (h : ts.Valid) :
    ts.instant = if ts.seconds.toInt < 0 then ts.nanos.toInt else ts.denoted := by
  obtain ⟨hnonneg, -⟩ := h
  unfold Timestamp.instant Timestamp.denoted
  split
  · rw [Int.max_eq_right (by omega), Int.max_eq_left hnonneg, Int.zero_mul, Int.zero_add]
  · rw [Int.max_eq_left (by omega), Int.max_eq_left hnonneg]

/-- What a timestamp denotes is before the epoch exactly if its seconds are. -/
theorem Timestamp.Valid.denoted_neg {ts : Timestamp} (h : ts.Valid) :
    ts.denoted < 0 ↔ ts.seconds.toInt < 0 := by
  obtain ⟨hnonneg, hlt⟩ := h
  unfold Timestamp.denoted nanosPerSec at *
  omega

/-- The conversion of one timestamp is right: what is before the epoch becomes the epoch, and from
everything else the way back leads to the timestamp. -/
structure Timestamp.Converts (ts : Timestamp) (t : SystemTime) : Prop where
  ok : timestampToSystemTime ts = .ok t
  early : ts.denoted < 0 → t = SystemTime.unixEpoch
  back : 0 ≤ ts.denoted → systemTimeToTimestamp t = ts

/-- A valid timestamp is converted right exactly if it has no nanoseconds before the epoch. -/
theorem Timestamp.Valid.converts_iff {ts : Timestamp} (h : ts.Valid) :
    (∃ t, ts.Converts t) ↔ (ts.seconds.toInt < 0 → ts.nanos.toInt = 0) := by
  have hinstant := h.instant_eq
  constructor
  · rintro ⟨t, hok, hearly, -⟩ hneg
    have hepoch := hearly (h.denoted_neg.2 hneg)
    have hnanos := timestampToSystemTime_ok.1 hok
    rw [hinstant, if_pos hneg, hepoch] at hnanos
    exact hnanos.symm
  · intro hzero
    have hrange := h.representable
    have hlt : ts.instant < SystemTime.limit := by
      rw [hinstant]
      split
      · next hneg =>
        rw [hzero hneg]
        decide
      · exact hrange.2
    have hlower : -SystemTime.limit ≤ ts.instant := by
      have hnonneg := ts.instant_nonneg
      unfold SystemTime.limit nanosPerSec
      omega
    refine ⟨⟨ts.instant, hlower, hlt⟩, timestampToSystemTime_ok.2 rfl, fun hneg => ?_,
      fun hpos => ?_⟩
    · have hsecs := h.denoted_neg.1 hneg
      have hepoch : ts.instant = 0 := by rw [hinstant, if_pos hsecs, hzero hsecs]
      simp only [hepoch, SystemTime.unixEpoch]
    · have hsecs : ¬ ts.seconds.toInt < 0 := fun hneg => by
        have := h.denoted_neg.2 hneg
        omega
      obtain ⟨hnonneg, hfraction⟩ := h
      rw [if_neg hsecs] at hinstant
      rw [systemTimeToTimestamp, if_pos ts.instant_nonneg]
      have hdiv : ts.instant / nanosPerSec = ts.seconds.toInt := by
        rw [hinstant, Timestamp.denoted]
        unfold nanosPerSec at *
        omega
      have hmod : ts.instant % nanosPerSec = ts.nanos.toInt := by
        rw [hinstant, Timestamp.denoted]
        unfold nanosPerSec at *
        omega
      simp only [hdiv, hmod, Int64.ofInt_toInt, Int32.ofInt_toInt]

/-- The conversion is lawful on a pair: right on each of the two, and monotone; and instants at or
after the epoch come back from their timestamps. -/
structure ConversionLawful (s t : Timestamp) : Prop where
  pair : ∃ x y, s.Converts x ∧ t.Converts y ∧
    (s.denoted ≤ t.denoted → x.nanos ≤ y.nanos) ∧ (t.denoted ≤ s.denoted → y.nanos ≤ x.nanos)
  inverse : ∀ x : SystemTime, 0 ≤ x.nanos →
    timestampToSystemTime (systemTimeToTimestamp x) = .ok x

/-- What is converted right is converted in order. -/
theorem Timestamp.Converts.mono {s t : Timestamp} {x y : SystemTime} (hs : s.Valid) (ht : t.Valid)
    (hx : s.Converts x) (hy : t.Converts y) (h : s.denoted ≤ t.denoted) : x.nanos ≤ y.nanos := by
  have hxnanos := timestampToSystemTime_ok.1 hx.ok
  have hynanos := timestampToSystemTime_ok.1 hy.ok
  rcases Int.lt_or_le s.denoted 0 with hneg | hpos
  · rw [hx.early hneg, hynanos]
    exact t.instant_nonneg
  · have hssecs : ¬ s.seconds.toInt < 0 := fun hlt => by
      have := hs.denoted_neg.2 hlt
      omega
    have htsecs : ¬ t.seconds.toInt < 0 := fun hlt => by
      have := ht.denoted_neg.2 hlt
      omega
    rw [hxnanos, hynanos, hs.instant_eq, ht.instant_eq, if_neg hssecs, if_neg htsecs]
    exact h

/-- **Timestamp conversion** is lawful on a pair of valid timestamps exactly if neither has
nanoseconds next to negative seconds. -/
theorem conversion_lawful_iff {s t : Timestamp} (hs : s.Valid) (ht : t.Valid) :
    ConversionLawful s t ↔
      (s.seconds.toInt < 0 → s.nanos.toInt = 0) ∧ (t.seconds.toInt < 0 → t.nanos.toInt = 0) := by
  rw [← hs.converts_iff, ← ht.converts_iff]
  constructor
  · rintro ⟨⟨x, y, hx, hy, -⟩, -⟩
    exact ⟨⟨x, hx⟩, ⟨y, hy⟩⟩
  · rintro ⟨⟨x, hx⟩, ⟨y, hy⟩⟩
    exact ⟨⟨x, y, hx, hy, hx.mono hs ht hy, hy.mono ht hs hx⟩,
      fun x => timestampToSystemTime_systemTimeToTimestamp⟩

/-! ## A nanosecond before the epoch -/

/-- A nanosecond before the epoch, and the epoch. -/
def justBefore : Timestamp := { seconds := -1, nanos := 999999999 }

def epoch : Timestamp := { seconds := 0, nanos := 0 }

/-- **The order is turned round.** The nanosecond before the epoch is converted to an instant almost
a second after it. -/
theorem justBefore_not_lawful :
    justBefore.Valid ∧ epoch.Valid ∧ justBefore.denoted < epoch.denoted ∧
      ¬ ConversionLawful justBefore epoch := by
  refine ⟨by decide, by decide, by decide, fun h => ?_⟩
  obtain ⟨x, y, hx, hy, hmono, -⟩ := h.pair
  have hle := hmono (by decide)
  rw [timestampToSystemTime_ok.1 hx.ok, timestampToSystemTime_ok.1 hy.ok] at hle
  exact absurd hle (by decide)

/-- A whole second before the epoch is converted as it should. -/
theorem wholeSecond_lawful :
    ConversionLawful { seconds := -1, nanos := 0 } { seconds := 5, nanos := 7 } :=
  (conversion_lawful_iff (by decide) (by decide)).2 (by decide)

end Splitter
