import Mathlib.Algebra.Ring.Nat
import Mathlib.Data.List.Basic

/-!
# Numerals with separators

Numbers written in a fixed number of digits of a base, the most significant one first, with
separators at fixed places. The text of a number in such a template reads back as the number
(`read_render`), and the lexicographic order of texts is the order of the numbers (`render_lt_iff`),
provided that the symbols of the digits are ordered as the digits are.
-/

namespace Numeral

variable {α : Type _} {base : Nat} {digit : Nat → α} {sep : α}

/-- The symbol at a place of a template: a digit of the number, counted from the least significant
one, or a separator. -/
def symbol (base : Nat) (digit : Nat → α) (sep : α) (n : Nat) : Option Nat → α
  | some i => digit (n / base ^ i % base)
  | none => sep

/-- The text of a number in a template. -/
def render (base : Nat) (digit : Nat → α) (sep : α) (template : List (Option Nat)) (n : Nat) :
    List α :=
  template.map (symbol base digit sep n)

/-- The digit places of the template are those of a numeral with that many digits. -/
def Digits (template : List (Option Nat)) (k : Nat) : Prop :=
  template.filterMap id = (List.range k).reverse

theorem Digits.of_sep {template : List (Option Nat)} {k : Nat}
    (h : Digits (none :: template) k) : Digits template k := h

/-- The first digit place is the most significant one. -/
theorem Digits.of_digit {template : List (Option Nat)} {i k : Nat}
    (h : Digits (some i :: template) k) : k = i + 1 ∧ Digits template i := by
  unfold Digits at h
  rw [List.filterMap_cons_some (f := id) rfl] at h
  cases k with
  | zero => cases h
  | succ k =>
    rw [List.range_succ, List.reverse_append, List.reverse_cons, List.reverse_nil, List.nil_append,
      List.singleton_append, List.cons.injEq] at h
    obtain ⟨rfl, h⟩ := h
    exact ⟨rfl, h⟩

/-! ## Reading -/

/-- The number a text is read as, where `val` is the value of a digit and separators have none. -/
def read (base : Nat) (val : α → Option Nat) (text : List α) : Nat :=
  (text.filterMap val).foldl (fun n d => n * base + d) 0

/-- Reading a text goes on from the number read so far. -/
theorem foldl_render {val : α → Option Nat} (hbase : 0 < base)
    (hval : ∀ d < base, val (digit d) = some d) (hsep : val sep = none)
    {template : List (Option Nat)} {k : Nat} (h : Digits template k) (acc n : Nat) :
    ((render base digit sep template n).filterMap val).foldl (fun n d => n * base + d) acc =
      acc * base ^ k + n % base ^ k := by
  induction template generalizing k acc with
  | nil =>
    cases k with
    | zero => rw [Nat.pow_zero, Nat.mul_one, Nat.mod_one]; rfl
    | succ k =>
      have hlen := congrArg List.length h
      rw [List.length_reverse, List.length_range] at hlen
      cases hlen
  | cons place template ih =>
    unfold render at ih ⊢
    cases place with
    | none =>
      rw [List.map_cons, symbol, List.filterMap_cons_none hsep]
      exact ih h.of_sep acc
    | some i =>
      obtain ⟨rfl, htail⟩ := h.of_digit
      rw [List.map_cons, symbol, List.filterMap_cons_some (hval _ (Nat.mod_lt _ hbase)),
        List.foldl_cons, ih htail, Nat.mod_pow_succ, Nat.add_mul, Nat.pow_succ]
      have hcomm : n / base ^ i % base * base ^ i = base ^ i * (n / base ^ i % base) :=
        Nat.mul_comm ..
      have hassoc : acc * base * base ^ i = acc * (base ^ i * base) := by
        rw [Nat.mul_assoc, Nat.mul_comm base]
      omega

/-- **Round trip.** A number is read back from its text, up to the digits of the template. -/
theorem read_render {val : α → Option Nat} (hbase : 0 < base)
    (hval : ∀ d < base, val (digit d) = some d) (hsep : val sep = none)
    {template : List (Option Nat)} {k : Nat} (h : Digits template k) (n : Nat) :
    read base val (render base digit sep template n) = n % base ^ k := by
  rw [read, foldl_render hbase hval hsep h, Nat.zero_mul, Nat.zero_add]

/-! ## Order -/

/-- A digit in front decides, and where it is the same the rest does. -/
theorem add_mul_lt_iff {p r s d e : Nat} (hr : r < p) (hs : s < p) :
    r + p * d < s + p * e ↔ d < e ∨ d = e ∧ r < s := by
  rcases Nat.lt_trichotomy d e with hlt | rfl | hgt
  · have hmul := Nat.mul_le_mul_left p (Nat.succ_le_of_lt hlt)
    rw [Nat.mul_succ] at hmul
    exact iff_of_true (by omega) (.inl hlt)
  · omega
  · have hmul := Nat.mul_le_mul_left p (Nat.succ_le_of_lt hgt)
    rw [Nat.mul_succ] at hmul
    exact iff_of_false (by omega) (by omega)

/-- Numbers are compared by their first digits, and where these are equal by the rest. -/
theorem mod_pow_succ_lt_iff (hbase : 0 < base) (a b k : Nat) :
    a % base ^ (k + 1) < b % base ^ (k + 1) ↔
      a / base ^ k % base < b / base ^ k % base ∨
        a / base ^ k % base = b / base ^ k % base ∧ a % base ^ k < b % base ^ k := by
  have hpow : 0 < base ^ k := Nat.pow_pos hbase
  rw [Nat.mod_pow_succ, Nat.mod_pow_succ]
  exact add_mul_lt_iff (Nat.mod_lt _ hpow) (Nat.mod_lt _ hpow)

/-- **Order.** Texts are ordered as the numbers are, up to the digits of the template. -/
theorem render_lt_iff [LT α] (hbase : 0 < base)
    (hdigit : ∀ d < base, ∀ e < base, digit d < digit e ↔ d < e)
    (hinj : ∀ d < base, ∀ e < base, digit d = digit e → d = e) (hsep : ¬ sep < sep)
    {template : List (Option Nat)} {k : Nat} (h : Digits template k) (a b : Nat) :
    render base digit sep template a < render base digit sep template b ↔
      a % base ^ k < b % base ^ k := by
  induction template generalizing k with
  | nil =>
    cases k with
    | zero =>
      rw [Nat.pow_zero, Nat.mod_one, Nat.mod_one]
      exact iff_of_false (List.not_lt_nil _) (Nat.lt_irrefl 0)
    | succ k =>
      have hlen := congrArg List.length h
      rw [List.length_reverse, List.length_range] at hlen
      cases hlen
  | cons place template ih =>
    unfold render at ih ⊢
    rw [List.map_cons, List.map_cons, List.cons_lt_cons_iff]
    cases place with
    | none =>
      rw [← ih h.of_sep]
      exact ⟨fun hlt => (hlt.resolve_left hsep).2, fun hlt => .inr ⟨rfl, hlt⟩⟩
    | some i =>
      obtain ⟨rfl, htail⟩ := h.of_digit
      have hda := Nat.mod_lt (a / base ^ i) hbase
      have hdb := Nat.mod_lt (b / base ^ i) hbase
      have heq : digit (a / base ^ i % base) = digit (b / base ^ i % base) ↔
          a / base ^ i % base = b / base ^ i % base :=
        ⟨hinj _ hda _ hdb, congrArg digit⟩
      rw [mod_pow_succ_lt_iff hbase, symbol, symbol, hdigit _ hda _ hdb, heq, ih htail]

end Numeral
