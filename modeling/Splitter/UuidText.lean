import Mathlib.Data.String.Basic
import Splitter.Lib.Numeral
import Splitter.Types

/-!
# Canonical identifiers

The text of an identifier in the `uuid` crate's canonical form: 32 lower-case hexadecimal digits
with hyphens after the 8th, 12th, 16th and 20th. Texts are ordered as the 128-bit values are
(`text_lt_iff`), and a parser of these texts reads every identifier back (`parseText_text`).
-/

namespace Splitter

/-- A lower-case hexadecimal digit. -/
def hexDigit (d : Nat) : Char :=
  if d < 10 then Char.ofNat ('0'.toNat + d) else Char.ofNat ('a'.toNat + (d - 10))

/-- The value of a lower-case hexadecimal digit. -/
def hexValue (c : Char) : Option Nat :=
  if '0' ≤ c ∧ c ≤ '9' then some (c.toNat - '0'.toNat)
  else if 'a' ≤ c ∧ c ≤ 'f' then some (c.toNat - 'a'.toNat + 10)
  else none

/-- Digits are ordered as their values, the decimal ones before the letters. -/
theorem hexDigit_lt : ∀ d < 16, ∀ e < 16, hexDigit d < hexDigit e ↔ d < e := by decide

theorem hexDigit_inj : ∀ d < 16, ∀ e < 16, hexDigit d = hexDigit e → d = e := by decide

theorem hexValue_hexDigit : ∀ d < 16, hexValue (hexDigit d) = some d := by decide

namespace Uuid

/-- The places of a canonical text, digits counted from the last one. -/
def template : List (Option Nat) :=
  [31, 30, 29, 28, 27, 26, 25, 24].map some ++ none ::
    [23, 22, 21, 20].map some ++ none ::
    [19, 18, 17, 16].map some ++ none ::
    [15, 14, 13, 12].map some ++ none ::
    [11, 10, 9, 8, 7, 6, 5, 4, 3, 2, 1, 0].map some

theorem digits_template : Numeral.Digits template 32 := rfl

/-- The canonical text, lower-case and hyphenated. -/
def text (u : Uuid) : String :=
  String.ofList (Numeral.render 16 hexDigit '-' template u.val.toNat)

/-- No canonical text is empty. -/
theorem text_ne_empty (u : Uuid) : u.text ≠ "" := by
  intro h
  have hnil := congrArg String.toList h
  rw [text, String.toList_ofList] at hnil
  cases hnil

/-- 32 digits hold every identifier. -/
theorem mod_digits (u : Uuid) : u.val.toNat % 16 ^ 32 = u.val.toNat :=
  Nat.mod_eq_of_lt u.val.isLt

/-- **Order.** Canonical texts are ordered as the identifiers. -/
theorem text_lt_iff (u v : Uuid) : u.text < v.text ↔ u.val < v.val := by
  rw [String.lt_iff_toList_lt, text, text, String.toList_ofList, String.toList_ofList,
    Numeral.render_lt_iff (by decide) hexDigit_lt hexDigit_inj (by decide) digits_template,
    mod_digits, mod_digits, BitVec.lt_def]

/-! ## A parser of canonical texts -/

/-- The identifier a canonical text is of. -/
def parseText (s : String) : Except String Uuid :=
  let u : Uuid := ⟨BitVec.ofNat 128 (Numeral.read 16 hexValue s.toList)⟩
  if u.text = s then .ok u else .error "not a canonical text"

/-- **Round trip.** Every identifier is read back from its text. -/
theorem parseText_text (u : Uuid) : parseText u.text = .ok u := by
  have hread : Numeral.read 16 hexValue u.text.toList = u.val.toNat := by
    rw [text, String.toList_ofList,
      Numeral.read_render (by decide) hexValue_hexDigit (by decide) digits_template, mod_digits]
  have hu : (⟨BitVec.ofNat 128 (Numeral.read 16 hexValue u.text.toList)⟩ : Uuid) = u := by
    rw [hread, BitVec.ofNat_toNat, BitVec.setWidth_eq]
  simp only [parseText, hu, if_true]

end Uuid

/-- The crate on canonical texts. -/
@[reducible] def UuidCrate.canonical : UuidCrate where
  parseStr := Uuid.parseText
  display := Uuid.text

end Splitter
