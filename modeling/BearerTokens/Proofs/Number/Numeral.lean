import BearerTokens.Number.Decimal

/-!
# Numerals

The texts that denote integers in decimal, said without the functions that read
them: ASCII digits, of which any number may be zeros in front, behind an
optional sign.  Reading up to a limit accepts a numeral exactly when its number
is within the limit.

Main results:

- Theorem {lit}`Decimal.bounded?_eq_some_iff`: the numerals up to a bound.
- Theorem {lit}`Decimal.signed64?_eq_some_iff`: the numerals of signed words.
-/

namespace BearerTokens
namespace Decimal

variable {cs : List Char}

/-- Some digits, at least one, and the number that they denote. -/
structure Digits (cs : List Char) (n : Nat) : Prop where
  ne_nil : cs ≠ []
  digit : ∀ c ∈ cs, c.isDigit = true
  value : Nat.ofDigitChars 10 cs 0 = n

/-- Digits behind an optional plus sign. -/
inductive Unsigned : List Char → Nat → Prop where
  | plain {cs : List Char} {n : Nat} : Digits cs n → Unsigned cs n
  | plus {cs : List Char} {n : Nat} : Digits cs n → Unsigned ('+' :: cs) n

/-- Digits behind an optional sign. -/
inductive Signed : List Char → Int → Prop where
  | unsigned {cs : List Char} {n : Nat} : Unsigned cs n → Signed cs n
  | minus {cs : List Char} {n : Nat} : Digits cs n → Signed ('-' :: cs) (-n)

/-! ## Reading digits -/

/-- A number is read of digits exactly when they denote it. -/
theorem digitsValue?_eq_some_iff {n : Nat} : digitsValue? cs = some n ↔ Digits cs n := by
  unfold digitsValue?
  constructor
  · intro h
    split at h
    · cases h
    · next hdigits =>
      rw [Bool.or_eq_true, not_or, Bool.not_eq_true', Bool.not_eq_false] at hdigits
      refine ⟨?_, List.all_eq_true.mp hdigits.2, Option.some.inj h⟩
      rintro rfl
      exact hdigits.1 rfl
  · rintro ⟨hne, hdigit, rfl⟩
    have hall : cs.all Char.isDigit = true := List.all_eq_true.mpr hdigit
    simp [hne, hall]

/-- Digits do not begin with a sign. -/
theorem Digits.ne_sign {c : Char} {n : Nat} (h : Digits (c :: cs) n) : c ≠ '+' ∧ c ≠ '-' := by
  have hc : c.isDigit = true := h.digit c List.mem_cons_self
  constructor
  · rintro rfl
    exact absurd hc (by decide)
  · rintro rfl
    exact absurd hc (by decide)

/-- The digits of a number denote it. -/
theorem digits_naturalDigits (n : Nat) : Digits (naturalDigits n) n :=
  digitsValue?_eq_some_iff.mp (digitsValue?_naturalDigits n)

/-! ## Reading behind a sign -/

/-- A number is read behind an optional plus sign exactly when the text denotes it. -/
theorem natural?_eq_some_iff {n : Nat} : natural? cs = some n ↔ Unsigned cs n := by
  rw [natural?, digitsValue?_eq_some_iff]
  constructor
  · intro h
    cases cs with
    | nil => exact .plain h
    | cons c rest =>
      rw [dropPlus] at h
      split at h
      · next hplus =>
        rw [hplus]
        exact .plus h
      · exact .plain h
  · intro h
    cases h with
    | plain hdigits =>
      cases cs with
      | nil => exact hdigits
      | cons c rest =>
        rw [dropPlus, if_neg hdigits.ne_sign.1]
        exact hdigits
    | plus hdigits => exact hdigits

/-- Digits behind an optional plus sign do not begin with a minus sign. -/
theorem Unsigned.ne_minus {c : Char} {n : Nat} (h : Unsigned (c :: cs) n) : c ≠ '-' := by
  cases h with
  | plain hdigits => exact hdigits.ne_sign.2
  | plus _ => decide

/-- An integer is read exactly when the text denotes it. -/
theorem integer?_eq_some_iff {n : Int} : integer? cs = some n ↔ Signed cs n := by
  constructor
  · intro h
    cases cs with
    | nil => cases h
    | cons c rest =>
      rw [integer?, signedBy?] at h
      split at h
      · next hminus =>
        cases hread : digitsValue? rest with
        | none =>
          rw [hread] at h
          cases h
        | some value =>
          rw [hread] at h
          cases h
          rw [hminus]
          exact .minus (digitsValue?_eq_some_iff.mp hread)
      · cases hread : natural? (c :: rest) with
        | none =>
          rw [← natural?, hread] at h
          cases h
        | some value =>
          rw [← natural?, hread] at h
          cases h
          exact .unsigned (natural?_eq_some_iff.mp hread)
  · intro h
    cases h with
    | minus hdigits =>
      rw [integer?, signedBy?, if_pos rfl, digitsValue?_eq_some_iff.mpr hdigits]
      rfl
    | unsigned hunsigned =>
      have hread := natural?_eq_some_iff.mpr hunsigned
      cases cs with
      | nil => cases hread
      | cons c rest =>
        rw [integer?, signedBy?, if_neg hunsigned.ne_minus, ← natural?, hread]
        rfl

/-! ## Reading up to a limit -/

/-- A number is read up to a bound exactly when the text denotes it and it is within the bound. -/
theorem bounded?_eq_some_iff {bound n : Nat} :
    bounded? bound cs = some n ↔ Unsigned cs n ∧ n ≤ bound := by
  rw [bounded?_eq, Option.filter_eq_some_iff, natural?_eq_some_iff, decide_eq_true_eq]

/-- A word is read exactly when the text denotes it and it fits. -/
theorem signed64?_eq_some_iff {n : Int} :
    signed64? cs = some n ↔
      Signed cs n ∧ Number.minSigned64 ≤ n ∧ n ≤ Number.maxSigned64 := by
  rw [signed64?_eq, Option.bind_eq_some_iff]
  constructor
  · rintro ⟨value, hvalue, hcheck⟩
    rcases Number.checkSigned64_eq_some_iff.mp hcheck with ⟨rfl, hrange⟩
    exact ⟨integer?_eq_some_iff.mp hvalue, hrange⟩
  · rintro ⟨hsigned, hrange⟩
    exact ⟨n, integer?_eq_some_iff.mpr hsigned,
      Number.checkSigned64_eq_some_iff.mpr ⟨rfl, hrange⟩⟩

end Decimal
end BearerTokens
