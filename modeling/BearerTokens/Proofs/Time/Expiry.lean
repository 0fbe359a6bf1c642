import BearerTokens.Token

/-!
# Lifetimes in range

The product and the sum of an expiry are checked one after the other.  From a time that
is not negative this refuses exactly the sums that do not fit; from any time, whoever is
granted a lifetime is granted every shorter one, and nobody is granted an expiry that lies
behind the present.

Main results:

- Theorem {lit}`hoursAfter_eq_some_iff`: which expiries there are.
- Theorem {lit}`hoursAfter_eq_none_iff`: an expiry is too late exactly as an exact sum.
- Theorem {lit}`expiry_exact`: expiries, and the tokens that expire then.
-/

namespace BearerTokens

/-- The numbers of a signed word. -/
theorem Number.fitsSigned64_iff {n : Int} :
    fitsSigned64 n = true ↔ -9223372036854775808 ≤ n ∧ n ≤ 9223372036854775807 := by
  simp only [fitsSigned64, Bool.and_eq_true, decide_eq_true_eq]
  rfl

/-- An expiry is the exact sum, if neither the lifetime nor the sum is out of range. -/
theorem hoursAfter_eq_some_iff {now hours t : Int} :
    hoursAfter now hours = some t ↔
      Number.fitsSigned64 (3600000 * hours) = true ∧ Number.fitsSigned64 t = true ∧
        t = now + 3600000 * hours := by
  simp only [hoursAfter, Option.bind_eq_some_iff, Number.checkSigned64_eq_some_iff,
    Number.fitsSigned64, Bool.and_eq_true, decide_eq_true_eq, millisPerHour]
  constructor
  · rintro ⟨_, ⟨rfl, hlifetime⟩, rfl, hsum⟩
    rw [Int.mul_comm 3600000 hours]
    exact ⟨hlifetime, hsum, rfl⟩
  · rintro ⟨hlifetime, hsum, rfl⟩
    rw [Int.mul_comm 3600000 hours] at hlifetime hsum ⊢
    exact ⟨_, ⟨rfl, hlifetime⟩, rfl, hsum⟩

/-- From a time far in the past, a lifetime may be out of range although the sum is not. -/
example : hoursAfter (-9000000000000000000) 2562047788016 = none ∧
    Number.fitsSigned64 (-9000000000000000000 + 3600000 * 2562047788016) = true := by decide

/-- From a time that is not negative, an expiry is refused exactly when its sum is too large. -/
theorem hoursAfter_eq_none_iff {now hours : Int} (hnow : 0 ≤ now) (hhours : 0 < hours) :
    hoursAfter now hours = none ↔ 9223372036854775807 < now + 3600000 * hours := by
  constructor
  · intro hnone
    refine Int.not_le.mp fun hsum => ?_
    have hlifetime : Number.fitsSigned64 (3600000 * hours) = true :=
      Number.fitsSigned64_iff.mpr ⟨by omega, by omega⟩
    have hfits : Number.fitsSigned64 (now + 3600000 * hours) = true :=
      Number.fitsSigned64_iff.mpr ⟨by omega, hsum⟩
    rw [hoursAfter_eq_some_iff.mpr ⟨hlifetime, hfits, rfl⟩] at hnone
    cases hnone
  · intro hlarge
    cases hsome : hoursAfter now hours with
    | none => rfl
    | some t =>
      obtain ⟨-, hfits, rfl⟩ := hoursAfter_eq_some_iff.mp hsome
      have hmax := (Number.fitsSigned64_iff.mp hfits).2
      omega

/-- Whoever is granted a lifetime is granted every shorter one. -/
theorem hoursAfter_of_le {now hours fewer t : Int} (hnow : Number.fitsSigned64 now = true)
    (h : hoursAfter now hours = some t) (hpos : 0 < fewer) (hle : fewer ≤ hours) :
    hoursAfter now fewer = some (now + 3600000 * fewer) := by
  obtain ⟨hlifetime, hsum, rfl⟩ := hoursAfter_eq_some_iff.mp h
  rw [Number.fitsSigned64_iff] at hnow hlifetime hsum
  have hshorter : Number.fitsSigned64 (3600000 * fewer) = true :=
    Number.fitsSigned64_iff.mpr ⟨by omega, by omega⟩
  have hsooner : Number.fitsSigned64 (now + 3600000 * fewer) = true :=
    Number.fitsSigned64_iff.mpr ⟨by omega, by omega⟩
  exact hoursAfter_eq_some_iff.mpr ⟨hshorter, hsooner, rfl⟩

/-- A token is good up to its expiry, the expiry itself included. -/
theorem Token.isExpiredAt_eq_false_iff {token : Token} {reading : Int} :
    token.isExpiredAt reading = false ↔ reading ≤ token.expiresAt := by
  simp only [isExpiredAt, isPast, decide_eq_false_iff_not, Int.not_lt]

/--
From any time on the clock: an expiry that there is, is the exact sum and fits a word.  If
the time is not negative, a lifetime is refused exactly when the sum is too large.  With a
lifetime every shorter one is granted, for an expiry that lies ahead and is no later.  A
token that is given an expiry is good up to the exact sum, and so at the time of the gift.
-/
theorem expiry_exact {now : Int} (hnow : Number.fitsSigned64 now = true) :
    (∀ hours t, hoursAfter now hours = some t →
      t = now + 3600000 * hours ∧ Number.fitsSigned64 t = true) ∧
    (0 ≤ now → ∀ hours, 0 < hours →
      (hoursAfter now hours = none ↔ Number.maxSigned64 < now + 3600000 * hours)) ∧
    (∀ hours t fewer, hoursAfter now hours = some t → 0 < fewer → fewer ≤ hours →
      ∃ sooner, hoursAfter now fewer = some sooner ∧ now < sooner ∧ sooner ≤ t) ∧
    ∀ (token : Token) (hours : Int), 0 < hours → hoursAfter now hours = some token.expiresAt →
      (∀ reading, token.isExpiredAt reading = false ↔ reading ≤ now + 3600000 * hours) ∧
        token.isExpiredAt now = false := by
  refine ⟨?_, ?_, ?_, ?_⟩
  · intro hours t h
    obtain ⟨-, hfits, hsum⟩ := hoursAfter_eq_some_iff.mp h
    exact ⟨hsum, hfits⟩
  · intro hpast hours hpos
    exact hoursAfter_eq_none_iff hpast hpos
  · intro hours t fewer h hpos hle
    have hsum := (hoursAfter_eq_some_iff.mp h).2.2
    refine ⟨_, hoursAfter_of_le hnow h hpos hle, ?_, ?_⟩
    · omega
    · omega
  · intro token hours hpos h
    have hsum := (hoursAfter_eq_some_iff.mp h).2.2
    have hgood : ∀ reading,
        token.isExpiredAt reading = false ↔ reading ≤ now + 3600000 * hours := by
      intro reading
      rw [Token.isExpiredAt_eq_false_iff, hsum]
    exact ⟨hgood, (hgood now).mpr (by omega)⟩

/-- A token with the longest lifetime that there is from the epoch on. -/
def longestToken : Token where
  id := 1
  owner := 7
  name := "ci"
  description := none
  digest := []
  expiresAt := 9223372036854000000
  createdAt := .epoch

/-- The longest lifetime is granted and one hour more is not; its token is good to the end. -/
theorem expiry_exact_longest :
    hoursAfter 0 2562047788015 = some longestToken.expiresAt ∧
      hoursAfter 0 2562047788016 = none ∧ (∃ sooner, hoursAfter 0 1 = some sooner ∧ 0 < sooner) ∧
      longestToken.isExpiredAt 9223372036854000000 = false ∧
      longestToken.isExpiredAt 9223372036854000001 = true := by
  have hlongest : hoursAfter 0 2562047788015 = some longestToken.expiresAt := by decide
  have hepoch : Number.fitsSigned64 0 = true := rfl
  obtain ⟨-, hnone, hmono, htoken⟩ := expiry_exact hepoch
  obtain ⟨hgood, -⟩ := htoken longestToken 2562047788015 (by decide) hlongest
  obtain ⟨sooner, hsooner, hahead, -⟩ := hmono _ _ 1 hlongest (by decide) (by decide)
  have hexpired : ¬ longestToken.isExpiredAt 9223372036854000001 = false := by
    rw [hgood]
    decide
  have hrefused := (hnone (by decide) 2562047788016 (by decide)).mpr (by decide)
  have hend := (hgood 9223372036854000000).mpr (by decide)
  exact ⟨hlongest, hrefused, ⟨sooner, hsooner, hahead⟩, hend, by simpa using hexpired⟩

end BearerTokens
