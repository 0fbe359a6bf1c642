import BearerTokens.Number.Word

/-!
# Lifetimes and expiry

Points of time are milliseconds since the epoch.  A lifetime is given in whole
hours; the product and the sum are both checked against the signed range of 64
bits, so an expiry never wraps into the past.

Main results:

- Theorem {lit}`hoursAfter_eq_some`: an expiry that exists is the exact sum.
-/

namespace BearerTokens

/-- The milliseconds of an hour. -/
def millisPerHour : Int := 3600000

/-- The point of time a number of hours after another, if it can be represented. -/
def hoursAfter (now hours : Int) : Option Int :=
  (Number.checkSigned64 (hours * millisPerHour)).bind fun lifetime =>
    Number.checkSigned64 (now + lifetime)

/-- An expiry lies in the past only when the clock has gone beyond it. -/
def isPast (expiresAt now : Int) : Bool :=
  expiresAt < now

/-- An expiry that exists is the exact sum. -/
theorem hoursAfter_eq_some {now hours t : Int} (h : hoursAfter now hours = some t) :
    t = now + millisPerHour * hours := by
  simp only [hoursAfter, Option.bind_eq_some_iff, Number.checkSigned64_eq_some_iff] at h
  obtain ⟨lifetime, ⟨hl, _⟩, ht, _⟩ := h
  rw [← ht, ← hl, Int.mul_comm]

end BearerTokens
