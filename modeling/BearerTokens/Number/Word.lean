/-!
# Ranges of machine integers

Numbers inside the library are exact integers.  Where a stored or transmitted
number must fit a word, the fit is checked and a number outside the range is
refused; nothing wraps.
-/

namespace BearerTokens
namespace Number

/-- The largest number of a signed word of 64 bits. -/
def maxSigned64 : Int := 9223372036854775807

/-- The smallest number of a signed word of 64 bits. -/
def minSigned64 : Int := -9223372036854775808

/-- The largest number of an unsigned word of 64 bits. -/
def maxUnsigned64 : Nat := 18446744073709551615

/-- The largest number of an unsigned word of 32 bits. -/
def maxUnsigned32 : Nat := 4294967295

/-- The largest number of an unsigned word of 16 bits. -/
def maxUnsigned16 : Nat := 65535

/-- Whether a number fits a signed word of 64 bits. -/
def fitsSigned64 (n : Int) : Bool :=
  minSigned64 ≤ n && n ≤ maxSigned64

/-- The number itself if it fits a signed word of 64 bits. -/
def checkSigned64 (n : Int) : Option Int :=
  if fitsSigned64 n then some n else none

/-- A checked number is the number, and it lies in the range. -/
theorem checkSigned64_eq_some_iff {n m : Int} :
    checkSigned64 n = some m ↔ n = m ∧ minSigned64 ≤ n ∧ n ≤ maxSigned64 := by
  simp only [checkSigned64, fitsSigned64, Bool.and_eq_true, decide_eq_true_eq]
  split
  · next h => simp [h]
  · next h => simp [h]

/-- A number outside of the range is refused. -/
theorem checkSigned64_eq_none {n : Int} (h : n < minSigned64 ∨ maxSigned64 < n) :
    checkSigned64 n = none := by
  cases hc : checkSigned64 n with
  | none => rfl
  | some m =>
    have hr := (checkSigned64_eq_some_iff.mp hc).2
    omega

end Number
end BearerTokens
