/-!
# Binary numbers of 64 bits

The magnitudes of the finite binary64 numbers, as exact integers: a significand
below {lit}`2 ^ 53` times a power of two.  Products and quotients are exact
fractions rounded to the nearest magnitude, a tie going to the even
significand.
-/

namespace BearerTokens

/-- A finite magnitude, the significand times two to the exponent. -/
structure Binary64 where
  significand : Nat
  exponent : Int
  deriving DecidableEq, Repr

namespace Binary64

/-- The exponent of the smallest magnitudes. -/
def minExponent : Int := -1074

/-- The exponent of the largest magnitudes. -/
def maxExponent : Int := 971

/-- The magnitude zero. -/
def zero : Binary64 := ⟨0, minExponent⟩

/-- Whether a magnitude is zero. -/
def isZero (x : Binary64) : Bool := x.significand == 0

/-! ## Exact fractions -/

/-- A fraction of natural numbers with a positive denominator. -/
structure Fraction where
  num : Nat
  den : Nat

/-- A fraction divided by a power of two. -/
def Fraction.shift (x : Fraction) (exponent : Int) : Fraction :=
  if 0 ≤ exponent then ⟨x.num, x.den * Nat.pow 2 exponent.toNat⟩
  else ⟨x.num * Nat.pow 2 (-exponent).toNat, x.den⟩

/-- The nearest natural number, a tie going to the even one. -/
def Fraction.round (x : Fraction) : Nat :=
  let q := x.num / x.den
  let r := x.num % x.den
  if 2 * r < x.den then q
  else if x.den < 2 * r then q + 1
  else if q % 2 = 0 then q else q + 1

/-- The exact value of a magnitude. -/
def toFraction (x : Binary64) : Fraction :=
  Fraction.shift ⟨x.significand, 1⟩ (-x.exponent)

/--
The exponent at which the whole part of a fraction has 53 bits, or the smallest
exponent if that is larger.
-/
def exponentFor (x : Fraction) : Int :=
  let low := max ((Nat.log2 x.num : Int) - Nat.log2 x.den - 53) minExponent
  let shifted := x.shift low
  if shifted.num / shifted.den < Nat.pow 2 53 then low else low + 1

/-- The magnitude nearest to a fraction; nothing if it is beyond the largest. -/
def ofFraction? (x : Fraction) : Option Binary64 :=
  if x.num = 0 then some zero
  else
    let exponent := exponentFor x
    let rounded := (x.shift exponent).round
    let normal : Binary64 :=
      if rounded = Nat.pow 2 53 then ⟨Nat.pow 2 52, exponent + 1⟩ else ⟨rounded, exponent⟩
    if normal.exponent ≤ maxExponent then some normal else none

/-! ## Arithmetic -/

/-- The magnitude nearest to a natural number; nothing if it is beyond the largest. -/
def ofNat? (n : Nat) : Option Binary64 :=
  ofFraction? ⟨n, 1⟩

/-- The rounded product; nothing if it is beyond the largest magnitude. -/
def mul? (x y : Binary64) : Option Binary64 :=
  let a := x.toFraction
  let b := y.toFraction
  ofFraction? ⟨a.num * b.num, a.den * b.den⟩

/-- The rounded quotient by a positive magnitude; nothing if it is beyond the largest. -/
def div? (x y : Binary64) : Option Binary64 :=
  let a := x.toFraction
  let b := y.toFraction
  ofFraction? ⟨a.num * b.den, a.den * b.num⟩

/-- Ten to a power up to 308, rounded. -/
def powerOfTen? (n : Nat) : Option Binary64 :=
  ofNat? (Nat.pow 10 n)

end Binary64
end BearerTokens
