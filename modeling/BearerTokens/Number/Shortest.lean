import BearerTokens.Number.Binary64
import BearerTokens.Number.Decimal

/-!
# The shortest decimal text of a binary number

A magnitude is written with the fewest decimal digits that read back as it, the
nearest such digits to its exact value, and of two equally near the even ones.
Scientific exponents from -5 to 15 are written positionally, always with a
point; other numbers with a signed exponent.
-/

namespace BearerTokens
namespace Binary64

/-- Digits times a power of ten. -/
structure Digits where
  digits : Nat
  exponent : Int
  deriving DecidableEq, Repr

/-- A fraction divided by a power of ten. -/
def Fraction.shiftTen (x : Fraction) (exponent : Int) : Fraction :=
  if 0 ≤ exponent then ⟨x.num, x.den * Nat.pow 10 exponent.toNat⟩
  else ⟨x.num * Nat.pow 10 (-exponent).toNat, x.den⟩

/-- The exponent of the leading decimal digit of a positive fraction. -/
def Fraction.leadingExponent (x : Fraction) : Int :=
  if x.den ≤ x.num then ((Decimal.naturalDigits (x.num / x.den)).length : Int) - 1
  else -((Decimal.naturalDigits ((x.den - 1) / x.num)).length : Int)

/-! ## The numbers that read back -/

/-- The lower end of the numbers that round to a magnitude. -/
def lowerEnd (x : Binary64) : Fraction :=
  if x.significand = Nat.pow 2 52 ∧ minExponent < x.exponent then
    Fraction.shift ⟨4 * x.significand - 1, 4⟩ (-x.exponent)
  else Fraction.shift ⟨2 * x.significand - 1, 2⟩ (-x.exponent)

/-- The upper end of the numbers that round to a magnitude. -/
def upperEnd (x : Binary64) : Fraction :=
  Fraction.shift ⟨2 * x.significand + 1, 2⟩ (-x.exponent)

/-- Whether a decimal number rounds to a magnitude; the ends do if the significand is even. -/
def readsBack (x : Binary64) (d : Digits) : Bool :=
  let value := Fraction.shiftTen ⟨d.digits, 1⟩ (-d.exponent)
  let low := x.lowerEnd
  let high := x.upperEnd
  if x.significand % 2 = 0 then
    low.num * value.den ≤ value.num * low.den && value.num * high.den ≤ high.num * value.den
  else
    low.num * value.den < value.num * low.den && value.num * high.den < high.num * value.den

/-! ## The nearest digits of a count -/

/-- The digits of a count that read back, the nearer of the two neighbours of the value. -/
def digitsOf? (x : Binary64) (count : Nat) : Option Digits :=
  let value := x.toFraction
  let exponent := value.leadingExponent - count + 1
  let scaled := value.shiftTen exponent
  let q := scaled.num / scaled.den
  let r := scaled.num % scaled.den
  let below : Digits := ⟨q, exponent⟩
  let above : Digits := ⟨q + 1, exponent⟩
  match readsBack x below, readsBack x above with
  | true, true =>
    if 2 * r < scaled.den then some below
    else if scaled.den < 2 * r then some above
    else if q % 2 = 0 then some below else some above
  | true, false => some below
  | false, true => some above
  | false, false => none

/-- The fewest digits that read back; seventeen always do. -/
def shortest (x : Binary64) : Digits :=
  ((List.range 17).findSome? fun i => digitsOf? x (i + 1)).getD ⟨0, 0⟩

/-! ## The text -/

/-- The digits without trailing zeros. -/
def withoutTrailingZeros (cs : List Char) : List Char :=
  (cs.reverse.dropWhile (· == '0')).reverse

/-- Significant digits with the exponent of the first of them, as text. -/
def layout (cs : List Char) (leading : Int) : List Char :=
  if 0 ≤ leading ∧ leading ≤ 15 then
    let whole := leading.toNat + 1
    if cs.length ≤ whole then
      cs ++ List.replicate (whole - cs.length) '0' ++ ['.', '0']
    else cs.take whole ++ '.' :: cs.drop whole
  else if -5 ≤ leading ∧ leading < 0 then
    ['0', '.'] ++ List.replicate ((-leading).toNat - 1) '0' ++ cs
  else
    let sign := if leading < 0 then '-' else '+'
    let fraction := if cs.length ≤ 1 then [] else '.' :: cs.drop 1
    cs.take 1 ++ fraction ++ 'e' :: sign :: Decimal.naturalDigits leading.natAbs

/-- The text of a magnitude after its sign. -/
def text (negative : Bool) (x : Binary64) : String :=
  let sign := if negative then ['-'] else []
  if x.isZero then String.ofList (sign ++ ['0', '.', '0'])
  else
    let d := x.shortest
    let all := Decimal.naturalDigits d.digits
    let leading := d.exponent + all.length - 1
    String.ofList (sign ++ layout (withoutTrailingZeros all) leading)

end Binary64
end BearerTokens
