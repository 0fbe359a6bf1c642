import BearerTokens.Number.Word

/-!
# Decimal integers

An integer is written in decimal digits without leading zeros, after a minus
sign if it is negative.  Reading is wider: it takes leading zeros and an
optional plus sign, and nothing but ASCII digits besides.

Main results:

- Theorem {lit}`digitsValue?_naturalDigits`: a natural number is read back from its
  digits.
- Theorems {lit}`bounded?_eq` and {lit}`signed64?_eq`: reading up to a limit finds
  the number that the text denotes.
-/

namespace BearerTokens
namespace Decimal

/-- The decimal digits of a natural number, without leading zeros. -/
def naturalDigits (n : Nat) : List Char :=
  Nat.toDigits 10 n

/-- The decimal text of an integer as characters. -/
def digits : Int → List Char
  | .ofNat n => naturalDigits n
  | .negSucc n => '-' :: naturalDigits (n + 1)

/-- The decimal text of an integer. -/
def text (n : Int) : String :=
  String.ofList (digits n)

/-- The digits of a number with zeros in front up to a width. -/
def padded (width n : Nat) : List Char :=
  List.replicate (width - (naturalDigits n).length) '0' ++ naturalDigits n

/-! ## Reading -/

/-- The number written by a non-empty list of digits. -/
def digitsValue? (cs : List Char) : Option Nat :=
  if cs.isEmpty || !cs.all Char.isDigit then none
  else some (Nat.ofDigitChars 10 cs 0)

/-- A list of characters without a plus sign at its front. -/
def dropPlus : List Char → List Char
  | [] => []
  | c :: rest => if c = '+' then rest else c :: rest

/-- A natural number with an optional plus sign. -/
def natural? (cs : List Char) : Option Nat :=
  digitsValue? (dropPlus cs)

/-- An integer with an optional sign, given how its digits are read. -/
def signedBy? (read : List Char → Option Nat) : List Char → Option Int
  | [] => none
  | c :: rest =>
    if c = '-' then (read rest).map fun n => -(n : Int)
    else (read (dropPlus (c :: rest))).map fun n => (n : Int)

/-- An integer with an optional sign. -/
def integer? (cs : List Char) : Option Int :=
  signedBy? digitsValue? cs

/-! ## Reading up to a limit -/

/-- The number that digits make behind a number, counted no further than a limit. -/
def valueUpTo (limit : Nat) (cs : List Char) (start : Nat) : Nat :=
  cs.foldl (fun n c => min limit (10 * n + (c.toNat - '0'.toNat))) start

/--
The number written by a non-empty list of digits, or the limit if the number is
beyond it.  No intermediate number passes the limit, so the time that this takes
is in proportion to the number of digits.
-/
def digitsUpTo? (limit : Nat) (cs : List Char) : Option Nat :=
  if cs.isEmpty || !cs.all Char.isDigit then none
  else some (valueUpTo limit cs 0)

/-- A magnitude that no signed word of 64 bits has. -/
def beyondSigned64 : Nat := 9223372036854775809

/-- An integer with an optional sign that fits a signed word of 64 bits. -/
def signed64? (cs : List Char) : Option Int :=
  (signedBy? (digitsUpTo? beyondSigned64) cs).bind Number.checkSigned64

/-- A natural number with an optional plus sign that is at most a bound. -/
def bounded? (bound : Nat) (cs : List Char) : Option Nat :=
  (digitsUpTo? (bound + 1) (dropPlus cs)).filter fun n => n ≤ bound

/-- Counting no further than a limit gives the number, or the limit if that is smaller. -/
theorem valueUpTo_min (limit : Nat) (cs : List Char) (start : Nat) :
    valueUpTo limit cs (min limit start) = min limit (Nat.ofDigitChars 10 cs start) := by
  induction cs generalizing start with
  | nil => rfl
  | cons c rest ih =>
    have hstep : min limit (10 * min limit start + (c.toNat - '0'.toNat)) =
        min limit (10 * start + (c.toNat - '0'.toNat)) := by omega
    rw [Nat.ofDigitChars_cons, ← ih, valueUpTo, List.foldl_cons, hstep]
    rfl

/-- Digits read up to a limit are worth their number, or the limit if that is smaller. -/
theorem digitsUpTo?_eq (limit : Nat) (cs : List Char) :
    digitsUpTo? limit cs = (digitsValue? cs).map (min limit) := by
  have hvalue := valueUpTo_min limit cs 0
  rw [Nat.min_zero] at hvalue
  simp only [digitsUpTo?, digitsValue?, hvalue]
  split <;> rfl

/-- A bounded number is the number that the text denotes, if it is at most the bound. -/
theorem bounded?_eq (bound : Nat) (cs : List Char) :
    bounded? bound cs = (natural? cs).filter fun n => n ≤ bound := by
  rw [bounded?, natural?, digitsUpTo?_eq]
  cases digitsValue? (dropPlus cs) with
  | none => rfl
  | some n =>
    by_cases h : n ≤ bound
    · have hn : min (bound + 1) n = n := by omega
      simp [hn]
    · have hn : ¬min (bound + 1) n ≤ bound := by omega
      simp [Option.filter, hn, h]

/-- A word read up to its limit is the integer that the text denotes, if it fits. -/
theorem signed64?_eq (cs : List Char) :
    signed64? cs = (integer? cs).bind Number.checkSigned64 := by
  have hcheck : ∀ n : Nat,
      Number.checkSigned64 (min beyondSigned64 n : Nat) = Number.checkSigned64 n ∧
        Number.checkSigned64 (-(min beyondSigned64 n : Nat) : Int) =
          Number.checkSigned64 (-(n : Int)) := by
    intro n
    by_cases h : n ≤ beyondSigned64
    · rw [Nat.min_eq_right h]
      exact ⟨rfl, rfl⟩
    · rw [Nat.min_eq_left (by omega)]
      have hup : Number.maxSigned64 < n := by
        simp only [beyondSigned64, Number.maxSigned64] at h ⊢
        omega
      have hdown : -(n : Int) < Number.minSigned64 := by
        simp only [beyondSigned64, Number.minSigned64] at h ⊢
        omega
      rw [Number.checkSigned64_eq_none (.inr hup), Number.checkSigned64_eq_none (.inl hdown)]
      exact ⟨rfl, rfl⟩
  cases cs with
  | nil => rfl
  | cons c rest =>
    simp only [signed64?, integer?, signedBy?, digitsUpTo?_eq]
    split
    · cases digitsValue? rest with
      | none => rfl
      | some n => exact (hcheck n).2
    · cases digitsValue? (dropPlus (c :: rest)) with
      | none => rfl
      | some n => exact (hcheck n).1

/-! ## Reading back -/

/-- The digits of a number are worth the number. -/
theorem digitsValue?_naturalDigits (n : Nat) : digitsValue? (naturalDigits n) = some n := by
  have hne : naturalDigits n ≠ [] := Nat.toDigits_ne_nil
  have hall : (naturalDigits n).all Char.isDigit = true := by
    rw [List.all_eq_true]
    exact fun c hc => Nat.isDigit_of_mem_toDigits (by decide) (by decide) hc
  have hval : Nat.ofDigitChars 10 (naturalDigits n) 0 = n := Nat.ofDigitChars_ten_toDigits
  simp [digitsValue?, hne, hall, hval]

end Decimal
end BearerTokens
