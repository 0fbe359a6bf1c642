import BearerTokens.Json.Scan
import BearerTokens.Number.Shortest
import BearerTokens.Number.Word

/-!
# Reading a JSON number

A number without fraction and exponent that fits a word of 64 bits is an
integer.  Every other number is binary: its digits are gathered in an unsigned
word until the next one would overflow it, and the word is then scaled by a
rounded power of ten.  A number beyond the largest magnitude is refused, and so
is one with a leading zero.

Main results:

- Theorem {lit}`length_readNumber_lt`: what follows a number is shorter.
-/

namespace BearerTokens
namespace Json

/-- A number as it was written. -/
inductive Numeral where
  /-- A natural number that fits an unsigned word of 64 bits. -/
  | natural (value : Nat)
  /-- A negative number that fits a signed word of 64 bits. -/
  | negative (value : Int)
  /-- Any other number, and a zero with a minus sign. -/
  | binary (negative : Bool) (magnitude : Binary64)
  deriving DecidableEq, Repr

/-! ## Digits -/

/-- Digits gathered in a word, how many there were, and what follows them. -/
structure Gathered where
  significand : Nat
  count : Nat
  rest : List UInt8

/-- Gather digits behind a significand as long as it fits an unsigned word of 64 bits. -/
def gather (significand count : Nat) : List UInt8 → Gathered
  | [] => ⟨significand, count, []⟩
  | b :: rest =>
    if Ascii.isDigit b && 10 * significand + Ascii.digitValue b ≤ Number.maxUnsigned64 then
      gather (10 * significand + Ascii.digitValue b) (count + 1) rest
    else ⟨significand, count, b :: rest⟩

/-! ## Scaling -/

/-- The largest power of ten that is a magnitude. -/
def largestPower : Nat := 308

/-- A magnitude divided by a power of ten, nothing if the power is out of range. -/
def divideByPower (x : Binary64) (exponent : Nat) : Option Binary64 :=
  (Binary64.powerOfTen? exponent).bind x.div?

/-- A magnitude divided a number of times by the largest power of ten; zero stays zero. -/
def divideByLargest : Nat → Binary64 → Option Binary64
  | 0, x => some x
  | count + 1, x =>
    if x.isZero then some x
    else (divideByPower x largestPower).bind (divideByLargest count)

/-- A magnitude divided by a power of ten, in steps of at most the largest power. -/
def scaleDown (x : Binary64) (exponent : Nat) : Option Binary64 :=
  let steps := (exponent - 1) / largestPower
  (divideByLargest steps x).bind fun y => divideByPower y (exponent - largestPower * steps)

/-- A significand times a power of ten; nothing if it is beyond the largest magnitude. -/
def scale (significand : Nat) (exponent : Int) : Option Binary64 :=
  (Binary64.ofNat? significand).bind fun x =>
    if exponent < 0 then scaleDown x exponent.natAbs
    else if exponent.natAbs ≤ largestPower then
      (Binary64.powerOfTen? exponent.natAbs).bind x.mul?
    else if x.isZero then some x
    else none

/-! ## The parts of a number -/

/-- An exponent that no signed word of 32 bits holds; every larger one has the same effect. -/
def exponentLimit : Nat := 2147483648

/-- The value of the digits at the front of a byte string, counted no further than the limit. -/
def exponentValue (bytes : List UInt8) : Nat :=
  (bytes.takeWhile Ascii.isDigit).foldl
    (fun n b => min exponentLimit (10 * n + Ascii.digitValue b)) 0

/-- The exponent behind its letter, and what follows it. -/
def readExponent (bytes : List UInt8) : Option (Int × List UInt8) :=
  let digits := dropSign bytes
  if Ascii.digitCount digits = 0 then none
  else
    let value : Int := exponentValue digits
    some (if bytes.head? = some (ascii '-') then -value else value, Ascii.dropDigits digits)

/-- End a binary number, after an exponent if there is one. -/
def finishBinary (negative : Bool) (significand : Nat) (exponent : Int) (bytes : List UInt8) :
    Option (Numeral × List UInt8) :=
  match bytes with
  | [] => (scale significand exponent).map fun x => (.binary negative x, [])
  | b :: rest =>
    if b = ascii 'e' ∨ b = ascii 'E' then
      match readExponent rest with
      | none => none
      | some (more, rest) =>
        (scale significand (exponent + more)).map fun x => (.binary negative x, rest)
    else (scale significand exponent).map fun x => (.binary negative x, b :: rest)

/-- Read the digits behind a point; those that no longer fit the word are passed over. -/
def readFraction (negative : Bool) (significand : Nat) (exponent : Int) (bytes : List UInt8) :
    Option (Numeral × List UInt8) :=
  if Ascii.digitCount bytes = 0 then none
  else
    let g := gather significand 0 bytes
    finishBinary negative g.significand (exponent - g.count) (Ascii.dropDigits g.rest)

/-- A number whose whole part is a significand times a power of ten, not yet known to be whole. -/
def readAfterWhole (negative : Bool) (significand : Nat) (exponent : Int) (bytes : List UInt8) :
    Option (Numeral × List UInt8) :=
  match bytes with
  | [] => finishBinary negative significand exponent []
  | b :: rest =>
    if b = ascii '.' then readFraction negative significand exponent rest
    else finishBinary negative significand exponent (b :: rest)

/-- The integer of a sign and a word, binary if it does not fit or is a negative zero. -/
def wholeNumeral (negative : Bool) (significand : Nat) : Option Numeral :=
  if negative then
    if significand = 0 ∨ Number.minSigned64 > -(significand : Int) then
      (Binary64.ofNat? significand).map (.binary true)
    else some (.negative (-significand))
  else some (.natural significand)

/-- Whether a byte string goes on with a fraction or an exponent. -/
def isBinaryAhead : List UInt8 → Bool
  | [] => false
  | b :: _ => b == ascii '.' || b == ascii 'e' || b == ascii 'E'

/-- The number behind its sign, and what follows it. -/
def readUnsigned (negative : Bool) (bytes : List UInt8) : Option (Numeral × List UInt8) :=
  match bytes with
  | [] => none
  | b :: rest =>
    if !Ascii.isDigit b then none
    else if b = ascii '0' ∧ Ascii.digitCount rest ≠ 0 then none
    else
      let g := gather 0 0 (b :: rest)
      let beyond := Ascii.digitCount g.rest
      let after := Ascii.dropDigits g.rest
      if beyond = 0 ∧ !isBinaryAhead after then
        (wholeNumeral negative g.significand).map fun n => (n, after)
      else readAfterWhole negative g.significand beyond after

/-- A number and what follows it. -/
def readNumber : List UInt8 → Option (Numeral × List UInt8)
  | [] => none
  | b :: rest =>
    if b = ascii '-' then readUnsigned true rest else readUnsigned false (b :: rest)

/-! ## What is left is shorter -/

/-- Gathering leaves a byte string that is shorter by the digits taken. -/
theorem gather_rest_length (significand count : Nat) (bytes : List UInt8) :
    (gather significand count bytes).rest.length + (gather significand count bytes).count =
      bytes.length + count := by
  induction bytes generalizing significand count with
  | nil => rfl
  | cons b rest ih =>
    rw [gather]
    split
    · rw [ih]
      simp only [List.length_cons]
      omega
    · rfl

/-- The first digit always fits, so a number takes at least one byte. -/
theorem gather_rest_length_lt {b : UInt8} (rest : List UInt8) (h : Ascii.isDigit b = true) :
    (gather 0 0 (b :: rest)).rest.length ≤ rest.length := by
  have hb : b.toNat < 256 := b.toNat_lt
  have hfit : 10 * 0 + Ascii.digitValue b ≤ Number.maxUnsigned64 := by
    simp only [Ascii.digitValue, Number.maxUnsigned64]
    omega
  rw [gather, if_pos (by simp only [h, Bool.true_and, decide_eq_true_eq]; exact hfit)]
  generalize 10 * 0 + Ascii.digitValue b = s
  have hlen := gather_rest_length s (0 + 1) rest
  have hcount : 1 ≤ (gather s (0 + 1) rest).count := by
    have : ∀ (bytes : List UInt8) (s count : Nat), count ≤ (gather s count bytes).count := by
      intro bytes
      induction bytes with
      | nil => intro s count; exact Nat.le_refl _
      | cons c tail ih =>
        intro s count
        rw [gather]
        split
        · exact Nat.le_trans (Nat.le_succ count) (ih _ _)
        · exact Nat.le_refl _
    exact this rest s 1
  omega

/-- What follows an exponent is not longer. -/
theorem length_readExponent_le {bytes rest : List UInt8} {n : Int}
    (h : readExponent bytes = some (n, rest)) : rest.length ≤ bytes.length := by
  simp only [readExponent] at h
  split at h
  · simp at h
  · simp only [Option.some.injEq, Prod.mk.injEq] at h
    rw [← h.2]
    exact Nat.le_trans (Ascii.length_dropDigits_le _) (length_dropSign_le bytes)

/-- What follows a binary number is not longer than its last part. -/
theorem length_finishBinary_le {negative : Bool} {significand : Nat} {exponent : Int}
    {bytes rest : List UInt8} {n : Numeral}
    (h : finishBinary negative significand exponent bytes = some (n, rest)) :
    rest.length ≤ bytes.length := by
  unfold finishBinary at h
  split at h
  · simp only [Option.map_eq_some_iff, Prod.mk.injEq] at h
    obtain ⟨_, _, _, hr⟩ := h
    simp [← hr]
  · split at h
    · split at h
      · simp at h
      · next he =>
        simp only [Option.map_eq_some_iff, Prod.mk.injEq] at h
        obtain ⟨_, _, _, hr⟩ := h
        rw [← hr]
        exact Nat.le_succ_of_le (length_readExponent_le he)
    · simp only [Option.map_eq_some_iff, Prod.mk.injEq] at h
      obtain ⟨_, _, _, hr⟩ := h
      simp [← hr]

/-- What follows a fraction is not longer. -/
theorem length_readFraction_le {negative : Bool} {significand : Nat} {exponent : Int}
    {bytes rest : List UInt8} {n : Numeral}
    (h : readFraction negative significand exponent bytes = some (n, rest)) :
    rest.length ≤ bytes.length := by
  simp only [readFraction] at h
  split at h
  · simp at h
  · refine Nat.le_trans (length_finishBinary_le h) (Nat.le_trans (Ascii.length_dropDigits_le _) ?_)
    have := gather_rest_length significand 0 bytes
    omega

/-- What follows the whole part and its continuation is not longer. -/
theorem length_readAfterWhole_le {negative : Bool} {significand : Nat} {exponent : Int}
    {bytes rest : List UInt8} {n : Numeral}
    (h : readAfterWhole negative significand exponent bytes = some (n, rest)) :
    rest.length ≤ bytes.length := by
  unfold readAfterWhole at h
  split at h
  · exact length_finishBinary_le h
  · split at h
    · exact Nat.le_succ_of_le (length_readFraction_le h)
    · exact length_finishBinary_le h

/-- What follows an unsigned number is shorter. -/
theorem length_readUnsigned_lt {negative : Bool} {bytes rest : List UInt8} {n : Numeral}
    (h : readUnsigned negative bytes = some (n, rest)) : rest.length < bytes.length := by
  unfold readUnsigned at h
  split at h
  · simp at h
  · next b tail =>
    split at h
    · simp at h
    · next hd =>
      split at h
      · simp at h
      · have hdigit : Ascii.isDigit b = true := by simpa using hd
        have hg := gather_rest_length_lt tail hdigit
        have hafter := Ascii.length_dropDigits_le (gather 0 0 (b :: tail)).rest
        rw [List.length_cons, Nat.lt_succ_iff]
        refine Nat.le_trans ?_ (Nat.le_trans hafter hg)
        simp only at h
        split at h
        · simp only [Option.map_eq_some_iff, Prod.mk.injEq] at h
          obtain ⟨_, _, _, hr⟩ := h
          exact Nat.le_of_eq (congrArg List.length hr.symm)
        · exact length_readAfterWhole_le h

/-- What follows a number is shorter. -/
theorem length_readNumber_lt {bytes rest : List UInt8} {n : Numeral}
    (h : readNumber bytes = some (n, rest)) : rest.length < bytes.length := by
  cases bytes with
  | nil => simp [readNumber] at h
  | cons b bytes =>
    rw [readNumber] at h
    split at h
    · exact Nat.lt_succ_of_lt (length_readUnsigned_lt h)
    · exact length_readUnsigned_lt h

end Json
end BearerTokens
