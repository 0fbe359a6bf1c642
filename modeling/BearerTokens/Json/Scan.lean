import BearerTokens.Text.Ascii
import BearerTokens.Text.Hex

/-!
# Skipping a JSON value

A value whose content does not matter is skipped without being built.  Only its
grammar is checked: escapes must be complete, but the bytes of a string need
not be UTF-8 and a number may have any size.  The open brackets are kept on a
stack, so a value may be nested to any depth.

Main results:

- Theorem {lit}`length_skipValue_lt`: what follows a skipped value is shorter
  than what began with it.
-/

namespace BearerTokens
namespace Json

/-- Whether a byte may stand between the tokens of a document. -/
def isSpace (b : UInt8) : Bool :=
  b == ascii ' ' || b == ascii '\n' || b == ascii '\t' || b == ascii '\r'

/-- Drop the blanks in front. -/
def skipSpace : List UInt8 → List UInt8
  | [] => []
  | b :: rest => if isSpace b then skipSpace rest else b :: rest

/-- Skip exactly the given bytes. -/
def skipExactly : List UInt8 → List UInt8 → Option (List UInt8)
  | [], bytes => some bytes
  | _ :: _, [] => none
  | c :: expected, b :: rest => if b = c then skipExactly expected rest else none

/-! ## Strings -/

/-- Whether a byte after a backslash is an escape of its own. -/
def isShortEscape (b : UInt8) : Bool :=
  b == ascii '"' || b == ascii '\\' || b == ascii '/' || b == ascii 'b' || b == ascii 'f' ||
    b == ascii 'n' || b == ascii 'r' || b == ascii 't'

/-- Skip the rest of a string whose opening quote has been read. -/
def skipString : List UInt8 → Option (List UInt8)
  | [] => none
  | [b] => if b = ascii '"' then some [] else none
  | b :: c :: rest =>
    if b = ascii '"' then some (c :: rest)
    else if b = ascii '\\' then
      if c = ascii 'u' then
        match rest with
        | h₁ :: h₂ :: h₃ :: h₄ :: rest =>
          if (Hex.byteValue? h₁).isSome && (Hex.byteValue? h₂).isSome &&
              (Hex.byteValue? h₃).isSome && (Hex.byteValue? h₄).isSome then
            skipString rest
          else none
        | _ => none
      else if isShortEscape c then skipString rest
      else none
    else if b < 0x20 then none
    else skipString (c :: rest)

/-! ## Numbers -/

/-- Skip one or more digits. -/
def skipDigits (bytes : List UInt8) : Option (List UInt8) :=
  if Ascii.digitCount bytes = 0 then none else some (Ascii.dropDigits bytes)

/-- Drop the sign of an exponent if there is one. -/
def dropSign : List UInt8 → List UInt8
  | [] => []
  | b :: rest => if b = ascii '+' ∨ b = ascii '-' then rest else b :: rest

/-- Skip an exponent if there is one. -/
def skipExponent : List UInt8 → Option (List UInt8)
  | [] => some []
  | b :: rest =>
    if b = ascii 'e' ∨ b = ascii 'E' then skipDigits (dropSign rest) else some (b :: rest)

/-- Skip a fraction and an exponent if there are any. -/
def skipFraction : List UInt8 → Option (List UInt8)
  | [] => some []
  | b :: rest =>
    if b = ascii '.' then (skipDigits rest).bind skipExponent
    else skipExponent (b :: rest)

/-- Skip a number without its sign; a leading zero stands alone. -/
def skipUnsigned : List UInt8 → Option (List UInt8)
  | [] => none
  | b :: rest =>
    if b = ascii '0' then
      if Ascii.digitCount rest = 0 then skipFraction rest else none
    else if Ascii.isDigit b then skipFraction (Ascii.dropDigits rest)
    else none

/-! ## Values -/

/-- Skip a value that is neither an array nor an object. -/
def skipScalar : List UInt8 → Option (List UInt8)
  | [] => none
  | b :: rest =>
    if b = ascii '"' then skipString rest
    else if b = ascii 'n' then skipExactly (Ascii.bytes "ull") rest
    else if b = ascii 't' then skipExactly (Ascii.bytes "rue") rest
    else if b = ascii 'f' then skipExactly (Ascii.bytes "alse") rest
    else if b = ascii '-' then skipUnsigned rest
    else skipUnsigned (b :: rest)

/-- A bracket that is open around a value. -/
inductive Bracket where
  | array
  | object
  deriving DecidableEq, Repr

/-- The byte that closes a bracket. -/
def Bracket.closing : Bracket → UInt8
  | .array => ascii ']'
  | .object => ascii '\x7d'

/-- Where skipping stands between two values. -/
inductive Position where
  /-- All brackets are closed; the bytes after the value are left. -/
  | finished (rest : List UInt8)
  /-- Another value starts inside the given brackets, innermost first. -/
  | value (brackets : List Bracket) (rest : List UInt8)
  deriving DecidableEq, Repr

/-- The bytes that are still to be read. -/
def Position.rest : Position → List UInt8
  | .finished rest => rest
  | .value _ rest => rest

/-- Skip a member's key and the colon after it. -/
def skipKey (bytes : List UInt8) : Option (List UInt8) :=
  match skipSpace bytes with
  | [] => none
  | b :: rest =>
    if b = ascii '"' then
      match skipString rest with
      | none => none
      | some rest =>
        match skipSpace rest with
        | [] => none
        | c :: rest => if c = ascii ':' then some rest else none
    else none

/-- The start of the next value of a bracket: a key comes first in an object. -/
def nextValue (brackets : List Bracket) (bytes : List UInt8) : Option Position :=
  match brackets with
  | .object :: _ => (skipKey bytes).map (.value brackets)
  | _ => some (.value brackets bytes)

/-- Go on after a value: close brackets until a comma leads to the next value. -/
def afterValue : List Bracket → List UInt8 → Option Position
  | [], bytes => some (.finished bytes)
  | _ :: _, [] => none
  | bracket :: outer, b :: rest =>
    if isSpace b then afterValue (bracket :: outer) rest
    else if b = ascii ',' then nextValue (bracket :: outer) rest
    else if b = bracket.closing then afterValue outer rest
    else none

/-- Go on after an opening bracket, which may be closed at once. -/
def afterOpening (bracket : Bracket) (outer : List Bracket) (bytes : List UInt8) :
    Option Position :=
  match skipSpace bytes with
  | [] => none
  | b :: rest =>
    if b = bracket.closing then afterValue outer rest
    else nextValue (bracket :: outer) (b :: rest)

/-- Skip one scalar or one opening bracket and go on to the next value. -/
def skipToken (brackets : List Bracket) (bytes : List UInt8) : Option Position :=
  match skipSpace bytes with
  | [] => none
  | b :: rest =>
    if b = ascii '[' then afterOpening .array brackets rest
    else if b = ascii '\x7b' then afterOpening .object brackets rest
    else (skipScalar (b :: rest)).bind (afterValue brackets)

/-! ## What is left is shorter -/

/-- Dropping blanks never lengthens a byte string. -/
theorem length_skipSpace_le (bytes : List UInt8) : (skipSpace bytes).length ≤ bytes.length := by
  induction bytes with
  | nil => exact Nat.le_refl _
  | cons b rest ih =>
    rw [skipSpace]
    split
    · exact Nat.le_succ_of_le ih
    · exact Nat.le_refl _

/-- What follows the expected bytes is not longer. -/
theorem length_skipExactly_le {expected bytes rest : List UInt8}
    (h : skipExactly expected bytes = some rest) : rest.length ≤ bytes.length := by
  induction expected generalizing bytes with
  | nil =>
    simp only [skipExactly, Option.some.injEq] at h
    simp [h]
  | cons c expected ih =>
    cases bytes with
    | nil => simp [skipExactly] at h
    | cons b bytes =>
      rw [skipExactly] at h
      split at h
      · exact Nat.le_succ_of_le (ih h)
      · simp at h

/-- What follows a string is shorter. -/
theorem length_skipString_lt {bytes rest : List UInt8} (h : skipString bytes = some rest) :
    rest.length < bytes.length := by
  fun_induction skipString bytes <;> simp_all <;> omega

/-- What follows digits is not longer. -/
theorem length_skipDigits_le {bytes rest : List UInt8} (h : skipDigits bytes = some rest) :
    rest.length ≤ bytes.length := by
  unfold skipDigits at h
  split at h
  · simp at h
  · simp only [Option.some.injEq] at h
    rw [← h]
    exact Ascii.length_dropDigits_le bytes

/-- Dropping a sign never lengthens a byte string. -/
theorem length_dropSign_le (bytes : List UInt8) : (dropSign bytes).length ≤ bytes.length := by
  cases bytes with
  | nil => exact Nat.le_refl _
  | cons b rest =>
    rw [dropSign]
    split
    · exact Nat.le_succ _
    · exact Nat.le_refl _

/-- What follows an exponent is not longer. -/
theorem length_skipExponent_le {bytes rest : List UInt8} (h : skipExponent bytes = some rest) :
    rest.length ≤ bytes.length := by
  cases bytes with
  | nil =>
    simp only [skipExponent, Option.some.injEq] at h
    simp [← h]
  | cons b bytes =>
    rw [skipExponent] at h
    split at h
    · exact Nat.le_succ_of_le (Nat.le_trans (length_skipDigits_le h) (length_dropSign_le bytes))
    · simp only [Option.some.injEq] at h
      simp [← h]

/-- What follows a fraction is not longer. -/
theorem length_skipFraction_le {bytes rest : List UInt8} (h : skipFraction bytes = some rest) :
    rest.length ≤ bytes.length := by
  cases bytes with
  | nil =>
    simp only [skipFraction, Option.some.injEq] at h
    simp [← h]
  | cons b bytes =>
    rw [skipFraction] at h
    split at h
    · obtain ⟨after, hd, he⟩ := Option.bind_eq_some_iff.1 h
      exact Nat.le_succ_of_le (Nat.le_trans (length_skipExponent_le he) (length_skipDigits_le hd))
    · exact length_skipExponent_le h

/-- What follows a number is shorter. -/
theorem length_skipUnsigned_lt {bytes rest : List UInt8} (h : skipUnsigned bytes = some rest) :
    rest.length < bytes.length := by
  cases bytes with
  | nil => simp [skipUnsigned] at h
  | cons b bytes =>
    rw [skipUnsigned] at h
    rw [List.length_cons, Nat.lt_succ_iff]
    split at h
    · split at h
      · exact length_skipFraction_le h
      · simp at h
    · split at h
      · exact Nat.le_trans (length_skipFraction_le h) (Ascii.length_dropDigits_le _)
      · simp at h

/-- What follows a key and its colon is shorter. -/
theorem length_skipKey_lt {bytes rest : List UInt8} (h : skipKey bytes = some rest) :
    rest.length < bytes.length := by
  unfold skipKey at h
  have hs := length_skipSpace_le bytes
  split at h
  · simp at h
  · next b tail heq =>
    rw [heq] at hs
    split at h
    · split at h
      · simp at h
      · next after hk =>
        have := length_skipString_lt hk
        have hc := length_skipSpace_le after
        split at h
        · simp at h
        · next c tail' heq' =>
          rw [heq'] at hc
          split at h
          · simp only [Option.some.injEq] at h
            subst h
            simp only [List.length_cons] at *
            omega
          · simp at h
    · simp at h

/-- The next value of a bracket starts no earlier. -/
theorem length_nextValue_le {brackets : List Bracket} {bytes : List UInt8} {p : Position}
    (h : nextValue brackets bytes = some p) : p.rest.length ≤ bytes.length := by
  unfold nextValue at h
  split at h
  · cases hk : skipKey bytes with
    | none => simp [hk] at h
    | some rest =>
      simp only [hk, Option.map_some, Option.some.injEq] at h
      rw [← h]
      exact Nat.le_of_lt (length_skipKey_lt hk)
  · simp only [Option.some.injEq] at h
    rw [← h]
    exact Nat.le_refl _

/-- Closing brackets never lengthens what is left. -/
theorem length_afterValue_le {brackets : List Bracket} {bytes : List UInt8} {p : Position}
    (h : afterValue brackets bytes = some p) : p.rest.length ≤ bytes.length := by
  fun_induction afterValue brackets bytes with
  | case1 bytes =>
    simp only [Option.some.injEq] at h
    rw [← h]
    exact Nat.le_refl _
  | case2 => simp at h
  | case3 bracket outer b rest _ ih => exact Nat.le_succ_of_le (ih h)
  | case4 bracket outer rest _ => exact Nat.le_succ_of_le (length_nextValue_le h)
  | case5 bracket outer rest _ _ ih => exact Nat.le_succ_of_le (ih h)
  | case6 => simp at h

/-- Opening a bracket never lengthens what is left. -/
theorem length_afterOpening_le {bracket : Bracket} {outer : List Bracket} {bytes : List UInt8}
    {p : Position} (h : afterOpening bracket outer bytes = some p) :
    p.rest.length ≤ bytes.length := by
  unfold afterOpening at h
  have hs := length_skipSpace_le bytes
  split at h
  · simp at h
  · next b tail heq =>
    rw [heq] at hs
    split at h
    · exact Nat.le_trans (Nat.le_succ_of_le (length_afterValue_le h)) hs
    · exact Nat.le_trans (length_nextValue_le h) hs

/-- What follows a scalar is shorter. -/
theorem length_skipScalar_lt {bytes rest : List UInt8} (h : skipScalar bytes = some rest) :
    rest.length < bytes.length := by
  cases bytes with
  | nil => simp [skipScalar] at h
  | cons b bytes =>
    rw [skipScalar] at h
    rw [List.length_cons]
    split at h
    · exact Nat.lt_succ_of_lt (length_skipString_lt h)
    split at h
    · exact Nat.lt_succ_of_le (length_skipExactly_le h)
    split at h
    · exact Nat.lt_succ_of_le (length_skipExactly_le h)
    split at h
    · exact Nat.lt_succ_of_le (length_skipExactly_le h)
    split at h
    · exact Nat.lt_succ_of_lt (length_skipUnsigned_lt h)
    · exact length_skipUnsigned_lt h

/-- Every token takes at least one byte. -/
theorem length_skipToken_lt {brackets : List Bracket} {bytes : List UInt8} {p : Position}
    (h : skipToken brackets bytes = some p) : p.rest.length < bytes.length := by
  unfold skipToken at h
  have hs := length_skipSpace_le bytes
  split at h
  · simp at h
  · next b tail heq =>
    rw [heq] at hs
    split at h
    · exact Nat.lt_of_le_of_lt (length_afterOpening_le h) hs
    split at h
    · exact Nat.lt_of_le_of_lt (length_afterOpening_le h) hs
    · obtain ⟨after, hscalar, ha⟩ := Option.bind_eq_some_iff.1 h
      exact Nat.lt_of_le_of_lt (length_afterValue_le ha)
        (Nat.lt_of_lt_of_le (length_skipScalar_lt hscalar) hs)

/-! ## The whole value -/

/-- Skip a value inside brackets and everything up to the end of the outermost one. -/
def skipFrom (brackets : List Bracket) (bytes : List UInt8) : Option (List UInt8) :=
  match _h : skipToken brackets bytes with
  | none => none
  | some (.finished rest) => some rest
  | some (.value brackets rest) => skipFrom brackets rest
termination_by bytes.length
decreasing_by exact length_skipToken_lt ‹_›

/-- Skip one value. -/
def skipValue (bytes : List UInt8) : Option (List UInt8) :=
  skipFrom [] bytes

/-- What is left after the outermost bracket is shorter. -/
theorem length_skipFrom_lt {brackets : List Bracket} {bytes rest : List UInt8}
    (h : skipFrom brackets bytes = some rest) : rest.length < bytes.length := by
  fun_induction skipFrom brackets bytes with
  | case1 => simp at h
  | case2 brackets bytes rest' ht =>
    simp only [Option.some.injEq] at h
    rw [← h]
    exact length_skipToken_lt ht
  | case3 brackets bytes inner rest' ht ih =>
    exact Nat.lt_trans (ih h) (length_skipToken_lt ht)

/-- What is left after a value is shorter. -/
theorem length_skipValue_lt {bytes rest : List UInt8} (h : skipValue bytes = some rest) :
    rest.length < bytes.length :=
  length_skipFrom_lt h

end Json
end BearerTokens
