import BearerTokens.Json.Scan
import BearerTokens.Text.Utf8

/-!
# Reading a JSON string

A string whose content matters is read strictly: its bytes must be UTF-8, a
control character must be escaped, and an escaped surrogate must belong to a
pair.

Main results:

- Theorem {lit}`length_readString_lt`: what follows a string is shorter.
-/

namespace BearerTokens
namespace Json

/-- The number written by four hexadecimal digits. -/
def hex4? (h₁ h₂ h₃ h₄ : UInt8) : Option Nat :=
  match Hex.byteValue? h₁, Hex.byteValue? h₂, Hex.byteValue? h₃, Hex.byteValue? h₄ with
  | some a, some b, some c, some d => some (4096 * a + 256 * b + 16 * c + d)
  | _, _, _, _ => none

/-- The byte that an escape of one character stands for. -/
def shortEscape? (b : UInt8) : Option UInt8 :=
  if b = ascii '"' ∨ b = ascii '\\' ∨ b = ascii '/' then some b
  else if b = ascii 'b' then some 0x08
  else if b = ascii 'f' then some 0x0C
  else if b = ascii 'n' then some 0x0A
  else if b = ascii 'r' then some 0x0D
  else if b = ascii 't' then some 0x09
  else none

/-- Whether a number is the first half of a surrogate pair. -/
def isHighSurrogate (n : Nat) : Bool := 0xD800 ≤ n && n ≤ 0xDBFF

/-- Whether a number is the second half of a surrogate pair. -/
def isLowSurrogate (n : Nat) : Bool := 0xDC00 ≤ n && n ≤ 0xDFFF

/-- The character of a surrogate pair. -/
def pairChar (high low : Nat) : Char :=
  Char.ofNat (0x10000 + (high - 0xD800) * 0x400 + (low - 0xDC00))

/-- The bytes read so far, last first, with the bytes of one more character. -/
def pushChar (read : List UInt8) (c : Char) : List UInt8 :=
  (String.utf8EncodeChar c).reverse ++ read

/-- A character escaped by number, after the backslash and the letter. -/
def readNumbered : List UInt8 → Option (Char × List UInt8)
  | h₁ :: h₂ :: h₃ :: h₄ :: rest =>
    match hex4? h₁ h₂ h₃ h₄ with
    | none => none
    | some n =>
      if isLowSurrogate n then none
      else if isHighSurrogate n then
        match rest with
        | b :: u :: l₁ :: l₂ :: l₃ :: l₄ :: rest =>
          if b = ascii '\\' ∧ u = ascii 'u' then
            match hex4? l₁ l₂ l₃ l₄ with
            | none => none
            | some low => if isLowSurrogate low then some (pairChar n low, rest) else none
          else none
        | _ => none
      else some (Char.ofNat n, rest)
  | _ => none

/-- What follows a numbered character is shorter. -/
theorem length_readNumbered_lt {bytes rest : List UInt8} {c : Char}
    (h : readNumbered bytes = some (c, rest)) : rest.length < bytes.length := by
  unfold readNumbered at h
  split at h
  · split at h
    · simp at h
    · split at h
      · simp at h
      · split at h
        · split at h
          · split at h
            · split at h
              · simp at h
              · split at h
                · simp only [Option.some.injEq, Prod.mk.injEq] at h
                  rw [← h.2]
                  simp only [List.length_cons]
                  omega
                · simp at h
            · simp at h
          · simp at h
        · simp only [Option.some.injEq, Prod.mk.injEq] at h
          rw [← h.2]
          simp only [List.length_cons]
          omega
  · simp at h

/-- The bytes of the rest of a string after its opening quote, given those read, last first. -/
def readStringBytes (read : List UInt8) (bytes : List UInt8) :
    Option (List UInt8 × List UInt8) :=
  match bytes with
  | [] => none
  | b :: rest =>
    if b = ascii '"' then some (read.reverse, rest)
    else if b = ascii '\\' then
      match rest with
      | [] => none
      | c :: rest =>
        if c = ascii 'u' then
          match _h : readNumbered rest with
          | none => none
          | some (char, rest) => readStringBytes (pushChar read char) rest
        else
          match shortEscape? c with
          | none => none
          | some byte => readStringBytes (byte :: read) rest
    else if b < 0x20 then none
    else readStringBytes (b :: read) rest
termination_by bytes.length
decreasing_by
  · have := length_readNumbered_lt ‹_›
    simp only [List.length_cons]
    omega
  · simp only [List.length_cons]
    omega
  · simp only [List.length_cons]
    omega

/-- The rest of a string after its opening quote, and what follows it. -/
def readString (bytes : List UInt8) : Option (String × List UInt8) :=
  match readStringBytes [] bytes with
  | none => none
  | some (text, rest) => (Utf8.decode? text).map fun s => (s, rest)

/-- What follows the bytes of a string is shorter. -/
theorem length_readStringBytes_lt {read bytes text rest : List UInt8}
    (h : readStringBytes read bytes = some (text, rest)) : rest.length < bytes.length := by
  fun_induction readStringBytes read bytes with
  | case1 => simp at h
  | case2 read tail =>
    simp only [Option.some.injEq, Prod.mk.injEq] at h
    rw [← h.2]
    exact Nat.lt_succ_self _
  | case3 => simp at h
  | case4 => simp at h
  | case5 read tail char after hn _ ih =>
    have := length_readNumbered_lt hn
    have := ih h
    simp only [List.length_cons]
    omega
  | case6 => simp at h
  | case7 read c tail _ byte _ _ ih =>
    have := ih h
    simp only [List.length_cons]
    omega
  | case8 => simp at h
  | case9 read b tail _ _ _ ih =>
    have := ih h
    simp only [List.length_cons]
    omega

/-- What follows a string is shorter. -/
theorem length_readString_lt {bytes rest : List UInt8} {s : String}
    (h : readString bytes = some (s, rest)) : rest.length < bytes.length := by
  unfold readString at h
  split at h
  · simp at h
  · next text after hb =>
    simp only [Option.map_eq_some_iff, Prod.mk.injEq] at h
    obtain ⟨_, _, _, hr⟩ := h
    rw [← hr]
    exact length_readStringBytes_lt hb

end Json
end BearerTokens
