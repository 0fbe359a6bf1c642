import BearerTokens.Proofs.Text.CharBytes
import BearerTokens.Text.Percent

/-!
# Percent-encodings

Bytes can be written in the segment of a path by unreserved characters, which stand for
themselves, and by escapes with digits of either case.  Decoding once gives the bytes back,
whatever they are, so that no two byte strings share an encoding.

Main results:

- Definition {lit}`Percent.Encodes`: the texts that encode some bytes.
- Theorem {lit}`Percent.decode_of_encodes`: an encoding is decoded to its bytes.
- Theorem {lit}`Percent.encodes_encode`: all bytes have an encoding.
-/

namespace BearerTokens
namespace Percent

/-! ## Encodings -/

/-- Whether a character stands for itself in a path: a letter, a digit or one of four marks. -/
def isUnreserved (c : Char) : Bool :=
  c.isAlphanum || c == '-' || c == '.' || c == '_' || c == '~'

/-- The encodings of bytes: only unreserved characters stand for themselves. -/
inductive Encodes : List UInt8 → List Char → Prop where
  | nil : Encodes [] []
  | plain {c : Char} {bytes : List UInt8} {text : List Char} :
    isUnreserved c = true → Encodes bytes text → Encodes (ascii c :: bytes) (c :: text)
  | escape {byte : UInt8} {high low : Char} {bytes : List UInt8} {text : List Char} :
    Hex.value? high = some (byte.toNat / 16) → Hex.value? low = some (byte.toNat % 16) →
    Encodes bytes text → Encodes (byte :: bytes) ('%' :: high :: low :: text)

/-- The encoding of bytes with as few escapes as possible. -/
def encode (letters : Hex.Letters) (bytes : List UInt8) : List Char :=
  bytes.flatMap fun byte =>
    if isUnreserved (Char.ofNat byte.toNat) then [Char.ofNat byte.toNat]
    else ['%', Hex.digit letters (byte.toNat / 16), Hex.digit letters (byte.toNat % 16)]

/-- An unreserved character is one of five ranges and marks. -/
theorem isUnreserved_iff {c : Char} :
    isUnreserved c = true ↔ (48 ≤ c.toNat ∧ c.toNat ≤ 57) ∨ (65 ≤ c.toNat ∧ c.toNat ≤ 90) ∨
      (97 ≤ c.toNat ∧ c.toNat ≤ 122) ∨ c.toNat = 45 ∨ c.toNat = 46 ∨ c.toNat = 95 ∨
      c.toNat = 126 := by
  have hmark : ∀ d : Char, c = d ↔ c.toNat = d.toNat := fun d => Char.toNat_inj.symm
  have hranges : c.isAlphanum = (decide (65 ≤ c.val ∧ c.val ≤ 90) ||
      decide (97 ≤ c.val) && decide (c.val ≤ 122) ||
      decide (48 ≤ c.val) && decide (c.val ≤ 57)) := rfl
  simp only [isUnreserved, hranges, Bool.or_eq_true, Bool.and_eq_true, decide_eq_true_eq,
    beq_iff_eq, hmark, UInt32.le_iff_toNat_le]
  simp only [Char.toNat, Char.reduceVal, UInt32.reduceToNat]
  omega

/-- A digit of an escape is an unreserved character. -/
theorem isUnreserved_of_value? {c : Char} {value : Nat} (h : Hex.value? c = some value) :
    isUnreserved c = true := by
  rw [isUnreserved_iff]
  simp only [Hex.value?] at h
  split at h
  · omega
  · split at h
    · omega
    · split at h
      · omega
      · cases h

section

variable {bytes : List UInt8} {text : List Char}

/-- An encoding has no characters but unreserved ones and percent signs. -/
theorem Encodes.char (h : Encodes bytes text) {c : Char} (hc : c ∈ text) :
    isUnreserved c = true ∨ c = '%' := by
  induction h with
  | nil => cases hc
  | plain hplain _ ih =>
    rcases List.mem_cons.mp hc with rfl | hc
    · exact .inl hplain
    · exact ih hc
  | escape hhigh hlow _ ih =>
    simp only [List.mem_cons] at hc
    obtain rfl | rfl | rfl | hc := hc
    · exact .inr rfl
    · exact .inl (isUnreserved_of_value? hhigh)
    · exact .inl (isUnreserved_of_value? hlow)
    · exact ih hc

/-- An encoding has at most three characters for each byte. -/
theorem Encodes.length_le (h : Encodes bytes text) : text.length ≤ 3 * bytes.length := by
  induction h with
  | nil => exact Nat.le_refl _
  | plain _ _ ih =>
    simp only [List.length_cons]
    omega
  | escape _ _ _ ih =>
    simp only [List.length_cons]
    omega

/-- Only the encoding of no bytes is empty. -/
theorem Encodes.ne_nil (h : Encodes bytes text) (hne : bytes ≠ []) : text ≠ [] := by
  cases h with
  | nil => exact absurd rfl hne
  | plain _ _ => simp
  | escape _ _ _ => simp

end

/-! ## Decoding -/

/-- A byte other than the percent sign stands for itself. -/
theorem decode_cons_of_ne {byte : UInt8} (h : byte ≠ sign) (rest : List UInt8) :
    decode (byte :: rest) = byte :: decode rest := by
  match rest with
  | [] => rfl
  | [_] => rfl
  | _ :: _ :: _ => rw [decode, if_neg h]

/-- A percent sign with two digits stands for their byte. -/
theorem decode_escape {high low : UInt8} {h l : Nat} (hhigh : Hex.byteValue? high = some h)
    (hlow : Hex.byteValue? low = some l) (rest : List UInt8) :
    decode (sign :: high :: low :: rest) = UInt8.ofNat (16 * h + l) :: decode rest := by
  rw [decode, if_pos rfl, hhigh, hlow]

/-- A character that is unreserved or a percent sign is one of ASCII. -/
theorem lt_of_isUnreserved {c : Char} (h : isUnreserved c = true) : c.toNat < 0x80 := by
  have hrange := isUnreserved_iff.mp h
  omega

/-- The byte of an unreserved character is no percent sign. -/
theorem ascii_ne_sign {c : Char} (h : isUnreserved c = true) : ascii c ≠ sign := by
  intro heq
  have hcode := congrArg UInt8.toNat heq
  rw [Utf8.toNat_ascii_of_lt (lt_of_isUnreserved h)] at hcode
  have hrange := isUnreserved_iff.mp h
  have hsign : sign.toNat = 37 := rfl
  omega

/-- The byte of a digit is worth the same. -/
theorem byteValue?_ascii {c : Char} {value : Nat} (h : Hex.value? c = some value) :
    Hex.byteValue? (ascii c) = some value := by
  have hlt := lt_of_isUnreserved (isUnreserved_of_value? h)
  rw [Hex.byteValue?, Utf8.toNat_ascii_of_lt hlt, Char.ofNat_toNat, h]

/-- An encoding is decoded to its bytes. -/
theorem decode_of_encodes {bytes : List UInt8} {text : List Char} (h : Encodes bytes text) :
    decode (Utf8.encode (String.ofList text)) = bytes := by
  rw [Utf8.encode_ofList]
  induction h with
  | nil => rfl
  | plain hplain _ ih =>
    rw [Utf8.ofChars_cons_ascii (lt_of_isUnreserved hplain),
      decode_cons_of_ne (ascii_ne_sign hplain), ih]
  | @escape byte high low bytes text hhigh hlow _ ih =>
    have hbyte : UInt8.ofNat (16 * (byte.toNat / 16) + byte.toNat % 16) = byte := by
      rw [Nat.div_add_mod, UInt8.ofNat_toNat]
    have hsign : ascii '%' = sign := rfl
    rw [Utf8.ofChars_cons_ascii (by decide),
      Utf8.ofChars_cons_ascii (lt_of_isUnreserved (isUnreserved_of_value? hhigh)),
      Utf8.ofChars_cons_ascii (lt_of_isUnreserved (isUnreserved_of_value? hlow)), hsign,
      decode_escape (byteValue?_ascii hhigh) (byteValue?_ascii hlow), ih, hbyte]

/-- An encoding of the bytes of a text is decoded to the text. -/
theorem decodeText?_of_encodes {s : String} {text : List Char}
    (h : Encodes (Utf8.encode s) text) :
    decodeText? (Utf8.encode (String.ofList text)) = some s := by
  rw [decodeText?, decode_of_encodes h, Utf8.decode?_encode]

/-- The byte of a character is that of the character with its code. -/
theorem ascii_ofNat (byte : UInt8) : ascii (Char.ofNat byte.toNat) = byte := by
  rw [ascii, Utf8.toNat_charOf, UInt8.ofNat_toNat]

/-- All bytes have an encoding, with letters of either case. -/
theorem encodes_encode (letters : Hex.Letters) (bytes : List UInt8) :
    Encodes bytes (encode letters bytes) := by
  induction bytes with
  | nil => exact .nil
  | cons byte bytes ih =>
    have hlt := byte.toNat_lt
    rw [encode, List.flatMap_cons]
    split
    · next hplain =>
      have hencodes := Encodes.plain hplain ih
      rwa [ascii_ofNat] at hencodes
    · exact .escape (Hex.value?_digit letters ⟨byte.toNat / 16, by omega⟩)
        (Hex.value?_digit letters ⟨byte.toNat % 16, by omega⟩) ih

end Percent
end BearerTokens
