import BearerTokens.Text.Ascii
import BearerTokens.Text.Utf8

/-!
# The bytes of a character

The bytes of a text are those of its characters in order.  A character of ASCII is one
byte of the same code, and no byte of any other character is one of ASCII.

Main results:

- Definition {lit}`Utf8.ofChars`: the bytes of characters in order.
- Theorem {lit}`Utf8.encode_eq_ofChars`: the bytes of a text are those of its characters.
- Theorems {lit}`Utf8.bytes_of_ascii` and {lit}`Utf8.not_ascii_of_mem`: the two kinds of
  characters.
-/

namespace BearerTokens

/-- What holds of the byte of every code holds of every byte. -/
theorem forall_byte {P : UInt8 → Prop} (h : ∀ code : Fin 256, P (UInt8.ofNat code.val))
    (byte : UInt8) : P byte := by
  have hbyte := h ⟨byte.toNat, byte.toNat_lt⟩
  rwa [UInt8.ofNat_toNat] at hbyte

namespace Utf8

/-- The bytes of characters in order. -/
def ofChars (cs : List Char) : List UInt8 :=
  cs.flatMap String.utf8EncodeChar

/-- The bytes of a list of characters as a text are those of each in order. -/
theorem encode_ofList (cs : List Char) : encode (String.ofList cs) = ofChars cs := by
  simp [encode, ofChars, String.toUTF8, String.toByteArray_ofList, List.utf8Encode]

/-- The bytes of a text are those of its characters in order. -/
theorem encode_eq_ofChars (s : String) : encode s = ofChars s.toList := by
  rw [← encode_ofList, String.ofList_toList]

/-- The bytes of two lists of characters follow each other. -/
@[simp]
theorem ofChars_append (cs ds : List Char) : ofChars (cs ++ ds) = ofChars cs ++ ofChars ds :=
  List.flatMap_append

/-- The bytes of a character come before those of the next. -/
theorem ofChars_cons (c : Char) (cs : List Char) :
    ofChars (c :: cs) = String.utf8EncodeChar c ++ ofChars cs :=
  List.flatMap_cons

/-- A character of ASCII is one byte. -/
theorem bytes_of_ascii {c : Char} (h : c.toNat < 0x80) : String.utf8EncodeChar c = [ascii c] := by
  have hle : c.val.toNat ≤ 127 := Nat.le_of_lt_succ h
  simp only [String.utf8EncodeChar, hle, if_true]
  rfl

/-- A character of ASCII adds one byte in front. -/
theorem ofChars_cons_ascii {c : Char} (h : c.toNat < 0x80) (cs : List Char) :
    ofChars (c :: cs) = ascii c :: ofChars cs := by
  rw [ofChars_cons, bytes_of_ascii h, List.singleton_append]

/-- Characters of ASCII are as many bytes. -/
theorem ofChars_of_ascii {cs : List Char} (h : ∀ c ∈ cs, c.toNat < 0x80) :
    ofChars cs = cs.map ascii := by
  induction cs with
  | nil => rfl
  | cons c cs ih =>
    rw [ofChars_cons_ascii (h c List.mem_cons_self), List.map_cons,
      ih fun d hd => h d (List.mem_cons_of_mem c hd)]

/-- The byte of a character of ASCII has its code. -/
theorem toNat_ascii_of_lt {c : Char} (h : c.toNat < 0x80) : (ascii c).toNat = c.toNat := by
  have hlt : c.toNat < 256 := by omega
  simpa [ascii, UInt8.toNat_ofNat'] using hlt

/-- Every byte is the code of a character. -/
theorem toNat_charOf (b : UInt8) : (Char.ofNat b.toNat).toNat = b.toNat := by
  have hlt := b.toNat_lt
  have hvalid : b.toNat.isValidChar := .inl (by omega)
  rw [Char.ofNat, dif_pos hvalid]
  rfl

/-- Different characters of ASCII have different bytes. -/
theorem ascii_inj {c d : Char} (hc : c.toNat < 0x80) (hd : d.toNat < 0x80) :
    ascii c = ascii d ↔ c = d := by
  constructor
  · intro h
    have hcode := congrArg UInt8.toNat h
    rw [toNat_ascii_of_lt hc, toNat_ascii_of_lt hd] at hcode
    exact Char.toNat_inj.mp hcode
  · rintro rfl
    rfl

/-- No byte of a character beyond ASCII is one of ASCII. -/
theorem not_ascii_of_mem {c : Char} (h : 0x80 ≤ c.toNat) {b : UInt8}
    (hb : b ∈ String.utf8EncodeChar c) : 0x80 ≤ b.toNat := by
  have hgt : ¬ c.val.toNat ≤ 127 := Nat.not_le.mpr h
  simp only [String.utf8EncodeChar, hgt, if_false] at hb
  split at hb
  · simp only [List.mem_cons, List.not_mem_nil, or_false] at hb
    obtain rfl | rfl := hb <;> simp only [UInt8.toNat_ofNat'] <;> omega
  · split at hb
    · simp only [List.mem_cons, List.not_mem_nil, or_false] at hb
      obtain rfl | rfl | rfl := hb <;> simp only [UInt8.toNat_ofNat'] <;> omega
    · simp only [List.mem_cons, List.not_mem_nil, or_false] at hb
      obtain rfl | rfl | rfl | rfl := hb <;> simp only [UInt8.toNat_ofNat'] <;> omega

/-- A text has as many bytes as its size tells. -/
theorem length_encode (s : String) : (encode s).length = s.utf8ByteSize :=
  Array.length_toList

/-- A character has at most four bytes. -/
theorem length_bytes_le (c : Char) : (String.utf8EncodeChar c).length ≤ 4 := by
  simp only [String.utf8EncodeChar]
  split
  · simp
  · split
    · simp
    · split <;> simp

/-- A text has at most four bytes for each character. -/
theorem length_encode_le (s : String) : (encode s).length ≤ 4 * s.length := by
  rw [encode_eq_ofChars, ← String.length_toList]
  induction s.toList with
  | nil => exact Nat.le_refl _
  | cons c cs ih =>
    have hc := length_bytes_le c
    rw [ofChars_cons, List.length_append, List.length_cons]
    omega

end Utf8
end BearerTokens
