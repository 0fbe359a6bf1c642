/-!
# Texts as bytes

A text travels as the bytes of its UTF-8 form.  Reading refuses every byte
sequence that is not the UTF-8 form of a text.

Main results:

- Theorem {lit}`decode?_encode`: a text is read back from its bytes.
- Theorem {lit}`decode?_eq_some_iff`: nothing but the bytes of a text is read as it.
- Theorem {lit}`encode_injective`: different texts have different bytes.
-/

namespace BearerTokens
namespace Utf8

/-- The UTF-8 bytes of a text. -/
def encode (s : String) : List UInt8 :=
  s.toUTF8.data.toList

/-- The text with the given UTF-8 bytes, if there is one. -/
def decode? (bytes : List UInt8) : Option String :=
  String.fromUTF8? ⟨bytes.toArray⟩

/-- A text is read back from its bytes. -/
@[simp]
theorem decode?_encode (s : String) : decode? (encode s) = some s := by
  have h : (⟨s.toUTF8.data.toList.toArray⟩ : ByteArray) = s.toByteArray := by
    simp [String.toUTF8]
  simp only [decode?, encode, h, String.fromUTF8?]
  rw [dif_pos s.isValidUTF8]
  rfl

/-- Only the bytes of a text are read as it. -/
theorem decode?_eq_some_iff {bytes : List UInt8} {s : String} :
    decode? bytes = some s ↔ encode s = bytes := by
  constructor
  · intro h
    unfold decode? String.fromUTF8? at h
    split at h
    · cases h
      change bytes.toArray.toList = bytes
      exact List.toList_toArray
    · cases h
  · rintro rfl
    exact decode?_encode s

/-- Different texts have different bytes. -/
theorem encode_injective {s t : String} (h : encode s = encode t) : s = t := by
  have := congrArg decode? h
  simpa using this

end Utf8
end BearerTokens
