import BearerTokens.Json.ReadString
import BearerTokens.Json.Value
import BearerTokens.Proofs.Text.CharBytes

/-!
# Strings are read back

A string is written with escapes for the quote, the backslash and the control characters.
Reading its bytes gives back its characters, whatever they are, and goes on behind the
closing quote: no content of a string is mistaken for its end.

Main results:

- Theorem {lit}`Json.readStringBytes_escape`: one character is read back.
- Theorem {lit}`Json.readString_stringText`: a string is read back from its text.
-/

namespace BearerTokens
namespace Json

/-! ## Bytes that stand for themselves -/

/-- Whether a byte inside a string stands for itself. -/
def IsPlain (b : UInt8) : Prop :=
  b ≠ ascii '"' ∧ b ≠ ascii '\\' ∧ ¬ b < 0x20

instance : DecidablePred IsPlain :=
  fun _ => inferInstanceAs (Decidable (_ ∧ _ ∧ _))

/-- A byte with the code of a character that needs no escape stands for itself. -/
theorem isPlain_of_toNat {b : UInt8} (hcontrol : 0x20 ≤ b.toNat) (hquote : b.toNat ≠ 34)
    (hbackslash : b.toNat ≠ 92) : IsPlain b := by
  refine ⟨?_, ?_, ?_⟩
  · rintro rfl
    exact hquote rfl
  · rintro rfl
    exact hbackslash rfl
  · rw [UInt8.lt_iff_toNat_lt]
    exact Nat.not_lt.mpr hcontrol

/-- A byte that stands for itself is read as it is. -/
theorem readStringBytes_cons {b : UInt8} (h : IsPlain b) (read rest : List UInt8) :
    readStringBytes read (b :: rest) = readStringBytes (b :: read) rest := by
  rw [readStringBytes.eq_def]
  simp only [if_neg h.1, if_neg h.2.1, if_neg h.2.2]

/-- A quote ends a string. -/
theorem readStringBytes_quote (read rest : List UInt8) :
    readStringBytes read (ascii '"' :: rest) = some (read.reverse, rest) := by
  rw [readStringBytes.eq_def]
  simp only [if_true]

/-- Bytes that stand for themselves are read one after the other. -/
theorem readStringBytes_plain {plain : List UInt8} (h : ∀ b ∈ plain, IsPlain b)
    (read rest : List UInt8) :
    readStringBytes read (plain ++ rest) = readStringBytes (plain.reverse ++ read) rest := by
  induction plain generalizing read with
  | nil => rfl
  | cons b plain ih =>
    have hb : IsPlain b := h b List.mem_cons_self
    have hplain : ∀ c ∈ plain, IsPlain c := fun c hc => h c (List.mem_cons_of_mem b hc)
    rw [List.cons_append, readStringBytes_cons hb, ih hplain]
    rw [List.reverse_cons, List.append_assoc, List.singleton_append]

/-! ## Characters -/

/-- The bytes of a character that needs no escape stand for themselves. -/
theorem isPlain_of_mem {c : Char} (hcontrol : 0x20 ≤ c.toNat) (hquote : c ≠ '"')
    (hbackslash : c ≠ '\\') {b : UInt8} (hb : b ∈ String.utf8EncodeChar c) : IsPlain b := by
  by_cases hascii : c.toNat < 0x80
  · rw [Utf8.bytes_of_ascii hascii, List.mem_singleton] at hb
    have hcode : b.toNat = c.toNat := by rw [hb, Utf8.toNat_ascii_of_lt hascii]
    apply isPlain_of_toNat
    · omega
    · intro h
      exact hquote (Char.toNat_inj.mp (hcode.symm.trans h))
    · intro h
      exact hbackslash (Char.toNat_inj.mp (hcode.symm.trans h))
  · have hbyte := Utf8.not_ascii_of_mem (Nat.not_lt.mp hascii) hb
    apply isPlain_of_toNat <;> omega

/-- An escape of one letter is read as the byte that it stands for. -/
theorem readStringBytes_letter {letter byte : UInt8} (hu : letter ≠ ascii 'u')
    (h : shortEscape? letter = some byte) (read rest : List UInt8) :
    readStringBytes read (ascii '\\' :: letter :: rest) = readStringBytes (byte :: read) rest := by
  have hquote : ascii '\\' ≠ ascii '"' := by decide
  rw [readStringBytes, if_neg hquote, if_pos rfl]
  simp only [if_neg hu, h]

/-- An escape by number is read as the character that it stands for. -/
theorem readStringBytes_numbered {bytes after : List UInt8} {c : Char}
    (h : readNumbered bytes = some (c, after)) (read : List UInt8) :
    readStringBytes read (ascii '\\' :: ascii 'u' :: bytes) =
      readStringBytes (pushChar read c) after := by
  have hquote : ascii '\\' ≠ ascii '"' := by decide
  rw [readStringBytes, if_neg hquote, if_pos rfl]
  simp only [if_true]
  split
  · next hnone =>
    rw [h] at hnone
    cases hnone
  · next hsome =>
    rw [h] at hsome
    cases hsome
    rfl

/-- Nothing is read of a string with an escape by number that stands for no character. -/
theorem readStringBytes_unreadable {bytes : List UInt8} (h : readNumbered bytes = none)
    (read : List UInt8) : readStringBytes read (ascii '\\' :: ascii 'u' :: bytes) = none := by
  have hquote : ascii '\\' ≠ ascii '"' := by decide
  rw [readStringBytes, if_neg hquote, if_pos rfl]
  simp only [if_true]
  split
  · rfl
  · next hsome =>
    rw [h] at hsome
    cases hsome

/-- An escape of one letter is read as the character that it stands for. -/
theorem readStringBytes_shortEscape {letter c : Char} {byte : UInt8}
    (hletter : letter.toNat < 0x80) (hu : ascii letter ≠ ascii 'u')
    (hshort : shortEscape? (ascii letter) = some byte) (hbyte : String.utf8EncodeChar c = [byte])
    (read rest : List UInt8) :
    readStringBytes read (Utf8.ofChars ['\\', letter] ++ rest) =
      readStringBytes (pushChar read c) rest := by
  have hbytes : Utf8.ofChars ['\\', letter] = [ascii '\\', ascii letter] := by
    rw [Utf8.ofChars_cons_ascii (by decide), Utf8.ofChars_cons_ascii hletter]
    rfl
  rw [hbytes, List.cons_append, List.cons_append, List.nil_append,
    readStringBytes_letter hu hshort, pushChar, hbyte]
  rfl

/-- The number of a character below a limit is read from its two last digits. -/
theorem hex4?_digits {n : Nat} (h : n < 256) :
    hex4? (ascii '0') (ascii '0') (ascii (Hex.digit .lower (n / 16)))
      (ascii (Hex.digit .lower (n % 16))) = some n := by
  have hdigit : ∀ value : Fin 16,
      Hex.byteValue? (ascii (Hex.digit .lower value.val)) = some value.val := by decide
  have hhigh := hdigit ⟨n / 16, by omega⟩
  have hlow := hdigit ⟨n % 16, by omega⟩
  have hzero : Hex.byteValue? (ascii '0') = some 0 := by decide
  simp only [hex4?, hzero, hhigh, hlow, Option.some.injEq]
  omega

/-- An escape by number is read as its control character. -/
theorem readStringBytes_control {c : Char} (h : c.toNat < 0x20) (read rest : List UInt8) :
    readStringBytes read (Utf8.ofChars ['\\', 'u', '0', '0', Hex.digit .lower (c.toNat / 16),
        Hex.digit .lower (c.toNat % 16)] ++ rest) =
      readStringBytes (pushChar read c) rest := by
  have hdigit : ∀ value : Fin 16, (Hex.digit .lower value.val).toNat < 0x80 := by decide
  have hhigh := hdigit ⟨c.toNat / 16, by omega⟩
  have hlow := hdigit ⟨c.toNat % 16, by omega⟩
  have hbytes : Utf8.ofChars ['\\', 'u', '0', '0', Hex.digit .lower (c.toNat / 16),
      Hex.digit .lower (c.toNat % 16)] = [ascii '\\', ascii 'u', ascii '0', ascii '0',
        ascii (Hex.digit .lower (c.toNat / 16)), ascii (Hex.digit .lower (c.toNat % 16))] := by
    rw [Utf8.ofChars_cons_ascii (by decide), Utf8.ofChars_cons_ascii (by decide),
      Utf8.ofChars_cons_ascii (by decide), Utf8.ofChars_cons_ascii (by decide),
      Utf8.ofChars_cons_ascii hhigh, Utf8.ofChars_cons_ascii hlow]
    rfl
  have hnumber := hex4?_digits (n := c.toNat) (by omega)
  have hnolow : isLowSurrogate c.toNat = false := by
    simp only [isLowSurrogate, Bool.and_eq_false_iff, decide_eq_false_iff_not]
    omega
  have hnohigh : isHighSurrogate c.toNat = false := by
    simp only [isHighSurrogate, Bool.and_eq_false_iff, decide_eq_false_iff_not]
    omega
  have hread : ∀ tail, readNumbered (ascii '0' :: ascii '0' ::
      ascii (Hex.digit .lower (c.toNat / 16)) :: ascii (Hex.digit .lower (c.toNat % 16)) :: tail) =
        some (c, tail) := by
    intro tail
    simp only [readNumbered, hnumber, hnolow, hnohigh, Bool.false_eq_true, if_false,
      Char.ofNat_toNat]
  rw [hbytes]
  simp only [List.cons_append, List.nil_append]
  exact readStringBytes_numbered (hread rest) read

/-- A character is read back from its escape. -/
theorem readStringBytes_escape (c : Char) (read rest : List UInt8) :
    readStringBytes read (Utf8.ofChars (escape c) ++ rest) =
      readStringBytes (pushChar read c) rest := by
  have hcode : ∀ d : Char, c.toNat = d.toNat → c = d := fun d => Char.toNat_inj.mp
  unfold escape
  by_cases hquote : c = '"'
  · subst hquote
    exact readStringBytes_shortEscape (by decide) (by decide) rfl (by decide) read rest
  by_cases hbackslash : c = '\\'
  · subst hbackslash
    exact readStringBytes_shortEscape (by decide) (by decide) rfl (by decide) read rest
  by_cases hbackspace : c.toNat = 0x08
  · rw [hcode (Char.ofNat 0x08) hbackspace]
    exact readStringBytes_shortEscape (by decide) (by decide) rfl (by decide) read rest
  by_cases hfeed : c.toNat = 0x0C
  · rw [hcode (Char.ofNat 0x0C) hfeed]
    exact readStringBytes_shortEscape (by decide) (by decide) rfl (by decide) read rest
  by_cases hnewline : c = '\n'
  · subst hnewline
    exact readStringBytes_shortEscape (by decide) (by decide) rfl (by decide) read rest
  by_cases hreturn : c = '\r'
  · subst hreturn
    exact readStringBytes_shortEscape (by decide) (by decide) rfl (by decide) read rest
  by_cases htab : c = '\t'
  · subst htab
    exact readStringBytes_shortEscape (by decide) (by decide) rfl (by decide) read rest
  simp only [hquote, hbackslash, hbackspace, hfeed, hnewline, hreturn, htab, if_false]
  by_cases hcontrol : c.toNat < 0x20
  · rw [if_pos hcontrol]
    exact readStringBytes_control hcontrol read rest
  · rw [if_neg hcontrol]
    have hplain : ∀ b ∈ String.utf8EncodeChar c, IsPlain b :=
      fun b hb => isPlain_of_mem (Nat.not_lt.mp hcontrol) hquote hbackslash hb
    have hbytes : Utf8.ofChars [c] = String.utf8EncodeChar c := by
      rw [Utf8.ofChars_cons]
      exact List.append_nil _
    rw [hbytes, readStringBytes_plain hplain]
    rfl

/-! ## Strings -/

/-- The characters of a string are read back, up to its closing quote. -/
theorem readStringBytes_flatMap (cs : List Char) (read rest : List UInt8) :
    readStringBytes read (Utf8.ofChars (cs.flatMap escape) ++ ascii '"' :: rest) =
      some (read.reverse ++ Utf8.ofChars cs, rest) := by
  induction cs generalizing read with
  | nil =>
    have hnil : Utf8.ofChars [] = [] := rfl
    rw [List.flatMap_nil, hnil, List.nil_append, readStringBytes_quote, List.append_nil]
  | cons c cs ih =>
    rw [List.flatMap_cons, Utf8.ofChars_append, List.append_assoc, readStringBytes_escape, ih]
    rw [pushChar, List.reverse_append, List.reverse_reverse, Utf8.ofChars_cons, List.append_assoc]

/-- A string is read back from its text behind the opening quote. -/
theorem readString_flatMap (s : String) (rest : List UInt8) :
    readString (Utf8.ofChars (s.toList.flatMap escape) ++ ascii '"' :: rest) = some (s, rest) := by
  have hbytes := readStringBytes_flatMap s.toList [] rest
  rw [List.reverse_nil, List.nil_append, ← Utf8.encode_eq_ofChars] at hbytes
  simp only [readString, hbytes, Utf8.decode?_encode, Option.map_some]

/-- The text of a string is a quote, then what is read back as the string. -/
theorem readString_stringText (s : String) (rest : List UInt8) :
    ∃ behind, Utf8.ofChars (stringText s) ++ rest = ascii '"' :: behind ∧
      readString behind = some (s, rest) := by
  refine ⟨Utf8.ofChars (s.toList.flatMap escape) ++ ascii '"' :: rest, ?_,
    readString_flatMap s rest⟩
  have hclose : Utf8.ofChars ['"'] = [ascii '"'] := Utf8.ofChars_cons_ascii (by decide) []
  rw [stringText, List.cons_append, Utf8.ofChars_cons_ascii (by decide), Utf8.ofChars_append,
    hclose, List.cons_append, List.append_assoc, List.singleton_append]

end Json
end BearerTokens
