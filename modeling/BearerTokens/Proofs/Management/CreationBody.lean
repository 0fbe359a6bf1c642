import BearerTokens.Management.Decoding
import BearerTokens.Proofs.Json.StringText

/-!
# Bodies that ask for a name

Every text can be asked for as the name of a token: written as a string in a document, it
is decoded to the same text.  The body for a name that is short enough is accepted by its
length, even if all of its characters need an escape.

Main results:

- Definition {lit}`CreateRequest.bodyFor`: a body that asks for a name.
- Theorem {lit}`CreateRequest.decode_bodyFor`: it is decoded to this name.
- Theorem {lit}`CreateRequest.length_bodyFor_le`: its length.
-/

namespace BearerTokens

open Json (skipSpace readString stringText)

namespace CreateRequest

/-- A request for a token with a name that lives for an hour. -/
def named (name : String) : CreateRequest :=
  ⟨name, none, 1⟩

/-- The members of the request for a name. -/
def jsonFor (name : String) : Json :=
  .object [("name", .string name), ("expires_in_hours", .integer 1)]

/-- A body that asks for a token with a name. -/
def bodyFor (name : String) : List UInt8 :=
  Utf8.encode (jsonFor name).text

/-- The bytes of a body: the name stands between two fixed parts. -/
theorem bodyFor_eq (name : String) :
    bodyFor name = ascii '\x7b' :: (Utf8.ofChars (stringText "name") ++ ascii ':' ::
      (Utf8.ofChars (stringText name) ++ ascii ',' ::
        (Utf8.ofChars (stringText "expires_in_hours") ++
          [ascii ':', ascii '1', ascii '\x7d']))) := by
  have hdigits : Decimal.digits 1 = ['1'] := by decide
  have hnil : Utf8.ofChars [] = [] := rfl
  have hcons : ∀ c : Char, c.toNat < 0x80 → ∀ cs : List Char,
      Utf8.ofChars (c :: cs) = ascii c :: Utf8.ofChars cs :=
    fun _ hascii cs => Utf8.ofChars_cons_ascii hascii cs
  rw [bodyFor, Json.text, Utf8.encode_ofList, jsonFor]
  simp only [Json.render, Json.renderMembers, Json.renderMoreMembers, hdigits, Utf8.ofChars_append,
    List.cons_append, List.append_assoc, List.append_nil, List.nil_append, hnil,
    hcons '\x7b' (by decide), hcons ':' (by decide), hcons ',' (by decide),
    hcons '1' (by decide), hcons '\x7d' (by decide)]

/-! ## Parts of a body -/

/-- A key is read up to its closing quote. -/
theorem decodeKeyed_stringText (members : Members) (key : String) (rest : List UInt8) :
    decodeKeyed members (Utf8.ofChars (stringText key) ++ rest) = decodeEntry members key rest := by
  rcases Json.readString_stringText key rest with ⟨behind, hbytes, hread⟩
  rw [hbytes, decodeKeyed, if_pos rfl, hread]

/-- No blanks are dropped in front of a text. -/
theorem skipSpace_stringText (text : String) (rest : List UInt8) :
    skipSpace (Utf8.ofChars (stringText text) ++ rest) =
      Utf8.ofChars (stringText text) ++ rest := by
  rcases Json.readString_stringText text rest with ⟨behind, hbytes, -⟩
  rw [hbytes]
  rfl

/-- A text is read up to its closing quote. -/
theorem decodeText_stringText (place : Place) (text : String) (rest : List UInt8) :
    decodeText place (Utf8.ofChars (stringText text) ++ rest) = .ok (text, rest) := by
  rcases Json.readString_stringText text rest with ⟨behind, hbytes, hread⟩
  rw [decodeText, skipSpace_stringText, hbytes]
  simp only [if_true, hread]

/-- The entry of a name is read. -/
theorem decodeEntry_name (name : String) (rest : List UInt8) :
    decodeEntry .empty "name" (ascii ':' :: (Utf8.ofChars (stringText name) ++ rest)) =
      .ok (⟨some name, none, none⟩, rest) := by
  have hmember : Member.ofKey? "name" = some .name := by decide
  have hcolon : decodeColon (ascii ':' :: (Utf8.ofChars (stringText name) ++ rest)) =
      .ok (Utf8.ofChars (stringText name) ++ rest) := rfl
  simp only [decodeEntry, hmember, hcolon, Members.decodeMember, decodeText_stringText]
  rfl

/-- A brace ends the entries. -/
theorem decodeMore_brace (members : Members) (rest : List UInt8) :
    decodeMore members (ascii '\x7d' :: rest) = .ok (members, rest) := by
  have hspace : skipSpace (ascii '\x7d' :: rest) = ascii '\x7d' :: rest := rfl
  rw [decodeMore.eq_def, hspace]
  simp only [if_true]

/-- Behind a comma another entry is read. -/
theorem decodeMore_comma (members : Members) {bytes after : List UInt8} {found : Members}
    (h : decodeKeyed members (skipSpace bytes) = .ok (found, after)) :
    decodeMore members (ascii ',' :: bytes) = decodeMore found after := by
  have hspace : skipSpace (ascii ',' :: bytes) = ascii ',' :: bytes := rfl
  have hbrace : ascii ',' ≠ ascii '\x7d' := by decide
  rw [decodeMore.eq_def, hspace]
  simp only [if_neg hbrace, if_true]
  rw [h]

/-- The entry of a lifetime ends the request. -/
theorem decodeMore_hours (name : String) :
    decodeMore ⟨some name, none, none⟩
        (ascii ',' :: (Utf8.ofChars (stringText "expires_in_hours") ++
          [ascii ':', ascii '1', ascii '\x7d'])) =
      .ok (⟨some name, none, some 1⟩, []) := by
  have hmember : Member.ofKey? "expires_in_hours" = some .hours := by decide
  have hmissing : (⟨some name, none, none⟩ : Members).has .hours = false := rfl
  have hcolon : decodeColon [ascii ':', ascii '1', ascii '\x7d'] =
      .ok [ascii '1', ascii '\x7d'] := rfl
  have hnumber : Json.readNumber [ascii '1', ascii '\x7d'] =
      some (.natural 1, [ascii '\x7d']) := by decide +kernel
  have hhours : decodeHours (.member .hours) [ascii '1', ascii '\x7d'] =
      .ok (1, [ascii '\x7d']) := by
    have hspace : skipSpace [ascii '1', ascii '\x7d'] = [ascii '1', ascii '\x7d'] := rfl
    have hdigit : ascii '1' = ascii '-' ∨ Ascii.isDigit (ascii '1') = true := .inr rfl
    have hfits : hoursOf (.member .hours) (.natural 1) = .ok 1 := rfl
    simp only [decodeHours, hspace, hdigit, hnumber, hfits, if_true]
  have hentry : decodeEntry ⟨some name, none, none⟩ "expires_in_hours"
      [ascii ':', ascii '1', ascii '\x7d'] =
      .ok (⟨some name, none, some 1⟩, [ascii '\x7d']) := by
    simp only [decodeEntry, hmember, hmissing, hcolon, Members.decodeMember, hhours,
      Bool.false_eq_true, if_false]
  rw [decodeMore_comma, decodeMore_brace]
  rw [skipSpace_stringText, decodeKeyed_stringText, hentry]

/-- An object is read entry by entry, and then its members make a request. -/
theorem decodeObject_stringText {key : String} {bytes after left : List UInt8}
    {first members : Members} {wanted : CreateRequest}
    (hfirst : decodeEntry .empty key bytes = .ok (first, after))
    (hmore : decodeMore first after = .ok (members, left))
    (hwanted : members.request = .ok wanted) :
    decodeObject (Utf8.ofChars (stringText key) ++ bytes) = .ok (wanted, left) := by
  have hquote : ascii '"' ≠ ascii '\x7d' := by decide
  have hkeyed := decodeKeyed_stringText .empty key bytes
  rcases Json.readString_stringText key bytes with ⟨behind, hbytes, -⟩
  rw [decodeObject, skipSpace_stringText]
  rw [hbytes] at hkeyed ⊢
  simp only [if_neg hquote, hkeyed, hfirst, hmore, hwanted]

/-- The body that asks for a name is decoded to it. -/
theorem decode_bodyFor (name : String) : decode (bodyFor name) = .ok (named name) := by
  have hbrace : ∀ bytes, skipSpace (ascii '\x7b' :: bytes) = ascii '\x7b' :: bytes :=
    fun _ => rfl
  have hobject := decodeObject_stringText (decodeEntry_name name _)
    (decodeMore_hours name) rfl
  rw [bodyFor_eq, decode, decodePrefix, hbrace]
  simp only [if_true, hobject]
  rfl

/-! ## The length of a body -/

/-- A character takes at most six bytes in a string. -/
theorem length_escape_le (c : Char) : (Utf8.ofChars (Json.escape c)).length ≤ 6 := by
  have hshort : ∀ letter : Char, (Utf8.ofChars ['\\', letter]).length ≤ 6 := by
    intro letter
    have hletter := Utf8.length_bytes_le letter
    have hnil : (Utf8.ofChars []).length = 0 := rfl
    rw [Utf8.ofChars_cons_ascii (by decide), Utf8.ofChars_cons, List.length_cons,
      List.length_append]
    omega
  unfold Json.escape
  split
  · exact hshort _
  split
  · exact hshort _
  split
  · exact hshort _
  split
  · exact hshort _
  split
  · exact hshort _
  split
  · exact hshort _
  split
  · exact hshort _
  split
  · next hcontrol =>
    have hdigit : ∀ value : Fin 16, (Hex.digit .lower value.val).toNat < 0x80 := by decide
    have hhigh := hdigit ⟨c.toNat / 16, by omega⟩
    have hlow := hdigit ⟨c.toNat % 16, by omega⟩
    rw [Utf8.ofChars_of_ascii]
    · simp
    · simp only [List.mem_cons, List.not_mem_nil, or_false]
      rintro d (rfl | rfl | rfl | rfl | rfl | rfl)
      · decide
      · decide
      · decide
      · decide
      · exact hhigh
      · exact hlow
  · have hbytes := Utf8.length_bytes_le c
    have hnil : (Utf8.ofChars []).length = 0 := rfl
    rw [Utf8.ofChars_cons, List.length_append]
    omega

/-- A text takes at most six bytes for each character, and two quotes. -/
theorem length_stringText_le (text : String) :
    (Utf8.ofChars (stringText text)).length ≤ 6 * text.length + 2 := by
  have hchars : ∀ cs : List Char,
      (Utf8.ofChars (cs.flatMap Json.escape)).length ≤ 6 * cs.length := by
    intro cs
    induction cs with
    | nil => exact Nat.le_refl _
    | cons c cs ih =>
      have hc := length_escape_le c
      rw [List.flatMap_cons, Utf8.ofChars_append, List.length_append, List.length_cons]
      omega
  have htext := hchars text.toList
  have hclose : (Utf8.ofChars ['"']).length = 1 := by decide
  rw [String.length_toList] at htext
  rw [stringText, List.cons_append, Utf8.ofChars_cons_ascii (by decide), Utf8.ofChars_append,
    List.length_cons, List.length_append]
  omega

/-- The length of a body that asks for a name. -/
theorem length_bodyFor_le (name : String) : (bodyFor name).length ≤ 6 * name.length + 32 := by
  have hname := length_stringText_le name
  have hkey : (Utf8.ofChars (stringText "name")).length = 6 := by decide +kernel
  have hhours : (Utf8.ofChars (stringText "expires_in_hours")).length = 18 := by decide +kernel
  simp only [bodyFor_eq, List.length_cons, List.length_append, List.length_nil, hkey, hhours]
  omega

end CreateRequest
end BearerTokens
