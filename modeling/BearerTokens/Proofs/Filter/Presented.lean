import BearerTokens.Filter.Credential
import BearerTokens.Proofs.Text.CharBytes
import BearerTokens.Proofs.Text.Pieces
import BearerTokens.Secret.Basic

/-!
# Presented secrets

What the filter reads from the Authorization values of a request, down to the
bytes of the first of them.

Main results:

- Definition {lit}`BearerCredential`: a value that is the scheme, one space and a
  secret.
- Theorem {lit}`presentedSecret_eq_ok_iff`: a secret is presented exactly when the
  first value is such a credential.
- Theorem {lit}`bearerCredential_ofBlock`: the credential of a secret that was issued.
-/

namespace BearerTokens

/-! ## Visible bytes -/

/-- Whether a byte is visible ASCII, a space or a tab. -/
def IsVisible (byte : UInt8) : Prop :=
  (0x20 ≤ byte ∧ byte < 0x7F) ∨ byte = 0x09

/-- The characters of a value byte by byte. -/
def charsOf (value : List UInt8) : List Char :=
  value.map fun byte => Char.ofNat byte.toNat

/-- A header value is a text exactly when all of its bytes are visible. -/
theorem visibleText?_eq_some_iff {value : List UInt8} {text : String} :
    Http.visibleText? value = some text ↔
      (∀ byte ∈ value, IsVisible byte) ∧ text = String.ofList (charsOf value) := by
  simp only [Http.visibleText?, Option.ite_none_right_eq_some, Option.some.injEq]
  rw [List.all_eq_true]
  simp only [Bool.or_eq_true, Bool.and_eq_true, decide_eq_true_eq, beq_iff_eq]
  constructor
  · rintro ⟨hall, rfl⟩
    exact ⟨hall, rfl⟩
  · rintro ⟨hall, rfl⟩
    exact ⟨hall, rfl⟩

/-! ## Credentials -/

/-- Whether a header value is the scheme in any letter case, one space and a secret. -/
structure BearerCredential (value : List UInt8) (secret : String) : Prop where
  visible : ∀ byte ∈ value, IsVisible byte
  nonempty : secret ≠ ""
  split : ∃ scheme : List Char, scheme.map Char.toLower = bearerScheme ∧
    charsOf value = scheme ++ secret.toList

/-- A character whose lower case is a letter is not blank. -/
theorem isBlank_eq_false_of_toLower {c : Char} (h : c.toLower = 'b') : Text.isBlank c = false := by
  rw [← Text.isBlank_toLower, h]
  rfl

/-- A text that begins with the scheme is not blank. -/
theorem allBlank_eq_false_of_scheme {scheme rest : List Char}
    (h : scheme.map Char.toLower = bearerScheme) :
    Text.allBlank (String.ofList (scheme ++ rest)) = false := by
  cases scheme with
  | nil => simp [bearerScheme] at h
  | cons c others =>
    simp only [bearerScheme, List.map_cons, List.cons.injEq] at h
    simp [Text.allBlank, isBlank_eq_false_of_toLower h.1]

/-- A secret is presented exactly when the first value is a credential with it. -/
theorem presentedSecret_eq_ok_iff {authorization : List (List UInt8)} {secret : String} :
    presentedSecret authorization = .ok secret ↔
      ∃ value rest, authorization = value :: rest ∧ BearerCredential value secret := by
  constructor
  · intro h
    unfold presentedSecret at h
    cases authorization with
    | nil => simp at h
    | cons value rest =>
      refine ⟨value, rest, rfl, ?_⟩
      simp only at h
      cases htext : Http.visibleText? value with
      | none => simp [htext] at h
      | some text =>
        rcases visibleText?_eq_some_iff.mp htext with ⟨hvisible, rfl⟩
        simp only [htext] at h
        split at h
        · simp at h
        · split at h
          · simp at h
          · next found hfound =>
            simp only [Except.ok.injEq] at h
            subst h
            rcases bearerSecret?_eq_some_iff.mp hfound with ⟨scheme, hscheme, hne, hsplit⟩
            rw [String.toList_ofList] at hsplit
            exact ⟨hvisible, hne, scheme, hscheme, hsplit⟩
  · rintro ⟨value, rest, rfl, hvisible, hne, scheme, hscheme, hsplit⟩
    have htext : Http.visibleText? value = some (String.ofList (scheme ++ secret.toList)) :=
      visibleText?_eq_some_iff.mpr ⟨hvisible, by rw [hsplit]⟩
    have hsecret : bearerSecret? (String.ofList (scheme ++ secret.toList)) = some secret :=
      bearerSecret?_eq_some_iff.mpr ⟨scheme, hscheme, hne, by rw [String.toList_ofList]⟩
    simp only [presentedSecret, htext, allBlank_eq_false_of_scheme hscheme, Bool.false_eq_true,
      if_false, hsecret]

/-! ## Secrets that were issued -/

/-- Whether a character is visible ASCII or a space. -/
def IsPrintable (c : Char) : Prop :=
  0x20 ≤ c.toNat ∧ c.toNat < 0x7F

/-- The byte of a printable character has its code. -/
theorem toNat_ascii {c : Char} (h : IsPrintable c) : (ascii c).toNat = c.toNat := by
  have hlt : c.toNat < 0x80 := Nat.lt_succ_of_lt h.2
  exact Utf8.toNat_ascii_of_lt hlt

/-- The byte of a printable character is visible. -/
theorem isVisible_ascii {c : Char} (h : IsPrintable c) : IsVisible (ascii c) := by
  left
  rw [UInt8.le_iff_toNat_le, UInt8.lt_iff_toNat_lt, toNat_ascii h]
  exact h

/-- The characters of a printable text are those of its bytes. -/
theorem charsOf_bytes {text : String} (h : ∀ c ∈ text.toList, IsPrintable c) :
    charsOf (Ascii.bytes text) = text.toList := by
  have heq : ∀ c ∈ text.toList, Char.ofNat (ascii c).toNat = c := by
    intro c hc
    rw [toNat_ascii (h c hc), Char.ofNat_toNat]
  rw [charsOf, Ascii.bytes, List.map_map]
  exact (List.map_congr_left heq).trans (List.map_id' text.toList)

/-- The credential of a printable secret is its text behind the scheme. -/
theorem bearerCredential_of_printable {secret : String} (hne : secret ≠ "")
    (h : ∀ c ∈ secret.toList, IsPrintable c) :
    BearerCredential (Ascii.bytes ("Bearer " ++ secret)) secret := by
  have hscheme : ∀ c ∈ "Bearer ".toList, IsPrintable c := by
    have htoList : "Bearer ".toList = ['B', 'e', 'a', 'r', 'e', 'r', ' '] := rfl
    simp [htoList, IsPrintable]
  have hall : ∀ c ∈ ("Bearer " ++ secret).toList, IsPrintable c := by
    intro c hc
    rw [String.toList_append] at hc
    rcases List.mem_append.mp hc with hfront | hback
    · exact hscheme c hfront
    · exact h c hback
  refine ⟨?_, hne, "Bearer ".toList, by decide, ?_⟩
  · intro byte hbyte
    rcases List.mem_map.mp hbyte with ⟨c, hc, rfl⟩
    exact isVisible_ascii (hall c hc)
  · rw [charsOf_bytes hall, String.toList_append]

/-- The digits of a secret are printable. -/
theorem Secret.isPrintable_ofBlock {block : Block} {c : Char}
    (h : c ∈ (ofBlock block).text.toList) : IsPrintable c := by
  have hall : Hex.Letters.upper.digits.all (fun c => 0x20 ≤ c.toNat ∧ c.toNat < 0x7F) = true := by
    decide
  have hcode : 0x20 ≤ c.toNat ∧ c.toNat < 0x7F :=
    of_decide_eq_true (List.all_eq_true.mp hall c (mem_digits_ofBlock h))
  exact hcode

/-- A secret is not empty. -/
theorem Secret.text_ofBlock_ne_empty (block : Block) : (ofBlock block).text ≠ "" := by
  intro hempty
  have hlength := length_ofBlock block
  rw [hempty] at hlength
  cases hlength

/-- The credential of an issued secret is its text behind the scheme. -/
theorem bearerCredential_ofBlock (block : Block) :
    BearerCredential (Ascii.bytes ("Bearer " ++ (Secret.ofBlock block).text))
      (Secret.ofBlock block).text :=
  bearerCredential_of_printable (Secret.text_ofBlock_ne_empty block)
    fun _ => Secret.isPrintable_ofBlock

end BearerTokens
