import BearerTokens.Proofs.Filter.Lookups
import BearerTokens.Proofs.Text.PercentEncoding

/-!
# Every Authorization value has one meaning

The secret of a credential is found by characters; here the same is said of bytes, with
the letter case of ASCII and nothing else folded.  From it follows what the filter makes
of every header, whatever its bytes are and whatever the collaborators would answer.

Main results:

- Definition {lit}`BearerForm`: bytes that are the scheme and a secret behind it.
- Theorem {lit}`bearerSecret?_eq_some_iff_form`: a text presents a secret exactly when its
  bytes have this form.
- Theorem {lit}`Filter.authorization_classified`: which headers bring no credentials,
  which bring others, and what is looked up for the rest.
-/

namespace BearerTokens

/-! ## Letter case of bytes -/

namespace Ascii

/-- A byte in lower case, if it is a letter of ASCII. -/
def lower (b : UInt8) : UInt8 :=
  if ascii 'A' ≤ b ∧ b ≤ ascii 'Z' then b + 32 else b

/-- Two byte strings that differ at most in the case of ASCII letters. -/
def SameLetters (bytes others : List UInt8) : Prop :=
  bytes.map lower = others.map lower

/-- A byte string has the length of any other with the same letters. -/
theorem SameLetters.length {bytes others : List UInt8} (h : SameLetters bytes others) :
    bytes.length = others.length := by
  simpa only [SameLetters, List.length_map] using congrArg List.length h

/-- Lower case is the same for a byte and for the character of its code. -/
theorem charOf_lower (b : UInt8) : Char.ofNat (lower b).toNat = (Char.ofNat b.toNat).toLower :=
  forall_byte (P := fun b => Char.ofNat (lower b).toNat = (Char.ofNat b.toNat).toLower)
    (by decide +kernel) b

/-- A byte is one of ASCII when it is one in lower case. -/
theorem lt_of_lower {b : UInt8} (h : (lower b).toNat < 0x80) : b.toNat < 0x80 := by
  unfold lower at h
  split at h
  · next hupper =>
    have hle : b.toNat ≤ 90 := UInt8.le_iff_toNat_le.mp hupper.2
    omega
  · exact h

end Ascii

/-- A character is one of ASCII when it is one in lower case. -/
theorem toNat_lt_of_toLower {c : Char} (h : c.toLower.toNat < 0x80) : c.toNat < 0x80 := by
  unfold Char.toLower at h
  split at h
  · next hupper =>
    have hle : c.toNat ≤ 90 := hupper.2
    omega
  · exact h

/-! ## Bytes and their characters -/

/-- The characters of a value byte by byte have its bytes as codes. -/
theorem map_ascii_charsOf (value : List UInt8) : (charsOf value).map ascii = value := by
  rw [charsOf, List.map_map]
  exact (List.map_congr_left fun byte _ => Percent.ascii_ofNat byte).trans (List.map_id' value)

/-- A value of ASCII bytes is the text of the characters with these codes. -/
theorem ofChars_charsOf {value : List UInt8} (h : ∀ byte ∈ value, byte.toNat < 0x80) :
    Utf8.ofChars (charsOf value) = value := by
  have hascii : ∀ c ∈ charsOf value, c.toNat < 0x80 := by
    intro c hc
    obtain ⟨byte, hbyte, rfl⟩ := List.mem_map.mp hc
    rw [Utf8.toNat_charOf]
    exact h byte hbyte
  rw [Utf8.ofChars_of_ascii hascii, map_ascii_charsOf]

/-- Lower case is the same for bytes and for their characters. -/
theorem charsOf_map_lower (value : List UInt8) :
    charsOf (value.map Ascii.lower) = (charsOf value).map Char.toLower := by
  simp only [charsOf, List.map_map]
  exact List.map_congr_left fun byte _ => Ascii.charOf_lower byte

/-- The bytes of the scheme. -/
abbrev schemeBytes : List UInt8 := Ascii.bytes "bearer "

/-- The scheme is in lower case, as characters and as bytes. -/
theorem map_lower_schemeBytes :
    schemeBytes.map Ascii.lower = schemeBytes ∧ charsOf schemeBytes = bearerScheme := by
  decide

/-- Bytes have the letters of the scheme exactly when their characters have. -/
theorem sameLetters_iff_charsOf {bytes : List UInt8} :
    Ascii.SameLetters bytes schemeBytes ↔ (charsOf bytes).map Char.toLower = bearerScheme := by
  rw [Ascii.SameLetters, map_lower_schemeBytes.1, ← charsOf_map_lower]
  constructor
  · intro h
    rw [h, map_lower_schemeBytes.2]
  · intro h
    rw [← map_ascii_charsOf (bytes.map Ascii.lower), h, ← map_lower_schemeBytes.2,
      map_ascii_charsOf]

/-- All characters of the scheme are of ASCII, in any letter case. -/
theorem ascii_of_scheme {scheme : List Char} (h : scheme.map Char.toLower = bearerScheme) :
    ∀ c ∈ scheme, c.toNat < 0x80 := by
  have hall : bearerScheme.all (fun c => c.toNat < 0x80) = true := by decide
  intro c hc
  have hmem : c.toLower ∈ bearerScheme := by
    rw [← h]
    exact List.mem_map_of_mem hc
  exact toNat_lt_of_toLower (of_decide_eq_true (List.all_eq_true.mp hall _ hmem))

/-- The bytes of the scheme in any letter case are its characters, and the other way round. -/
theorem sameLetters_ofChars {scheme : List Char} (h : scheme.map Char.toLower = bearerScheme) :
    Ascii.SameLetters (Utf8.ofChars scheme) schemeBytes := by
  have hascii := ascii_of_scheme h
  have hchars : charsOf (scheme.map ascii) = scheme := by
    rw [charsOf, List.map_map]
    refine (List.map_congr_left fun c hc => ?_).trans (List.map_id' scheme)
    rw [Function.comp_apply, Utf8.toNat_ascii_of_lt (hascii c hc), Char.ofNat_toNat]
  rw [sameLetters_iff_charsOf, Utf8.ofChars_of_ascii hascii, hchars]
  exact h

/-- Bytes with the letters of the scheme are those of their characters. -/
theorem ofChars_charsOf_of_sameLetters {bytes : List UInt8}
    (h : Ascii.SameLetters bytes schemeBytes) : Utf8.ofChars (charsOf bytes) = bytes := by
  have hascii : schemeBytes.all (fun byte => byte.toNat < 0x80) = true := by decide
  apply ofChars_charsOf
  intro byte hbyte
  apply Ascii.lt_of_lower
  apply of_decide_eq_true (List.all_eq_true.mp hascii _ _)
  rw [← map_lower_schemeBytes.1, ← h]
  exact List.mem_map_of_mem hbyte

/-! ## The form of a credential -/

/-- Whether bytes are the seven of the scheme in any letter case, and then those of a secret. -/
structure BearerForm (bytes : List UInt8) (secret : String) : Prop where
  nonempty : secret ≠ ""
  split : ∃ scheme, scheme.length = 7 ∧ Ascii.SameLetters scheme (Ascii.bytes "bearer ") ∧
    bytes = scheme ++ Utf8.encode secret

/-- A text presents a secret exactly when its bytes are the scheme and that secret. -/
theorem bearerSecret?_eq_some_iff_form {value secret : String} :
    bearerSecret? value = some secret ↔ BearerForm (Utf8.encode value) secret := by
  rw [bearerSecret?_eq_some_iff]
  constructor
  · rintro ⟨scheme, hscheme, hne, hsplit⟩
    have hletters := sameLetters_ofChars hscheme
    refine ⟨hne, Utf8.ofChars scheme, hletters.length, hletters, ?_⟩
    rw [Utf8.encode_eq_ofChars, hsplit, Utf8.ofChars_append, Utf8.encode_eq_ofChars]
  · rintro ⟨hne, scheme, -, hletters, hsplit⟩
    refine ⟨charsOf scheme, sameLetters_iff_charsOf.mp hletters, hne, ?_⟩
    have hvalue : value = String.ofList (charsOf scheme ++ secret.toList) := by
      apply Utf8.encode_injective
      rw [hsplit, Utf8.encode_ofList, Utf8.ofChars_append,
        ofChars_charsOf_of_sameLetters hletters, Utf8.encode_eq_ofChars]
    rw [hvalue, String.toList_ofList]

/-- A text presents nothing exactly when its bytes have the form for no secret. -/
theorem bearerSecret?_eq_none_iff_form {value : String} :
    bearerSecret? value = none ↔ ∀ secret, ¬ BearerForm (Utf8.encode value) secret := by
  simp only [← bearerSecret?_eq_some_iff_form, Option.eq_none_iff_forall_ne_some, ne_eq]

/-- Whether the byte at an offset belongs to a character that begins before it. -/
def Utf8.Straddled (value : String) (offset : Nat) : Prop :=
  ∃ front c back, value.toList = front ++ c :: back ∧
    (Utf8.ofChars front).length < offset ∧ offset < (Utf8.ofChars (front ++ [c])).length

/-- A place where a text can be divided is inside no character. -/
theorem Utf8.not_straddled_append (front back : List Char) :
    ¬ Utf8.Straddled (String.ofList (front ++ back)) (Utf8.ofChars front).length := by
  rintro ⟨before, c, after, hsplit, hbegins, hends⟩
  rw [String.toList_ofList] at hsplit
  rw [Utf8.ofChars_append, List.length_append] at hends
  obtain ⟨between, rfl, -⟩ | ⟨between, rfl, hback⟩ := List.append_eq_append_iff.mp hsplit
  · rw [Utf8.ofChars_append, List.length_append] at hbegins
    omega
  · -- Either the character begins at the place, or it is among those in front of it.
    cases between with
    | nil =>
      rw [List.append_nil] at hbegins
      exact absurd hbegins (Nat.lt_irrefl _)
    | cons d others =>
      obtain ⟨rfl, -⟩ := List.cons.inj hback
      have hsame : Utf8.ofChars (c :: others) = Utf8.ofChars [c] ++ Utf8.ofChars others := by
        rw [← Utf8.ofChars_append, List.singleton_append]
      rw [Utf8.ofChars_append, hsame, List.length_append, List.length_append] at hends
      omega

/-- A text with a character across the end of the scheme presents nothing. -/
theorem bearerSecret?_of_straddled {value : String} (h : Utf8.Straddled value 7) :
    bearerSecret? value = none := by
  rw [Option.eq_none_iff_forall_ne_some]
  intro secret hsecret
  obtain ⟨scheme, hscheme, -, hsplit⟩ := bearerSecret?_eq_some_iff.mp hsecret
  have hlength : (Utf8.ofChars scheme).length = 7 := (sameLetters_ofChars hscheme).length
  rw [← String.ofList_toList (s := value), hsplit, ← hlength] at h
  exact Utf8.not_straddled_append scheme secret.toList h

/-! ## What a header brings -/

/-- Whether a value consists of spaces and tabs only. -/
def IsPadding (value : List UInt8) : Prop :=
  ∀ byte ∈ value, byte = 0x20 ∨ byte = 0x09

/-- Whether Authorization values bring no credentials: there is none, or the first is blank. -/
inductive BringsNone : List (List UInt8) → Prop where
  | missing : BringsNone []
  | blank {value : List UInt8} (rest : List (List UInt8)) :
    IsPadding value → BringsNone (value :: rest)

/--
Whether Authorization values bring other credentials: the first has a byte that is not
visible, or it is neither blank nor of the form.
-/
inductive BringsOther : List (List UInt8) → Prop where
  | invisible {value : List UInt8} {byte : UInt8} (rest : List (List UInt8)) :
    byte ∈ value → ¬ IsVisible byte → BringsOther (value :: rest)
  | foreign {value : List UInt8} (rest : List (List UInt8)) :
    ¬ IsPadding value → (∀ secret, ¬ BearerForm value secret) → BringsOther (value :: rest)

section

variable {value : List UInt8} {authorization : List (List UInt8)}

/-- A visible value is the bytes of its text. -/
theorem encode_charsOf (h : ∀ byte ∈ value, IsVisible byte) :
    Utf8.encode (String.ofList (charsOf value)) = value := by
  rw [Utf8.encode_ofList]
  apply ofChars_charsOf
  intro byte hbyte
  rcases h byte hbyte with ⟨-, hlt⟩ | rfl
  · have hcode : byte.toNat < 0x7F := UInt8.lt_iff_toNat_lt.mp hlt
    omega
  · decide

/-- Among the visible bytes only the space and the tab are blank. -/
theorem isBlank_charOf_iff {byte : UInt8} (h : IsVisible byte) :
    Text.isBlank (Char.ofNat byte.toNat) = true ↔ byte = 0x20 ∨ byte = 0x09 := by
  have hspace : byte = 0x20 ↔ byte.toNat = 0x20 := UInt8.toNat_inj.symm
  have htab : byte = 0x09 ↔ byte.toNat = 0x09 := UInt8.toNat_inj.symm
  have hrange : (0x20 ≤ byte.toNat ∧ byte.toNat < 0x7F) ∨ byte.toNat = 0x09 :=
    h.imp (And.imp UInt8.le_iff_toNat_le.mp UInt8.lt_iff_toNat_lt.mp) htab.mp
  simp only [Text.isBlank, Utf8.toNat_charOf, hspace, htab, Bool.or_eq_true, Bool.and_eq_true,
    decide_eq_true_eq, beq_iff_eq]
  omega

/-- A visible value is blank as a text exactly when it consists of spaces and tabs. -/
theorem allBlank_iff_isPadding (h : ∀ byte ∈ value, IsVisible byte) :
    Text.allBlank (String.ofList (charsOf value)) = true ↔ IsPadding value := by
  simp only [Text.allBlank, String.toList_ofList, charsOf, List.all_map, List.all_eq_true,
    Function.comp_apply]
  exact forall₂_congr fun byte hbyte => isBlank_charOf_iff (h byte hbyte)

/-- Spaces and tabs are visible. -/
theorem IsPadding.visible (h : IsPadding value) : ∀ byte ∈ value, IsVisible byte := by
  intro byte hbyte
  rcases h byte hbyte with rfl | rfl
  · exact .inl (by decide)
  · exact .inr rfl

/-- A value with a byte that is not visible is no text. -/
theorem visibleText?_of_invisible {byte : UInt8} (hbyte : byte ∈ value) (h : ¬ IsVisible byte) :
    Http.visibleText? value = none := by
  rw [Option.eq_none_iff_forall_ne_some]
  intro text htext
  exact h ((visibleText?_eq_some_iff.mp htext).1 byte hbyte)

/-- What a visible value presents, by its bytes. -/
theorem presentedSecret_of_visible (h : ∀ byte ∈ value, IsVisible byte)
    (rest : List (List UInt8)) :
    (IsPadding value ∧ presentedSecret (value :: rest) = .error .noCredentials) ∨
      (¬ IsPadding value ∧ (∀ secret, ¬ BearerForm value secret) ∧
        presentedSecret (value :: rest) = .error .otherScheme) ∨
      ∃ secret, ¬ IsPadding value ∧ BearerForm value secret ∧
        presentedSecret (value :: rest) = .ok secret := by
  have htext := visibleText?_eq_some_iff.mpr ⟨h, rfl⟩
  by_cases hblank : IsPadding value
  · refine .inl ⟨hblank, ?_⟩
    simp only [presentedSecret, htext, (allBlank_iff_isPadding h).mpr hblank, if_true]
  · have hnot : ¬ Text.allBlank (String.ofList (charsOf value)) = true :=
      (allBlank_iff_isPadding h).not.mpr hblank
    cases hsecret : bearerSecret? (String.ofList (charsOf value)) with
    | none =>
      have hform := bearerSecret?_eq_none_iff_form.mp hsecret
      rw [encode_charsOf h] at hform
      refine .inr (.inl ⟨hblank, hform, ?_⟩)
      simp only [presentedSecret, htext, if_neg hnot, hsecret]
    | some secret =>
      have hform := bearerSecret?_eq_some_iff_form.mp hsecret
      rw [encode_charsOf h] at hform
      refine .inr (.inr ⟨secret, hblank, hform, ?_⟩)
      simp only [presentedSecret, htext, if_neg hnot, hsecret]

/-- All Authorization values bring none, others, or a secret, and are read as what they bring. -/
theorem presentedSecret_cases (authorization : List (List UInt8)) :
    (BringsNone authorization ∧ ¬ BringsOther authorization ∧
        presentedSecret authorization = .error .noCredentials) ∨
      (¬ BringsNone authorization ∧ BringsOther authorization ∧
        presentedSecret authorization = .error .otherScheme) ∨
      ∃ value rest secret, authorization = value :: rest ∧ BearerForm value secret ∧
        ¬ BringsNone authorization ∧ ¬ BringsOther authorization ∧
        presentedSecret authorization = .ok secret := by
  cases authorization with
  | nil => exact .inl ⟨.missing, nofun, rfl⟩
  | cons value rest =>
    by_cases hvisible : ∀ byte ∈ value, IsVisible byte
    · obtain ⟨hblank, hread⟩ | ⟨hblank, hform, hread⟩ | ⟨secret, hblank, hform, hread⟩ :=
        presentedSecret_of_visible hvisible rest
      · refine .inl ⟨.blank rest hblank, ?_, hread⟩
        rintro (⟨_, hbyte, hnot⟩ | ⟨_, hnot, -⟩)
        · exact hnot (hvisible _ hbyte)
        · exact hnot hblank
      · refine .inr (.inl ⟨?_, .foreign rest hblank hform, hread⟩)
        rintro (_ | ⟨_, hpadding⟩)
        exact hblank hpadding
      · refine .inr (.inr ⟨value, rest, secret, rfl, hform, ?_, ?_, hread⟩)
        · rintro (_ | ⟨_, hpadding⟩)
          exact hblank hpadding
        · rintro (⟨_, hbyte, hnot⟩ | ⟨_, -, hnone⟩)
          · exact hnot (hvisible _ hbyte)
          · exact hnone secret hform
    · obtain ⟨byte, hbyte, hnot⟩ : ∃ byte ∈ value, ¬ IsVisible byte := by
        simpa only [not_forall, exists_prop] using hvisible
      refine .inr (.inl ⟨?_, .invisible rest hbyte hnot, ?_⟩)
      · rintro (_ | ⟨_, hpadding⟩)
        exact hnot (hpadding.visible byte hbyte)
      · simp only [presentedSecret, visibleText?_of_invisible hbyte hnot]

end

/-! ## What the filter makes of it -/

namespace Filter

variable {σ : Type} {filter : Filter} {environment : Environment σ}
  {authorization : List (List UInt8)}

/-- A checked secret lets a request pass only as unknown. -/
theorem eq_unknownToken_of_outcome {checked : Option (Except Denial (Option Authenticated))}
    {reason : PassThrough} (h : outcome checked = .passThrough reason) :
    reason = .unknownToken := by
  match checked with
  | none => cases h
  | some (.error _) => cases h
  | some (.ok none) => exact (Outcome.passThrough.inj h).symm
  | some (.ok (some _)) => cases h

/-- Without a secret the filter decides at once, without any call. -/
theorem authenticate_of_error (henabled : filter.enabled = true) {reason : PassThrough}
    (hread : presentedSecret authorization = .error reason) :
    filter.authenticate environment authorization = Activity.done (.passThrough reason) := by
  simp only [authenticate, henabled, if_true, hread]

/-- A presented secret lets a request pass only as unknown. -/
theorem result_ne_passThrough (henabled : filter.enabled = true) {secret : String}
    (hread : presentedSecret authorization = .ok secret) {reason : PassThrough}
    (hreason : reason ≠ .unknownToken) (allowance : Option Nat) (s : σ) :
    (filter.authenticate environment authorization allowance s).result ≠
      some (.passThrough reason) := by
  simp only [authenticate, henabled, if_true, hread]
  cases hresult : (Activity.within filter.lookupTimeout
      ((verify secret).run environment) allowance s).result with
  | none => simp [Activity.bind_of_none hresult]
  | some checked =>
    rw [Activity.bind_of_some hresult]
    intro houtcome
    exact hreason (eq_unknownToken_of_outcome (Option.some.inj houtcome))

/--
A text presents a secret exactly when its bytes are seven with the letters of the scheme
and those of a secret that is not empty; any other text presents none, also one with a
character that lies across the end of the seventh byte.  So an enabled filter answers
without any call that there are no credentials, exactly when there is no value or the
first is blank, and that they are of another scheme, exactly when the first has a byte
that is not visible, or is neither blank nor of the form.  For any other header it looks
up the digest of the secret, once, before the time and a user.
-/
theorem authorization_classified (filter : Filter) (environment : Environment σ)
    (fields : List Http.Field) (allowance : Option Nat) (s : σ) :
    (∀ value secret, bearerSecret? value = some secret ↔ BearerForm (Utf8.encode value) secret) ∧
    (∀ value, bearerSecret? value = none ↔
      ∀ secret, ¬ BearerForm (Utf8.encode value) secret) ∧
    (∀ value, Utf8.Straddled value 7 → bearerSecret? value = none) ∧
    (filter.enabled = true →
      let authorization := Http.values "authorization" fields
      let run := filter.authenticate environment authorization allowance s
      (run.result = some (.passThrough .noCredentials) ↔ BringsNone authorization) ∧
      (run.result = some (.passThrough .otherScheme) ↔ BringsOther authorization) ∧
      (BringsNone authorization ∨ BringsOther authorization → run.calls = [] ∧ run.state = s) ∧
      (¬ BringsNone authorization → ¬ BringsOther authorization →
        ∃ value secret, Http.value? "authorization" fields = some value ∧
          BearerForm value secret ∧
          ∃ user more, run.calls =
              .findBySecretDigest (Sha256.digest (Utf8.encode secret)) :: more ∧
            more <+: [.now, .load user])) := by
  refine ⟨fun _ _ => bearerSecret?_eq_some_iff_form, fun _ => bearerSecret?_eq_none_iff_form,
    fun _ => bearerSecret?_of_straddled, ?_⟩
  intro henabled authorization run
  obtain ⟨hnone, hother, hread⟩ | ⟨hnone, hother, hread⟩ |
    ⟨value, rest, secret, hvalue, hform, hnone, hother, hread⟩ :=
      presentedSecret_cases authorization
  · have hrun : run = Activity.done _ allowance s :=
      congrFun₂ (authenticate_of_error henabled hread) allowance s
    rw [hrun]
    simp [Activity.done, hnone, hother]
  · have hrun : run = Activity.done _ allowance s :=
      congrFun₂ (authenticate_of_error henabled hread) allowance s
    rw [hrun]
    simp [Activity.done, hnone, hother]
  · have hnever : ∀ {reason : PassThrough}, reason ≠ .unknownToken →
        run.result ≠ some (.passThrough reason) :=
      fun hreason => result_ne_passThrough henabled hread hreason allowance s
    refine ⟨iff_of_false (hnever (by decide)) hnone, iff_of_false (hnever (by decide)) hother,
      fun hbrings => absurd hbrings (not_or.mpr ⟨hnone, hother⟩), fun _ _ => ?_⟩
    obtain ⟨left, hcalls⟩ := calls_authenticate henabled environment hread allowance s
    obtain ⟨user, more, hverify, hmore⟩ := calls_verify environment secret left s
    have hfirst : Http.value? "authorization" fields = some value :=
      congrArg List.head? hvalue
    exact ⟨value, secret, hfirst, hform, user, more, hcalls.trans hverify, hmore⟩

/-- A header whose secret begins with a blank, behind a scheme in mixed letter case. -/
def blankSecretFields : List Http.Field :=
  [.ofText "authorization" "bEaReR  x"]

/-- The secret behind the scheme is looked up with the blank that it begins with. -/
theorem authorization_classified_blankSecret :
    ∃ user more, ((Filter.mk true 2000).authenticate Backend.environment
        (Http.values "authorization" blankSecretFields) none (.ofUsers [] 0)).calls =
      .findBySecretDigest (Secret.digestOf " x") :: more ∧ more <+: [.now, .load user] := by
  have hbytes : Http.values "authorization" blankSecretFields =
      [Utf8.encode "bEaReR  x"] := by decide
  have hform : BearerForm (Utf8.encode "bEaReR  x") " x" :=
    ⟨by decide, Ascii.bytes "bEaReR ", by decide, by unfold Ascii.SameLetters; decide, by decide⟩
  have hnone : ¬ BringsNone (Http.values "authorization" blankSecretFields) := by
    rw [hbytes]
    rintro (_ | ⟨_, hpadding⟩)
    exact absurd (hpadding (ascii 'b') (by decide)) (by decide)
  have hother : ¬ BringsOther (Http.values "authorization" blankSecretFields) := by
    rw [hbytes]
    rintro (⟨_, hbyte, hnot⟩ | ⟨_, -, hforms⟩)
    · have hvisible : (Utf8.encode "bEaReR  x").all
          (fun byte => 0x20 ≤ byte ∧ byte < 0x7F) = true := by decide
      exact hnot (.inl (of_decide_eq_true (List.all_eq_true.mp hvisible _ hbyte)))
    · exact hforms " x" hform
  obtain ⟨hsome, -, -, hfilter⟩ := authorization_classified ⟨true, 2000⟩
    Backend.environment blankSecretFields none (.ofUsers [] 0)
  obtain ⟨-, -, -, hlooks⟩ := hfilter rfl
  obtain ⟨value, secret, hvalue, hfound, hcalls⟩ := hlooks hnone hother
  rw [Http.value?, hbytes, List.head?_cons, Option.some.injEq] at hvalue
  rw [← hvalue, ← hsome, (hsome _ _).mpr hform, Option.some.injEq] at hfound
  rw [← hfound] at hcalls
  exact hcalls

end Filter
end BearerTokens
