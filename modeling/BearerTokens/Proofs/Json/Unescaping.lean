import BearerTokens.Proofs.Json.Grammar

/-!
# Strings stand for what is read

However a text is escaped, reading the bytes of the string gives back the text; and if a
text is read from the bytes of a string, they stand for it.  What is read ends with the
string, whatever follows.

Main results:

- Theorem {lit}`Json.readStringBytes_unescapes`: every way to escape is read back.
- Theorem {lit}`Json.readString_body_iff`: a text is read exactly if the bytes stand for it.
- Theorem {lit}`Json.Unescapes.unique`: bytes stand for one thing only.
-/

namespace BearerTokens
namespace Json

variable {body bytes : List UInt8}

/-- Every escape of one letter is read, and none of them announces a number. -/
theorem shortEscape?_of_mem {letter byte : UInt8} (h : (letter, byte) ∈ shortEscapes) :
    letter ≠ ascii 'u' ∧ shortEscape? letter = some byte := by
  have hall : shortEscapes.all
      (fun pair => pair.1 != ascii 'u' && shortEscape? pair.1 == some pair.2) = true := by decide
  have hletter := List.all_eq_true.mp hall (letter, byte) h
  rw [Bool.and_eq_true, bne_iff_ne, beq_iff_eq] at hletter
  exact hletter

/-- The two halves of a surrogate pair are told from each other. -/
theorem not_low_of_high {n : Nat} (h : isHighSurrogate n = true) : isLowSurrogate n = false := by
  simp only [isHighSurrogate, Bool.and_eq_true, decide_eq_true_eq] at h
  simp only [isLowSurrogate, Bool.and_eq_false_iff, decide_eq_false_iff_not]
  omega

/-! ## Every way to escape is read -/

/-- A number that is no half of a pair is read as the character with this code. -/
theorem readNumbered_single {h₁ h₂ h₃ h₄ : UInt8} {n : Nat} (hn : hex4? h₁ h₂ h₃ h₄ = some n)
    (hhigh : isHighSurrogate n = false) (hlow : isLowSurrogate n = false) (rest : List UInt8) :
    readNumbered (h₁ :: h₂ :: h₃ :: h₄ :: rest) = some (Char.ofNat n, rest) := by
  simp only [readNumbered, hn, hlow, hhigh, Bool.false_eq_true, if_false]

/-- A number that is a first half is read together with the second half behind it. -/
theorem readNumbered_pair {h₁ h₂ h₃ h₄ l₁ l₂ l₃ l₄ : UInt8} {high low : Nat}
    (hhigh : hex4? h₁ h₂ h₃ h₄ = some high) (hfirst : isHighSurrogate high = true)
    (hlow : hex4? l₁ l₂ l₃ l₄ = some low) (hsecond : isLowSurrogate low = true)
    (rest : List UInt8) :
    readNumbered (h₁ :: h₂ :: h₃ :: h₄ ::
        ascii '\\' :: ascii 'u' :: l₁ :: l₂ :: l₃ :: l₄ :: rest) =
      some (pairChar high low, rest) := by
  simp only [readNumbered, hhigh, hfirst, not_low_of_high hfirst, hlow, hsecond, and_self,
    Bool.false_eq_true, if_false, if_true]

/-- A character is added behind what was read. -/
theorem reverse_pushChar (read : List UInt8) (c : Char) :
    (pushChar read c).reverse = read.reverse ++ String.utf8EncodeChar c := by
  rw [pushChar, List.reverse_append, List.reverse_reverse]

/-- The bytes of a string are read as what they stand for, up to the closing quote. -/
theorem readStringBytes_unescapes (h : Unescapes body bytes) (read rest : List UInt8) :
    readStringBytes read (body ++ ascii '"' :: rest) = some (read.reverse ++ bytes, rest) := by
  induction h generalizing read with
  | nil => rw [List.nil_append, readStringBytes_quote, List.append_nil]
  | plain hb _ ih =>
    rw [List.cons_append, readStringBytes_cons hb, ih, List.reverse_cons, List.append_assoc,
      List.singleton_append]
  | short hmem _ ih =>
    have hletter := shortEscape?_of_mem hmem
    rw [List.cons_append, List.cons_append, readStringBytes_letter hletter.1 hletter.2, ih,
      List.reverse_cons, List.append_assoc, List.singleton_append]
  | numbered hn hhigh hlow _ ih =>
    simp only [List.cons_append]
    rw [readStringBytes_numbered (readNumbered_single hn hhigh hlow _), ih, reverse_pushChar,
      List.append_assoc]
  | pair hhigh hfirst hlow hsecond _ ih =>
    simp only [List.cons_append]
    rw [readStringBytes_numbered (readNumbered_pair hhigh hfirst hlow hsecond _), ih,
      reverse_pushChar, List.append_assoc]

/-- The bytes of a string stand for one thing only. -/
theorem Unescapes.unique {other : List UInt8} (h : Unescapes body bytes)
    (hother : Unescapes body other) : bytes = other := by
  have hread := readStringBytes_unescapes h [] []
  rw [readStringBytes_unescapes hother [] [], Option.some.injEq, Prod.mk.injEq] at hread
  exact hread.1.symm

/-- A member has one key only. -/
theorem Entry.HasKey.unique {entry : Entry} {key other : String} (h : entry.HasKey key)
    (hother : entry.HasKey other) : key = other :=
  Utf8.encode_injective (Unescapes.unique h hother)

/-! ## Nothing else is read -/

/-- What looks like an escape by number at the front of a string is one of its escapes. -/
theorem IsBody.eq_numbered {h₁ h₂ h₃ h₄ : UInt8} {rest tail : List UInt8} (hbody : IsBody body)
    (h : body ++ ascii '"' :: rest =
      ascii '\\' :: ascii 'u' :: h₁ :: h₂ :: h₃ :: h₄ :: tail) :
    ∃ behind, IsBody behind ∧ tail = behind ++ ascii '"' :: rest ∧
      body = ascii '\\' :: ascii 'u' :: h₁ :: h₂ :: h₃ :: h₄ :: behind := by
  cases hbody with
  | nil =>
    have hquote : ascii '"' = ascii '\\' := (List.cons.inj h).1
    exact absurd hquote (by decide)
  | plain hb _ => exact absurd (List.cons.inj h).1 hb.2.1
  | short hmem _ =>
    have hu := (List.cons.inj (List.cons.inj h).2).1
    exact absurd hu (shortEscape?_of_mem hmem).1
  | numbered _ hbehind =>
    simp only [List.cons_append, List.cons.injEq, true_and] at h
    obtain ⟨rfl, rfl, rfl, rfl, htail⟩ := h
    exact ⟨_, hbehind, htail.symm, rfl⟩

/--
What is read of an escape by number inside a string: the character of the number, or that
of a pair whose second half comes next in the string.
-/
theorem readNumbered_body {h₁ h₂ h₃ h₄ : UInt8} {n : Nat} {rest after : List UInt8} {c : Char}
    (hn : hex4? h₁ h₂ h₃ h₄ = some n) (hbody : IsBody body)
    (h : readNumbered (h₁ :: h₂ :: h₃ :: h₄ :: (body ++ ascii '"' :: rest)) = some (c, after)) :
    ∃ behind, IsBody behind ∧ behind.length ≤ body.length ∧ after = behind ++ ascii '"' :: rest ∧
      ∀ bytes, Unescapes behind bytes →
        Unescapes (ascii '\\' :: ascii 'u' :: h₁ :: h₂ :: h₃ :: h₄ :: body)
          (String.utf8EncodeChar c ++ bytes) := by
  simp only [readNumbered, hn] at h
  split at h
  · cases h
  next hlow =>
  rw [Bool.not_eq_true] at hlow
  split at h
  · next hhigh =>
    split at h
    · next b u l₁ l₂ l₃ l₄ tail hsplit =>
      split at h
      · next hescape =>
        rw [hescape.1, hescape.2] at hsplit
        obtain ⟨behind, hbehind, htail, rfl⟩ := hbody.eq_numbered hsplit
        split at h
        · cases h
        · next low hsecond =>
          split at h
          · next hlow =>
            rw [Option.some.injEq, Prod.mk.injEq] at h
            obtain ⟨rfl, rfl⟩ := h
            refine ⟨behind, hbehind, ?_, htail, fun bytes hbytes =>
              .pair hn hhigh hsecond hlow hbytes⟩
            simp only [List.length_cons]
            omega
          · cases h
      · cases h
    · cases h
  · next hhigh =>
    rw [Bool.not_eq_true] at hhigh
    cases h
    exact ⟨body, hbody, Nat.le_refl _, rfl, fun bytes hbytes => .numbered hn hhigh hlow hbytes⟩

/-- If the bytes of a string are read, what is read is what they stand for. -/
theorem unescapes_of_readStringBytes {read rest text left : List UInt8} (hbody : IsBody body)
    (h : readStringBytes read (body ++ ascii '"' :: rest) = some (text, left)) :
    left = rest ∧ ∃ bytes, Unescapes body bytes ∧ text = read.reverse ++ bytes := by
  -- A pair takes two escapes at once, so the induction is on the number of bytes.
  induction hlength : body.length using Nat.strongRecOn generalizing body read with
  | _ size ih =>
    subst hlength
    cases hbody with
    | nil =>
      rw [List.nil_append, readStringBytes_quote] at h
      cases h
      exact ⟨rfl, [], .nil, (List.append_nil _).symm⟩
    | @plain b behind hb hbehind =>
      rw [List.cons_append, readStringBytes_cons hb] at h
      obtain ⟨hleft, bytes, hbytes, htext⟩ := ih behind.length (by simp) hbehind h rfl
      refine ⟨hleft, b :: bytes, .plain hb hbytes, ?_⟩
      rw [htext, List.reverse_cons, List.append_assoc, List.singleton_append]
    | @short letter byte behind hmem hbehind =>
      have hletter := shortEscape?_of_mem hmem
      rw [List.cons_append, List.cons_append, readStringBytes_letter hletter.1 hletter.2] at h
      have hless : behind.length < (ascii '\\' :: letter :: behind).length := by
        simp only [List.length_cons]
        omega
      obtain ⟨hleft, bytes, hbytes, htext⟩ := ih behind.length hless hbehind h rfl
      refine ⟨hleft, byte :: bytes, .short hmem hbytes, ?_⟩
      rw [htext, List.reverse_cons, List.append_assoc, List.singleton_append]
    | @numbered h₁ h₂ h₃ h₄ n behind hn hbehind =>
      simp only [List.cons_append] at h
      cases hread : readNumbered (h₁ :: h₂ :: h₃ :: h₄ :: (behind ++ ascii '"' :: rest)) with
      | none =>
        rw [readStringBytes_unreadable hread] at h
        cases h
      | some result =>
        obtain ⟨c, after⟩ := result
        rw [readStringBytes_numbered hread] at h
        obtain ⟨last, hlast, hle, rfl, hunescapes⟩ := readNumbered_body hn hbehind hread
        have hless : last.length < (ascii '\\' :: ascii 'u' :: h₁ :: h₂ :: h₃ :: h₄ ::
            behind).length := by
          simp only [List.length_cons]
          omega
        obtain ⟨hleft, bytes, hbytes, htext⟩ := ih last.length hless hlast h rfl
        refine ⟨hleft, _, hunescapes bytes hbytes, ?_⟩
        rw [htext, reverse_pushChar, List.append_assoc]

/-- A text is read of a string exactly if the bytes of the string stand for it. -/
theorem readString_body_iff {rest left : List UInt8} {s : String} (hbody : IsBody body) :
    readString (body ++ ascii '"' :: rest) = some (s, left) ↔
      Unescapes body (Utf8.encode s) ∧ left = rest := by
  constructor
  · intro h
    rw [readString] at h
    split at h
    · cases h
    · next text after hread =>
      obtain ⟨rfl, bytes, hbytes, rfl⟩ := unescapes_of_readStringBytes hbody hread
      rw [Option.map_eq_some_iff] at h
      obtain ⟨read, hdecode, heq⟩ := h
      cases heq
      rw [Utf8.decode?_eq_some_iff] at hdecode
      rw [hdecode]
      exact ⟨hbytes, rfl⟩
  · rintro ⟨hunescapes, rfl⟩
    have hread := readStringBytes_unescapes hunescapes [] left
    rw [List.reverse_nil, List.nil_append] at hread
    simp only [readString, hread, Utf8.decode?_encode, Option.map_some]

end Json
end BearerTokens
