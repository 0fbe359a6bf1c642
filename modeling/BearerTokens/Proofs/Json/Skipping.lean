import BearerTokens.Json.ReadNumber
import BearerTokens.Proofs.Json.Grammar
import BearerTokens.Proofs.Json.RoundTrip

/-!
# Skipped values

Skipping takes the text of a value as the grammar has it, nested to any depth, and leaves
what comes after it.  The items of an array and the members of an object are skipped for
one reason: each is a part of its bracket behind which skipping stands at what follows.

Main results:

- Theorem {lit}`Json.skipString_body`: the rest of a string is skipped.
- Theorem {lit}`Json.skipUnsigned_literal`: a number is skipped.
- Theorem {lit}`Json.isSkipped_text`: a value is skipped inside any brackets.
- Theorem {lit}`Json.skipValue_padded`: a value is skipped with the blanks in front.
-/

namespace BearerTokens
namespace Json

variable {rest : List UInt8}

/-! ## Blanks -/

/-- Blanks are dropped. -/
theorem skipSpace_blanks {blanks : List UInt8} (h : Blanks blanks) (rest : List UInt8) :
    skipSpace (blanks ++ rest) = skipSpace rest := by
  induction blanks with
  | nil => rfl
  | cons b blanks ih =>
    have hb : isSpace b = true := h b List.mem_cons_self
    rw [List.cons_append, skipSpace, if_pos hb]
    exact ih fun c hc => h c (List.mem_cons_of_mem b hc)

/-- Behind dropped blanks there are none left. -/
theorem skipSpace_skipSpace (bytes : List UInt8) :
    skipSpace (skipSpace bytes) = skipSpace bytes := by
  induction bytes with
  | nil => rfl
  | cons b rest ih =>
    cases hb : isSpace b with
    | true =>
      rw [skipSpace, if_pos hb]
      exact ih
    | false => rw [skipSpace_cons hb, skipSpace_cons hb]

/-! ## Strings -/

/-- A byte of a string that stands for itself is skipped. -/
theorem skipString_cons {b : UInt8} {bytes : List UInt8} (hb : IsPlain b) (hbytes : bytes ≠ []) :
    skipString (b :: bytes) = skipString bytes := by
  cases bytes with
  | nil => exact absurd rfl hbytes
  | cons c rest =>
    rw [skipString.eq_def]
    simp only [if_neg hb.1, if_neg hb.2.1, if_neg hb.2.2]

/-- A quote ends a string. -/
theorem skipString_quote (rest : List UInt8) : skipString (ascii '"' :: rest) = some rest := by
  cases rest with
  | nil => rfl
  | cons c rest =>
    rw [skipString.eq_def]
    simp only [if_true]

/-- The rest of a string is skipped with its closing quote. -/
theorem skipString_body {body : List UInt8} (h : IsBody body) (rest : List UInt8) :
    skipString (body ++ ascii '"' :: rest) = some rest := by
  have hquote : ascii '\\' ≠ ascii '"' := by decide
  induction h with
  | nil => exact skipString_quote rest
  | plain hb _ ih =>
    rw [List.cons_append, skipString_cons hb (by simp), ih]
  | @short letter byte body hmem _ ih =>
    have hall :
        shortEscapes.all (fun pair => pair.1 != ascii 'u' && isShortEscape pair.1) = true := by
      decide
    have hletter := List.all_eq_true.mp hall (letter, byte) hmem
    rw [Bool.and_eq_true, bne_iff_ne] at hletter
    rw [List.cons_append, List.cons_append, skipString.eq_def]
    simp only [if_neg hquote, if_true, if_neg hletter.1, hletter.2, ih]
  | @numbered h₁ h₂ h₃ h₄ n body hn _ ih =>
    have hdigits : (Hex.byteValue? h₁).isSome && (Hex.byteValue? h₂).isSome &&
        (Hex.byteValue? h₃).isSome && (Hex.byteValue? h₄).isSome := by
      unfold hex4? at hn
      split at hn
      · next hone htwo hthree hfour => simp only [hone, htwo, hthree, hfour, Option.isSome_some,
          Bool.and_self]
      · cases hn
    simp only [List.cons_append]
    rw [skipString, if_neg hquote, if_pos rfl, if_pos rfl]
    simp only [hdigits, if_true, ih]

/-! ## Numbers -/

/-- A byte string on which no number goes on, neither as an integer nor as another number. -/
structure EndsLiteral (bytes : List UInt8) : Prop where
  integer : EndsNumber bytes
  binary : isBinaryAhead bytes = false

/-- The bytes that end a number are no part of one. -/
theorem endsLiteral_cons {b : UInt8} (hdigit : Ascii.isDigit b = false)
    (hpoint : b ≠ ascii '.') (hletter : ¬ (b = ascii 'e' ∨ b = ascii 'E')) (rest : List UInt8) :
    EndsLiteral (b :: rest) := by
  refine ⟨endsNumber_cons hdigit rest, ?_⟩
  rw [not_or] at hletter
  simp only [isBinaryAhead, Bool.or_eq_false_iff, beq_eq_false_iff_ne]
  exact ⟨⟨hpoint, hletter.1⟩, hletter.2⟩

/-- Behind a number there is neither a point nor the letter of an exponent. -/
theorem EndsLiteral.ne {b : UInt8} (h : EndsLiteral (b :: rest)) :
    b ≠ ascii '.' ∧ ¬ (b = ascii 'e' ∨ b = ascii 'E') := by
  have hbinary := h.binary
  simp only [isBinaryAhead, Bool.or_eq_false_iff, beq_eq_false_iff_ne] at hbinary
  rw [not_or]
  exact ⟨hbinary.1.1, hbinary.1.2, hbinary.2⟩

/-- Blanks end a number if what follows them does. -/
theorem EndsLiteral.blanks {blanks : List UInt8} (hblanks : Blanks blanks) (h : EndsLiteral rest) :
    EndsLiteral (blanks ++ rest) := by
  cases blanks with
  | nil => exact h
  | cons b blanks =>
    have hb : isSpace b = true := hblanks b List.mem_cons_self
    simp only [isSpace, Bool.or_eq_true, beq_iff_eq] at hb
    rcases hb with ((rfl | rfl) | rfl) | rfl
    · exact endsLiteral_cons (by decide) (by decide) (by decide) _
    · exact endsLiteral_cons (by decide) (by decide) (by decide) _
    · exact endsLiteral_cons (by decide) (by decide) (by decide) _
    · exact endsLiteral_cons (by decide) (by decide) (by decide) _

/-- Behind a number, no digits are counted. -/
theorem EndsNumber.digitCount (h : EndsNumber rest) : Ascii.digitCount rest = 0 := by
  cases rest with
  | nil => rfl
  | cons b tail =>
    have hb : Ascii.isDigit b = false := h b rfl
    rw [Ascii.digitCount, hb]
    rfl

/-- Digits begin with one. -/
theorem IsDigits.exists_cons {digits : List UInt8} (h : IsDigits digits) :
    ∃ b tail, digits = b :: tail ∧ Ascii.isDigit b = true := by
  obtain ⟨b, tail, rfl⟩ := List.exists_cons_of_ne_nil h.ne_nil
  exact ⟨b, tail, rfl, h.digit b List.mem_cons_self⟩

/-- Some digits are counted. -/
theorem IsDigits.digitCount_ne {digits : List UInt8} (h : IsDigits digits) (rest : List UInt8) :
    Ascii.digitCount (digits ++ rest) ≠ 0 := by
  obtain ⟨b, tail, rfl, hb⟩ := h.exists_cons
  rw [List.cons_append, Ascii.digitCount, if_pos hb]
  exact Nat.succ_ne_zero _

/-- Digits are skipped up to what ends them. -/
theorem skipDigits_append {digits : List UInt8} (h : IsDigits digits) (hrest : EndsNumber rest) :
    skipDigits (digits ++ rest) = some rest := by
  rw [skipDigits, if_neg (h.digitCount_ne rest), dropDigits_append h.digit hrest]

/-- The sign of an exponent is dropped in front of its digits. -/
theorem dropSign_append {sign digits : List UInt8}
    (hsign : sign ∈ [[], [ascii '+'], [ascii '-']]) (h : IsDigits digits) (rest : List UInt8) :
    dropSign (sign ++ digits ++ rest) = digits ++ rest := by
  simp only [List.mem_cons, List.not_mem_nil, or_false] at hsign
  rcases hsign with rfl | rfl | rfl
  · obtain ⟨b, tail, rfl, hb⟩ := h.exists_cons
    have hne : ¬ (b = ascii '+' ∨ b = ascii '-') := by
      rw [not_or]
      exact ⟨ne_of_isDigit hb (by decide), ne_of_isDigit hb (by decide)⟩
    rw [List.nil_append, List.cons_append, dropSign, if_neg hne]
  · rfl
  · rfl

/-- An exponent is skipped if there is one. -/
theorem skipExponent_append {exponent : List UInt8} (h : IsExponent exponent)
    (hrest : EndsLiteral rest) : skipExponent (exponent ++ rest) = some rest := by
  cases h with
  | none =>
    cases rest with
    | nil => rfl
    | cons b tail => rw [List.nil_append, skipExponent, if_neg hrest.ne.2]
  | @digits letter sign digits hletter hsign hdigits =>
    have hexponent : letter = ascii 'e' ∨ letter = ascii 'E' := by simpa using hletter
    rw [List.cons_append, skipExponent, if_pos hexponent, dropSign_append hsign hdigits,
      skipDigits_append hdigits hrest.integer]

/-- Neither a digit nor a point follows a whole number or a fraction by itself. -/
theorem IsExponent.ends {exponent : List UInt8} (h : IsExponent exponent)
    (hrest : EndsLiteral rest) :
    EndsNumber (exponent ++ rest) ∧ (exponent ++ rest).head? ≠ some (ascii '.') := by
  cases h with
  | none =>
    refine ⟨hrest.integer, ?_⟩
    cases rest with
    | nil => exact nofun
    | cons b tail => exact fun hb => hrest.ne.1 (Option.some.inj hb)
  | @digits letter sign digits hletter hsign hdigits =>
    simp only [List.mem_cons, List.not_mem_nil, or_false] at hletter
    rcases hletter with rfl | rfl
    · exact ⟨endsNumber_cons (by decide) _, fun h => absurd (Option.some.inj h) (by decide)⟩
    · exact ⟨endsNumber_cons (by decide) _, fun h => absurd (Option.some.inj h) (by decide)⟩

/-- A fraction and an exponent are skipped if there are any. -/
theorem skipFraction_append {fraction exponent : List UInt8} (hfraction : IsFraction fraction)
    (hexponent : IsExponent exponent) (hrest : EndsLiteral rest) :
    skipFraction (fraction ++ (exponent ++ rest)) = some rest := by
  have hends := hexponent.ends hrest
  have hskip := skipExponent_append hexponent hrest
  cases hfraction with
  | none =>
    rw [List.nil_append]
    cases hbytes : exponent ++ rest with
    | nil =>
      rw [hbytes] at hskip
      exact hskip
    | cons b tail =>
      have hpoint : b ≠ ascii '.' := by
        rintro rfl
        exact hends.2 (by rw [hbytes]; rfl)
      rw [skipFraction, if_neg hpoint, ← hbytes, hskip]
  | digits hdigits =>
    rw [List.cons_append, skipFraction, if_pos rfl, skipDigits_append hdigits hends.1,
      Option.bind_some, hskip]

/-- What follows the whole part of a number does not begin with a digit. -/
theorem endsNumber_fraction {fraction exponent : List UInt8} (hfraction : IsFraction fraction)
    (hexponent : IsExponent exponent) (hrest : EndsLiteral rest) :
    EndsNumber (fraction ++ (exponent ++ rest)) := by
  cases hfraction with
  | none => exact (hexponent.ends hrest).1
  | digits _ => exact endsNumber_cons (by decide) _

/-- A number begins with a digit or a minus sign. -/
theorem IsUnsigned.exists_cons {literal : List UInt8} (h : IsUnsigned literal) :
    ∃ b tail, literal = b :: tail ∧ Ascii.isDigit b = true := by
  cases h with
  | parts hwhole _ _ =>
    obtain ⟨b, tail, rfl, hb⟩ := hwhole.toIsDigits.exists_cons
    exact ⟨b, _, rfl, hb⟩

/-- A number without its sign is skipped. -/
theorem skipUnsigned_literal {literal : List UInt8} (h : IsUnsigned literal)
    (hrest : EndsLiteral rest) : skipUnsigned (literal ++ rest) = some rest := by
  cases h with
  | @parts whole fraction exponent hwhole hfraction hexponent =>
    have hends := endsNumber_fraction hfraction hexponent hrest
    have hskip := skipFraction_append hfraction hexponent hrest
    obtain ⟨b, tail, rfl, hb⟩ := hwhole.toIsDigits.exists_cons
    simp only [List.cons_append, List.append_assoc]
    by_cases hzero : b = ascii '0'
    · have halone : tail = [] := (List.cons.inj (hwhole.alone (congrArg some hzero))).2
      rw [halone, List.nil_append, skipUnsigned, if_pos hzero, if_pos hends.digitCount, hskip]
    · have htail : ∀ c ∈ tail, Ascii.isDigit c = true :=
        fun c hc => hwhole.digit c (List.mem_cons_of_mem b hc)
      rw [skipUnsigned, if_neg hzero, if_pos hb, dropDigits_append htail hends, hskip]

/-! ## Scalars -/

/-- Go on from where skipping stands. -/
def Position.proceed : Position → Option (List UInt8)
  | .finished rest => some rest
  | .value brackets rest => skipFrom brackets rest

/-- Skipping goes on from the first token. -/
theorem skipFrom_eq (brackets : List Bracket) (bytes : List UInt8) :
    skipFrom brackets bytes = (skipToken brackets bytes).bind Position.proceed := by
  rw [skipFrom]
  split
  · next hnone =>
    rw [hnone]
    rfl
  · next rest hfinished =>
    rw [hfinished]
    rfl
  · next inner rest hvalue =>
    rw [hvalue]
    rfl

/-- Blanks in front of a value are skipped. -/
theorem skipFrom_skipSpace (brackets : List Bracket) (bytes : List UInt8) :
    skipFrom brackets (skipSpace bytes) = skipFrom brackets bytes := by
  rw [skipFrom_eq, skipFrom_eq, skipToken, skipToken, skipSpace_skipSpace]

/-- A scalar is followed by what comes after it. -/
theorem skipFrom_of_skipScalar {b : UInt8} {bytes : List UInt8} (hspace : isSpace b = false)
    (harray : b ≠ ascii '[') (hobject : b ≠ ascii '\x7b')
    (h : skipScalar (b :: bytes) = some rest) (brackets : List Bracket) :
    skipFrom brackets (b :: bytes) = (afterValue brackets rest).bind Position.proceed := by
  rw [skipFrom_eq, skipToken]
  simp only [skipSpace_cons hspace, if_neg harray, if_neg hobject, h, Option.bind_some]

/-- A number is skipped. -/
theorem skipFrom_number {literal : List UInt8} (h : IsNumber literal) (brackets : List Bracket)
    (hrest : EndsLiteral rest) :
    skipFrom brackets (literal ++ rest) = (afterValue brackets rest).bind Position.proceed := by
  cases h with
  | positive hunsigned =>
    have hskip := skipUnsigned_literal hunsigned hrest
    obtain ⟨b, tail, rfl, hb⟩ := hunsigned.exists_cons
    have hscalar : skipScalar (b :: (tail ++ rest)) = some rest := by
      rw [skipScalar, if_neg (ne_of_isDigit hb (by decide)),
        if_neg (ne_of_isDigit hb (by decide)), if_neg (ne_of_isDigit hb (by decide)),
        if_neg (ne_of_isDigit hb (by decide)), if_neg (ne_of_isDigit hb (by decide))]
      exact hskip
    exact skipFrom_of_skipScalar (isSpace_of_isDigit hb) (ne_of_isDigit hb (by decide))
      (ne_of_isDigit hb (by decide)) hscalar brackets
  | @negative literal hunsigned =>
    have hscalar : skipScalar (ascii '-' :: (literal ++ rest)) = some rest := by
      rw [skipScalar, if_neg (by decide), if_neg (by decide), if_neg (by decide),
        if_neg (by decide), if_pos rfl, skipUnsigned_literal hunsigned hrest]
    exact skipFrom_of_skipScalar (by decide) (by decide) (by decide) hscalar brackets

/-! ## Brackets -/

/-- Blanks behind a value are skipped inside a bracket. -/
theorem afterValue_blanks {blanks : List UInt8} (h : Blanks blanks) (bracket : Bracket)
    (outer : List Bracket) (rest : List UInt8) :
    afterValue (bracket :: outer) (blanks ++ rest) = afterValue (bracket :: outer) rest := by
  induction blanks with
  | nil => rfl
  | cons b blanks ih =>
    have hb : isSpace b = true := h b List.mem_cons_self
    rw [List.cons_append, afterValue, if_pos hb]
    exact ih fun c hc => h c (List.mem_cons_of_mem b hc)

/-- The byte that closes a bracket is neither a blank nor a comma. -/
theorem isSpace_closing (bracket : Bracket) :
    isSpace bracket.closing = false ∧ bracket.closing ≠ ascii ',' := by
  cases bracket <;> decide

/-- A bracket is closed by its byte. -/
theorem afterValue_closing (bracket : Bracket) (outer : List Bracket) (rest : List UInt8) :
    afterValue (bracket :: outer) (bracket.closing :: rest) = afterValue outer rest := by
  have hclosing := isSpace_closing bracket
  rw [afterValue, hclosing.1, if_neg Bool.false_ne_true, if_neg hclosing.2, if_pos rfl]

/-- Behind a comma comes the next value of a bracket. -/
theorem afterValue_comma (bracket : Bracket) (outer : List Bracket) (rest : List UInt8) :
    afterValue (bracket :: outer) (ascii ',' :: rest) = nextValue (bracket :: outer) rest := by
  rw [afterValue, if_neg (by decide), if_pos rfl]

/-- The byte that closes a bracket ends a number. -/
theorem endsLiteral_closing (bracket : Bracket) (rest : List UInt8) :
    EndsLiteral (bracket.closing :: rest) := by
  cases bracket with
  | array => exact endsLiteral_cons (by decide) (by decide) (by decide) rest
  | object => exact endsLiteral_cons (by decide) (by decide) (by decide) rest

/-- Bytes behind which skipping inside a bracket stands as behind a value. -/
def IsPart (bracket : Bracket) (part : List UInt8) : Prop :=
  ∀ (outer : List Bracket) {rest : List UInt8}, EndsLiteral rest →
    (nextValue (bracket :: outer) (part ++ rest)).bind Position.proceed =
      (afterValue (bracket :: outer) rest).bind Position.proceed

/-- The parts of a bracket are skipped one after the other, up to the byte that closes it. -/
theorem skip_parts {bracket : Bracket} {first : List UInt8} {others : List (List UInt8)}
    (h : ∀ part ∈ first :: others, IsPart bracket part) (outer : List Bracket)
    (rest : List UInt8) :
    (nextValue (bracket :: outer)
        (listing (first :: others) ++ bracket.closing :: rest)).bind Position.proceed =
      (afterValue outer rest).bind Position.proceed := by
  -- Behind a part stands a comma or the closing byte, and both end a number.
  have hfirst : IsPart bracket first := h first List.mem_cons_self
  induction others generalizing first with
  | nil =>
    rw [listing, List.flatMap_nil, List.append_nil, hfirst outer (endsLiteral_closing bracket rest),
      afterValue_closing]
  | cons second others ih =>
    have hothers : ∀ part ∈ second :: others, IsPart bracket part :=
      fun part hpart => h part (List.mem_cons_of_mem first hpart)
    have hmore := ih hothers (hothers second List.mem_cons_self)
    have hcomma : EndsLiteral (ascii ',' :: (listing (second :: others) ++
        bracket.closing :: rest)) :=
      endsLiteral_cons (by decide) (by decide) (by decide) _
    have hbytes : listing (first :: second :: others) ++ bracket.closing :: rest =
        first ++ ascii ',' :: (listing (second :: others) ++ bracket.closing :: rest) := by
      simp only [listing, List.flatMap_cons, List.cons_append, List.append_assoc]
    rw [hbytes, hfirst outer hcomma, afterValue_comma, hmore]

/-- Blanks in front of a part are skipped. -/
theorem nextValue_skipSpace (brackets : List Bracket) (bytes : List UInt8) :
    (nextValue brackets (skipSpace bytes)).bind Position.proceed =
      (nextValue brackets bytes).bind Position.proceed := by
  have hvalue := skipFrom_skipSpace brackets bytes
  cases brackets with
  | nil => exact hvalue
  | cons bracket outer =>
    cases bracket with
    | array => exact hvalue
    | object => simp only [nextValue, skipKey, skipSpace_skipSpace]

/-- A bracket that is not closed at once goes on with its first part. -/
theorem afterOpening_part {bracket : Bracket} {bytes tail : List UInt8} {b : UInt8}
    (hbytes : skipSpace bytes = b :: tail) (hb : b ≠ bracket.closing) (outer : List Bracket) :
    (afterOpening bracket outer bytes).bind Position.proceed =
      (nextValue (bracket :: outer) bytes).bind Position.proceed := by
  rw [← nextValue_skipSpace, hbytes, afterOpening, hbytes]
  simp only [if_neg hb]

/-- A bracket with blanks only is closed at once. -/
theorem afterOpening_blanks {inner : List UInt8} (h : Blanks inner) (bracket : Bracket)
    (outer : List Bracket) (rest : List UInt8) :
    afterOpening bracket outer (inner ++ bracket.closing :: rest) = afterValue outer rest := by
  rw [afterOpening, skipSpace_blanks h, skipSpace_cons (isSpace_closing bracket).1]
  simp only [if_true]

/-- Behind an opening bracket its parts are skipped. -/
theorem skip_opened {bracket : Bracket} {first tail : List UInt8} {others : List (List UInt8)}
    {b : UInt8} (h : ∀ part ∈ first :: others, IsPart bracket part)
    (hfirst : ∀ more, skipSpace (first ++ more) = b :: (tail ++ more)) (hb : b ≠ bracket.closing)
    (outer : List Bracket) (rest : List UInt8) :
    (afterOpening bracket outer
        (listing (first :: others) ++ bracket.closing :: rest)).bind Position.proceed =
      (afterValue outer rest).bind Position.proceed := by
  have hbytes : skipSpace (listing (first :: others) ++ bracket.closing :: rest) =
      b :: (tail ++ (others.flatMap (ascii ',' :: ·) ++ bracket.closing :: rest)) := by
    rw [listing, List.append_assoc, hfirst]
  rw [afterOpening_part hbytes hb, skip_parts h]

/-! ## Values -/

/-- The text of a value begins neither with a blank nor with a closing bracket. -/
theorem IsText.exists_cons {text : List UInt8} (h : IsText text) :
    ∃ b tail, text = b :: tail ∧ isSpace b = false ∧ b ≠ ascii ']' := by
  cases h with
  | null => exact ⟨_, _, rfl, by decide, by decide⟩
  | yes => exact ⟨_, _, rfl, by decide, by decide⟩
  | no => exact ⟨_, _, rfl, by decide, by decide⟩
  | number hnumber =>
    cases hnumber with
    | positive hunsigned =>
      obtain ⟨b, tail, rfl, hb⟩ := hunsigned.exists_cons
      exact ⟨b, tail, rfl, isSpace_of_isDigit hb, ne_of_isDigit hb (by decide)⟩
    | negative _ => exact ⟨_, _, rfl, by decide, by decide⟩
  | string _ => exact ⟨_, _, rfl, by decide, by decide⟩
  | emptyArray _ => exact ⟨_, _, rfl, by decide, by decide⟩
  | array _ _ => exact ⟨_, _, rfl, by decide, by decide⟩
  | emptyObject _ => exact ⟨_, _, rfl, by decide, by decide⟩
  | object _ _ => exact ⟨_, _, rfl, by decide, by decide⟩

/-- A text that is skipped inside any brackets, whatever ends it. -/
def IsSkipped (text : List UInt8) : Prop :=
  ∀ (brackets : List Bracket) {rest : List UInt8}, EndsLiteral rest →
    skipFrom brackets (text ++ rest) = (afterValue brackets rest).bind Position.proceed

/-- A value is skipped with the blanks around it inside a bracket. -/
theorem skipFrom_padded {padded : Padded} (hblank : padded.Blank) (h : IsSkipped padded.core)
    (bracket : Bracket) (outer : List Bracket) (hrest : EndsLiteral rest) :
    skipFrom (bracket :: outer) (padded.bytes ++ rest) =
      (afterValue (bracket :: outer) rest).bind Position.proceed := by
  rw [Padded.bytes, List.append_assoc, List.append_assoc, ← skipFrom_skipSpace,
    skipSpace_blanks hblank.before, skipFrom_skipSpace,
    h (bracket :: outer) (hrest.blanks hblank.after), afterValue_blanks hblank.after]

/-- An item is a part of an array. -/
theorem isPart_item {item : Padded} (hblank : item.Blank) (h : IsSkipped item.core) :
    IsPart .array item.bytes := by
  intro outer rest hrest
  exact skipFrom_padded hblank h .array outer hrest

/-- Behind the blanks in front, a member begins with the quote of its key. -/
theorem skipSpace_entry {entry : Entry} (h : entry.Framed) (more : List UInt8) :
    skipSpace (entry.bytes ++ more) =
      ascii '"' :: (entry.behind ++ more) := by
  rw [Entry.bytes, List.append_assoc, skipSpace_blanks h.before, List.cons_append,
    skipSpace_cons (by decide)]

/-- The key of a member is skipped with the colon behind it. -/
theorem skipKey_entry {entry : Entry} (h : entry.Framed) (rest : List UInt8) :
    skipKey (entry.bytes ++ rest) = some (entry.value.bytes ++ rest) := by
  have hcolon : isSpace (ascii ':') = false := by decide
  rw [skipKey, skipSpace_entry h, Entry.behind]
  simp only [List.append_assoc, List.cons_append, if_true, skipString_body h.key,
    skipSpace_blanks h.between, skipSpace_cons hcolon]

/-- A member is a part of an object. -/
theorem isPart_entry {entry : Entry} (hframed : entry.Framed) (h : IsSkipped entry.value.core) :
    IsPart .object entry.bytes := by
  intro outer rest hrest
  rw [nextValue, skipKey_entry hframed, Option.map_some, Option.bind_some, Position.proceed]
  exact skipFrom_padded hframed.value h .object outer hrest

/-- A value is skipped inside any brackets. -/
theorem isSkipped_text {text : List UInt8} (h : IsText text) : IsSkipped text := by
  -- The induction is on the nesting; for the values inside a bracket it gives that they are
  -- skipped inside any brackets, the new one among them.
  have hkeyword : ∀ (b : UInt8) {word : List UInt8}, isSpace b = false → b ≠ ascii '[' →
      b ≠ ascii '\x7b' → (∀ rest, skipScalar (b :: (word ++ rest)) = some rest) →
        IsSkipped (b :: word) :=
    fun b word hspace harray hobject hscalar brackets rest _ =>
      skipFrom_of_skipScalar hspace harray hobject (hscalar rest) brackets
  induction h with
  | null => exact hkeyword (ascii 'n') (by decide) (by decide) (by decide) fun _ => rfl
  | yes => exact hkeyword (ascii 't') (by decide) (by decide) (by decide) fun _ => rfl
  | no => exact hkeyword (ascii 'f') (by decide) (by decide) (by decide) fun _ => rfl
  | number hnumber => exact fun brackets _ hrest => skipFrom_number hnumber brackets hrest
  | @string body hbody =>
    refine hkeyword (ascii '"') (by decide) (by decide) (by decide) fun rest => ?_
    rw [List.append_assoc, List.singleton_append, skipScalar, if_pos rfl, skipString_body hbody]
  | emptyArray hinner =>
    intro brackets rest _
    rw [List.cons_append, List.append_assoc, List.singleton_append, skipFrom_eq, skipToken,
      skipSpace_cons (by decide)]
    simp only [if_true]
    exact congrArg (·.bind Position.proceed) (afterOpening_blanks hinner .array brackets rest)
  | @array first others hblank htext ih =>
    intro brackets rest _
    obtain ⟨b, tail, hcore, hspace, hbracket⟩ := (htext first List.mem_cons_self).exists_cons
    have hparts : ∀ part ∈ (first :: others).map Padded.bytes, IsPart .array part := by
      intro part hpart
      obtain ⟨item, hitem, rfl⟩ := List.mem_map.mp hpart
      exact isPart_item (hblank item hitem) (ih item hitem)
    have hfirst : ∀ more, skipSpace (first.bytes ++ more) = b :: (tail ++ first.after ++ more) := by
      intro more
      rw [Padded.bytes, hcore, List.append_assoc,
        skipSpace_blanks (hblank first List.mem_cons_self).before, List.append_assoc,
        List.cons_append, skipSpace_cons hspace, List.append_assoc]
    rw [List.cons_append, List.append_assoc, List.singleton_append, skipFrom_eq, skipToken,
      skipSpace_cons (by decide)]
    simp only [if_true]
    exact skip_opened hparts hfirst hbracket brackets rest
  | emptyObject hinner =>
    intro brackets rest _
    have hbracket : ascii '\x7b' ≠ ascii '[' := by decide
    rw [List.cons_append, List.append_assoc, List.singleton_append, skipFrom_eq, skipToken,
      skipSpace_cons (by decide)]
    simp only [if_neg hbracket, if_true]
    exact congrArg (·.bind Position.proceed) (afterOpening_blanks hinner .object brackets rest)
  | @object first others hframed _ ih =>
    intro brackets rest _
    have hbracket : ascii '\x7b' ≠ ascii '[' := by decide
    have hparts : ∀ part ∈ (first :: others).map Entry.bytes, IsPart .object part := by
      intro part hpart
      obtain ⟨entry, hentry, rfl⟩ := List.mem_map.mp hpart
      exact isPart_entry (hframed entry hentry) (ih entry hentry)
    rw [List.cons_append, List.append_assoc, List.singleton_append, skipFrom_eq, skipToken,
      skipSpace_cons (by decide)]
    simp only [if_neg hbracket, if_true]
    exact skip_opened hparts (skipSpace_entry (hframed first List.mem_cons_self)) (by decide)
      brackets rest

/-- A value is skipped with the blanks in front of it. -/
theorem skipValue_padded {padded : Padded} (hblank : padded.Blank) (h : IsText padded.core)
    (hrest : EndsLiteral rest) :
    skipValue (padded.bytes ++ rest) = some (padded.after ++ rest) := by
  rw [skipValue, Padded.bytes, List.append_assoc, List.append_assoc, ← skipFrom_skipSpace,
    skipSpace_blanks hblank.before, skipFrom_skipSpace,
    isSkipped_text h [] (hrest.blanks hblank.after), afterValue]
  rfl

end Json
end BearerTokens
