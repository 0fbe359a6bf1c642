import BearerTokens.Proofs.Json.Skipping

/-!
# Integers in plain decimal

A number of a document is an integer exactly if it is the decimal text of one and a word
holds it: without a leading zero, a fraction or an exponent, and without a sign in front
of zero.  Every other number of the grammar is binary or refused, even if its value is
whole.

Main results:

- Theorem {lit}`Json.IsWhole.eq_naturalBytes`: whole digits are the text of their number.
- Theorem {lit}`Json.gather_append`: digits are gathered exactly, or some are left over.
- Theorem {lit}`Json.readNumber_integer_iff`: which numbers are read as an integer.
-/

namespace BearerTokens
namespace Json

/-! ## Digits and their number -/

/-- The number of digits behind a number. -/
def digitsFrom (start : Nat) (digits : List UInt8) : Nat :=
  digits.foldl (fun n b => 10 * n + Ascii.digitValue b) start

/-- The bytes of a natural number in decimal. -/
def naturalBytes (n : Nat) : List UInt8 :=
  (Decimal.naturalDigits n).map ascii

/-- The value of a digit has one place. -/
theorem digitValue_lt {b : UInt8} (h : Ascii.isDigit b = true) : Ascii.digitValue b < 10 := by
  have hcode := Ascii.isDigit_iff.mp h
  simp only [Ascii.digitValue]
  omega

/-- A digit is the text of its value. -/
theorem naturalBytes_digitValue {b : UInt8} (h : Ascii.isDigit b = true) :
    naturalBytes (Ascii.digitValue b) = [b] := by
  have hcode := Ascii.isDigit_iff.mp h
  have hvalue := digitValue_lt h
  have hbyte : ascii (Nat.digitChar (Ascii.digitValue b)) = b := by
    have hsame : 48 + Ascii.digitValue b = b.toNat := by
      simp only [Ascii.digitValue]
      omega
    rw [ascii, Nat.toNat_digitChar_of_lt_ten hvalue, hsame, UInt8.ofNat_toNat]
  rw [naturalBytes, Decimal.naturalDigits, Nat.toDigits_of_lt_base hvalue, List.map_singleton,
    hbyte]

/-- Digits behind the text of a number that is not zero are the text of a number. -/
theorem naturalBytes_append {digits : List UInt8} (h : ∀ b ∈ digits, Ascii.isDigit b = true)
    {start : Nat} (hstart : 0 < start) :
    naturalBytes start ++ digits = naturalBytes (digitsFrom start digits) := by
  -- A zero in front would not be seen in the number, so the number so far is kept positive.
  induction digits generalizing start with
  | nil => exact List.append_nil _
  | cons b digits ih =>
    have hb : Ascii.isDigit b = true := h b List.mem_cons_self
    have hdigits : ∀ c ∈ digits, Ascii.isDigit c = true :=
      fun c hc => h c (List.mem_cons_of_mem b hc)
    have hplace : naturalBytes start ++ [b] = naturalBytes (10 * start + Ascii.digitValue b) := by
      rw [← naturalBytes_digitValue hb, naturalBytes, naturalBytes, naturalBytes, ← List.map_append,
        Decimal.naturalDigits, Decimal.naturalDigits, Decimal.naturalDigits,
        Nat.toDigits_append_toDigits (by decide) hstart (digitValue_lt hb)]
    calc
      naturalBytes start ++ b :: digits = (naturalBytes start ++ [b]) ++ digits := by
        rw [List.append_assoc, List.singleton_append]
      _ = naturalBytes (10 * start + Ascii.digitValue b) ++ digits := by rw [hplace]
      _ = naturalBytes (digitsFrom start (b :: digits)) := ih hdigits (by omega)

/-- Digits of which a zero in front stands alone are the text of their number. -/
theorem IsWhole.eq_naturalBytes {whole : List UInt8} (h : IsWhole whole) :
    whole = naturalBytes (digitsFrom 0 whole) := by
  obtain ⟨b, tail, rfl, hb⟩ := h.toIsDigits.exists_cons
  have hfirst : digitsFrom 0 (b :: tail) = digitsFrom (Ascii.digitValue b) tail := by
    simp only [digitsFrom, List.foldl_cons, Nat.mul_zero, Nat.zero_add]
  by_cases hzero : b = ascii '0'
  · have halone : b :: tail = [ascii '0'] := h.alone (congrArg some hzero)
    rw [halone]
    decide
  · have hpos : 0 < Ascii.digitValue b := by
      have hcode := Ascii.isDigit_iff.mp hb
      have hne : b.toNat ≠ 48 := fun h => hzero (UInt8.toNat_inj.mp h)
      simp only [Ascii.digitValue]
      omega
    have htail : ∀ c ∈ tail, Ascii.isDigit c = true :=
      fun c hc => h.digit c (List.mem_cons_of_mem b hc)
    rw [hfirst, ← naturalBytes_append htail hpos, naturalBytes_digitValue hb]
    rfl

/-- Every digit in the text of a number is one. -/
theorem isDigit_of_mem_naturalBytes {n : Nat} {b : UInt8} (h : b ∈ naturalBytes n) :
    Ascii.isDigit b = true :=
  isDigit_of_mem_map (fun _ hc => Decimal.isDigit_of_mem hc) b h

/-- Different numbers have different texts. -/
theorem naturalBytes_injective {n m : Nat} (h : naturalBytes n = naturalBytes m) : n = m := by
  have hchars := congrArg (List.map fun b => Char.ofNat b.toNat) h
  rw [naturalBytes, naturalBytes, map_ofNat_map_ascii fun _ hc => Decimal.isDigit_of_mem hc,
    map_ofNat_map_ascii fun _ hc => Decimal.isDigit_of_mem hc] at hchars
  have hvalue := Decimal.digitsValue?_naturalDigits n
  rw [hchars, Decimal.digitsValue?_naturalDigits, Option.some.injEq] at hvalue
  exact hvalue.symm

/-! ## Signs -/

/-- A minus sign or nothing. -/
def sign (negative : Bool) : List UInt8 :=
  if negative then [ascii '-'] else []

/-- A number with a sign. -/
def signed (negative : Bool) (n : Nat) : Int :=
  if negative then -(n : Int) else n

/-- A sign that is not in front of zero is told from the number, as is the number. -/
theorem signed_inj {negative other : Bool} {n m : Nat} (hn : negative = true → n ≠ 0)
    (hm : other = true → m ≠ 0) (h : signed negative n = signed other m) :
    negative = other ∧ n = m := by
  cases negative <;> cases other
  · exact ⟨rfl, Int.ofNat.inj h⟩
  · have hpos := hm rfl
    simp only [signed, Bool.false_eq_true, if_false, if_true] at h
    omega
  · have hpos := hn rfl
    simp only [signed, Bool.false_eq_true, if_false, if_true] at h
    omega
  · simp only [signed, if_true] at h
    exact ⟨rfl, by omega⟩

/-- The bytes of an integer in decimal. -/
theorem encode_text (n : Int) :
    ∃ negative m, Utf8.encode (Decimal.text n) = sign negative ++ naturalBytes m ∧
      n = signed negative m ∧ (negative = true → m ≠ 0) := by
  rw [Decimal.text, Utf8.encode_ofList]
  cases n with
  | ofNat m => exact ⟨false, m, ofChars_naturalDigits m, rfl, nofun⟩
  | negSucc m =>
    refine ⟨true, m + 1, ?_, rfl, fun _ => Nat.succ_ne_zero m⟩
    rw [Decimal.digits, Utf8.ofChars_cons_ascii (by decide), ofChars_naturalDigits]
    rfl

/-- The text of an integer begins with a digit or a minus sign. -/
theorem head_encode_text (n : Int) : ∃ b, (Utf8.encode (Decimal.text n)).head? = some b ∧
    (b = ascii '-' ∨ Ascii.isDigit b = true) := by
  obtain ⟨negative, m, htext, -⟩ := encode_text n
  rw [htext]
  cases negative with
  | true => exact ⟨ascii '-', rfl, .inl rfl⟩
  | false =>
    obtain ⟨b, tail, hdigits⟩ := List.exists_cons_of_ne_nil (l := naturalBytes m)
      (mt List.map_eq_nil_iff.mp Nat.toDigits_ne_nil)
    refine ⟨b, by rw [hdigits]; rfl, .inr (isDigit_of_mem_naturalBytes (n := m) ?_)⟩
    rw [hdigits]
    exact List.mem_cons_self

/-- The digits of a number are told from its sign. -/
theorem sign_append_inj {negative other : Bool} {n m : Nat}
    (h : sign negative ++ naturalBytes n = sign other ++ naturalBytes m) :
    negative = other ∧ n = m := by
  have hminus : ∀ {n m : Nat}, ascii '-' :: naturalBytes n ≠ naturalBytes m := by
    intro n m hne
    have hdigit := isDigit_of_mem_naturalBytes (n := m) (b := ascii '-')
      (by rw [← hne]; exact List.mem_cons_self)
    exact absurd hdigit (by decide)
  cases negative <;> cases other
  · exact ⟨rfl, naturalBytes_injective h⟩
  · exact absurd h.symm hminus
  · exact absurd h hminus
  · exact ⟨rfl, naturalBytes_injective (List.cons.inj h).2⟩

/-- Whole digits behind a sign are the text of an integer if this is their number. -/
theorem sign_append_whole_iff {whole : List UInt8} (h : IsWhole whole) (negative : Bool) {n : Int} :
    sign negative ++ whole = Utf8.encode (Decimal.text n) ↔
      n = signed negative (digitsFrom 0 whole) ∧ (negative = true → digitsFrom 0 whole ≠ 0) := by
  -- Both sides are a sign and the text of a number, so they agree as these do.
  obtain ⟨other, m, htext, hn, hother⟩ := encode_text n
  have hwhole := h.eq_naturalBytes
  rw [htext]
  generalize digitsFrom 0 whole = value at *
  subst hwhole
  constructor
  · intro heq
    obtain ⟨rfl, rfl⟩ := sign_append_inj heq
    exact ⟨hn, hother⟩
  · rintro ⟨hvalue, hnegative⟩
    obtain ⟨rfl, rfl⟩ := signed_inj hnegative hother (hvalue.symm.trans hn)
    rfl

/-! ## Gathered digits -/

/-- Gathering behind a number does not make it smaller. -/
theorem le_digitsFrom (start : Nat) (digits : List UInt8) : start ≤ digitsFrom start digits := by
  induction digits generalizing start with
  | nil => exact Nat.le_refl _
  | cons b digits ih =>
    have hstep := ih (10 * start + Ascii.digitValue b)
    rw [digitsFrom, List.foldl_cons]
    rw [digitsFrom] at hstep
    omega

/-- Behind gathered digits, the digits that are left over are dropped. -/
theorem dropDigits_gather (significand count : Nat) (bytes : List UInt8) :
    Ascii.dropDigits (gather significand count bytes).rest = Ascii.dropDigits bytes := by
  induction bytes generalizing significand count with
  | nil => rfl
  | cons b rest ih =>
    rw [gather]
    split
    · next hfits =>
      rw [Bool.and_eq_true] at hfits
      rw [ih, Ascii.dropDigits.eq_2, if_pos hfits.1]
    · rfl

/-- Digits whose number fits a word are gathered. -/
theorem gather_append {digits rest : List UInt8} (h : ∀ b ∈ digits, Ascii.isDigit b = true)
    (hrest : EndsNumber rest) {significand : Nat} (count : Nat)
    (hfits : digitsFrom significand digits ≤ Number.maxUnsigned64) :
    gather significand count (digits ++ rest) =
      ⟨digitsFrom significand digits, count + digits.length, rest⟩ := by
  induction digits generalizing significand count with
  | nil =>
    cases rest with
    | nil => rfl
    | cons b tail =>
      have hb : Ascii.isDigit b = false := hrest b rfl
      rw [List.nil_append, gather, hb]
      rfl
  | cons b digits ih =>
    have hb : Ascii.isDigit b = true := h b List.mem_cons_self
    have hle := le_digitsFrom (10 * significand + Ascii.digitValue b) digits
    have hsecond : 10 * significand + Ascii.digitValue b ≤ Number.maxUnsigned64 :=
      Nat.le_trans hle hfits
    rw [List.cons_append, gather, if_pos (by rw [hb, decide_eq_true hsecond]; rfl),
      ih (fun c hc => h c (List.mem_cons_of_mem b hc)) (count + 1) hfits, List.length_cons]
    congr 1
    omega

/-- Of digits whose number does not fit a word, some are left over. -/
theorem digitCount_gather {digits : List UInt8} (h : ∀ b ∈ digits, Ascii.isDigit b = true)
    (rest : List UInt8) {significand : Nat} (count : Nat)
    (hfirst : significand ≤ Number.maxUnsigned64)
    (hbeyond : Number.maxUnsigned64 < digitsFrom significand digits) :
    Ascii.digitCount (gather significand count (digits ++ rest)).rest ≠ 0 := by
  induction digits generalizing significand count with
  | nil => exact absurd hfirst (Nat.not_le.mpr hbeyond)
  | cons b digits ih =>
    have hb : Ascii.isDigit b = true := h b List.mem_cons_self
    rw [List.cons_append, gather]
    split
    · next hfits =>
      rw [Bool.and_eq_true, decide_eq_true_eq] at hfits
      exact ih (fun c hc => h c (List.mem_cons_of_mem b hc)) (count + 1) hfits.2 hbeyond
    · rw [Ascii.digitCount, if_pos hb]
      exact Nat.succ_ne_zero _

/-! ## Integers and other numbers -/

/-- The integer of a number that was read as one. -/
def Numeral.integer? : Numeral → Option Int
  | .natural value => some value
  | .negative value => some value
  | .binary _ _ => none

variable {negative : Bool} {significand : Nat} {exponent : Int} {bytes left : List UInt8}
  {numeral : Numeral}

/-- What ends as a binary number is no integer. -/
theorem finishBinary_integer? (h : finishBinary negative significand exponent bytes =
    some (numeral, left)) : numeral.integer? = none := by
  have hscale : ∀ {scaled : Option Binary64} {after : List UInt8},
      (scaled.map fun x => (Numeral.binary negative x, after)) = some (numeral, left) →
        numeral.integer? = none := by
    intro scaled after hscaled
    rw [Option.map_eq_some_iff] at hscaled
    obtain ⟨x, -, heq⟩ := hscaled
    cases heq
    rfl
  unfold finishBinary at h
  split at h
  · exact hscale h
  split at h
  · split at h
    · cases h
    · exact hscale h
  · exact hscale h

/-- What goes on behind its whole part is no integer. -/
theorem readAfterWhole_integer? (h : readAfterWhole negative significand exponent bytes =
    some (numeral, left)) : numeral.integer? = none := by
  unfold readAfterWhole at h
  split at h
  · exact finishBinary_integer? h
  split at h
  · simp only [readFraction] at h
    split at h
    · cases h
    · exact finishBinary_integer? h
  · exact finishBinary_integer? h

/-- Whole digits that fit a word are an integer, unless they are a zero behind a sign. -/
theorem wholeNumeral_integer_iff {value : Nat} {n : Int} :
    (∃ numeral, wholeNumeral negative value = some numeral ∧ numeral.integer? = some n) ↔
      n = signed negative value ∧ (negative = true → value ≠ 0) ∧ Number.minSigned64 ≤ n := by
  cases negative with
  | false =>
    simp only [wholeNumeral, signed, Bool.false_eq_true, if_false, Option.some.injEq,
      exists_eq_left', Numeral.integer?, false_implies, true_and]
    constructor
    · rintro rfl
      refine ⟨rfl, ?_⟩
      simp only [Number.minSigned64]
      omega
    · rintro ⟨rfl, -⟩
      rfl
  | true =>
    simp only [wholeNumeral, signed, if_true, true_implies]
    split
    · next hbinary =>
      constructor
      · rintro ⟨numeral, hnumeral, hinteger⟩
        rw [Option.map_eq_some_iff] at hnumeral
        obtain ⟨x, -, rfl⟩ := hnumeral
        cases hinteger
      · rintro ⟨rfl, hzero, hrange⟩
        omega
    · next hinteger =>
      rw [not_or] at hinteger
      simp only [Option.some.injEq, exists_eq_left', Numeral.integer?]
      constructor
      · rintro rfl
        exact ⟨rfl, hinteger.1, by omega⟩
      · rintro ⟨rfl, -⟩
        rfl

/-- A whole part is gathered, and what follows it decides about the number. -/
theorem readUnsigned_whole {whole after : List UInt8} (hwhole : IsWhole whole)
    (hafter : EndsNumber after) :
    readUnsigned negative (whole ++ after) =
      if Ascii.digitCount (gather 0 0 (whole ++ after)).rest = 0 ∧ !isBinaryAhead after then
        (wholeNumeral negative (gather 0 0 (whole ++ after)).significand).map fun n => (n, after)
      else
        readAfterWhole negative (gather 0 0 (whole ++ after)).significand
          (Ascii.digitCount (gather 0 0 (whole ++ after)).rest) after := by
  have hdrop := dropDigits_gather 0 0 (whole ++ after)
  rw [dropDigits_append hwhole.digit hafter] at hdrop
  obtain ⟨b, tail, rfl, hb⟩ := hwhole.toIsDigits.exists_cons
  have hzero : ¬ (b = ascii '0' ∧ Ascii.digitCount (tail ++ after) ≠ 0) := by
    rintro ⟨hzero, hcount⟩
    have halone : tail = [] := (List.cons.inj (hwhole.alone (congrArg some hzero))).2
    rw [halone, List.nil_append] at hcount
    exact hcount hafter.digitCount
  rw [List.cons_append] at hdrop ⊢
  simp only [readUnsigned, hb, Bool.not_true, Bool.false_eq_true, if_false, if_neg hzero, hdrop]

/-- A fraction or an exponent begins with a point or a letter. -/
theorem exists_binary {fraction exponent : List UInt8} (hfraction : IsFraction fraction)
    (hexponent : IsExponent exponent) (h : fraction ++ exponent ≠ []) :
    ∃ b tail, fraction ++ exponent = b :: tail ∧ b ∈ [ascii '.', ascii 'e', ascii 'E'] := by
  cases hfraction with
  | digits _ => exact ⟨_, _, rfl, by decide⟩
  | none =>
    cases hexponent with
    | none => exact absurd rfl h
    | digits hletter _ _ => exact ⟨_, _, rfl, List.mem_cons_of_mem _ hletter⟩

/-- A negative number that fits a word has digits that fit one, too. -/
theorem signed_le_iff {value : Nat} (h : Number.minSigned64 ≤ signed negative value) :
    signed negative value ≤ Number.maxUnsigned64 ↔ value ≤ Number.maxUnsigned64 := by
  cases negative with
  | false => exact Int.ofNat_le
  | true =>
    simp only [signed, if_true, Number.minSigned64, Number.maxUnsigned64] at h ⊢
    omega

/-- A whole part by itself that fits a word is read as the integer of its sign and digits. -/
theorem readUnsigned_alone {whole rest : List UInt8} (hwhole : IsWhole whole)
    (hrest : EndsLiteral rest) (hfits : digitsFrom 0 whole ≤ Number.maxUnsigned64) :
    readUnsigned negative (whole ++ rest) =
      (wholeNumeral negative (digitsFrom 0 whole)).map fun numeral => (numeral, rest) := by
  rw [readUnsigned_whole hwhole hrest.integer, gather_append hwhole.digit hrest.integer 0 hfits]
  simp only [hrest.integer.digitCount, hrest.binary, Bool.not_false, and_self, if_true]

/-- A number that goes on behind its whole part, or does not fit a word, is no integer. -/
theorem readUnsigned_integer? {whole fraction exponent rest : List UInt8} (hwhole : IsWhole whole)
    (hfraction : IsFraction fraction) (hexponent : IsExponent exponent)
    (hrest : EndsLiteral rest)
    (h : fraction ++ exponent ≠ [] ∨ Number.maxUnsigned64 < digitsFrom 0 whole)
    (hread : readUnsigned negative (whole ++ (fraction ++ (exponent ++ rest))) =
      some (numeral, left)) : numeral.integer? = none := by
  rw [readUnsigned_whole hwhole (endsNumber_fraction hfraction hexponent hrest)] at hread
  rcases h with hmore | hbeyond
  · obtain ⟨b, tail, htail, hb⟩ := exists_binary hfraction hexponent hmore
    have hbinary : isBinaryAhead (fraction ++ (exponent ++ rest)) = true := by
      rw [← List.append_assoc, htail, List.cons_append, isBinaryAhead]
      simp only [List.mem_cons, List.not_mem_nil, or_false] at hb
      rcases hb with rfl | rfl | rfl <;> decide
    simp only [hbinary, Bool.not_true, Bool.false_eq_true, and_false, if_false] at hread
    exact readAfterWhole_integer? hread
  · have hcount := digitCount_gather hwhole.digit (fraction ++ (exponent ++ rest)) 0
      (Nat.zero_le _) hbeyond
    simp only [hcount, false_and, if_false] at hread
    exact readAfterWhole_integer? hread

/-- Only a whole part by itself that fits a word is read as an integer. -/
theorem readUnsigned_integer_iff {whole fraction exponent rest : List UInt8} {n : Int}
    (hwhole : IsWhole whole) (hfraction : IsFraction fraction) (hexponent : IsExponent exponent)
    (hrest : EndsLiteral rest) :
    (∃ numeral, readUnsigned negative (whole ++ (fraction ++ (exponent ++ rest))) =
        some (numeral, left) ∧ numeral.integer? = some n) ↔
      fraction ++ exponent = [] ∧ digitsFrom 0 whole ≤ Number.maxUnsigned64 ∧
        n = signed negative (digitsFrom 0 whole) ∧ (negative = true → digitsFrom 0 whole ≠ 0) ∧
        Number.minSigned64 ≤ n ∧ left = rest := by
  constructor
  · rintro ⟨numeral, hread, hinteger⟩
    have hneither : ¬ (fraction ++ exponent ≠ [] ∨
        Number.maxUnsigned64 < digitsFrom 0 whole) := by
      intro hother
      rw [readUnsigned_integer? hwhole hfraction hexponent hrest hother hread] at hinteger
      cases hinteger
    rw [not_or, Classical.not_not, Nat.not_lt] at hneither
    obtain ⟨hnil, hfits⟩ := hneither
    obtain ⟨rfl, rfl⟩ := List.append_eq_nil_iff.mp hnil
    rw [List.nil_append, List.nil_append, readUnsigned_alone hwhole hrest hfits,
      Option.map_eq_some_iff] at hread
    obtain ⟨read, hwholeRead, heq⟩ := hread
    cases heq
    have hvalue := wholeNumeral_integer_iff.mp ⟨numeral, hwholeRead, hinteger⟩
    exact ⟨rfl, hfits, hvalue.1, hvalue.2.1, hvalue.2.2, rfl⟩
  · rintro ⟨hnil, hfits, hvalue, hnegative, hrange, rfl⟩
    obtain ⟨rfl, rfl⟩ := List.append_eq_nil_iff.mp hnil
    obtain ⟨numeral, hwholeRead, hinteger⟩ :=
      wholeNumeral_integer_iff.mpr ⟨hvalue, hnegative, hrange⟩
    refine ⟨numeral, ?_, hinteger⟩
    rw [List.nil_append, List.nil_append, readUnsigned_alone hwhole hrest hfits, hwholeRead]
    rfl

/-- A number with a fraction or an exponent is not the text of an integer. -/
theorem ne_encode_text {fraction exponent : List UInt8} (hfraction : IsFraction fraction)
    (hexponent : IsExponent exponent) (h : fraction ++ exponent ≠ []) (literal : List UInt8)
    (n : Int) :
    literal ++ (fraction ++ exponent) ≠ Utf8.encode (Decimal.text n) := by
  intro heq
  obtain ⟨b, tail, htail, hb⟩ := exists_binary hfraction hexponent h
  obtain ⟨negative, m, htext, -⟩ := encode_text n
  have hmem : b ∈ sign negative ++ naturalBytes m := by
    rw [← htext, ← heq, htail]
    exact List.mem_append_right literal List.mem_cons_self
  have hother : b ≠ ascii '-' ∧ Ascii.isDigit b = false := by
    simp only [List.mem_cons, List.not_mem_nil, or_false] at hb
    rcases hb with rfl | rfl | rfl <;> decide
  rw [List.mem_append] at hmem
  rcases hmem with hsign | hdigit
  · cases negative with
    | false => cases hsign
    | true => exact hother.1 (List.mem_singleton.mp hsign)
  · rw [isDigit_of_mem_naturalBytes hdigit] at hother
    cases hother.2

/-- Numbers are those of the grammar behind an optional sign. -/
theorem IsNumber.exists_sign {literal : List UInt8} (h : IsNumber literal) :
    ∃ negative whole fraction exponent, literal = sign negative ++ whole ++ (fraction ++ exponent) ∧
      IsWhole whole ∧ IsFraction fraction ∧ IsExponent exponent := by
  cases h with
  | positive hunsigned =>
    cases hunsigned with
    | parts hwhole hfraction hexponent =>
      exact ⟨false, _, _, _, rfl, hwhole, hfraction, hexponent⟩
  | negative hunsigned =>
    cases hunsigned with
    | parts hwhole hfraction hexponent =>
      exact ⟨true, _, _, _, rfl, hwhole, hfraction, hexponent⟩

/-- A number is read behind its sign. -/
theorem readNumber_sign {whole : List UInt8} (h : IsWhole whole) (negative : Bool)
    (after : List UInt8) :
    readNumber (sign negative ++ whole ++ after) = readUnsigned negative (whole ++ after) := by
  cases negative with
  | false =>
    obtain ⟨b, tail, rfl, hb⟩ := h.toIsDigits.exists_cons
    have hminus : b ≠ ascii '-' := ne_of_isDigit hb (by decide)
    exact if_neg hminus
  | true =>
    rw [sign, if_pos rfl, List.append_assoc, List.singleton_append, readNumber, if_pos rfl]

/-- A number is read as an integer exactly if it is the text of one that fits a word. -/
theorem readNumber_integer_iff {literal rest : List UInt8} (h : IsNumber literal)
    (hrest : EndsLiteral rest) {n : Int} :
    (∃ numeral, readNumber (literal ++ rest) = some (numeral, left) ∧
        numeral.integer? = some n) ↔
      literal = Utf8.encode (Decimal.text n) ∧
        (Number.minSigned64 ≤ n ∧ n ≤ Number.maxUnsigned64) ∧ left = rest := by
  obtain ⟨negative, whole, fraction, exponent, rfl, hwhole, hfraction, hexponent⟩ := h.exists_sign
  rw [List.append_assoc, readNumber_sign hwhole, List.append_assoc,
    readUnsigned_integer_iff hwhole hfraction hexponent hrest]
  by_cases hnil : fraction ++ exponent = []
  · rw [hnil, List.append_nil, sign_append_whole_iff hwhole]
    constructor
    · rintro ⟨-, hfits, hvalue, hnegative, hrange, hleft⟩
      exact ⟨⟨hvalue, hnegative⟩, ⟨hrange, hvalue ▸ (signed_le_iff (hvalue ▸ hrange)).mpr hfits⟩,
        hleft⟩
    · rintro ⟨⟨hvalue, hnegative⟩, ⟨hrange, hfits⟩, hleft⟩
      exact ⟨rfl, (signed_le_iff (hvalue ▸ hrange)).mp (hvalue ▸ hfits), hvalue, hnegative, hrange,
        hleft⟩
  · have hne := ne_encode_text hfraction hexponent hnil (sign negative ++ whole) n
    simp only [hnil, hne, false_and]

/-- Whole digits that are a negative number are not above zero. -/
theorem wholeNumeral_negative_le {value : Int}
    (h : wholeNumeral negative significand = some (.negative value)) : value ≤ 0 := by
  unfold wholeNumeral at h
  split at h
  · split at h
    · rw [Option.map_eq_some_iff] at h
      obtain ⟨x, -, hbinary⟩ := h
      cases hbinary
    · cases h
      omega
  · cases h

/-- What is read as a negative number behind its sign is not above zero. -/
theorem readUnsigned_negative_le {value : Int}
    (h : readUnsigned negative bytes = some (.negative value, left)) : value ≤ 0 := by
  unfold readUnsigned at h
  split at h
  · cases h
  split at h
  · cases h
  split at h
  · cases h
  simp only at h
  split at h
  · rw [Option.map_eq_some_iff] at h
    obtain ⟨numeral, hnumeral, heq⟩ := h
    cases heq
    exact wholeNumeral_negative_le hnumeral
  · cases readAfterWhole_integer? h

/-- What is read as a negative number is not above zero. -/
theorem readNumber_negative_le {value : Int} (h : readNumber bytes = some (.negative value, left)) :
    value ≤ 0 := by
  cases bytes with
  | nil => cases h
  | cons b rest =>
    rw [readNumber] at h
    split at h
    · exact readUnsigned_negative_le h
    · exact readUnsigned_negative_le h

end Json
end BearerTokens
