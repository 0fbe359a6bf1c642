import BearerTokens.Proofs.Json.Reader
import BearerTokens.Proofs.Json.StringText

/-!
# Documents are read back

The bytes of the text of a value are one document, which is read as this value: with the
same members in the same order, and no others.  No two values have the same text.

Main results:

- Theorem {lit}`Json.readFrom_render`: a value is read back inside any brackets.
- Theorem {lit}`Json.read?_text`: a value is read back from its text.
- Theorem {lit}`Json.text_injective`: different values have different texts.
-/

namespace BearerTokens

/-! ## Digits -/

/-- A character is a digit exactly when its code is that of one. -/
theorem isDigit_iff {c : Char} : c.isDigit = true ↔ 48 ≤ c.toNat ∧ c.toNat ≤ 57 := by
  simp only [Char.isDigit, Bool.and_eq_true, decide_eq_true_eq, ge_iff_le, UInt32.le_iff_toNat_le]
  rfl

/-- A byte is a digit exactly when its code is that of one. -/
theorem Ascii.isDigit_iff {b : UInt8} : Ascii.isDigit b = true ↔ 48 ≤ b.toNat ∧ b.toNat ≤ 57 := by
  simp only [Ascii.isDigit, Bool.and_eq_true, decide_eq_true_eq, UInt8.le_iff_toNat_le]
  rfl

/-- Every digit of a number is one. -/
theorem Decimal.isDigit_of_mem {n : Nat} {c : Char} (h : c ∈ naturalDigits n) :
    c.isDigit = true :=
  Nat.isDigit_of_mem_toDigits (by decide) (by decide) h

/-- Only zero begins with a zero. -/
theorem Decimal.eq_zero_of_head? {n : Nat} (h : (naturalDigits n).head? = some '0') : n = 0 := by
  induction n using Nat.strongRecOn with
  | _ n ih =>
    by_cases hsmall : n < 10
    · rw [naturalDigits, Nat.toDigits_of_lt_base hsmall, List.head?_cons, Option.some.injEq] at h
      exact Nat.digitChar_eq_zero.mp h
    · have hlarge : 10 ≤ n := Nat.not_lt.mp hsmall
      rw [naturalDigits, Nat.toDigits_of_base_le (by decide) hlarge, List.head?_append] at h
      have hhead : (naturalDigits (n / 10)).head? = some '0' := by
        rw [naturalDigits]
        cases hdigits : Nat.toDigits 10 (n / 10) with
        | nil => exact absurd hdigits Nat.toDigits_ne_nil
        | cons c cs =>
          rw [hdigits] at h
          exact h
      have hzero := ih (n / 10) (by omega) hhead
      omega

namespace Json

/-- A byte string on which no number goes on. -/
def EndsNumber (bytes : List UInt8) : Prop :=
  ∀ b, bytes.head? = some b → Ascii.isDigit b = false

/-- The end of a document ends a number. -/
theorem endsNumber_nil : EndsNumber [] := by
  intro b hb
  cases hb

/-- A byte that is no digit ends a number. -/
theorem endsNumber_cons {b : UInt8} (h : Ascii.isDigit b = false) (rest : List UInt8) :
    EndsNumber (b :: rest) := by
  intro c hc
  rw [List.head?_cons, Option.some.injEq] at hc
  rw [← hc]
  exact h

/-- Behind a number, no digits are dropped or taken. -/
theorem EndsNumber.takeWhile {rest : List UInt8} (h : EndsNumber rest) :
    rest.takeWhile Ascii.isDigit = [] := by
  cases rest with
  | nil => rfl
  | cons b tail =>
    have hb : Ascii.isDigit b = false := h b rfl
    rw [List.takeWhile_cons, hb]
    rfl

/-- Digits are dropped up to what ends them. -/
theorem dropDigits_append {digits rest : List UInt8}
    (hdigits : ∀ b ∈ digits, Ascii.isDigit b = true) (hrest : EndsNumber rest) :
    Ascii.dropDigits (digits ++ rest) = rest := by
  have hsplit := takeWhile_append_dropDigits (digits ++ rest)
  rw [List.takeWhile_append_of_pos hdigits, hrest.takeWhile, List.append_nil] at hsplit
  exact List.append_cancel_left hsplit

/-- The digits of a number are one byte each. -/
theorem ofChars_naturalDigits (n : Nat) :
    Utf8.ofChars (Decimal.naturalDigits n) = (Decimal.naturalDigits n).map ascii := by
  apply Utf8.ofChars_of_ascii
  intro c hc
  have hcode := isDigit_iff.mp (Decimal.isDigit_of_mem hc)
  omega

/-- The bytes of digits are digits. -/
theorem isDigit_of_mem_map {digits : List Char} (h : ∀ c ∈ digits, c.isDigit = true) :
    ∀ b ∈ digits.map ascii, Ascii.isDigit b = true := by
  intro b hb
  rcases List.mem_map.mp hb with ⟨c, hc, rfl⟩
  have hcode := isDigit_iff.mp (h c hc)
  have hbyte := Utf8.toNat_ascii_of_lt (c := c) (by omega)
  rw [Ascii.isDigit_iff, hbyte]
  exact hcode

/-- The characters of the bytes of digits are the digits. -/
theorem map_ofNat_map_ascii {digits : List Char} (h : ∀ c ∈ digits, c.isDigit = true) :
    (digits.map ascii).map (fun b => Char.ofNat b.toNat) = digits := by
  rw [List.map_map]
  have hsame : ∀ c ∈ digits, ((fun b : UInt8 => Char.ofNat b.toNat) ∘ ascii) c = c := by
    intro c hc
    have hcode := isDigit_iff.mp (h c hc)
    simp only [Function.comp_apply]
    rw [Utf8.toNat_ascii_of_lt (by omega), Char.ofNat_toNat]
  rw [List.map_congr_left hsame, List.map_id']

/-- A natural number is read back from its digits. -/
theorem readNatural_naturalDigits (n : Nat) {rest : List UInt8} (h : EndsNumber rest) :
    readNatural (Utf8.ofChars (Decimal.naturalDigits n) ++ rest) = some (n, rest) := by
  have hdigits : ∀ c ∈ Decimal.naturalDigits n, c.isDigit = true :=
    fun c hc => Decimal.isDigit_of_mem hc
  have hbytes := ofChars_naturalDigits n
  have htake : (Utf8.ofChars (Decimal.naturalDigits n) ++ rest).takeWhile Ascii.isDigit =
      (Decimal.naturalDigits n).map ascii := by
    rw [hbytes, List.takeWhile_append_of_pos (isDigit_of_mem_map hdigits), h.takeWhile,
      List.append_nil]
  have hdrop : Ascii.dropDigits (Utf8.ofChars (Decimal.naturalDigits n) ++ rest) = rest := by
    rw [hbytes]
    exact dropDigits_append (isDigit_of_mem_map hdigits) h
  have hzero : ¬ (((Decimal.naturalDigits n).map ascii).head? = some (ascii '0') ∧
      1 < ((Decimal.naturalDigits n).map ascii).length) := by
    rintro ⟨hhead, hlength⟩
    rw [List.head?_map, Option.map_eq_some_iff] at hhead
    rcases hhead with ⟨c, hc, hascii⟩
    have hcode := isDigit_iff.mp (hdigits c (List.mem_of_mem_head? hc))
    have hc0 : c = '0' := (Utf8.ascii_inj (by omega) (by decide)).mp hascii
    rw [hc0] at hc
    have hn := Decimal.eq_zero_of_head? hc
    subst hn
    exact absurd hlength (by decide)
  simp only [readNatural, htake, hdrop, if_neg hzero, map_ofNat_map_ascii hdigits,
    Decimal.digitsValue?_naturalDigits, Option.map_some]

/-! ## Scalars -/

/-- Blanks are not dropped in front of a value. -/
theorem skipSpace_cons {b : UInt8} (h : isSpace b = false) (rest : List UInt8) :
    skipSpace (b :: rest) = b :: rest := by
  rw [skipSpace, h]
  rfl

/-- Go on from where reading stands. -/
def Progress.proceed : Progress → Option (Json × List UInt8)
  | .finished read left => some (read, left)
  | .value frames left => readFrom frames left

/-- Reading goes on from the first token. -/
theorem readFrom_eq (frames : List Frame) (bytes : List UInt8) :
    readFrom frames bytes = (readToken frames bytes).bind Progress.proceed := by
  rw [readFrom]
  split
  · next hnone =>
    rw [hnone]
    rfl
  · next value rest hfinished =>
    rw [hfinished]
    rfl
  · next inner rest hvalue =>
    rw [hvalue]
    rfl

/-- A scalar is followed by what comes after it. -/
theorem readFrom_of_readScalar {b : UInt8} {bytes rest : List UInt8} {value : Json}
    (hspace : isSpace b = false) (harray : b ≠ ascii '[') (hobject : b ≠ ascii '\x7b')
    (h : readScalar (b :: bytes) = some (value, rest)) (frames : List Frame) :
    readFrom frames (b :: bytes) = (resume value frames rest).bind Progress.proceed := by
  rw [readFrom_eq, readToken]
  simp only [skipSpace_cons hspace, if_neg harray, if_neg hobject, h, Option.bind_some]

/-- The first byte of a number is none of those that begin other values or end an array. -/
theorem ne_of_isDigit {b : UInt8} (h : Ascii.isDigit b = true) {c : Char}
    (hc : Ascii.isDigit (ascii c) = false) : b ≠ ascii c := by
  rintro rfl
  rw [h] at hc
  cases hc

/-- No digit is a blank. -/
theorem isSpace_of_isDigit {b : UInt8} (h : Ascii.isDigit b = true) : isSpace b = false := by
  simp only [isSpace, Bool.or_eq_false_iff, beq_eq_false_iff_ne]
  exact ⟨⟨⟨ne_of_isDigit h (by decide), ne_of_isDigit h (by decide)⟩,
    ne_of_isDigit h (by decide)⟩, ne_of_isDigit h (by decide)⟩

/-- The digits of a number begin with the byte of one. -/
theorem exists_digit (n : Nat) : ∃ b tail, Utf8.ofChars (Decimal.naturalDigits n) = b :: tail ∧
    Ascii.isDigit b = true := by
  cases hdigits : Decimal.naturalDigits n with
  | nil => exact absurd hdigits Nat.toDigits_ne_nil
  | cons c cs =>
    have hmem : c ∈ Decimal.naturalDigits n := by
      rw [hdigits]
      exact List.mem_cons_self
    have hcode := isDigit_iff.mp (Decimal.isDigit_of_mem hmem)
    refine ⟨ascii c, Utf8.ofChars cs, Utf8.ofChars_cons_ascii (by omega) cs, ?_⟩
    rw [Ascii.isDigit_iff, Utf8.toNat_ascii_of_lt (by omega)]
    exact hcode

/-- An integer is read back from its digits. -/
theorem readFrom_digits (n : Int) (frames : List Frame) {rest : List UInt8}
    (h : EndsNumber rest) :
    readFrom frames (Utf8.ofChars (Decimal.digits n) ++ rest) =
      (resume (.integer n) frames rest).bind Progress.proceed := by
  cases n with
  | ofNat n =>
    rcases exists_digit n with ⟨b, tail, hbytes, hdigit⟩
    have hread := readNatural_naturalDigits n h
    rw [Decimal.digits, hbytes, List.cons_append]
    rw [hbytes, List.cons_append] at hread
    have hscalar : readScalar (b :: (tail ++ rest)) = some (.integer (Int.ofNat n), rest) := by
      rw [readScalar, if_neg (ne_of_isDigit hdigit (by decide)),
        if_neg (ne_of_isDigit hdigit (by decide)), if_neg (ne_of_isDigit hdigit (by decide)),
        if_neg (ne_of_isDigit hdigit (by decide)), if_neg (ne_of_isDigit hdigit (by decide)), hread]
      rfl
    exact readFrom_of_readScalar (isSpace_of_isDigit hdigit) (ne_of_isDigit hdigit (by decide))
      (ne_of_isDigit hdigit (by decide)) hscalar frames
  | negSucc n =>
    have hread := readNatural_naturalDigits (n + 1) h
    have hscalar : readScalar
        (ascii '-' :: (Utf8.ofChars (Decimal.naturalDigits (n + 1)) ++ rest)) =
          some (.integer (Int.negSucc n), rest) := by
      rw [readScalar, if_neg (by decide), if_neg (by decide), if_neg (by decide),
        if_neg (by decide), if_pos rfl, hread]
      rfl
    rw [Decimal.digits, Utf8.ofChars_cons_ascii (by decide), List.cons_append]
    exact readFrom_of_readScalar (by decide) (by decide) (by decide) hscalar frames

/-- A string is read back from its text. -/
theorem readFrom_stringText (s : String) (frames : List Frame) (rest : List UInt8) :
    readFrom frames (Utf8.ofChars (stringText s) ++ rest) =
      (resume (.string s) frames rest).bind Progress.proceed := by
  rcases readString_stringText s rest with ⟨behind, hbytes, hread⟩
  have hscalar : readScalar (ascii '"' :: behind) = some (.string s, rest) := by
    rw [readScalar, if_pos rfl, hread]
    rfl
  rw [hbytes]
  exact readFrom_of_readScalar (by decide) (by decide) (by decide) hscalar frames

/-! ## Brackets -/

/-- The text of a value begins neither with a blank nor with a closing bracket. -/
theorem exists_first (value : Json) : ∃ b tail, Utf8.ofChars value.render = b :: tail ∧
    isSpace b = false ∧ b ≠ ascii ']' := by
  have hascii : ∀ {c : Char} {cs : List Char}, c.toNat < 0x80 → isSpace (ascii c) = false →
      ascii c ≠ ascii ']' → ∃ b tail, Utf8.ofChars (c :: cs) = b :: tail ∧
        isSpace b = false ∧ b ≠ ascii ']' :=
    fun hc hspace hbracket => ⟨_, _, Utf8.ofChars_cons_ascii hc _, hspace, hbracket⟩
  cases value with
  | null => exact hascii (by decide) (by decide) (by decide)
  | bool value => cases value <;> exact hascii (by decide) (by decide) (by decide)
  | integer n =>
    cases n with
    | ofNat n =>
      rcases exists_digit n with ⟨b, tail, hbytes, hdigit⟩
      exact ⟨b, tail, hbytes, isSpace_of_isDigit hdigit, ne_of_isDigit hdigit (by decide)⟩
    | negSucc n => exact hascii (by decide) (by decide) (by decide)
  | string s => exact hascii (by decide) (by decide) (by decide)
  | array items =>
    rw [render]
    exact hascii (by decide) (by decide) (by decide)
  | object members =>
    rw [render]
    exact hascii (by decide) (by decide) (by decide)

/-- A key is read back from its text, with the colon behind it. -/
theorem readKey_stringText (key : String) (rest : List UInt8) :
    readKey (Utf8.ofChars (stringText key) ++ ascii ':' :: rest) = some (key, rest) := by
  rcases readString_stringText key (ascii ':' :: rest) with ⟨behind, hbytes, hread⟩
  rw [hbytes, readKey, skipSpace_cons (by decide)]
  simp only [if_true, hread, skipSpace_cons (b := ascii ':') (by decide)]

/-- The texts of more items begin with a comma or, if there are none, end the array. -/
theorem endsNumber_moreItems (items : List Json) (rest : List UInt8) :
    EndsNumber (Utf8.ofChars (renderMoreItems items) ++ ascii ']' :: rest) := by
  cases items with
  | nil => exact endsNumber_cons (by decide) rest
  | cons item items =>
    rw [renderMoreItems, List.cons_append, Utf8.ofChars_cons_ascii (by decide)]
    exact endsNumber_cons (by decide) _

/-- The texts of more members begin with a comma or, if there are none, end the object. -/
theorem endsNumber_moreMembers (members : List (String × Json)) (rest : List UInt8) :
    EndsNumber (Utf8.ofChars (renderMoreMembers members) ++ ascii '\x7d' :: rest) := by
  cases members with
  | nil => exact endsNumber_cons (by decide) rest
  | cons member members =>
    rw [renderMoreMembers, List.cons_append, List.cons_append, Utf8.ofChars_cons_ascii (by decide)]
    exact endsNumber_cons (by decide) _

/-- Behind a comma the next item of an array is read. -/
theorem resume_comma_array (value : Json) (items : List Json) (outer : List Frame)
    (rest : List UInt8) :
    (resume value (.array items :: outer) (ascii ',' :: rest)).bind Progress.proceed =
      readFrom (.array (value :: items) :: outer) rest := by
  have hspace : isSpace (ascii ',') = false := by decide
  simp only [resume, hspace, Bool.false_eq_true, if_false, if_true, readNext, Option.bind_some,
    Progress.proceed]

/-- Behind a comma the next member of an object is read. -/
theorem resume_comma_object (value : Json) (members : List (String × Json)) (key : String)
    (outer : List Frame) (next : String) (rest : List UInt8) :
    (resume value (.object members key :: outer)
        (ascii ',' :: (Utf8.ofChars (stringText next) ++ ascii ':' :: rest))).bind
          Progress.proceed =
      readFrom (.object ((key, value) :: members) next :: outer) rest := by
  have hspace : isSpace (ascii ',') = false := by decide
  simp only [resume, hspace, Bool.false_eq_true, if_false, if_true, readNext, readKey_stringText,
    Option.map_some, Option.bind_some, Progress.proceed]

/-- Behind an opening brace the first member of an object is read. -/
theorem readObject_key (key : String) (outer : List Frame) (rest : List UInt8) :
    (readObject outer (Utf8.ofChars (stringText key) ++ ascii ':' :: rest)).bind
        Progress.proceed =
      readFrom (.object [] key :: outer) rest := by
  have hkey := readKey_stringText key rest
  have hbrace : ascii '"' ≠ ascii '\x7d' := by decide
  rcases readString_stringText key (ascii ':' :: rest) with ⟨behind, hbytes, -⟩
  rw [hbytes] at hkey ⊢
  rw [readObject, skipSpace_cons (by decide)]
  simp only [if_neg hbrace, hkey, Option.map_some, Option.bind_some, Progress.proceed]

/-- A bracket is closed by its byte. -/
theorem resume_closing (value : Json) (frame : Frame) (outer : List Frame) (rest : List UInt8) :
    resume value (frame :: outer) (frame.closing :: rest) =
      resume (frame.close value) outer rest := by
  cases frame with
  | array items =>
    have hspace : isSpace (ascii ']') = false := by decide
    have hcomma : ascii ']' ≠ ascii ',' := by decide
    simp only [Frame.closing, resume, hspace, Bool.false_eq_true, if_false, if_neg hcomma, if_true]
  | object members key =>
    have hspace : isSpace (ascii '\x7d') = false := by decide
    have hcomma : ascii '\x7d' ≠ ascii ',' := by decide
    simp only [Frame.closing, resume, hspace, Bool.false_eq_true, if_false, if_neg hcomma, if_true]

/-! ## Values -/

mutual

/-- A value is read back from its text, inside any brackets and before anything that ends it. -/
theorem readFrom_render (value : Json) (frames : List Frame) (rest : List UInt8)
    (h : EndsNumber rest) :
    readFrom frames (Utf8.ofChars value.render ++ rest) =
      (resume value frames rest).bind Progress.proceed := by
  match value with
  | .null => exact readFrom_of_readScalar (by decide) (by decide) (by decide) rfl frames
  | .bool true => exact readFrom_of_readScalar (by decide) (by decide) (by decide) rfl frames
  | .bool false => exact readFrom_of_readScalar (by decide) (by decide) (by decide) rfl frames
  | .integer n =>
    rw [render]
    exact readFrom_digits n frames h
  | .string s =>
    rw [render]
    exact readFrom_stringText s frames rest
  | .array items =>
    have hclose : Utf8.ofChars [']'] = [ascii ']'] := Utf8.ofChars_cons_ascii (by decide) []
    have hbytes : Utf8.ofChars (render (.array items)) ++ rest =
        ascii '[' :: (Utf8.ofChars (renderItems items) ++ ascii ']' :: rest) := by
      rw [render, List.cons_append, Utf8.ofChars_cons_ascii (by decide), Utf8.ofChars_append,
        hclose, List.cons_append, List.append_assoc, List.singleton_append]
    rw [hbytes, readFrom_eq, readToken, skipSpace_cons (by decide)]
    simp only [if_true]
    exact readArray_items items frames rest
  | .object members =>
    have hclose : Utf8.ofChars ['\x7d'] = [ascii '\x7d'] := Utf8.ofChars_cons_ascii (by decide) []
    have hbytes : Utf8.ofChars (render (.object members)) ++ rest =
        ascii '\x7b' :: (Utf8.ofChars (renderMembers members) ++ ascii '\x7d' :: rest) := by
      rw [render, List.cons_append, Utf8.ofChars_cons_ascii (by decide), Utf8.ofChars_append,
        hclose, List.cons_append, List.append_assoc, List.singleton_append]
    have hbracket : ascii '\x7b' ≠ ascii '[' := by decide
    rw [hbytes, readFrom_eq, readToken, skipSpace_cons (by decide)]
    simp only [if_neg hbracket, if_true]
    exact readObject_members members frames rest

/-- The items of an array are read back from their texts. -/
theorem readArray_items (items : List Json) (outer : List Frame) (rest : List UInt8) :
    (readArray outer (Utf8.ofChars (renderItems items) ++ ascii ']' :: rest)).bind
        Progress.proceed =
      (resume (.array items) outer rest).bind Progress.proceed := by
  match items with
  | [] =>
    have hnil : Utf8.ofChars (renderItems []) = [] := rfl
    rw [hnil, List.nil_append, readArray, skipSpace_cons (by decide)]
    simp only [if_true]
  | item :: items =>
    rcases exists_first item with ⟨b, tail, hfirst, hspace, hbracket⟩
    have hread := readFrom_render item (.array [] :: outer) _ (endsNumber_moreItems items rest)
    rw [renderItems, Utf8.ofChars_append, List.append_assoc]
    rw [hfirst, List.cons_append] at hread ⊢
    rw [readArray, skipSpace_cons hspace]
    simp only [if_neg hbracket, Option.bind_some, Progress.proceed]
    rw [hread]
    exact resume_moreItems item [] items outer rest

/-- More items of an array are read back from their texts behind another. -/
theorem resume_moreItems (value : Json) (read items : List Json) (outer : List Frame)
    (rest : List UInt8) :
    (resume value (.array read :: outer)
        (Utf8.ofChars (renderMoreItems items) ++ ascii ']' :: rest)).bind Progress.proceed =
      (resume (.array (read.reverse ++ value :: items)) outer rest).bind Progress.proceed := by
  match items with
  | [] =>
    have hnil : Utf8.ofChars (renderMoreItems []) = [] := rfl
    have hclosing := resume_closing value (.array read) outer rest
    rw [hnil, List.nil_append]
    exact congrArg (·.bind Progress.proceed) hclosing
  | item :: items =>
    have hread := readFrom_render item (.array (value :: read) :: outer) _
      (endsNumber_moreItems items rest)
    rw [renderMoreItems, List.cons_append, Utf8.ofChars_cons_ascii (by decide),
      Utf8.ofChars_append, List.cons_append, List.append_assoc, resume_comma_array, hread,
      resume_moreItems item (value :: read) items outer rest, List.reverse_cons,
      List.append_assoc, List.singleton_append]

/-- The members of an object are read back from their texts. -/
theorem readObject_members (members : List (String × Json)) (outer : List Frame)
    (rest : List UInt8) :
    (readObject outer (Utf8.ofChars (renderMembers members) ++ ascii '\x7d' :: rest)).bind
        Progress.proceed =
      (resume (.object members) outer rest).bind Progress.proceed := by
  match members with
  | [] =>
    have hnil : Utf8.ofChars (renderMembers []) = [] := rfl
    rw [hnil, List.nil_append, readObject, skipSpace_cons (by decide)]
    simp only [if_true]
  | (key, value) :: members =>
    have hread := readFrom_render value (.object [] key :: outer) _
      (endsNumber_moreMembers members rest)
    rw [renderMembers, Utf8.ofChars_append, Utf8.ofChars_append,
      Utf8.ofChars_cons_ascii (by decide), List.append_assoc, List.append_assoc, List.cons_append,
      readObject_key, hread]
    exact resume_moreMembers value [] key members outer rest

/-- More members of an object are read back from their texts behind another. -/
theorem resume_moreMembers (value : Json) (read : List (String × Json)) (key : String)
    (members : List (String × Json)) (outer : List Frame) (rest : List UInt8) :
    (resume value (.object read key :: outer)
        (Utf8.ofChars (renderMoreMembers members) ++ ascii '\x7d' :: rest)).bind
          Progress.proceed =
      (resume (.object (read.reverse ++ (key, value) :: members)) outer rest).bind
        Progress.proceed := by
  match members with
  | [] =>
    have hnil : Utf8.ofChars (renderMoreMembers []) = [] := rfl
    have hclosing := resume_closing value (.object read key) outer rest
    rw [hnil, List.nil_append]
    exact congrArg (·.bind Progress.proceed) hclosing
  | (next, item) :: members =>
    have hread := readFrom_render item (.object ((key, value) :: read) next :: outer) _
      (endsNumber_moreMembers members rest)
    rw [renderMoreMembers, List.cons_append, List.cons_append, Utf8.ofChars_cons_ascii (by decide),
      Utf8.ofChars_append, Utf8.ofChars_append, Utf8.ofChars_cons_ascii (by decide),
      List.cons_append, List.append_assoc, List.append_assoc, List.cons_append,
      resume_comma_object, hread, resume_moreMembers item ((key, value) :: read) next members outer
        rest, List.reverse_cons, List.append_assoc, List.singleton_append]

end

/-! ## Documents -/

/-- A value is read back from its text. -/
theorem read?_text (value : Json) : read? (Utf8.encode value.text) = some value := by
  have hread := readFrom_render value [] [] endsNumber_nil
  rw [List.append_nil] at hread
  rw [text, Utf8.encode_ofList, read?, hread]
  rfl

/-- Different values have different texts. -/
theorem text_injective {value other : Json} (h : value.text = other.text) : value = other := by
  have hread := read?_text value
  rw [h, read?_text other, Option.some.injEq] at hread
  exact hread.symm

end Json
end BearerTokens
