import BearerTokens.Proofs.Json.StringText

/-!
# The grammar of JSON texts

What a JSON text is, in bytes and said without the functions that read or skip one.  The
bytes of a string are only asked to have complete escapes; what they stand for, if it is
a text, is a relation of its own.  Blanks are kept apart from the tokens between which
they stand, so that a text and its surroundings can be told from each other.

Main results:

- Definition {lit}`Json.IsText`: the texts of values, nested to any depth.
- Definition {lit}`Json.Entry`: the parts of a member of an object.
- Definition {lit}`Json.Unescapes`: what the bytes of a string stand for.
- Definition {lit}`Json.IsObjectText`: the documents that are an object with given members.
-/

namespace BearerTokens
namespace Json

/-! ## Strings -/

/-- Bytes that may stand between the tokens of a text. -/
def Blanks (bytes : List UInt8) : Prop :=
  ∀ b ∈ bytes, isSpace b = true

instance : DecidablePred Blanks :=
  fun bytes => List.decidableBAll (fun b => isSpace b = true) bytes

/-- Whether all bytes of a string stand for themselves. -/
def ArePlain (bytes : List UInt8) : Prop :=
  ∀ b ∈ bytes, IsPlain b

instance : DecidablePred ArePlain :=
  fun bytes => List.decidableBAll IsPlain bytes

/-- The letters of the escapes of one letter, and the bytes that they stand for. -/
def shortEscapes : List (UInt8 × UInt8) :=
  [(ascii '"', 0x22), (ascii '\\', 0x5C), (ascii '/', 0x2F), (ascii 'b', 0x08), (ascii 'f', 0x0C),
    (ascii 'n', 0x0A), (ascii 'r', 0x0D), (ascii 't', 0x09)]

/-- The bytes of a string between its quotes. -/
inductive IsBody : List UInt8 → Prop where
  | nil : IsBody []
  | plain {b : UInt8} {body : List UInt8} : IsPlain b → IsBody body → IsBody (b :: body)
  | short {letter byte : UInt8} {body : List UInt8} :
    (letter, byte) ∈ shortEscapes → IsBody body → IsBody (ascii '\\' :: letter :: body)
  | numbered {h₁ h₂ h₃ h₄ : UInt8} {n : Nat} {body : List UInt8} :
    hex4? h₁ h₂ h₃ h₄ = some n → IsBody body →
    IsBody (ascii '\\' :: ascii 'u' :: h₁ :: h₂ :: h₃ :: h₄ :: body)

/--
The bytes of the text that a string stands for.  A number stands for the character with
this code, unless it is half of a surrogate pair; two halves stand for one character.
-/
inductive Unescapes : List UInt8 → List UInt8 → Prop where
  | nil : Unescapes [] []
  | plain {b : UInt8} {body bytes : List UInt8} :
    IsPlain b → Unescapes body bytes → Unescapes (b :: body) (b :: bytes)
  | short {letter byte : UInt8} {body bytes : List UInt8} :
    (letter, byte) ∈ shortEscapes → Unescapes body bytes →
    Unescapes (ascii '\\' :: letter :: body) (byte :: bytes)
  | numbered {h₁ h₂ h₃ h₄ : UInt8} {n : Nat} {body bytes : List UInt8} :
    hex4? h₁ h₂ h₃ h₄ = some n → isHighSurrogate n = false → isLowSurrogate n = false →
    Unescapes body bytes →
    Unescapes (ascii '\\' :: ascii 'u' :: h₁ :: h₂ :: h₃ :: h₄ :: body)
      (String.utf8EncodeChar (Char.ofNat n) ++ bytes)
  | pair {h₁ h₂ h₃ h₄ l₁ l₂ l₃ l₄ : UInt8} {high low : Nat} {body bytes : List UInt8} :
    hex4? h₁ h₂ h₃ h₄ = some high → isHighSurrogate high = true →
    hex4? l₁ l₂ l₃ l₄ = some low → isLowSurrogate low = true → Unescapes body bytes →
    Unescapes (ascii '\\' :: ascii 'u' :: h₁ :: h₂ :: h₃ :: h₄ ::
        ascii '\\' :: ascii 'u' :: l₁ :: l₂ :: l₃ :: l₄ :: body)
      (String.utf8EncodeChar (pairChar high low) ++ bytes)

/-- What stands for something is the bytes of a string. -/
theorem Unescapes.isBody {body bytes : List UInt8} (h : Unescapes body bytes) : IsBody body := by
  induction h with
  | nil => exact .nil
  | plain hb _ ih => exact .plain hb ih
  | short hmem _ ih => exact .short hmem ih
  | numbered hn _ _ _ ih => exact .numbered hn ih
  | pair hhigh _ hlow _ _ ih => exact .numbered hhigh (.numbered hlow ih)

/-- Bytes without escapes stand for themselves. -/
theorem unescapes_plain {body : List UInt8} (h : ArePlain body) : Unescapes body body := by
  induction body with
  | nil => exact .nil
  | cons b body ih =>
    exact .plain (h b List.mem_cons_self) (ih fun c hc => h c (List.mem_cons_of_mem b hc))

/-! ## Numbers -/

/-- Some digits, at least one. -/
structure IsDigits (digits : List UInt8) : Prop where
  ne_nil : digits ≠ []
  digit : ∀ b ∈ digits, Ascii.isDigit b = true

/-- Digits of which a zero in front stands alone. -/
structure IsWhole (digits : List UInt8) : Prop extends IsDigits digits where
  alone : digits.head? = some (ascii '0') → digits = [ascii '0']

instance : DecidablePred IsDigits :=
  fun digits => decidable_of_iff (digits ≠ [] ∧ digits.all Ascii.isDigit = true)
    ⟨fun h => ⟨h.1, List.all_eq_true.mp h.2⟩, fun h => ⟨h.ne_nil, List.all_eq_true.mpr h.digit⟩⟩

instance : DecidablePred IsWhole :=
  fun digits => decidable_of_iff
    (IsDigits digits ∧ (digits.head? = some (ascii '0') → digits = [ascii '0']))
    ⟨fun h => ⟨h.1, h.2⟩, fun h => ⟨h.toIsDigits, h.alone⟩⟩

/-- Nothing, or a point and digits. -/
inductive IsFraction : List UInt8 → Prop where
  | none : IsFraction []
  | digits {digits : List UInt8} : IsDigits digits → IsFraction (ascii '.' :: digits)

/-- Nothing, or a letter and digits, of which the letter may be followed by a sign. -/
inductive IsExponent : List UInt8 → Prop where
  | none : IsExponent []
  | digits {letter : UInt8} {sign digits : List UInt8} :
    letter ∈ [ascii 'e', ascii 'E'] → sign ∈ [[], [ascii '+'], [ascii '-']] → IsDigits digits →
    IsExponent (letter :: (sign ++ digits))

/-- A number without a sign in front. -/
inductive IsUnsigned : List UInt8 → Prop where
  | parts {whole fraction exponent : List UInt8} : IsWhole whole → IsFraction fraction →
    IsExponent exponent → IsUnsigned (whole ++ (fraction ++ exponent))

/-- A number; only a minus sign may be in front. -/
inductive IsNumber : List UInt8 → Prop where
  | positive {literal : List UInt8} : IsUnsigned literal → IsNumber literal
  | negative {literal : List UInt8} : IsUnsigned literal → IsNumber (ascii '-' :: literal)

/-! ## Values -/

/-- Bytes with blanks around them. -/
structure Padded where
  before : List UInt8
  core : List UInt8
  after : List UInt8

/-- The bytes with the blanks. -/
def Padded.bytes (padded : Padded) : List UInt8 :=
  padded.before ++ (padded.core ++ padded.after)

/-- Whether there are blanks only around the bytes. -/
structure Padded.Blank (padded : Padded) : Prop where
  before : Blanks padded.before
  after : Blanks padded.after

instance (padded : Padded) : Decidable padded.Blank :=
  decidable_of_iff (Blanks padded.before ∧ Blanks padded.after)
    ⟨fun h => ⟨h.1, h.2⟩, fun h => ⟨h.before, h.after⟩⟩

/-- A member of an object: blanks, a key between quotes, blanks, a colon and a value. -/
structure Entry where
  before : List UInt8
  key : List UInt8
  between : List UInt8
  value : Padded

/-- The bytes of a member behind the opening quote of its key. -/
def Entry.behind (entry : Entry) : List UInt8 :=
  entry.key ++ ascii '"' :: (entry.between ++ ascii ':' :: entry.value.bytes)

/-- The bytes of a member. -/
def Entry.bytes (entry : Entry) : List UInt8 :=
  entry.before ++ ascii '"' :: entry.behind

/-- Whether everything about a member but its value is well-formed. -/
structure Entry.Framed (entry : Entry) : Prop where
  before : Blanks entry.before
  key : IsBody entry.key
  between : Blanks entry.between
  value : entry.value.Blank

/-- Parts with commas between them. -/
def listing : List (List UInt8) → List UInt8
  | [] => []
  | first :: others => first ++ others.flatMap (ascii ',' :: ·)

/-- The text of a value, without blanks around it. -/
inductive IsText : List UInt8 → Prop where
  | null : IsText (Ascii.bytes "null")
  | yes : IsText (Ascii.bytes "true")
  | no : IsText (Ascii.bytes "false")
  | number {literal : List UInt8} : IsNumber literal → IsText literal
  | string {body : List UInt8} : IsBody body → IsText (ascii '"' :: (body ++ [ascii '"']))
  | emptyArray {inner : List UInt8} : Blanks inner →
    IsText (ascii '[' :: (inner ++ [ascii ']']))
  | array {first : Padded} {others : List Padded} :
    (∀ item ∈ first :: others, item.Blank) → (∀ item ∈ first :: others, IsText item.core) →
    IsText (ascii '[' :: (listing ((first :: others).map Padded.bytes) ++ [ascii ']']))
  | emptyObject {inner : List UInt8} : Blanks inner →
    IsText (ascii '\x7b' :: (inner ++ [ascii '\x7d']))
  | object {first : Entry} {others : List Entry} :
    (∀ entry ∈ first :: others, entry.Framed) →
    (∀ entry ∈ first :: others, IsText entry.value.core) →
    IsText (ascii '\x7b' :: (listing ((first :: others).map Entry.bytes) ++ [ascii '\x7d']))

/-! ## Objects with their members -/

/-- The text of an object with the given members, without blanks around it. -/
inductive IsObject : List Entry → List UInt8 → Prop where
  | empty {inner : List UInt8} : Blanks inner →
    IsObject [] (ascii '\x7b' :: (inner ++ [ascii '\x7d']))
  | members {first : Entry} {others : List Entry} :
    (∀ entry ∈ first :: others, entry.Framed) →
    (∀ entry ∈ first :: others, IsText entry.value.core) →
    IsObject (first :: others)
      (ascii '\x7b' :: (listing ((first :: others).map Entry.bytes) ++ [ascii '\x7d']))

/-- The text of a whole document that is an object with the given members. -/
def IsObjectText (entries : List Entry) (text : List UInt8) : Prop :=
  ∃ padded : Padded, padded.Blank ∧ IsObject entries padded.core ∧ padded.bytes = text

/-- Whether a member has a key, in any spelling. -/
def Entry.HasKey (entry : Entry) (key : String) : Prop :=
  Unescapes entry.key (Utf8.encode key)

end Json
end BearerTokens
