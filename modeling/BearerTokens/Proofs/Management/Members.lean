import BearerTokens.Management.Decoding
import BearerTokens.Proofs.Json.IntegerText
import BearerTokens.Proofs.Json.Unescaping

/-!
# The values of known members

The value of a member may be null, a text in any spelling, or an integer in plain decimal.
Reading the value of a known member succeeds exactly if the value means something that the
member may hold, and then it changes this member only.

Main results:

- Definition {lit}`CreateRequest.Means`: what a value means to a request.
- Theorems {lit}`CreateRequest.decodeText_iff`, {lit}`CreateRequest.decodeText?_iff` and
  {lit}`CreateRequest.decodeHours_iff`: what is read of a value.
- Theorem {lit}`CreateRequest.decodeMember_iff`: what is read of the value of a member.
-/

namespace BearerTokens

open Json (Unescapes IsBody IsText IsNumber EndsLiteral Padded isSpace skipSpace skipExactly
  readString readNumber skipSpace_blanks skipSpace_cons)

namespace Json

variable {text rest : List UInt8}

/-! ## The first byte of a value -/

/-- A number begins with a digit or a minus sign. -/
theorem IsNumber.head {literal : List UInt8} (h : IsNumber literal) :
    ∃ b, literal.head? = some b ∧ (b = ascii '-' ∨ Ascii.isDigit b = true) := by
  cases h with
  | positive hunsigned =>
    obtain ⟨b, tail, rfl, hb⟩ := hunsigned.exists_cons
    exact ⟨b, rfl, .inr hb⟩
  | negative _ => exact ⟨ascii '-', rfl, .inl rfl⟩

/-- A value is null, a number or a string, or it begins as none of them does. -/
theorem IsText.kind (h : IsText text) :
    text = Ascii.bytes "null" ∨ IsNumber text ∨
      (∃ body, IsBody body ∧ text = ascii '"' :: (body ++ [ascii '"'])) ∨
      ∃ b ∈ [ascii 't', ascii 'f', ascii '[', ascii '\x7b'], text.head? = some b := by
  cases h with
  | null => exact .inl rfl
  | number hnumber => exact .inr (.inl hnumber)
  | string hbody => exact .inr (.inr (.inl ⟨_, hbody, rfl⟩))
  | yes => exact .inr (.inr (.inr ⟨ascii 't', by decide, rfl⟩))
  | no => exact .inr (.inr (.inr ⟨ascii 'f', by decide, rfl⟩))
  | emptyArray _ => exact .inr (.inr (.inr ⟨ascii '[', by decide, rfl⟩))
  | array _ _ => exact .inr (.inr (.inr ⟨ascii '[', by decide, rfl⟩))
  | emptyObject _ => exact .inr (.inr (.inr ⟨ascii '\x7b', by decide, rfl⟩))
  | object _ _ => exact .inr (.inr (.inr ⟨ascii '\x7b', by decide, rfl⟩))

variable {b : UInt8}

/-- A value that begins with a digit or a minus sign is a number. -/
theorem IsText.number_of_head (h : IsText text) (hhead : text.head? = some b)
    (hb : b = ascii '-' ∨ Ascii.isDigit b = true) : IsNumber text := by
  rcases h.kind with rfl | hnumber | ⟨body, -, rfl⟩ | ⟨c, hc, hother⟩
  · cases hhead
    exact absurd hb (by decide)
  · exact hnumber
  · cases hhead
    exact absurd hb (by decide)
  · cases hhead.symm.trans hother
    simp only [List.mem_cons, List.not_mem_nil, or_false] at hc
    rcases hc with rfl | rfl | rfl | rfl <;> exact absurd hb (by decide)

/-- A value that begins with a quote is a string. -/
theorem IsText.string_of_head (h : IsText text) (hhead : text.head? = some (ascii '"')) :
    ∃ body, IsBody body ∧ text = ascii '"' :: (body ++ [ascii '"']) := by
  rcases h.kind with rfl | hnumber | hstring | ⟨c, hc, hother⟩
  · exact absurd hhead (by decide)
  · obtain ⟨c, hc, hkind⟩ := hnumber.head
    cases hhead.symm.trans hc
    exact absurd hkind (by decide)
  · exact hstring
  · cases hhead.symm.trans hother
    exact absurd hc (by decide)

/-- A value that begins with the letter of null is null. -/
theorem IsText.null_of_head (h : IsText text) (hhead : text.head? = some (ascii 'n')) :
    text = Ascii.bytes "null" := by
  rcases h.kind with rfl | hnumber | ⟨body, -, rfl⟩ | ⟨c, hc, hother⟩
  · rfl
  · obtain ⟨c, hc, hkind⟩ := hnumber.head
    cases hhead.symm.trans hc
    exact absurd hkind (by decide)
  · exact absurd (Option.some.inj hhead) (by decide)
  · cases hhead.symm.trans hother
    exact absurd hc (by decide)

end Json

namespace CreateRequest

/-! ## What a value means -/

/-- What the value of a known member may say. -/
inductive Content where
  | null
  | text (s : String)
  | integer (n : Int)
  deriving DecidableEq, Repr

/-- What a value says: null, a text in any spelling, or an integer in plain decimal. -/
inductive Means : List UInt8 → Content → Prop where
  | null : Means (Ascii.bytes "null") .null
  | text {body : List UInt8} {s : String} :
    Unescapes body (Utf8.encode s) → Means (ascii '"' :: (body ++ [ascii '"'])) (.text s)
  | integer (n : Int) : Means (Utf8.encode (Decimal.text n)) (.integer n)

variable {core rest left : List UInt8} {value : Padded}

/-- Only null says null. -/
theorem means_null_iff : Means core .null ↔ core = Ascii.bytes "null" := by
  constructor
  · intro h
    cases h
    rfl
  · rintro rfl
    exact .null

/-- Only the text of an integer says the integer. -/
theorem means_integer_iff {n : Int} :
    Means core (.integer n) ↔ core = Utf8.encode (Decimal.text n) := by
  constructor
  · intro h
    cases h
    rfl
  · rintro rfl
    exact .integer n

/-- A string says the text that its bytes stand for. -/
theorem means_text_iff {body : List UInt8} {s : String} :
    Means (ascii '"' :: (body ++ [ascii '"'])) (.text s) ↔ Unescapes body (Utf8.encode s) := by
  constructor
  · intro h
    generalize hcore : ascii '"' :: (body ++ [ascii '"']) = core at h
    cases h with
    | text hbody =>
      have hsame := List.append_cancel_right (List.cons.inj hcore).2
      rw [hsame]
      exact hbody
  · exact .text

/-- What says a text begins with a quote. -/
theorem Means.head_text {s : String} (h : Means core (.text s)) :
    core.head? = some (ascii '"') := by
  cases h
  rfl

/-! ## Reading values -/

/-- Behind the blanks in front, a value begins with its first byte. -/
theorem skipSpace_value (hblank : value.Blank) (htext : IsText value.core) (rest : List UInt8) :
    ∃ b tail, value.core = b :: tail ∧ isSpace b = false ∧
      skipSpace (value.bytes ++ rest) = b :: (tail ++ (value.after ++ rest)) := by
  obtain ⟨b, tail, hcore, hspace, -⟩ := htext.exists_cons
  refine ⟨b, tail, hcore, hspace, ?_⟩
  rw [Padded.bytes, List.append_assoc, List.append_assoc, skipSpace_blanks hblank.before, hcore,
    List.cons_append, skipSpace_cons hspace]

/-- A text is read of a value exactly if the value says it. -/
theorem decodeText_iff (place : Place) {s : String} (hblank : value.Blank)
    (htext : IsText value.core) :
    decodeText place (value.bytes ++ rest) = .ok (s, left) ↔
      Means value.core (.text s) ∧ left = value.after ++ rest := by
  obtain ⟨b, tail, hcore, -, hbytes⟩ := skipSpace_value hblank htext rest
  rw [decodeText, hbytes]
  by_cases hquote : b = ascii '"'
  · obtain ⟨body, hbody, hstring⟩ := htext.string_of_head (by rw [hcore, hquote]; rfl)
    have htail : tail = body ++ [ascii '"'] := (List.cons.inj (hcore.symm.trans hstring)).2
    have hread : readString (body ++ ascii '"' :: (value.after ++ rest)) = some (s, left) ↔
        Unescapes body (Utf8.encode s) ∧ left = value.after ++ rest :=
      Json.readString_body_iff hbody
    rw [hstring, means_text_iff, ← hread, htail, List.append_assoc, List.singleton_append]
    simp only [if_pos hquote]
    cases readString (body ++ ascii '"' :: (value.after ++ rest)) with
    | none => simp only [reduceCtorEq]
    | some read => simp only [Except.ok.injEq, Option.some.injEq]
  · simp only [if_neg hquote]
    constructor
    · intro h
      cases h
    · rintro ⟨hmeans, -⟩
      have hhead := hmeans.head_text
      rw [hcore] at hhead
      exact absurd (Option.some.inj hhead) hquote

/-- What a value says that may be a text or null. -/
def textOrNull : Option String → Content
  | none => .null
  | some s => .text s

/-- A text or null is read of a value exactly if the value says it. -/
theorem decodeText?_iff (place : Place) {s : Option String} (hblank : value.Blank)
    (htext : IsText value.core) :
    decodeText? place (value.bytes ++ rest) = .ok (s, left) ↔
      Means value.core (textOrNull s) ∧ left = value.after ++ rest := by
  obtain ⟨b, tail, hcore, hspace, hbytes⟩ := skipSpace_value hblank htext rest
  have hsame : decodeText place (value.bytes ++ rest) =
      decodeText place (b :: (tail ++ (value.after ++ rest))) := by
    rw [decodeText, decodeText, hbytes, skipSpace_cons hspace]
  rw [decodeText?, hbytes]
  by_cases hn : b = ascii 'n'
  · have hnull : value.core = Ascii.bytes "null" := htext.null_of_head (by rw [hcore, hn]; rfl)
    have htail : tail = Ascii.bytes "ull" := (List.cons.inj (hcore.symm.trans hnull)).2
    have hskip : skipExactly (Ascii.bytes "ull") (tail ++ (value.after ++ rest)) =
        some (value.after ++ rest) := by
      rw [htail]
      rfl
    simp only [if_pos hn, hskip, Except.ok.injEq, Prod.mk.injEq]
    constructor
    · rintro ⟨rfl, rfl⟩
      exact ⟨means_null_iff.mpr hnull, rfl⟩
    · rintro ⟨hmeans, rfl⟩
      cases s with
      | none => exact ⟨rfl, rfl⟩
      | some s =>
        have hhead := hmeans.head_text
        rw [hnull] at hhead
        exact absurd hhead (by decide)
  · simp only [if_neg hn, ← hsame]
    constructor
    · intro h
      split at h
      · cases h
      · next read after hread =>
        cases h
        exact (decodeText_iff place hblank htext).mp hread
    · rintro ⟨hmeans, hleft⟩
      cases s with
      | none =>
        have hnull := hcore.symm.trans (means_null_iff.mp hmeans)
        exact absurd (List.cons.inj hnull).1 hn
      | some s =>
        rw [(decodeText_iff place hblank htext).mpr ⟨hmeans, hleft⟩]

/-- Whether hours are in the range of a request. -/
def Lasts (n : Int) : Prop :=
  Number.minSigned64 ≤ n ∧ n ≤ Number.maxSigned64

/-- The integer of a number is taken exactly if it is not beyond the signed range. -/
theorem hoursOf_iff (place : Place) {numeral : Json.Numeral} {n : Int}
    (hnegative : ∀ value, numeral = .negative value → value ≤ 0) :
    hoursOf place numeral = .ok n ↔ numeral.integer? = some n ∧ n ≤ Number.maxSigned64 := by
  cases numeral with
  | natural value =>
    simp only [hoursOf, Json.Numeral.integer?, Option.some.injEq]
    split
    · next hfits =>
      simp only [Except.ok.injEq]
      constructor
      · rintro rfl
        exact ⟨rfl, hfits⟩
      · exact And.left
    · next hbeyond =>
      constructor
      · intro h
        cases h
      · rintro ⟨rfl, hfits⟩
        exact absurd hfits hbeyond
  | negative value =>
    have hvalue := hnegative value rfl
    simp only [hoursOf, Json.Numeral.integer?, Option.some.injEq, Except.ok.injEq]
    constructor
    · rintro rfl
      exact ⟨rfl, Int.le_trans hvalue (by decide)⟩
    · exact And.left
  | binary negative magnitude =>
    simp only [hoursOf, Json.Numeral.integer?, reduceCtorEq, false_and]

/-- An integer is read of a value exactly if the value says it and it lies in the range. -/
theorem decodeHours_iff (place : Place) {n : Int} (hblank : value.Blank)
    (htext : IsText value.core) (hrest : EndsLiteral rest) :
    decodeHours place (value.bytes ++ rest) = .ok (n, left) ↔
      (Means value.core (.integer n) ∧ Lasts n) ∧ left = value.after ++ rest := by
  obtain ⟨b, tail, hcore, -, hbytes⟩ := skipSpace_value hblank htext rest
  rw [decodeHours, hbytes, means_integer_iff]
  by_cases hfirst : b = ascii '-' ∨ Ascii.isDigit b = true
  · have hnumber : IsNumber value.core := htext.number_of_head (by rw [hcore]; rfl) hfirst
    have hread := @Json.readNumber_integer_iff left _ _ hnumber (hrest.blanks hblank.after) n
    rw [hcore, List.cons_append] at hread
    have hhours : ∀ {numeral after m},
        readNumber (b :: (tail ++ (value.after ++ rest))) = some (numeral, after) →
          (hoursOf place numeral = .ok m ↔ numeral.integer? = some m ∧ m ≤ Number.maxSigned64) :=
      fun hnumeral => hoursOf_iff place fun _ hnegative =>
        Json.readNumber_negative_le (hnegative ▸ hnumeral)
    rw [hcore]
    simp only [hfirst, if_true]
    constructor
    · intro h
      split at h
      · cases h
      next numeral after hnumeral =>
      split at h
      · cases h
      next hours hok =>
      cases h
      have hinteger := (hhours hnumeral).mp hok
      obtain ⟨hsaid, hrange, hleft⟩ := hread.mp ⟨numeral, hnumeral, hinteger.1⟩
      exact ⟨⟨hsaid, hrange.1, hinteger.2⟩, hleft⟩
    · rintro ⟨⟨hsaid, hmin, hmax⟩, hleft⟩
      have hword : n ≤ Number.maxUnsigned64 := Int.le_trans hmax (by decide)
      obtain ⟨numeral, hnumeral, hinteger⟩ := hread.mpr ⟨hsaid, ⟨hmin, hword⟩, hleft⟩
      simp only [hnumeral, (hhours hnumeral).mpr ⟨hinteger, hmax⟩]
  · simp only [hfirst, if_false]
    constructor
    · intro h
      cases h
    · rintro ⟨⟨hmeans, -⟩, -⟩
      obtain ⟨c, hc, hkind⟩ := Json.head_encode_text n
      rw [← hmeans, hcore] at hc
      cases hc
      exact absurd hkind hfirst

/-! ## Known members -/

/-- What a member may hold. -/
inductive Content.Fits : Content → Member → Prop where
  | name (s : String) : Fits (.text s) .name
  | description (s : Option String) : Fits (textOrNull s) .description
  | hours {n : Int} : Lasts n → Fits (.integer n) .hours

/-- Hours that a member may hold are in the range. -/
theorem Content.Fits.lasts {n : Int} (h : (Content.integer n).Fits .hours) : Lasts n := by
  generalize hcontent : Content.integer n = content at h
  cases h with
  | hours hlasts =>
    cases hcontent
    exact hlasts

namespace Members

/-- What was read of a member. -/
def content (members : Members) : Member → Option Content
  | .name => members.name.map .text
  | .description => members.description.map textOrNull
  | .hours => members.hours.map .integer

/-- A text and null are told from each other. -/
theorem textOrNull_inj {s t : Option String} (h : textOrNull s = textOrNull t) : s = t := by
  cases s <;> cases t <;> cases h <;> rfl

/-- Members are told from each other by what was read of each. -/
theorem ext_content {members others : Members}
    (h : ∀ member, members.content member = others.content member) : members = others := by
  have hname : members.name = others.name :=
    Option.map_injective (fun _ _ => Content.text.inj) (h .name)
  have hdescription : members.description = others.description :=
    Option.map_injective (fun _ _ => textOrNull_inj) (h .description)
  have hhours : members.hours = others.hours :=
    Option.map_injective (fun _ _ => Content.integer.inj) (h .hours)
  cases members
  cases others
  simp_all only

/-- A member has been read if anything was read of it. -/
theorem has_eq (members : Members) (member : Member) :
    members.has member = (members.content member).isSome := by
  cases member <;> simp only [has, content, Option.isSome_map]

/-- One more member was read, and the others stayed as they were. -/
structure Gains (members : Members) (member : Member) (found : Members) (content : Content) :
    Prop where
  fits : content.Fits member
  gained : found.content member = some content
  others : ∀ other, other ≠ member → found.content other = members.content other

variable {members found another : Members} {member : Member} {content : Content}

/-- What was read determines the members. -/
theorem Gains.unique (h : members.Gains member found content)
    (hanother : members.Gains member another content) : found = another := by
  apply ext_content
  intro other
  by_cases hsame : other = member
  · rw [hsame, h.gained, hanother.gained]
  · rw [h.others other hsame, hanother.others other hsame]

/-- A name is read. -/
theorem gains_name (members : Members) (s : String) :
    members.Gains .name ⟨some s, members.description, members.hours⟩ (.text s) := by
  refine ⟨.name s, rfl, fun other hother => ?_⟩
  cases other with
  | name => exact absurd rfl hother
  | description => rfl
  | hours => rfl

/-- A description is read, or that there is none. -/
theorem gains_description (members : Members) (s : Option String) :
    members.Gains .description ⟨members.name, some s, members.hours⟩ (textOrNull s) := by
  refine ⟨.description s, rfl, fun other hother => ?_⟩
  cases other with
  | name => rfl
  | description => exact absurd rfl hother
  | hours => rfl

/-- The hours are read. -/
theorem gains_hours (members : Members) {n : Int} (h : Lasts n) :
    members.Gains .hours ⟨members.name, members.description, some n⟩ (.integer n) := by
  refine ⟨.hours h, rfl, fun other hother => ?_⟩
  cases other with
  | name => rfl
  | description => rfl
  | hours => exact absurd rfl hother

end Members

/-- The value of a known member is read exactly if it says something that the member may hold. -/
theorem decodeMember_iff {members found : Members} {member : Member} (hblank : value.Blank)
    (htext : IsText value.core) (hrest : EndsLiteral rest) :
    members.decodeMember member (value.bytes ++ rest) = .ok (found, left) ↔
      (∃ content, Means value.core content ∧ members.Gains member found content) ∧
        left = value.after ++ rest := by
  unfold Members.decodeMember
  constructor
  · intro h
    split at h
    · split at h
      · cases h
      next s after hread =>
      cases h
      have hsaid := (decodeText_iff _ hblank htext).mp hread
      exact ⟨⟨_, hsaid.1, members.gains_name s⟩, hsaid.2⟩
    · split at h
      · cases h
      next s after hread =>
      cases h
      have hsaid := (decodeText?_iff _ hblank htext).mp hread
      exact ⟨⟨_, hsaid.1, members.gains_description s⟩, hsaid.2⟩
    · split at h
      · cases h
      next n after hread =>
      cases h
      have hsaid := (decodeHours_iff _ hblank htext hrest).mp hread
      exact ⟨⟨_, hsaid.1.1, members.gains_hours hsaid.1.2⟩, hsaid.2⟩
  · rintro ⟨⟨content, hmeans, hgains⟩, hleft⟩
    cases hgains.fits with
    | name s =>
      rw [hgains.unique (members.gains_name s)]
      simp only [(decodeText_iff (.member .name) hblank htext).mpr ⟨hmeans, hleft⟩]
    | description s =>
      rw [hgains.unique (members.gains_description s)]
      simp only [(decodeText?_iff (.member .description) hblank htext).mpr ⟨hmeans, hleft⟩]
    | hours hlasts =>
      rw [hgains.unique (members.gains_hours hlasts)]
      simp only [(decodeHours_iff (.member .hours) hblank htext hrest).mpr
        ⟨⟨hmeans, hlasts⟩, hleft⟩]

end CreateRequest
end BearerTokens
