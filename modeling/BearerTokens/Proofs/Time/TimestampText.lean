import Mathlib.Algebra.Group.Nat.Defs
import BearerTokens.Proofs.Time.Calendar

/-!
# The text of a timestamp tells it

No two timestamps have the same text, whatever their years are, how many digits their
fractions take, and whether they are within a leap second.

Main results:

- Theorem {lit}`Timestamp.yearText_injective`: years of any size and sign.
- Theorem {lit}`Timestamp.fractionText_injective`: fractions of any width.
- Theorem {lit}`Timestamp.text_injective`: timestamps.
-/

namespace BearerTokens

/-! ## Padded numbers -/

namespace Decimal

/-- A padded number is worth the number. -/
theorem ofDigitChars_padded (width n : Nat) : Nat.ofDigitChars 10 (padded width n) 0 = n := by
  have hdigits : Nat.ofDigitChars 10 (naturalDigits n) 0 = n := Nat.ofDigitChars_ten_toDigits
  rw [padded, Nat.ofDigitChars_append, Nat.ofDigitChars_replicate_zero, Nat.mul_zero, hdigits]

/-- Different numbers are padded differently. -/
theorem padded_injective {width n m : Nat} (h : padded width n = padded width m) : n = m := by
  have hvalue := congrArg (fun cs => Nat.ofDigitChars 10 cs 0) h
  simp only [ofDigitChars_padded] at hvalue
  exact hvalue

/-- A number that fits is padded to the width. -/
theorem length_padded {width n : Nat} (hwidth : 0 < width) (h : n < 10 ^ width) :
    (padded width n).length = width := by
  have hle : (naturalDigits n).length ≤ width :=
    (Nat.length_toDigits_le_iff (by decide) hwidth).mpr h
  rw [padded, List.length_append, List.length_replicate]
  omega

/-- A padded number has no characters but digits. -/
theorem isDigit_of_mem_padded {width n : Nat} {c : Char} (h : c ∈ padded width n) :
    c.isDigit = true := by
  rw [padded, List.mem_append] at h
  rcases h with hzero | hdigit
  · rw [(List.mem_replicate.mp hzero).2]
    rfl
  · exact Nat.isDigit_of_mem_toDigits (by decide) (by decide) hdigit

/-- A padded number is not empty and begins with a digit. -/
theorem padded_eq_cons (width n : Nat) :
    ∃ c cs, padded width n = c :: cs ∧ c.isDigit = true := by
  cases hpadded : padded width n with
  | nil =>
    have hnil : naturalDigits n = [] := (List.append_eq_nil_iff.mp hpadded).2
    exact absurd hnil Nat.toDigits_ne_nil
  | cons c cs =>
    have hmem : c ∈ padded width n := by
      rw [hpadded]
      exact List.mem_cons_self
    exact ⟨c, cs, rfl, isDigit_of_mem_padded hmem⟩

end Decimal

namespace Timestamp

open Decimal (padded padded_injective length_padded isDigit_of_mem_padded padded_eq_cons)

/-! ## Dates -/

/-- A year without a sign does not begin with one. -/
theorem padded_ne_cons {width n : Nat} {c : Char} (h : c.isDigit = false) (cs : List Char) :
    padded width n ≠ c :: cs := by
  intro heq
  rcases padded_eq_cons width n with ⟨first, rest, hpadded, hdigit⟩
  rw [hpadded, List.cons.injEq] at heq
  rw [heq.1, h] at hdigit
  cases hdigit

/-- Different years have different texts. -/
theorem yearText_injective {year other : Int} (h : yearText year = yearText other) :
    year = other := by
  have hsign : ∀ n : Int, (if n < 0 then '-' else '+').isDigit = false := by
    intro n
    split <;> rfl
  unfold yearText at h
  by_cases hyear : 0 ≤ year ∧ year ≤ 9999
  · by_cases hother : 0 ≤ other ∧ other ≤ 9999
    · rw [if_pos hyear, if_pos hother] at h
      have hvalue := padded_injective h
      omega
    · rw [if_pos hyear, if_neg hother] at h
      exact absurd h (padded_ne_cons (hsign other) _)
  · by_cases hother : 0 ≤ other ∧ other ≤ 9999
    · rw [if_neg hyear, if_pos hother] at h
      exact absurd h.symm (padded_ne_cons (hsign year) _)
    · rw [if_neg hyear, if_neg hother, List.cons.injEq] at h
      have hvalue := padded_injective h.2
      by_cases hnegative : year < 0
      · by_cases hother : other < 0
        · omega
        · rw [if_pos hnegative, if_neg hother] at h
          exact absurd h.1 (by decide)
      · by_cases hother : other < 0
        · rw [if_neg hnegative, if_pos hother] at h
          exact absurd h.1 (by decide)
        · omega

/-- Different dates of days have different texts. -/
theorem Date.text_injective {days other : Int}
    (h : (Date.ofDays days).text = (Date.ofDays other).text) : days = other := by
  have hrange := Date.month_day_ofDays days
  have hrange' := Date.month_day_ofDays other
  apply Date.ofDays_injective
  generalize Date.ofDays days = date at *
  generalize Date.ofDays other = date' at *
  have hlength : ∀ {n : Nat}, n ≤ 31 → ('-' :: padded 2 n).length = 3 := by
    intro n hn
    rw [List.length_cons, length_padded (by decide) (by omega)]
  unfold Date.text at h
  -- Months and days have a fixed width, so they are told from the end.
  have hday := List.append_inj' h (by rw [hlength hrange.2, hlength hrange'.2])
  have hmonth := List.append_inj' hday.1 (by rw [hlength (by omega), hlength (by omega)])
  have hyearEq := yearText_injective hmonth.1
  have hmonthEq := padded_injective (List.cons.inj hmonth.2).2
  have hdayEq := padded_injective (List.cons.inj hday.2).2
  cases date
  cases date'
  simp only at hyearEq hmonthEq hdayEq
  rw [hyearEq, hmonthEq, hdayEq]

/-- The text of a date has no letter. -/
theorem Date.notMem_text (date : Date) : 'T' ∉ date.text := by
  have hpadded : ∀ width n, 'T' ∉ padded width n := by
    intro width n hmem
    exact absurd (isDigit_of_mem_padded hmem) (by decide)
  have hyear : 'T' ∉ yearText date.year := by
    unfold yearText
    split
    · exact hpadded 4 _
    · rw [List.mem_cons]
      rintro (hsign | hmem)
      · split at hsign <;> exact absurd hsign (by decide)
      · exact hpadded 4 _ hmem
  have hhyphen : 'T' ≠ '-' := by decide
  unfold Date.text
  simp only [List.mem_append, List.mem_cons, hhyphen, hyear, hpadded, or_self, not_false_eq_true]

/-! ## Times of day -/

/-- A part of the time of day has two digits. -/
theorem length_clockText {second : Nat} (h : second < 86400) (leap : Bool) :
    (clockText second leap).length = 8 := by
  have hleap : (if leap then 1 else 0) ≤ 1 := by
    split <;> omega
  unfold clockText
  simp only [List.length_append, List.length_cons]
  rw [length_padded (by decide) (by omega), length_padded (by decide) (by omega),
    length_padded (by decide) (by omega)]

/-- Different times of day have different texts; only a last second may be a leap second. -/
theorem clockText_injective {second other : Nat} {leap leap' : Bool} (hsecond : second < 86400)
    (hother : other < 86400) (hleap : leap = true → second % 60 = 59)
    (hleap' : leap' = true → other % 60 = 59)
    (h : clockText second leap = clockText other leap') : second = other ∧ leap = leap' := by
  have hlength : ∀ {n : Nat}, n < 100 → (padded 2 n).length = 2 :=
    fun hn => length_padded (by decide) hn
  unfold clockText at h
  have hparts := List.append_inj h (by
    rw [List.length_append, List.length_append, List.length_cons, List.length_cons,
      hlength (by omega), hlength (by omega), hlength (by omega), hlength (by omega)])
  have hhead := List.append_inj hparts.1 (by rw [hlength (by omega), hlength (by omega)])
  have hhour := padded_injective hhead.1
  have hminute := padded_injective (List.cons.inj hhead.2).2
  have hlast := padded_injective (List.cons.inj hparts.2).2
  cases leap with
  | false =>
    cases leap' with
    | false =>
      simp only [Bool.false_eq_true, if_false] at hlast
      exact ⟨by omega, rfl⟩
    | true =>
      have hend := hleap' rfl
      simp only [Bool.false_eq_true, if_false, if_true] at hlast
      omega
  | true =>
    have hstart := hleap rfl
    cases leap' with
    | false =>
      simp only [Bool.false_eq_true, if_false, if_true] at hlast
      omega
    | true =>
      have hend := hleap' rfl
      exact ⟨by omega, rfl⟩

/-! ## Fractions -/

/-- The digits of a fraction that is not zero. -/
def fractionWidth (nanos : Nat) : Nat :=
  if nanos % 1000000 = 0 then 3 else if nanos % 1000 = 0 then 6 else 9

/-- A fraction that is not zero is written with the digits of its width, which are exact. -/
theorem fractionText_of_ne {nanos : Nat} (h : nanos ≠ 0) :
    fractionText nanos =
        '.' :: padded (fractionWidth nanos) (nanos / 10 ^ (9 - fractionWidth nanos)) ∧
      10 ^ (9 - fractionWidth nanos) ∣ nanos ∧ 0 < fractionWidth nanos ∧
      10 ^ (9 - fractionWidth nanos) * 10 ^ fractionWidth nanos = nanosPerSecond := by
  unfold fractionText fractionWidth
  rw [if_neg h]
  by_cases hmillis : nanos % 1000000 = 0
  · rw [if_pos hmillis, if_pos hmillis]
    exact ⟨rfl, Nat.dvd_of_mod_eq_zero hmillis, by decide, by decide⟩
  · rw [if_neg hmillis, if_neg hmillis]
    by_cases hmicros : nanos % 1000 = 0
    · rw [if_pos hmicros, if_pos hmicros]
      exact ⟨rfl, Nat.dvd_of_mod_eq_zero hmicros, by decide, by decide⟩
    · rw [if_neg hmicros, if_neg hmicros, Nat.sub_self, Nat.pow_zero, Nat.div_one]
      exact ⟨rfl, Nat.one_dvd nanos, by decide, by decide⟩

/-- Different fractions of a second have different texts. -/
theorem fractionText_injective {nanos other : Nat} (hnanos : nanos < nanosPerSecond)
    (hother : other < nanosPerSecond) (h : fractionText nanos = fractionText other) :
    nanos = other := by
  have hzero : fractionText 0 = [] := rfl
  by_cases hn : nanos = 0
  · by_cases ho : other = 0
    · rw [hn, ho]
    · rw [hn, hzero, (fractionText_of_ne ho).1] at h
      cases h
  · by_cases ho : other = 0
    · rw [ho, hzero, (fractionText_of_ne hn).1] at h
      cases h
    · rcases fractionText_of_ne hn with ⟨htext, hexact, hwidth, htotal⟩
      rcases fractionText_of_ne ho with ⟨htext', hexact', hwidth', htotal'⟩
      rw [htext, htext', List.cons.injEq] at h
      have hfits := Nat.div_lt_of_lt_mul (htotal ▸ hnanos)
      have hfits' := Nat.div_lt_of_lt_mul (htotal' ▸ hother)
      have hlength := congrArg List.length h.2
      rw [length_padded hwidth hfits, length_padded hwidth' hfits'] at hlength
      rw [hlength] at h hexact
      have hvalue := padded_injective h.2
      rw [← Nat.mul_div_cancel' hexact, hvalue, Nat.mul_div_cancel' hexact']

/-! ## Timestamps -/

/-- Whether a timestamp has no more nanoseconds than its second may hold. -/
def Representable (t : Timestamp) : Prop :=
  t.nanos < nanosLimit t.seconds

/-- A timestamp within the calendar's range is representable. -/
theorem representable_of_of? {seconds : Int} {nanos : Nat} {t : Timestamp}
    (h : of? seconds nanos = some t) : t.Representable := by
  unfold of? at h
  split at h
  · next hrange =>
    rw [← Option.some.inj h]
    exact hrange.2.2
  · cases h

/-- Only the last second of a minute holds a leap second, and nothing holds more. -/
theorem Representable.spec {t : Timestamp} (h : t.Representable) :
    t.nanos < 2 * nanosPerSecond ∧ (nanosPerSecond ≤ t.nanos → t.seconds % 60 = 59) := by
  unfold Representable nanosLimit at h
  split at h
  · next hlast => exact ⟨h, fun _ => hlast⟩
  · constructor
    · omega
    · intro hleap
      omega

/-- Different timestamps have different texts. -/
theorem text_injective {t other : Timestamp} (ht : t.Representable)
    (hother : other.Representable) (h : t.text = other.text) : t = other := by
  have hchars : t.text.toList = other.text.toList := congrArg String.toList h
  simp only [text, String.toList_ofList, List.append_assoc, List.cons_append] at hchars
  -- The letter in front of the time of day is the first.
  have hsplit : ∀ (date : Date) (rest : List Char),
      (date.text ++ 'T' :: rest).takeWhile (· != 'T') = date.text := by
    intro date rest
    have hall : ∀ c ∈ date.text, (c != 'T') = true := by
      intro c hc
      rw [bne_iff_ne]
      rintro rfl
      exact date.notMem_text hc
    rw [List.takeWhile_append_of_pos hall, List.takeWhile_cons_of_neg (by decide),
      List.append_nil]
  have hdate := congrArg (List.takeWhile (· != 'T')) hchars
  rw [hsplit, hsplit] at hdate
  have hdays := Date.text_injective hdate
  rw [hdate] at hchars
  have hrest := (List.cons.inj (List.append_cancel_left hchars)).2
  have hclocks := List.append_inj hrest (by
    rw [length_clockText (by omega), length_clockText (by omega)])
  have hclock := clockText_injective (by omega) (by omega) ?_ ?_ hclocks.1
  · have hfraction := fractionText_injective (Nat.mod_lt _ (by decide)) (Nat.mod_lt _ (by decide))
      (List.append_cancel_right hclocks.2)
    have hleap := decide_eq_decide.mp hclock.2
    have hlimit := ht.spec.1
    have hlimit' := hother.spec.1
    have hseconds : t.seconds = other.seconds := by omega
    have hnanos : t.nanos = other.nanos := by
      simp only [nanosPerSecond] at hfraction hleap hlimit hlimit'
      omega
    cases t
    cases other
    simp only at hseconds hnanos
    rw [hseconds, hnanos]
  · intro hleap
    have hlast := ht.spec.2 (of_decide_eq_true hleap)
    omega
  · intro hleap
    have hlast := hother.spec.2 (of_decide_eq_true hleap)
    omega

end Timestamp
end BearerTokens
