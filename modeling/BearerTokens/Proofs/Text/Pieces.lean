import BearerTokens.Text.Blank
import BearerTokens.Text.Split
import Mathlib.Data.List.TakeWhile

/-!
# Pieces of a text

What taking a text apart means, said without the functions that do it.  A text
has only one division at a separator, and only one core without the blanks
around it, and these are what splitting and trimming find.

Main results:

- Theorem {lit}`Text.split_eq_iff`: splitting finds the parts between separators.
- Theorem {lit}`Text.trim_eq_iff`: trimming finds the core between blanks.
- Theorem {lit}`Text.Trims.of_toLower`: a word whose lower case has no blanks at its
  ends has none itself.
-/

namespace BearerTokens
namespace Text

/-! ## Parts between separators -/

section

variable {α : Type} [DecidableEq α] {separator : α} {text : List α} {parts : List (List α)}

/-- A text consists of parts that do not contain the separator, and of a separator
between neighbours. -/
structure Separates (separator : α) (text : List α) (parts : List (List α)) : Prop where
  ne_nil : parts ≠ []
  free : ∀ part ∈ parts, separator ∉ part
  joined : join separator parts = text

/-- No part of a split text contains the separator. -/
theorem not_mem_of_mem_split {part : List α} (h : part ∈ split separator text) :
    separator ∉ part := by
  induction text generalizing part with
  | nil =>
    rw [List.mem_singleton.mp h]
    exact List.not_mem_nil
  | cons c rest ih =>
    rw [split] at h
    split at h
    · rcases List.mem_cons.mp h with rfl | hrest
      · exact List.not_mem_nil
      · exact ih hrest
    · next hc =>
      split at h
      · next hnil => exact absurd hnil (split_ne_nil separator rest)
      · next first others hsplit =>
        rw [hsplit] at ih
        rcases List.mem_cons.mp h with rfl | hrest
        · intro hmem
          rcases List.mem_cons.mp hmem with rfl | hfirst
          · exact hc rfl
          · exact ih List.mem_cons_self hfirst
        · exact ih (List.mem_cons_of_mem _ hrest)

/-- Splitting finds the parts of which a text consists. -/
theorem split_eq_iff : split separator text = parts ↔ Separates separator text parts := by
  constructor
  · rintro rfl
    exact ⟨split_ne_nil separator text, fun _ => not_mem_of_mem_split, join_split separator text⟩
  · intro h
    rw [← h.joined]
    exact split_join h.ne_nil h.free

/-- A text has only one division into parts. -/
theorem Separates.unique {others : List (List α)} (h : Separates separator text parts)
    (hother : Separates separator text others) : parts = others :=
  (split_eq_iff.mpr h).symm.trans (split_eq_iff.mpr hother)

end

/-! ## The core between blanks -/

/-- A text of blanks only, or the empty one. -/
def Blanks (cs : List Char) : Prop := ∀ c ∈ cs, isBlank c = true

/-- A text consists of a core and of blanks around it, and the core neither begins nor
ends with one. -/
structure Trims (text core : List Char) : Prop where
  surrounded : ∃ before after, Blanks before ∧ Blanks after ∧ text = before ++ core ++ after
  first : ∀ c ∈ core.head?, isBlank c = false
  last : ∀ c ∈ core.getLast?, isBlank c = false

/-- Nothing is dropped from a text that does not begin with a blank. -/
theorem trimStart_of_first {cs : List Char} (h : ∀ c ∈ cs.head?, isBlank c = false) :
    trimStart cs = cs := by
  cases cs with
  | nil => rfl
  | cons c rest =>
    have hc : isBlank c = false := h c rfl
    rw [trimStart, List.dropWhile_cons_of_neg (by simp [hc])]

/-- Nothing is dropped from a text that does not end with a blank. -/
theorem trimEnd_of_last {cs : List Char} (h : ∀ c ∈ cs.getLast?, isBlank c = false) :
    trimEnd cs = cs := by
  have hreverse : ∀ c ∈ cs.reverse.head?, isBlank c = false := by
    rw [List.head?_reverse]
    exact h
  rw [trimEnd, ← trimStart, trimStart_of_first hreverse, List.reverse_reverse]

/-- What is left does not begin with a blank. -/
theorem first_trimStart (cs : List Char) : ∀ c ∈ (trimStart cs).head?, isBlank c = false := by
  intro c hc
  have hnot := List.head?_dropWhile_not isBlank cs
  rw [← trimStart, Option.mem_def.mp hc] at hnot
  exact hnot

/-- What is left does not end with a blank. -/
theorem last_trimEnd (cs : List Char) : ∀ c ∈ (trimEnd cs).getLast?, isBlank c = false := by
  rw [trimEnd, List.getLast?_reverse]
  exact first_trimStart cs.reverse

/-- Only blanks are dropped at the start. -/
theorem exists_blanks_trimStart (cs : List Char) :
    ∃ blanks, Blanks blanks ∧ cs = blanks ++ trimStart cs :=
  ⟨cs.takeWhile isBlank, fun _ => List.mem_takeWhile_imp, List.takeWhile_append_dropWhile.symm⟩

/-- Only blanks are dropped at the end. -/
theorem exists_blanks_trimEnd (cs : List Char) :
    ∃ blanks, Blanks blanks ∧ cs = trimEnd cs ++ blanks := by
  rcases exists_blanks_trimStart cs.reverse with ⟨blanks, hblanks, hcs⟩
  refine ⟨blanks.reverse, fun c hc => hblanks c (List.mem_reverse.mp hc), ?_⟩
  rw [trimEnd, ← trimStart, ← List.reverse_append, ← hcs, List.reverse_reverse]

/-- Trimming finds the core of a text. -/
theorem trim_eq_iff {text core : List Char} : trim text = core ↔ Trims text core := by
  constructor
  · rintro rfl
    rcases exists_blanks_trimStart text with ⟨before, hbefore, htext⟩
    rcases exists_blanks_trimEnd (trimStart text) with ⟨after, hafter, hrest⟩
    refine ⟨⟨before, after, hbefore, hafter, ?_⟩, ?_, last_trimEnd _⟩
    · rw [List.append_assoc, trim, ← hrest]
      exact htext
    · intro c hc
      apply first_trimStart text c
      rw [hrest, List.head?_append, ← trim, Option.mem_def.mp hc]
      rfl
  · rintro ⟨⟨before, after, hbefore, hafter, rfl⟩, hfirst, hlast⟩
    rw [trim, List.append_assoc, trimStart_append_of_blank hbefore]
    cases core with
    | nil =>
      -- Without a core all is blank, and everything is dropped at the start.
      have hnil := trimStart_append_of_blank hafter []
      rw [List.append_nil] at hnil
      rw [List.nil_append, hnil]
      rfl
    | cons c rest =>
      have hstart : trimStart (c :: rest ++ after) = c :: rest ++ after :=
        trimStart_of_first hfirst
      rw [hstart, trimEnd_append_of_blank hafter, trimEnd_of_last hlast]

/-- A text has only one core. -/
theorem Trims.unique {text core other : List Char} (h : Trims text core)
    (hother : Trims text other) : core = other :=
  (trim_eq_iff.mpr h).symm.trans (trim_eq_iff.mpr hother)

/-- Every text has a core. -/
theorem trims_trim (text : List Char) : Trims text (trim text) :=
  trim_eq_iff.mp rfl

/-- A text without blanks at its ends is its own core. -/
theorem Trims.self {core : List Char} (hfirst : ∀ c ∈ core.head?, isBlank c = false)
    (hlast : ∀ c ∈ core.getLast?, isBlank c = false) : Trims core core :=
  ⟨⟨[], [], by simp [Blanks], by simp [Blanks], by simp⟩, hfirst, hlast⟩

/-- More blanks around a text do not change its core. -/
theorem Trims.pad {text core before after : List Char} (h : Trims text core)
    (hbefore : Blanks before) (hafter : Blanks after) : Trims (before ++ text ++ after) core := by
  rcases h.surrounded with ⟨front, back, hfront, hback, rfl⟩
  refine ⟨⟨before ++ front, back ++ after, ?_, ?_, by simp⟩, h.first, h.last⟩
  · intro c hc
    exact (List.mem_append.mp hc).elim (hbefore c) (hfront c)
  · intro c hc
    exact (List.mem_append.mp hc).elim (hback c) (hafter c)

/-- A visible ASCII character is not blank. -/
theorem isBlank_eq_false_of_visible {c : Char} (hlow : 0x21 ≤ c.toNat) (hhigh : c.toNat ≤ 0x7E) :
    isBlank c = false := by
  simp only [isBlank, Bool.or_eq_false_iff, Bool.and_eq_false_iff, decide_eq_false_iff_not,
    beq_eq_false_iff_ne]
  omega

/-- Letter case does not matter for being blank. -/
theorem isBlank_toLower (c : Char) : isBlank c.toLower = isBlank c := by
  unfold Char.toLower
  split
  · next hupper =>
    have hlow : 65 ≤ c.toNat := hupper.1
    have hhigh : c.toNat ≤ 90 := hupper.2
    have hshift : (c.val + 32).toNat = c.toNat + 32 := by
      have hcode : c.toNat = c.val.toNat := rfl
      have hstep : (32 : UInt32).toNat = 32 := rfl
      rw [UInt32.toNat_add, hstep, ← hcode]
      omega
    rw [isBlank_eq_false_of_visible (c := c) (by omega) (by omega)]
    apply isBlank_eq_false_of_visible
    · change 0x21 ≤ (c.val + 32).toNat
      omega
    · change (c.val + 32).toNat ≤ 0x7E
      omega
  · rfl

/-- A word whose lower case has no blanks at its ends has none itself. -/
theorem Trims.of_toLower {word : List Char}
    (h : Trims (word.map Char.toLower) (word.map Char.toLower)) : Trims word word := by
  apply Trims.self
  · intro c hc
    rw [← isBlank_toLower]
    apply h.first
    rw [List.head?_map, Option.mem_def.mp hc]
    rfl
  · intro c hc
    rw [← isBlank_toLower]
    apply h.last
    rw [List.getLast?_map, Option.mem_def.mp hc]
    rfl

end Text
end BearerTokens
