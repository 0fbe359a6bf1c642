/-!
# Splitting a text at a separator

A text with {lit}`n` separators has {lit}`n + 1` parts, and joining the parts
with the separator gives the text back.

Main results:

- Theorem {lit}`join_split`: the parts, joined again, are the text.
- Theorem {lit}`split_join`: parts without the separator survive joining.
-/

namespace BearerTokens
namespace Text

/-- The parts of a list between the occurrences of a separator; never empty. -/
def split {α : Type} [DecidableEq α] (separator : α) : List α → List (List α)
  | [] => [[]]
  | c :: rest =>
    if c = separator then
      [] :: split separator rest
    else
      match split separator rest with
      | [] => [[c]]
      | part :: parts => (c :: part) :: parts

/-- Put a separator between neighbouring parts. -/
def join {α : Type} (separator : α) : List (List α) → List α
  | [] => []
  | [part] => part
  | part :: parts => part ++ separator :: join separator parts

/-! ## Splitting and joining -/

variable {α : Type} [DecidableEq α]

/-- There is always at least one part. -/
theorem split_ne_nil (separator : α) (cs : List α) : split separator cs ≠ [] := by
  cases cs with
  | nil => simp [split]
  | cons c rest =>
    rw [split]
    split
    · simp
    · split <;> simp

/-- Joining the parts gives the text back. -/
theorem join_split (separator : α) (cs : List α) :
    join separator (split separator cs) = cs := by
  induction cs with
  | nil => rfl
  | cons c rest ih =>
    rw [split]
    split
    · next h =>
      cases hs : split separator rest with
      | nil => exact absurd hs (split_ne_nil separator rest)
      | cons part parts => rw [join, ← hs, ih, h]; simp; simp
    · next h =>
      cases hs : split separator rest with
      | nil => exact absurd hs (split_ne_nil separator rest)
      | cons part parts =>
        rw [hs] at ih
        cases parts with
        | nil => simpa [join] using ih
        | cons next parts => simpa [join] using ih

/-- A list without the separator is its own only part. -/
theorem split_of_not_mem {separator : α} {cs : List α} (h : separator ∉ cs) :
    split separator cs = [cs] := by
  induction cs with
  | nil => rfl
  | cons c rest ih =>
    have hc : c ≠ separator := fun hc => h (by simp [hc])
    rw [split, if_neg hc, ih (fun hr => h (by simp [hr]))]

/-- A part without the separator, then the separator, then anything: one part is split off. -/
theorem split_append_cons {separator : α} {part : List α} (h : separator ∉ part)
    (rest : List α) :
    split separator (part ++ separator :: rest) = part :: split separator rest := by
  induction part with
  | nil => simp [split]
  | cons c part ih =>
    have hc : c ≠ separator := fun hc => h (by simp [hc])
    rw [List.cons_append, split, if_neg hc, ih (fun hr => h (by simp [hr]))]

/-- Parts without the separator survive joining and splitting. -/
theorem split_join {separator : α} {parts : List (List α)} (hne : parts ≠ [])
    (h : ∀ part ∈ parts, separator ∉ part) : split separator (join separator parts) = parts := by
  induction parts with
  | nil => exact absurd rfl hne
  | cons part parts ih =>
    cases parts with
    | nil => simpa [join] using split_of_not_mem (h part (by simp))
    | cons next parts =>
      rw [join, split_append_cons (h part (by simp))]
      · rw [ih (by simp) (fun p hp => h p (by simp [hp]))]
      · simp

end Text
end BearerTokens
