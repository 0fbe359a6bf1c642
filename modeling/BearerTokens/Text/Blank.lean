/-!
# Blank characters

The Unicode property White_Space and the removal of blanks at both ends of a
text.  A text inside the library is a {lit}`String` at interfaces and a list of
characters where it is taken apart.

Main results:

- Theorems {lit}`trimStart_append_of_blank` and {lit}`trimEnd_append_of_blank`:
  more blanks at an end do not change what trimming leaves there.
-/

namespace BearerTokens
namespace Text

/-- The characters with the Unicode property White_Space. -/
def isBlank (c : Char) : Bool :=
  let n := c.toNat
  (9 ≤ n && n ≤ 13) || n == 0x20 || n == 0x85 || n == 0xA0 || n == 0x1680 ||
    (0x2000 ≤ n && n ≤ 0x200A) || n == 0x2028 || n == 0x2029 || n == 0x202F ||
    n == 0x205F || n == 0x3000

/-- Drop blanks at the end. -/
def trimEnd (cs : List Char) : List Char :=
  (cs.reverse.dropWhile isBlank).reverse

/-- Drop blanks at the start. -/
def trimStart (cs : List Char) : List Char :=
  cs.dropWhile isBlank

/-- Drop blanks at both ends. -/
def trim (cs : List Char) : List Char :=
  trimEnd (trimStart cs)

/-- A text is blank when all of its characters are. -/
def allBlank (s : String) : Bool :=
  s.toList.all isBlank

/-! ## Laws of trimming -/

/-- Blanks in front of a list are dropped before anything else. -/
theorem trimStart_append_of_blank {blanks : List Char} (h : ∀ c ∈ blanks, isBlank c = true)
    (cs : List Char) : trimStart (blanks ++ cs) = trimStart cs := by
  induction blanks with
  | nil => rfl
  | cons c rest ih =>
    have hc : isBlank c = true := h c (by simp)
    simpa [trimStart, hc] using ih (fun d hd => h d (by simp [hd]))

/-- Blanks at the end of a list are dropped before anything else. -/
theorem trimEnd_append_of_blank {blanks : List Char} (h : ∀ c ∈ blanks, isBlank c = true)
    (cs : List Char) : trimEnd (cs ++ blanks) = trimEnd cs := by
  have hr : ∀ c ∈ blanks.reverse, isBlank c = true := fun c hc => h c (by simpa using hc)
  have := trimStart_append_of_blank hr cs.reverse
  simp only [trimStart] at this
  simp [trimEnd, this]

end Text
end BearerTokens
