import Mathlib.Data.List.TakeWhile
import BearerTokens.Http.Target
import BearerTokens.Proofs.Management.Addressing
import BearerTokens.Proofs.Text.PercentEncoding

/-!
# Names in paths

The name of a token stands in its path as any percent-encoding of its bytes.  A target
with such a path is accepted and leads to the token, and decoding the segment once gives
the name back, whatever separators, escapes or other characters it has.

Main results:

- Theorem {lit}`Management.nameOf_eq_ok_of_encodes`: the name is read back.
- Theorem {lit}`Route.targetPath?_itemPath`: the target of an encoded name is accepted.
-/

namespace BearerTokens

/-! ## Segments -/

/-- The name of a segment that encodes it is read back. -/
theorem Management.nameOf_eq_ok_of_encodes {name : String} {segment : List Char}
    (h : Percent.Encodes (Utf8.encode name) segment) : nameOf segment = .ok name := by
  rw [nameOf, Percent.decodeText?_of_encodes h]

/-- Only the empty text has no bytes. -/
theorem Utf8.encode_ne_nil {s : String} (h : s ≠ "") : Utf8.encode s ≠ [] := by
  intro hnil
  apply h
  have hempty : Utf8.encode s = Utf8.encode "" := by
    rw [hnil]
    rfl
  exact Utf8.encode_injective hempty

namespace Route

/-- The path of an encoded name leads to the token. -/
theorem ofPath?_of_encodes {name : String} (hname : name ≠ "") {segment : List Char}
    (h : Percent.Encodes (Utf8.encode name) segment) :
    ofPath? (itemPath segment) = some (.item segment) := by
  refine ofPath?_itemPath (h.ne_nil (Utf8.encode_ne_nil hname)) ?_
  intro hslash
  rcases h.char hslash with hplain | hsign
  · exact absurd hplain (by decide)
  · exact absurd hsign (by decide)

/-! ## Targets -/

/-- A character of an encoding may stand in a path, and ends no path. -/
theorem isPathChar_of_encodes {bytes : List UInt8} {segment : List Char}
    (h : Percent.Encodes bytes segment) {c : Char} (hc : c ∈ segment) :
    Http.isPathChar c = true ∧ c ≠ '#' ∧ c ≠ '?' := by
  rcases h.char hc with hplain | rfl
  · have hrange := Percent.isUnreserved_iff.mp hplain
    refine ⟨?_, ?_, ?_⟩
    · simp only [Http.isPathChar, Http.between, Bool.or_eq_true, Bool.and_eq_true, beq_iff_eq,
        decide_eq_true_eq]
      omega
    · rintro rfl
      exact absurd hplain (by decide)
    · rintro rfl
      exact absurd hplain (by decide)
  · decide

/-- A path without marks of its end is the path of a target of it alone. -/
theorem pathOf?_of_forall {path : List Char} (hne : path ≠ [])
    (h : ∀ c ∈ path, Http.isPathChar c = true ∧ c ≠ '#' ∧ c ≠ '?') :
    Http.pathOf? path = some path := by
  have hfragment : Http.beforeFragment path = path := by
    rw [Http.beforeFragment, List.takeWhile_eq_self_iff]
    intro c hc
    exact decide_eq_true (h c hc).2.1
  have hmarks : ∀ c ∈ path, decide (c ≠ '?') = true := fun c hc => decide_eq_true (h c hc).2.2
  have hpath : path.takeWhile (· ≠ '?') = path := List.takeWhile_eq_self_iff.mpr hmarks
  have hquery : path.dropWhile (· ≠ '?') = [] := List.dropWhile_eq_nil_iff.mpr hmarks
  have hchars : path.all Http.isPathChar = true :=
    List.all_eq_true.mpr fun c hc => (h c hc).1
  have hempty : path.isEmpty = false := by
    rw [Bool.eq_false_iff, ne_eq, List.isEmpty_iff]
    exact hne
  simp only [Http.pathOf?, hfragment, hpath, hquery, hchars, hempty, List.drop_nil, List.all_nil,
    Bool.and_self, if_true, Bool.false_eq_true, if_false]

/-- The target of a name of at most 255 characters is accepted, by any of its encodings. -/
theorem targetPath?_itemPath {name : String} (hlength : name.length ≤ 255) {segment : List Char}
    (h : Percent.Encodes (Utf8.encode name) segment) :
    Http.targetPath? (String.ofList (itemPath segment)) = some (itemPath segment) := by
  have hchars : ∀ c ∈ itemPath segment, Http.isPathChar c = true ∧ c ≠ '#' ∧ c ≠ '?' := by
    intro c hc
    have hlead : (collectionPath ++ ['/']).all
        (fun c => Http.isPathChar c && c != '#' && c != '?') = true := by decide +kernel
    rw [itemPath_eq] at hc
    rcases List.mem_append.mp hc with hfirst | hlast
    · have hchar := List.all_eq_true.mp hlead c hfirst
      simp only [Bool.and_eq_true, bne_iff_ne] at hchar
      exact ⟨hchar.1.1, hchar.1.2, hchar.2⟩
    · exact isPathChar_of_encodes h hlast
  have hsize : (String.ofList (itemPath segment)).utf8ByteSize ≤ Http.maxTargetLength := by
    have hbytes := Utf8.length_encode_le (String.ofList (itemPath segment))
    have hsegment := h.length_le
    have hname := Utf8.length_encode_le name
    rw [Utf8.length_encode, String.length_ofList, length_itemPath] at hbytes
    rw [Http.maxTargetLength]
    omega
  have hslash : itemPath segment = '/' :: (itemPath segment).tail := rfl
  have hpath := pathOf?_of_forall (by simp [itemPath]) hchars
  rw [hslash] at hpath
  rw [Http.targetPath?, if_neg (Nat.not_lt.mpr hsize), String.toList_ofList, hslash]
  exact hpath

end Route
end BearerTokens
