import BearerTokens.Json.ReadString
import BearerTokens.Json.Value

/-!
# Reading a JSON document

A document is read strictly: one value and nothing else but blanks around its tokens.
Strings are read as the service reads them; numbers are integers of any size without
leading zeros.  Members are kept in their order, and keys that come twice are kept twice,
so that nothing in a document is lost.  The open brackets are kept on a stack with what
was read in them, so a value may be nested to any depth.

Main results:

- Definition {lit}`Json.read?`: the value of a whole document.
- Theorem {lit}`Json.length_readToken_lt`: every step takes at least one byte.
-/

namespace BearerTokens
namespace Json

/-! ## Scalars -/

/-- A natural number at the front of a byte string; a leading zero stands alone. -/
def readNatural (bytes : List UInt8) : Option (Nat × List UInt8) :=
  let digits := bytes.takeWhile Ascii.isDigit
  if digits.head? = some (ascii '0') ∧ 1 < digits.length then none
  else
    (Decimal.digitsValue? (digits.map fun b => Char.ofNat b.toNat)).map fun n =>
      (n, Ascii.dropDigits bytes)

/-- A value that is neither an array nor an object. -/
def readScalar (bytes : List UInt8) : Option (Json × List UInt8) :=
  match bytes with
  | [] => none
  | b :: rest =>
    if b = ascii '"' then (readString rest).map fun read => (.string read.1, read.2)
    else if b = ascii 'n' then (skipExactly (Ascii.bytes "ull") rest).map fun rest => (.null, rest)
    else if b = ascii 't' then
      (skipExactly (Ascii.bytes "rue") rest).map fun rest => (.bool true, rest)
    else if b = ascii 'f' then
      (skipExactly (Ascii.bytes "alse") rest).map fun rest => (.bool false, rest)
    else if b = ascii '-' then
      (readNatural rest).map fun read => (.integer (-(read.1 : Int)), read.2)
    else (readNatural (b :: rest)).map fun read => (.integer (read.1 : Int), read.2)

/-! ## Arrays and objects -/

/-- A bracket that is open around a value, with what was read in it before, last first. -/
inductive Frame where
  | array (items : List Json)
  /-- The key is that of the value inside. -/
  | object (members : List (String × Json)) (key : String)

/-- The byte that closes a bracket. -/
def Frame.closing : Frame → UInt8
  | .array _ => ascii ']'
  | .object _ _ => ascii '\x7d'

/-- What a bracket makes when it is closed behind a value. -/
def Frame.close (value : Json) : Frame → Json
  | .array items => .array (items.reverse ++ [value])
  | .object members key => .object (members.reverse ++ [(key, value)])

/-- Where reading stands between two values. -/
inductive Progress where
  /-- All brackets are closed around a value. -/
  | finished (value : Json) (rest : List UInt8)
  /-- Another value starts inside the given brackets, innermost first. -/
  | value (frames : List Frame) (rest : List UInt8)

/-- The bytes that are still to be read. -/
def Progress.rest : Progress → List UInt8
  | .finished _ rest => rest
  | .value _ rest => rest

/-- A member's key and the colon after it. -/
def readKey (bytes : List UInt8) : Option (String × List UInt8) :=
  match skipSpace bytes with
  | [] => none
  | b :: rest =>
    if b = ascii '"' then
      match readString rest with
      | none => none
      | some (key, rest) =>
        match skipSpace rest with
        | [] => none
        | c :: rest => if c = ascii ':' then some (key, rest) else none
    else none

/-- Go on behind the comma after a value: a key comes first in an object. -/
def readNext (value : Json) (frame : Frame) (outer : List Frame) (bytes : List UInt8) :
    Option Progress :=
  match frame with
  | .array items => some (.value (.array (value :: items) :: outer) bytes)
  | .object members key =>
    (readKey bytes).map fun read =>
      .value (.object ((key, value) :: members) read.1 :: outer) read.2

/-- Go on after a value: close brackets until a comma leads to the next value. -/
def resume (value : Json) : List Frame → List UInt8 → Option Progress
  | [], bytes => some (.finished value bytes)
  | _ :: _, [] => none
  | frame :: outer, b :: rest =>
    if isSpace b then resume value (frame :: outer) rest
    else if b = ascii ',' then readNext value frame outer rest
    else if b = frame.closing then resume (frame.close value) outer rest
    else none

/-- Go on inside an array, which may be empty. -/
def readArray (outer : List Frame) (bytes : List UInt8) : Option Progress :=
  match skipSpace bytes with
  | [] => none
  | b :: rest =>
    if b = ascii ']' then resume (.array []) outer rest
    else some (.value (.array [] :: outer) (b :: rest))

/-- Go on inside an object, which may be empty. -/
def readObject (outer : List Frame) (bytes : List UInt8) : Option Progress :=
  match skipSpace bytes with
  | [] => none
  | b :: rest =>
    if b = ascii '\x7d' then resume (.object []) outer rest
    else (readKey (b :: rest)).map fun read => .value (.object [] read.1 :: outer) read.2

/-- Read one scalar or one opening bracket and go on to the next value. -/
def readToken (frames : List Frame) (bytes : List UInt8) : Option Progress :=
  match skipSpace bytes with
  | [] => none
  | b :: rest =>
    if b = ascii '[' then readArray frames rest
    else if b = ascii '\x7b' then readObject frames rest
    else (readScalar (b :: rest)).bind fun read => resume read.1 frames read.2

/-! ## What is left is shorter -/

/-- The digits at the front and the rest make up a byte string. -/
theorem takeWhile_append_dropDigits (bytes : List UInt8) :
    bytes.takeWhile Ascii.isDigit ++ Ascii.dropDigits bytes = bytes := by
  induction bytes with
  | nil => rfl
  | cons b rest ih =>
    rw [Ascii.dropDigits, List.takeWhile_cons]
    by_cases hb : Ascii.isDigit b
    · simp only [hb, if_true, List.cons_append, ih]
    · simp only [hb, if_false, Bool.false_eq_true, List.nil_append]

/-- What follows a natural number is shorter. -/
theorem length_readNatural_lt {bytes rest : List UInt8} {n : Nat}
    (h : readNatural bytes = some (n, rest)) : rest.length < bytes.length := by
  simp only [readNatural] at h
  split at h
  · cases h
  · rw [Option.map_eq_some_iff] at h
    rcases h with ⟨value, hvalue, heq⟩
    have hrest : Ascii.dropDigits bytes = rest := congrArg Prod.snd heq
    have hlength := congrArg List.length (takeWhile_append_dropDigits bytes)
    rw [hrest, List.length_append] at hlength
    have hdigits : bytes.takeWhile Ascii.isDigit ≠ [] := by
      intro hnil
      rw [hnil] at hvalue
      cases hvalue
    have hpos := List.length_pos_iff.mpr hdigits
    omega

/-- What follows a scalar is shorter. -/
theorem length_readScalar_lt {bytes rest : List UInt8} {value : Json}
    (h : readScalar bytes = some (value, rest)) : rest.length < bytes.length := by
  have hkeyword : ∀ {word tail : List UInt8} {read : Json},
      (skipExactly word tail).map (fun rest => (read, rest)) = some (value, rest) →
        rest.length < tail.length + 1 := by
    intro word tail read hread
    rw [Option.map_eq_some_iff] at hread
    rcases hread with ⟨after, hafter, heq⟩
    have hrest : after = rest := congrArg Prod.snd heq
    rw [← hrest]
    exact Nat.lt_succ_of_le (length_skipExactly_le hafter)
  cases bytes with
  | nil => cases h
  | cons b tail =>
    rw [readScalar] at h
    rw [List.length_cons]
    split at h
    · rw [Option.map_eq_some_iff] at h
      rcases h with ⟨read, hread, heq⟩
      have hrest : read.2 = rest := congrArg Prod.snd heq
      rw [← hrest]
      exact Nat.lt_succ_of_lt (length_readString_lt hread)
    split at h
    · exact hkeyword h
    split at h
    · exact hkeyword h
    split at h
    · exact hkeyword h
    split at h
    · rw [Option.map_eq_some_iff] at h
      rcases h with ⟨read, hread, heq⟩
      have hrest : read.2 = rest := congrArg Prod.snd heq
      rw [← hrest]
      exact Nat.lt_succ_of_lt (length_readNatural_lt hread)
    · rw [Option.map_eq_some_iff] at h
      rcases h with ⟨read, hread, heq⟩
      have hrest : read.2 = rest := congrArg Prod.snd heq
      rw [← hrest]
      exact length_readNatural_lt hread

/-- What follows a key and its colon is shorter. -/
theorem length_readKey_lt {bytes rest : List UInt8} {key : String}
    (h : readKey bytes = some (key, rest)) : rest.length < bytes.length := by
  unfold readKey at h
  have hs := length_skipSpace_le bytes
  split at h
  · cases h
  · next b tail heq =>
    rw [heq, List.length_cons] at hs
    split at h
    · split at h
      · cases h
      · next read after hread =>
        have hstring := length_readString_lt hread
        have hc := length_skipSpace_le after
        split at h
        · cases h
        · next c tail' heq' =>
          rw [heq', List.length_cons] at hc
          split at h
          · have hrest : tail' = rest := congrArg Prod.snd (Option.some.inj h)
            rw [← hrest]
            omega
          · cases h
    · cases h

/-- The next value starts no earlier. -/
theorem length_readNext_le {value : Json} {frame : Frame} {outer : List Frame}
    {bytes : List UInt8} {p : Progress} (h : readNext value frame outer bytes = some p) :
    p.rest.length ≤ bytes.length := by
  cases frame with
  | array items =>
    rw [← Option.some.inj h]
    exact Nat.le_refl _
  | object members key =>
    rw [readNext, Option.map_eq_some_iff] at h
    rcases h with ⟨read, hread, rfl⟩
    exact Nat.le_of_lt (length_readKey_lt hread)

/-- Closing brackets never lengthens what is left. -/
theorem length_resume_le {value : Json} {frames : List Frame} {bytes : List UInt8} {p : Progress}
    (h : resume value frames bytes = some p) : p.rest.length ≤ bytes.length := by
  fun_induction resume value frames bytes with
  | case1 value bytes =>
    rw [← Option.some.inj h]
    exact Nat.le_refl _
  | case2 => cases h
  | case3 value frame outer b rest _ ih => exact Nat.le_succ_of_le (ih h)
  | case4 value frame outer rest _ => exact Nat.le_succ_of_le (length_readNext_le h)
  | case5 value frame outer rest _ _ ih => exact Nat.le_succ_of_le (ih h)
  | case6 => cases h

/-- The first item of an array starts no earlier than the array. -/
theorem length_readArray_le {outer : List Frame} {bytes : List UInt8} {p : Progress}
    (h : readArray outer bytes = some p) : p.rest.length ≤ bytes.length := by
  unfold readArray at h
  have hs := length_skipSpace_le bytes
  split at h
  · cases h
  · next b tail heq =>
    rw [heq] at hs
    split at h
    · exact Nat.le_trans (Nat.le_succ_of_le (length_resume_le h)) hs
    · rw [← Option.some.inj h]
      exact hs

/-- The first member of an object starts no earlier than the object. -/
theorem length_readObject_le {outer : List Frame} {bytes : List UInt8} {p : Progress}
    (h : readObject outer bytes = some p) : p.rest.length ≤ bytes.length := by
  unfold readObject at h
  have hs := length_skipSpace_le bytes
  split at h
  · cases h
  · next b tail heq =>
    rw [heq] at hs
    split at h
    · exact Nat.le_trans (Nat.le_succ_of_le (length_resume_le h)) hs
    · rw [Option.map_eq_some_iff] at h
      rcases h with ⟨read, hread, rfl⟩
      exact Nat.le_trans (Nat.le_of_lt (length_readKey_lt hread)) hs

/-- Every token takes at least one byte. -/
theorem length_readToken_lt {frames : List Frame} {bytes : List UInt8} {p : Progress}
    (h : readToken frames bytes = some p) : p.rest.length < bytes.length := by
  unfold readToken at h
  have hs := length_skipSpace_le bytes
  split at h
  · cases h
  · next b tail heq =>
    rw [heq] at hs
    split at h
    · exact Nat.lt_of_le_of_lt (length_readArray_le h) hs
    split at h
    · exact Nat.lt_of_le_of_lt (length_readObject_le h) hs
    · rw [Option.bind_eq_some_iff] at h
      rcases h with ⟨read, hread, hresume⟩
      have hscalar := length_readScalar_lt hread
      have hresumed := length_resume_le hresume
      omega

/-! ## Documents -/

/-- Read a value inside brackets and everything up to the end of the outermost one. -/
def readFrom (frames : List Frame) (bytes : List UInt8) : Option (Json × List UInt8) :=
  match _h : readToken frames bytes with
  | none => none
  | some (.finished value rest) => some (value, rest)
  | some (.value frames rest) => readFrom frames rest
termination_by bytes.length
decreasing_by exact length_readToken_lt ‹_›

/-- The value of a whole document; only blanks may follow it. -/
def read? (bytes : List UInt8) : Option Json :=
  (readFrom [] bytes).bind fun read => if (skipSpace read.2).isEmpty then some read.1 else none

end Json
end BearerTokens
