import BearerTokens.Json.ReadNumber
import BearerTokens.Json.ReadString
import BearerTokens.Management.CreateRequest
import BearerTokens.Management.Mismatch

/-!
# Decoding a request to create a token

A document is read from front to back, and the first problem decides.  An
object gives its members in any order; members with other keys are skipped, and
known ones may not occur twice.  An array gives the three members by position.

Main results:

- Definition {lit}`CreateRequest.decode`: the request of a whole document.
-/

namespace BearerTokens

/-- Why a document was refused. -/
inductive DecodeError where
  /-- The document is no JSON, as far as it was read. -/
  | malformed
  | mismatch (cause : Mismatch)
  deriving DecidableEq, Repr

namespace CreateRequest

open Json (skipSpace skipExactly skipValue readString readNumber)

/-- A value that was read, and what follows it. -/
abbrev Reading (α : Type) := Except DecodeError (α × List UInt8)

/-! ## Values -/

/-- Refuse a keyword that is complete. -/
def refuseKeyword (place : Place) (expected : Expected) (keyword : String) (found : Found)
    (bytes : List UInt8) : DecodeError :=
  match skipExactly (Ascii.bytes keyword) bytes with
  | none => .malformed
  | some _ => .mismatch (.invalidType place found expected)

/-- Refuse the value at the front of a document; a scalar must be complete. -/
def refuse (place : Place) (expected : Expected) (bytes : List UInt8) : DecodeError :=
  match bytes with
  | [] => .malformed
  | b :: rest =>
    if b = ascii 'n' then refuseKeyword place expected "ull" .null rest
    else if b = ascii 't' then refuseKeyword place expected "rue" (.boolean true) rest
    else if b = ascii 'f' then refuseKeyword place expected "alse" (.boolean false) rest
    else if b = ascii '"' then
      match readString rest with
      | none => .malformed
      | some (s, _) => .mismatch (.invalidType place (.string s) expected)
    else if b = ascii '[' then .mismatch (.invalidType place .sequence expected)
    else if b = ascii '\x7b' then .mismatch (.invalidType place .map expected)
    else
      match readNumber (b :: rest) with
      | none => .malformed
      | some (n, _) => .mismatch (.invalidType place (.ofNumeral n) expected)

/-- A text at a place. -/
def decodeText (place : Place) (bytes : List UInt8) : Reading String :=
  match skipSpace bytes with
  | [] => .error .malformed
  | b :: rest =>
    if b = ascii '"' then
      match readString rest with
      | none => .error .malformed
      | some (s, rest) => .ok (s, rest)
    else .error (refuse place .string (b :: rest))

/-- A text or null at a place. -/
def decodeText? (place : Place) (bytes : List UInt8) : Reading (Option String) :=
  match skipSpace bytes with
  | [] => .error .malformed
  | b :: rest =>
    if b = ascii 'n' then
      match skipExactly (Ascii.bytes "ull") rest with
      | none => .error .malformed
      | some rest => .ok (none, rest)
    else
      match decodeText place (b :: rest) with
      | .error cause => .error cause
      | .ok (s, rest) => .ok (some s, rest)

/-- The integer of a number within the signed range. -/
def hoursOf (place : Place) : Json.Numeral → Except DecodeError Int
  | .natural value =>
    if (value : Int) ≤ Number.maxSigned64 then .ok value
    else .error (.mismatch (.invalidValue place value))
  | .negative value => .ok value
  | .binary negative magnitude =>
    .error (.mismatch (.invalidType place (.binary negative magnitude) .signed64))

/-- An integer within the signed range at a place. -/
def decodeHours (place : Place) (bytes : List UInt8) : Reading Int :=
  match skipSpace bytes with
  | [] => .error .malformed
  | b :: rest =>
    if b = ascii '-' ∨ Ascii.isDigit b then
      match readNumber (b :: rest) with
      | none => .error .malformed
      | some (n, rest) =>
        match hoursOf place n with
        | .error cause => .error cause
        | .ok hours => .ok (hours, rest)
    else .error (refuse place .signed64 (b :: rest))

/-! ## Objects -/

/-- The members read so far. -/
structure Members where
  name : Option String
  description : Option (Option String)
  hours : Option Int
  deriving DecidableEq, Repr

namespace Members

/-- No members. -/
def empty : Members := ⟨none, none, none⟩

/-- Whether a member has been read. -/
def has (members : Members) : Member → Bool
  | .name => members.name.isSome
  | .description => members.description.isSome
  | .hours => members.hours.isSome

/-- Read the value of a known member. -/
def decodeMember (members : Members) (member : Member) (bytes : List UInt8) : Reading Members :=
  match member with
  | .name =>
    match decodeText (.member .name) bytes with
    | .error cause => .error cause
    | .ok (s, rest) => .ok ({ members with name := some s }, rest)
  | .description =>
    match decodeText? (.member .description) bytes with
    | .error cause => .error cause
    | .ok (s, rest) => .ok ({ members with description := some s }, rest)
  | .hours =>
    match decodeHours (.member .hours) bytes with
    | .error cause => .error cause
    | .ok (n, rest) => .ok ({ members with hours := some n }, rest)

/-- The request of all members; the description may be missing. -/
def request (members : Members) : Except DecodeError CreateRequest :=
  match members.name with
  | none => .error (.mismatch (.missingMember .name))
  | some name =>
    match members.hours with
    | none => .error (.mismatch (.missingMember .hours))
    | some hours => .ok ⟨name, members.description.join, hours⟩

end Members

/-- Drop the colon behind a key. -/
def decodeColon (bytes : List UInt8) : Except DecodeError (List UInt8) :=
  match skipSpace bytes with
  | [] => .error .malformed
  | b :: rest => if b = ascii ':' then .ok rest else .error .malformed

/-- Read the colon and the value behind a key; an unknown key's value is skipped. -/
def decodeEntry (members : Members) (key : String) (bytes : List UInt8) : Reading Members :=
  match Member.ofKey? key with
  | none =>
    match decodeColon bytes with
    | .error cause => .error cause
    | .ok rest =>
      match skipValue rest with
      | none => .error .malformed
      | some rest => .ok (members, rest)
  | some member =>
    if members.has member then .error (.mismatch (.duplicateMember member))
    else
      match decodeColon bytes with
      | .error cause => .error cause
      | .ok rest => members.decodeMember member rest

/-- Read a key and its value from the opening quote on. -/
def decodeKeyed (members : Members) (bytes : List UInt8) : Reading Members :=
  match bytes with
  | [] => .error .malformed
  | b :: rest =>
    if b = ascii '"' then
      match readString rest with
      | none => .error .malformed
      | some (key, rest) => decodeEntry members key rest
    else .error .malformed

/-! ## What is left is shorter -/

/-- What follows a text is shorter. -/
theorem length_decodeText_lt {place : Place} {bytes rest : List UInt8} {s : String}
    (h : decodeText place bytes = .ok (s, rest)) : rest.length < bytes.length := by
  unfold decodeText at h
  have hs := Json.length_skipSpace_le bytes
  split at h
  · simp at h
  · next b tail heq =>
    rw [heq] at hs
    split at h
    · split at h
      · simp at h
      · next t after hr =>
        simp only [Except.ok.injEq, Prod.mk.injEq] at h
        rw [← h.2]
        exact Nat.lt_of_lt_of_le (Nat.lt_succ_of_lt (Json.length_readString_lt hr)) hs
    · simp at h

/-- What follows an optional text is shorter. -/
theorem length_decodeText?_lt {place : Place} {bytes rest : List UInt8} {s : Option String}
    (h : decodeText? place bytes = .ok (s, rest)) : rest.length < bytes.length := by
  unfold decodeText? at h
  have hs := Json.length_skipSpace_le bytes
  split at h
  · simp at h
  · next b tail heq =>
    rw [heq] at hs
    split at h
    · split at h
      · simp at h
      · next after hr =>
        simp only [Except.ok.injEq, Prod.mk.injEq] at h
        rw [← h.2]
        exact Nat.lt_of_lt_of_le (Nat.lt_succ_of_le (Json.length_skipExactly_le hr)) hs
    · split at h
      · simp at h
      · next t after hr =>
        simp only [Except.ok.injEq, Prod.mk.injEq] at h
        rw [← h.2]
        exact Nat.lt_of_lt_of_le (length_decodeText_lt hr) hs

/-- What follows an integer is shorter. -/
theorem length_decodeHours_lt {place : Place} {bytes rest : List UInt8} {n : Int}
    (h : decodeHours place bytes = .ok (n, rest)) : rest.length < bytes.length := by
  unfold decodeHours at h
  have hs := Json.length_skipSpace_le bytes
  split at h
  · simp at h
  · next b tail heq =>
    rw [heq] at hs
    split at h
    · split at h
      · simp at h
      · next m after hr =>
        split at h
        · simp at h
        · simp only [Except.ok.injEq, Prod.mk.injEq] at h
          rw [← h.2]
          exact Nat.lt_of_lt_of_le (Json.length_readNumber_lt hr) hs
    · simp at h

/-- What follows the value of a known member is shorter. -/
theorem length_decodeMember_lt {members result : Members} {member : Member}
    {bytes rest : List UInt8} (h : members.decodeMember member bytes = .ok (result, rest)) :
    rest.length < bytes.length := by
  unfold Members.decodeMember at h
  split at h
  · split at h
    · simp at h
    · next hr =>
      simp only [Except.ok.injEq, Prod.mk.injEq] at h
      exact h.2 ▸ length_decodeText_lt hr
  · split at h
    · simp at h
    · next hr =>
      simp only [Except.ok.injEq, Prod.mk.injEq] at h
      exact h.2 ▸ length_decodeText?_lt hr
  · split at h
    · simp at h
    · next hr =>
      simp only [Except.ok.injEq, Prod.mk.injEq] at h
      exact h.2 ▸ length_decodeHours_lt hr

/-- What follows a colon is shorter. -/
theorem length_decodeColon_lt {bytes rest : List UInt8} (h : decodeColon bytes = .ok rest) :
    rest.length < bytes.length := by
  unfold decodeColon at h
  have hs := Json.length_skipSpace_le bytes
  split at h
  · simp at h
  · next b tail heq =>
    rw [heq] at hs
    split at h
    · simp only [Except.ok.injEq] at h
      rw [← h]
      exact hs
    · simp at h

/-- What follows an entry is shorter. -/
theorem length_decodeEntry_lt {members result : Members} {key : String}
    {bytes rest : List UInt8} (h : decodeEntry members key bytes = .ok (result, rest)) :
    rest.length < bytes.length := by
  unfold decodeEntry at h
  split at h
  · split at h
    · simp at h
    · next hc =>
      split at h
      · simp at h
      · next hv =>
        simp only [Except.ok.injEq, Prod.mk.injEq] at h
        rw [← h.2]
        exact Nat.lt_trans (Json.length_skipValue_lt hv) (length_decodeColon_lt hc)
  · split at h
    · simp at h
    · split at h
      · simp at h
      · next hc => exact Nat.lt_trans (length_decodeMember_lt h) (length_decodeColon_lt hc)

/-- What follows a key and its value is shorter. -/
theorem length_decodeKeyed_lt {members result : Members} {bytes rest : List UInt8}
    (h : decodeKeyed members bytes = .ok (result, rest)) : rest.length < bytes.length := by
  unfold decodeKeyed at h
  split at h
  · simp at h
  · split at h
    · split at h
      · simp at h
      · next hr =>
        exact Nat.lt_succ_of_lt
          (Nat.lt_trans (length_decodeEntry_lt h) (Json.length_readString_lt hr))
    · simp at h

/-! ## Documents -/

/-- Read the entries behind the first one, up to the closing brace. -/
def decodeMore (members : Members) (bytes : List UInt8) : Reading Members :=
  match _h : skipSpace bytes with
  | [] => .error .malformed
  | b :: rest =>
    if b = ascii '\x7d' then .ok (members, rest)
    else if b = ascii ',' then
      match _k : decodeKeyed members (skipSpace rest) with
      | .error cause => .error cause
      | .ok (members, after) => decodeMore members after
    else .error .malformed
termination_by bytes.length
decreasing_by
  have hs := Json.length_skipSpace_le bytes
  have hr := Json.length_skipSpace_le rest
  have hk := length_decodeKeyed_lt _k
  rw [_h, List.length_cons] at hs
  omega

/-- Read the entries of an object behind its opening brace. -/
def decodeObject (bytes : List UInt8) : Reading CreateRequest :=
  let entries : Reading Members :=
    match skipSpace bytes with
    | [] => .error .malformed
    | b :: rest =>
      if b = ascii '\x7d' then .ok (.empty, rest)
      else
        match decodeKeyed .empty (b :: rest) with
        | .error cause => .error cause
        | .ok (members, rest) => decodeMore members rest
  match entries with
  | .error cause => .error cause
  | .ok (members, rest) =>
    match members.request with
    | .error cause => .error cause
    | .ok request => .ok (request, rest)

/-- What follows the items of an array so far. -/
inductive NextItem where
  | closed (rest : List UInt8)
  | item (rest : List UInt8)
  deriving DecidableEq, Repr

/-- Go on to the next item of an array; all but the first follow a comma. -/
def nextItem (first : Bool) (bytes : List UInt8) : Except DecodeError NextItem :=
  match skipSpace bytes with
  | [] => .error .malformed
  | b :: rest =>
    if b = ascii ']' then .ok (.closed rest)
    else if first then .ok (.item (b :: rest))
    else if b = ascii ',' then
      match skipSpace rest with
      | [] => .error .malformed
      | c :: rest => if c = ascii ']' then .error .malformed else .ok (.item (c :: rest))
    else .error .malformed

/-- Read an array of exactly three items behind its opening bracket. -/
def decodeArray (bytes : List UInt8) : Reading CreateRequest :=
  match nextItem true bytes with
  | .error cause => .error cause
  | .ok (.closed _) => .error (.mismatch (.invalidLength 0))
  | .ok (.item bytes) =>
    match decodeText (.item 0) bytes with
    | .error cause => .error cause
    | .ok (name, bytes) =>
      match nextItem false bytes with
      | .error cause => .error cause
      | .ok (.closed _) => .error (.mismatch (.invalidLength 2))
      | .ok (.item bytes) =>
        match decodeText? (.item 1) bytes with
        | .error cause => .error cause
        | .ok (description, bytes) =>
          match nextItem false bytes with
          | .error cause => .error cause
          | .ok (.closed _) => .error (.mismatch (.invalidLength 2))
          | .ok (.item bytes) =>
            match decodeHours (.item 2) bytes with
            | .error cause => .error cause
            | .ok (hours, bytes) =>
              match skipSpace bytes with
              | [] => .error .malformed
              | b :: rest =>
                if b = ascii ']' then .ok (⟨name, description, hours⟩, rest)
                else .error .malformed

/-- Read a request and leave what follows it. -/
def decodePrefix (bytes : List UInt8) : Reading CreateRequest :=
  match skipSpace bytes with
  | [] => .error .malformed
  | b :: rest =>
    if b = ascii '\x7b' then decodeObject rest
    else if b = ascii '[' then decodeArray rest
    else .error (refuse .document .request (b :: rest))

/-- The request of a whole document; only blanks may follow it. -/
def decode (bytes : List UInt8) : Except DecodeError CreateRequest :=
  match decodePrefix bytes with
  | .error cause => .error cause
  | .ok (request, rest) =>
    match skipSpace rest with
    | [] => .ok request
    | _ :: _ => .error .malformed

end CreateRequest
end BearerTokens
