import BearerTokens.Http.Field
import BearerTokens.Text.Blank

/-!
# Reading the Authorization value

Only the first value counts, and only if all of its bytes are visible ASCII, a
space or a tab.  The scheme is compared without letter case, one space ends it,
and everything after that space is the secret, further blanks included.

Main results:

- Theorem {lit}`bearerSecret?_eq_some_iff`: what counts as a bearer credential.
-/

namespace BearerTokens

/-- Why a request goes on without an authenticated user. -/
inductive PassThrough where
  | disabled
  | noCredentials
  | otherScheme
  | unknownToken
  deriving DecidableEq, Repr

/-- The scheme in lower case with the space that ends it. -/
def bearerScheme : List Char :=
  ['b', 'e', 'a', 'r', 'e', 'r', ' ']

/-- The secret of a bearer credential. -/
def bearerSecret? (value : String) : Option String :=
  let scheme := value.toList.take bearerScheme.length
  let secret := value.toList.drop bearerScheme.length
  if scheme.map Char.toLower = bearerScheme ∧ secret ≠ [] then some (String.ofList secret)
  else none

/-- The secret that the Authorization values of a request present, or why there is none. -/
def presentedSecret (authorization : List (List UInt8)) : Except PassThrough String :=
  match authorization with
  | [] => .error .noCredentials
  | value :: _ =>
    match Http.visibleText? value with
    | none => .error .otherScheme
    | some text =>
      if Text.allBlank text then .error .noCredentials
      else
        match bearerSecret? text with
        | none => .error .otherScheme
        | some secret => .ok secret

/-- A bearer credential is the scheme in any letter case, one space and a non-empty secret. -/
theorem bearerSecret?_eq_some_iff {value secret : String} :
    bearerSecret? value = some secret ↔
      ∃ scheme : List Char, scheme.map Char.toLower = bearerScheme ∧ secret ≠ "" ∧
        value.toList = scheme ++ secret.toList := by
  have hlen : ∀ scheme : List Char, scheme.map Char.toLower = bearerScheme →
      scheme.length = bearerScheme.length := fun scheme h => by
    rw [← h, List.length_map]
  simp only [bearerSecret?]
  constructor
  · intro h
    split at h
    · next hc =>
      simp only [Option.some.injEq] at h
      refine ⟨_, hc.1, ?_, ?_⟩
      · intro he
        apply hc.2
        rw [he] at h
        simpa using congrArg String.toList h
      · rw [← h, String.toList_ofList, List.take_append_drop]
    · simp at h
  · rintro ⟨scheme, hs, hne, hv⟩
    have hl := hlen scheme hs
    have htake : value.toList.take bearerScheme.length = scheme := by
      rw [hv, ← hl, List.take_left]
    have hdrop : value.toList.drop bearerScheme.length = secret.toList := by
      rw [hv, ← hl, List.drop_left]
    have hnil : secret.toList ≠ [] := fun he => hne (by simpa using congrArg String.ofList he)
    rw [htake, hdrop, if_pos ⟨hs, hnil⟩, String.ofList_toList]

end BearerTokens
