import BearerTokens.Lifecycle.Error
import BearerTokens.Procedure

/-!
# The token lifecycle

Tokens are issued to an owner under a name, listed, found, revoked, and
resolved by their secret.  Each operation is a procedure over the token store;
only issuing draws randomness, and only after the name was found to be free.
-/

namespace BearerTokens
namespace Lifecycle

/-! ## Issuing -/

/-- The first rule that a new token breaks: owner, then name, then description. -/
def refusal? (owner : Int) (name : String) (description : Option String) : Option TokenError :=
  if owner ≤ 0 then some (.invalidOwner owner)
  else if TokenError.maxNameLength < name.length then some .nameTooLong
  else if description.any fun d => TokenError.maxDescriptionLength < d.length then
    some .descriptionTooLong
  else none

/-- The answer to an issue once the store has answered to the insertion. -/
def issued (owner : Int) (name : String) (secret : Secret) :
    Except StoreError Token → Except TokenError Secret
  | .ok _ => .ok secret
  | .error .conflict => .error (.duplicate name)
  | .error .unknownOwner => .error (.invalidOwner owner)
  | .error (.database cause) => .error (.store (.database cause))

/-- Draw a secret and insert its token under a name that was found to be free. -/
def issueFree (owner : Int) (name : String) (description : Option String) (expiresAt : Int) :
    Procedure (Except TokenError Secret) :=
  .ask .entropy fun drawn =>
    match drawn with
    | .error reason => .done (.error (.entropy reason))
    | .ok block =>
      let secret := Secret.ofBlock block
      let token : NewToken := ⟨owner, name, description, secret.digest, expiresAt⟩
      .ask (.insert token) fun answer => .done (issued owner name secret answer)

/-- Issue a token and hand out its secret, which cannot be read again afterwards. -/
def issue (owner : Int) (name : String) (description : Option String) (expiresAt : Int) :
    Procedure (Except TokenError Secret) :=
  match refusal? owner name description with
  | some refusal => .done (.error refusal)
  | none =>
    .ask (.findByOwnerAndName owner name) fun found =>
      match found with
      | .error cause => .done (.error (.store cause))
      | .ok (some _) => .done (.error (.duplicate name))
      | .ok none => issueFree owner name description expiresAt

/-! ## Reading -/

/-- The tokens of an owner. -/
def list (owner : Int) : Procedure (Except TokenError (List Token)) :=
  .ask (.listByOwner owner) fun rows => .done (rows.mapError .store)

/-- The token of an owner with a name. -/
def find (owner : Int) (name : String) : Procedure (Except TokenError (Option Token)) :=
  .ask (.findByOwnerAndName owner name) fun row => .done (row.mapError .store)

/-- The token whose secret is presented, whoever owns it. -/
def resolve (secret : String) : Procedure (Except TokenError (Option Token)) :=
  .ask (.findBySecretDigest (Secret.digestOf secret)) fun row => .done (row.mapError .store)

/-! ## Revoking -/

/-- The answer to a revocation once the store has answered to the deletion. -/
def revoked (name : String) : Except StoreError Bool → Except TokenError Unit
  | .error cause => .error (.store cause)
  | .ok true => .ok ()
  | .ok false => .error (.notFound name)

/--
Delete the token of an owner with a name.  A token that is gone between the
look-up and the deletion was never found.
-/
def revoke (owner : Int) (name : String) : Procedure (Except TokenError Unit) :=
  .ask (.findByOwnerAndName owner name) fun found =>
    match found with
    | .error cause => .done (.error (.store cause))
    | .ok none => .done (.error (.notFound name))
    | .ok (some row) => .ask (.delete row.id) fun answer => .done (revoked name answer)

end Lifecycle
end BearerTokens
