import BearerTokens.Lifecycle.Basic
import BearerTokens.Proofs.Deployment.FaultFree

/-!
# Calls of the token service

The operations of the token lifecycle, each with its arguments, as one type.
Without other callers, a call either leaves the store alone, or issues a token and
appends its row, or revokes a token and drops its row.

Main results:

- Definition {lit}`ServiceCall.procedure`: the procedure of a call.
- Definition {lit}`ServiceCall.Effect`: what a call may do to a store.
- Theorem {lit}`Effect.mem_or_revoked`: a row stays until a revocation of its
  owner and name.
-/

namespace BearerTokens

/-! ## Calls and answers -/

/-- A call of the token service with its arguments. -/
inductive ServiceCall where
  | issue (owner : Int) (name : String) (description : Option String) (expiresAt : Int)
  | revoke (owner : Int) (name : String)
  | find (owner : Int) (name : String)
  | list (owner : Int)
  | resolve (secret : String)
  deriving DecidableEq, Repr

/-- What the token service answers to a call. -/
inductive ServiceAnswer where
  | issued (result : Except TokenError Secret)
  | revoked (result : Except TokenError Unit)
  | found (result : Except TokenError (Option Token))
  | listed (result : Except TokenError (List Token))

/-- Whether an answer reports a change of the store. -/
def ServiceAnswer.isChange : ServiceAnswer → Bool
  | .issued (.ok _) => true
  | .revoked (.ok _) => true
  | _ => false

namespace ServiceCall

/-- The procedure of a call. -/
def procedure : ServiceCall → Procedure ServiceAnswer
  | .issue owner name description expiresAt =>
    (Lifecycle.issue owner name description expiresAt).map .issued
  | .revoke owner name => (Lifecycle.revoke owner name).map .revoked
  | .find owner name => (Lifecycle.find owner name).map .found
  | .list owner => (Lifecycle.list owner).map .listed
  | .resolve secret => (Lifecycle.resolve secret).map .found

/-! ## Procedures call by call -/

/-- What follows the look-up of the name of a new token. -/
def issueNamed (owner : Int) (name : String) (description : Option String) (expiresAt : Int) :
    Except StoreError (Option Token) → Procedure ServiceAnswer
  | .error cause => .done (.issued (.error (.store cause)))
  | .ok (some _) => .done (.issued (.error (.duplicate name)))
  | .ok none => (Lifecycle.issueFree owner name description expiresAt).map .issued

/-- What follows the draw of the secret of a new token. -/
def issueDrawn (owner : Int) (name : String) (description : Option String) (expiresAt : Int) :
    Except String Block → Procedure ServiceAnswer
  | .error reason => .done (.issued (.error (.entropy reason)))
  | .ok block =>
    .ask (.insert ⟨owner, name, description, (Secret.ofBlock block).digest, expiresAt⟩)
      fun answer => .done (.issued (Lifecycle.issued owner name (.ofBlock block) answer))

/-- What follows the look-up of a token to be revoked. -/
def revokeFound (name : String) : Except StoreError (Option Token) → Procedure ServiceAnswer
  | .error cause => .done (.revoked (.error (.store cause)))
  | .ok none => .done (.revoked (.error (.notFound name)))
  | .ok (some row) =>
    .ask (.delete row.id) fun answer => .done (.revoked (Lifecycle.revoked name answer))

section

variable {owner : Int} {name : String} {description : Option String} {expiresAt : Int}

/-- An issue that breaks a rule calls nobody. -/
theorem procedure_issue_of_refusal {refusal : TokenError}
    (h : Lifecycle.refusal? owner name description = some refusal) :
    (issue owner name description expiresAt).procedure = .done (.issued (.error refusal)) := by
  simp only [procedure, Lifecycle.issue, h]
  rfl

/-- Any other issue looks its name up first. -/
theorem procedure_issue (h : Lifecycle.refusal? owner name description = none) :
    (issue owner name description expiresAt).procedure =
      .ask (.findByOwnerAndName owner name) (issueNamed owner name description expiresAt) := by
  simp only [procedure, Lifecycle.issue, h, Procedure.map, Procedure.bind]
  congr 1
  funext found
  match found with
  | .error cause => rfl
  | .ok (some row) => rfl
  | .ok none => rfl

/-- The issue of a token with a free name draws its secret. -/
theorem issueFree_eq :
    (Lifecycle.issueFree owner name description expiresAt).map ServiceAnswer.issued =
      .ask .entropy (issueDrawn owner name description expiresAt) := by
  simp only [Lifecycle.issueFree, Procedure.map, Procedure.bind]
  congr 1
  funext drawn
  match drawn with
  | .error reason => rfl
  | .ok block => rfl

/-- A revocation looks its token up first. -/
theorem procedure_revoke :
    (revoke owner name).procedure =
      .ask (.findByOwnerAndName owner name) (revokeFound name) := by
  simp only [procedure, Lifecycle.revoke, Procedure.map, Procedure.bind]
  congr 1
  funext found
  match found with
  | .error cause => rfl
  | .ok none => rfl
  | .ok (some row) => rfl

end

/-! ## Effects on the store -/

/-- What a call may do to a store, with the answer that it then gives. -/
inductive Effect (before after : TokenStore) : ServiceCall → ServiceAnswer → Prop where
  /-- Nothing happens, and the answer says so. -/
  | unchanged {call : ServiceCall} {answer : ServiceAnswer} :
    after = before → answer.isChange = false → Effect before after call answer
  /-- A row with a fresh number, a free key and a fresh digest comes last. -/
  | issued {owner : Int} {name : String} {description : Option String} {expiresAt : Int}
    {block : Block} (row : Token) (createdAt : Timestamp) :
    row = .ofNew (before.lastId + 1) createdAt
      ⟨owner, name, description, (Secret.ofBlock block).digest, expiresAt⟩ →
    Lifecycle.refusal? owner name description = none →
    (∀ other ∈ before.rows.values, other.key ≠ row.key ∧ other.digest ≠ row.digest) →
    after.rows.values = before.rows.values ++ [row] →
    Effect before after (.issue owner name description expiresAt)
      (.issued (.ok (.ofBlock block)))
  /-- The row of the owner and the name is dropped. -/
  | revoked {owner : Int} {name : String} (row : Token) :
    row ∈ before.rows.values → row.key = (owner, name) →
    after.rows.values = before.rows.values.filter (fun other => other.id ≠ row.id) →
    Effect before after (.revoke owner name) (.revoked (.ok ()))

/-- Whether a call issued a token of an owner with a name. -/
def Issued (owner : Int) (name : String) (call : ServiceCall) (answer : ServiceAnswer) : Prop :=
  ∃ description expiresAt secret,
    call = .issue owner name description expiresAt ∧ answer = .issued (.ok secret)

/-- Whether a call revoked the token of an owner with a name. -/
def Revoked (owner : Int) (name : String) (call : ServiceCall) (answer : ServiceAnswer) : Prop :=
  call = .revoke owner name ∧ answer = .revoked (.ok ())

namespace Effect

variable {before after : TokenStore} {call : ServiceCall} {answer : ServiceAnswer}
  {owner : Int} {name : String}

/-- An issue leaves a row with what was asked for and the digest of its secret. -/
theorem exists_row {description : Option String} {expiresAt : Int} {secret : Secret}
    (h : Effect before after (.issue owner name description expiresAt) (.issued (.ok secret))) :
    (∃ block, secret = .ofBlock block) ∧
      ∃ row ∈ after.rows.values, row.key = (owner, name) ∧ row.description = description ∧
        row.expiresAt = expiresAt ∧ row.digest = secret.digest := by
  cases h with
  | unchanged _ hanswer => simp [ServiceAnswer.isChange] at hanswer
  | @issued _ _ _ _ block row createdAt hrow _ _ hrows =>
    refine ⟨⟨block, rfl⟩, row, ?_, ?_⟩
    · rw [hrows]
      exact List.mem_append_right _ (List.mem_singleton_self row)
    · rw [hrow]
      exact ⟨rfl, rfl, rfl, rfl⟩

/-- An issue leaves a row with its owner and name. -/
theorem exists_of_issued (h : Effect before after call answer)
    (hissued : Issued owner name call answer) :
    ∃ row ∈ after.rows.values, row.key = (owner, name) := by
  rcases hissued with ⟨description, expiresAt, secret, rfl, rfl⟩
  rcases h.exists_row.2 with ⟨row, hrow, hkey, _⟩
  exact ⟨row, hrow, hkey⟩

/-- No token is issued whose owner and name a row has. -/
theorem not_issued_of_mem (h : Effect before after call answer) {row : Token}
    (hrow : row ∈ before.rows.values) (hkey : row.key = (owner, name)) :
    ¬ Issued owner name call answer := by
  rintro ⟨description, expiresAt, secret, rfl, rfl⟩
  cases h with
  | unchanged _ hanswer => simp [ServiceAnswer.isChange] at hanswer
  | issued new createdAt hnew _ hfree _ =>
    apply (hfree row hrow).1
    rw [hkey, hnew]
    rfl

/-- A row stays as it is until a revocation of its owner and name. -/
theorem mem_or_revoked (h : Effect before after call answer) (hstore : before.Reachable)
    {row : Token} (hrow : row ∈ before.rows.values) (hkey : row.key = (owner, name)) :
    row ∈ after.rows.values ∨ Revoked owner name call answer := by
  cases h with
  | unchanged hsame _ => exact .inl (by rwa [hsame])
  | issued new createdAt _ _ _ hrows =>
    left
    rw [hrows]
    exact List.mem_append_left _ hrow
  | revoked other hother hotherKey hrows =>
    by_cases hid : row.id = other.id
    · right
      have heq := hstore.eq_of_id_eq hrow hother hid
      rw [← heq, hkey] at hotherKey
      simp only [Prod.mk.injEq] at hotherKey
      rw [← hotherKey.1, ← hotherKey.2]
      exact ⟨rfl, rfl⟩
    · left
      rw [hrows]
      exact List.mem_filter.mpr ⟨hrow, by simpa using hid⟩

/-- A revocation of its owner and name takes a row away, and with it the digest. -/
theorem digest_absent_of_revoked (h : Effect before after call answer)
    (hstore : before.Reachable) {row : Token} (hrow : row ∈ before.rows.values)
    (hkey : row.key = (owner, name)) (hrevoked : Revoked owner name call answer) :
    ∀ other ∈ after.rows.values, other.digest ≠ row.digest := by
  rcases hrevoked with ⟨rfl, rfl⟩
  cases h with
  | unchanged _ hanswer => simp [ServiceAnswer.isChange] at hanswer
  | revoked found hfound hfoundKey hrows =>
    rw [hstore.eq_of_key_eq hfound hrow (hfoundKey.trans hkey.symm)] at hrows
    intro other hother hdigest
    rw [hrows] at hother
    rcases List.mem_filter.mp hother with ⟨hmem, hid⟩
    rw [hstore.eq_of_digest_eq hmem hrow hdigest] at hid
    simp at hid

/-- A digest that no row has comes back only with an issue that draws it. -/
theorem digest_absent (h : Effect before after call answer) {digest : Digest}
    (habsent : ∀ row ∈ before.rows.values, row.digest ≠ digest)
    (hfresh : ∀ secret, answer = .issued (.ok secret) → secret.digest ≠ digest) :
    ∀ row ∈ after.rows.values, row.digest ≠ digest := by
  cases h with
  | unchanged hsame _ =>
    rw [hsame]
    exact habsent
  | issued new createdAt hnew _ _ hrows =>
    intro row hrow
    rw [hrows] at hrow
    rcases List.mem_append.mp hrow with hold | hlast
    · exact habsent row hold
    · rw [List.mem_singleton.mp hlast, hnew]
      exact hfresh _ rfl
  | revoked found _ _ hrows =>
    intro row hrow
    rw [hrows] at hrow
    exact habsent row (List.mem_filter.mp hrow).1

end Effect

end ServiceCall
end BearerTokens
