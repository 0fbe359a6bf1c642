import BearerTokens.Proofs.Lifecycle.Transition

/-!
# Calls without faults

Without faults a call is answered by the store as it is: a look-up by its row, a
revocation by removing the row that was found, and an issue that breaks no rule, whose name
is free and whose secret is new, by adding a row with what was asked for.

Main results:

- Theorem {lit}`Lifecycle.refusal?_eq_none_iff`: the rules for a new token.
- Theorems {lit}`ServiceCall.eval_find`, {lit}`ServiceCall.eval_revoke_of_found` and
  {lit}`ServiceCall.eval_issue_of_free`: the answers, and the backends left behind.
-/

namespace BearerTokens

/-- A new token breaks no rule exactly when its owner is positive and its texts are short. -/
theorem Lifecycle.refusal?_eq_none_iff {owner : Int} {name : String} {description : Option String} :
    refusal? owner name description = none ↔
      0 < owner ∧ name.length ≤ TokenError.maxNameLength ∧
        ∀ text, description = some text → text.length ≤ TokenError.maxDescriptionLength := by
  unfold refusal?
  by_cases howner : owner ≤ 0
  · simp [howner, Int.not_lt.mpr howner]
  · by_cases hname : TokenError.maxNameLength < name.length
    · simp [howner, hname, Nat.not_le.mpr hname]
    · cases description with
      | none => simp [howner, hname, Int.not_le.mp howner, Nat.not_lt.mp hname]
      | some text => simp [howner, hname, Int.not_le.mp howner, Nat.not_lt.mp hname]

/-- An issue hands out no other secret than its own. -/
theorem Lifecycle.secret_eq_of_issued {owner : Int} {name : String} {secret other : Secret}
    {answer : Except StoreError Token} (h : issued owner name secret answer = .ok other) :
    other = secret := by
  match answer with
  | .ok row => exact (Except.ok.inj h).symm
  | .error .conflict => cases h
  | .error .unknownOwner => cases h
  | .error (.database reason) => cases h

namespace ServiceCall

variable {backend : Backend} {owner : Int} {name : String} {description : Option String}
  {expiresAt : Int}

/-- What a look-up by name is answered without faults. -/
theorem answer_find (h : backend.FaultFree) (owner : Int) (name : String) :
    backend.answer (.findByOwnerAndName owner name) =
      (.ok (backend.store.findByOwnerAndName owner name), backend) := by
  simp only [Backend.answer, Backend.inService, h.storeOutage]

/-- What the deletion of a row that was found is answered without faults. -/
theorem answer_delete (h : backend.FaultFree) (hstore : backend.store.Reachable) {row : Token}
    (hfound : backend.store.findByOwnerAndName owner name = some row) :
    backend.answer (.delete row.id) =
      (.ok true, { backend with store := backend.store.remove row.id row }) := by
  rcases answer_delete_cases backend hstore hfound with ⟨error, hfailed⟩ | hdeleted
  · simp only [Backend.answer, h.storeOutage] at hfailed
    cases hfailed
  · exact hdeleted

/-- What the insertion of a token that breaks no rule is answered without faults. -/
theorem answer_insert (h : backend.FaultFree) {token : NewToken}
    (hfree : backend.store.conflicts token = false) :
    ∃ row, backend.answer (.insert token) =
      (.ok row, { backend with store := (backend.store.add backend.creationTime token).1 }) := by
  rcases answer_insert_cases backend token with ⟨error, hfailed⟩ | ⟨row, -, hinserted⟩
  · simp only [Backend.answer, h.storeOutage, TokenStore.insert, hfree] at hfailed
    cases hfailed
  · exact ⟨row, hinserted⟩

/-- A look-up is answered by the row of the owner and the name. -/
theorem eval_find (h : backend.FaultFree) (owner : Int) (name : String) :
    (find owner name).procedure.eval Backend.answer backend =
      (.found (.ok (backend.store.findByOwnerAndName owner name)), backend) := by
  simp only [procedure, Lifecycle.find, Procedure.map, Procedure.bind, Procedure.eval_ask,
    Procedure.eval_done, answer_find h]
  rfl

/-- A revocation of a name that no row has finds nothing. -/
theorem eval_revoke_of_free (h : backend.FaultFree)
    (hfree : backend.store.findByOwnerAndName owner name = none) :
    (revoke owner name).procedure.eval Backend.answer backend =
      (.revoked (.error (.notFound name)), backend) := by
  simp only [procedure_revoke, Procedure.eval_ask, answer_find h, hfree, revokeFound,
    Procedure.eval_done]

/-- A revocation removes the row that was found. -/
theorem eval_revoke_of_found (h : backend.FaultFree) (hstore : backend.store.Reachable)
    {row : Token} (hfound : backend.store.findByOwnerAndName owner name = some row) :
    (revoke owner name).procedure.eval Backend.answer backend =
      (.revoked (.ok ()), { backend with store := backend.store.remove row.id row }) := by
  rw [procedure_revoke, Procedure.eval_ask, answer_find h, hfound]
  simp only [revokeFound, Procedure.eval_ask, answer_delete h hstore hfound]
  rfl

/-- An issue that breaks a rule is refused. -/
theorem eval_issue_of_refusal {refusal : TokenError}
    (hrefusal : Lifecycle.refusal? owner name description = some refusal) :
    (issue owner name description expiresAt).procedure.eval Backend.answer backend =
      (.issued (.error refusal), backend) := by
  rw [procedure_issue_of_refusal hrefusal, Procedure.eval_done]

/-- An issue under a name that a row has is refused. -/
theorem eval_issue_of_found (h : backend.FaultFree)
    (hrefusal : Lifecycle.refusal? owner name description = none) {row : Token}
    (hfound : backend.store.findByOwnerAndName owner name = some row) :
    (issue owner name description expiresAt).procedure.eval Backend.answer backend =
      (.issued (.error (.duplicate name)), backend) := by
  rw [procedure_issue hrefusal, Procedure.eval_ask, answer_find h, hfound]
  rfl

/-- An issue under a free name draws its secret first. -/
theorem eval_issue (h : backend.FaultFree)
    (hrefusal : Lifecycle.refusal? owner name description = none)
    (hfree : backend.store.findByOwnerAndName owner name = none) :
    (issue owner name description expiresAt).procedure.eval Backend.answer backend =
      (issueDrawn owner name description expiresAt backend.entropy.draw.1).eval Backend.answer
        { backend with entropy := backend.entropy.draw.2 } := by
  rw [procedure_issue hrefusal, Procedure.eval_ask, answer_find h, hfree]
  simp only [issueNamed, issueFree_eq, Procedure.eval_ask]
  rfl

/-- An issue under a free name with a new secret adds a row with what was asked for. -/
theorem eval_issue_of_free (h : backend.FaultFree) (hstore : backend.store.Reachable)
    (hrefusal : Lifecycle.refusal? owner name description = none)
    (hfree : backend.store.findByOwnerAndName owner name = none) {block : Block}
    (hdrawn : backend.entropy.draw.1 = .ok block)
    (hfresh : ∀ row ∈ backend.store.rows.values, row.digest ≠ (Secret.ofBlock block).digest)
    (expiresAt : Int) :
    let token : NewToken := ⟨owner, name, description, (Secret.ofBlock block).digest, expiresAt⟩
    backend.store.conflicts token = false ∧
      (issue owner name description expiresAt).procedure.eval Backend.answer backend =
        (.issued (.ok (.ofBlock block)),
          { backend with
            entropy := backend.entropy.draw.2
            store := (backend.store.add backend.creationTime token).1 }) := by
  intro token
  have hconflicts : backend.store.conflicts token = false := by
    refine hstore.conflicts_eq_false_iff.mpr ?_
    intro row hrow
    have hkey := hstore.findByOwnerAndName_eq_none_iff.mp hfree row hrow
    exact ⟨hkey, hfresh row hrow⟩
  have hdrawing : ({ backend with entropy := backend.entropy.draw.2 } : Backend).FaultFree :=
    ⟨h.storeOutage, h.directoryOutage, h.faults⟩
  rcases answer_insert hdrawing hconflicts with ⟨row, hinserted⟩
  refine ⟨hconflicts, ?_⟩
  rw [eval_issue h hrefusal hfree, hdrawn]
  simp only [issueDrawn, Procedure.eval_ask, token, hinserted]
  rfl

/-- A secret that an issue hands out was drawn by it. -/
theorem drawn_of_issued (h : backend.FaultFree) {secret : Secret}
    (hissued : ((issue owner name description expiresAt).procedure.eval Backend.answer backend).1 =
      .issued (.ok secret)) :
    ∃ block, backend.entropy.draw.1 = .ok block ∧ secret = .ofBlock block := by
  cases hrefusal : Lifecycle.refusal? owner name description with
  | some refusal =>
    rw [eval_issue_of_refusal hrefusal] at hissued
    cases hissued
  | none =>
    cases hfound : backend.store.findByOwnerAndName owner name with
    | some row =>
      rw [eval_issue_of_found h hrefusal hfound] at hissued
      cases hissued
    | none =>
      rw [eval_issue h hrefusal hfound] at hissued
      cases hdrawn : backend.entropy.draw.1 with
      | error reason =>
        rw [hdrawn] at hissued
        cases hissued
      | ok block =>
        rw [hdrawn] at hissued
        simp only [issueDrawn, Procedure.eval_ask, Procedure.eval_done,
          ServiceAnswer.issued.injEq] at hissued
        exact ⟨block, rfl, Lifecycle.secret_eq_of_issued hissued⟩

end ServiceCall
end BearerTokens
