import BearerTokens.Proofs.Deployment.Interruption
import BearerTokens.Proofs.Filter.Decision
import BearerTokens.Proofs.Filter.Verdict

/-!
# The filter under faults

Faults may keep the filter from finding a row or a user, but cannot make it find one
that is not there.  Whoever is authenticated in spite of faults is authentic, and
nothing was changed meanwhile but the plan of the faults.

Main results:

- Definition {lit}`Backend.Replanned`: another backend with other faults to come.
- Theorem {lit}`Filter.ensures_authentic`: who is authenticated whatever faults there are.
-/

namespace BearerTokens

/-- Two backends that differ at most in the faults to come. -/
def Backend.Replanned (before after : Backend) : Prop :=
  ∃ plan, after = { before with faults := plan }

namespace Filter

variable {backend : Backend}

/-- A directory that is asked about the owner of a row knows it, or the check fails. -/
theorem ensures_load {row : Token} (hle : backend.clock ≤ row.expiresAt) (faults : FaultPlan) :
    ((Procedure.ask (.load row.owner) fun answer => .done (checkOwner row answer)).run
      Backend.environment).Ensures { backend with faults := faults }
      backend.Replanned fun result after => backend.Replanned after ∧
        ∀ bearer, result = .ok (some bearer) → backend.clock ≤ row.expiresAt ∧
          backend.directory.users.get? row.owner = some bearer.user ∧
          bearer.user.enabled = true := by
  apply Backend.ensures_ask
  · intro plan
    exact ⟨plan, rfl⟩
  · intro plan after
    obtain ⟨error, hanswer⟩ | hanswer :=
      Backend.answer_load_cases { backend with faults := plan } row.owner
    · simp only [after, hanswer]
      exact ⟨⟨plan, rfl⟩, .done ⟨⟨plan, rfl⟩, by simp [checkOwner]⟩⟩
    · simp only [after, hanswer]
      refine ⟨⟨plan, rfl⟩, .done ⟨⟨plan, rfl⟩, ?_⟩⟩
      intro bearer hresult
      obtain ⟨howner, henabled, -⟩ := checkOwner_eq_ok_iff.mp hresult
      exact ⟨hle, howner, henabled⟩
  · intro plan answer hspoilt
    obtain ⟨error, hfailed⟩ | hmissed := hspoilt
    · cases hfailed
      exact .done ⟨⟨plan, rfl⟩, by simp [checkOwner]⟩
    · cases hmissed

/-- A row passes its check only unexpired and with an enabled owner, whatever faults there are. -/
theorem ensures_verifyRow (row : Token) (faults : FaultPlan) :
    ((verifyRow row).run Backend.environment).Ensures { backend with faults := faults }
      backend.Replanned fun result after => backend.Replanned after ∧
        ∀ bearer, result = .ok (some bearer) → backend.clock ≤ row.expiresAt ∧
          backend.directory.users.get? row.owner = some bearer.user ∧
          bearer.user.enabled = true := by
  apply Backend.ensures_ask
  · intro plan
    exact ⟨plan, rfl⟩
  · intro plan after
    refine ⟨⟨plan, rfl⟩, ?_⟩
    simp only [after, Backend.answer]
    by_cases hexpired : row.isExpiredAt backend.clock
    · simp only [hexpired, if_true]
      exact .done ⟨⟨plan, rfl⟩, by simp⟩
    · simp only [hexpired]
      have hle : backend.clock ≤ row.expiresAt := by
        simpa [Token.isExpiredAt, isPast] using hexpired
      exact ensures_load hle plan
  · intro plan answer hspoilt
    exact absurd hspoilt (Backend.not_spoilt_of_method? rfl answer)

/-- A secret passes its check only with a stored row, whatever faults there are. -/
theorem ensures_verify (hstore : backend.store.Reachable) (secret : String) :
    ((verify secret).run Backend.environment).Ensures backend
      backend.Replanned fun result after => backend.Replanned after ∧
        ∀ bearer, result = .ok (some bearer) → ∃ row ∈ backend.store.rows.values,
          row.digest = Secret.digestOf secret ∧ backend.clock ≤ row.expiresAt ∧
          backend.directory.users.get? row.owner = some bearer.user ∧
          bearer.user.enabled = true := by
  rw [verify_eq]
  apply Backend.ensures_ask
  · intro plan
    exact ⟨plan, rfl⟩
  · intro plan after
    refine ⟨⟨plan, rfl⟩, ?_⟩
    simp only [after, Backend.answer]
    obtain ⟨error, hfound⟩ | hfound := Backend.inService_cases { backend with faults := plan }
      (backend.store.findBySecretDigest (Secret.digestOf secret))
    · rw [hfound]
      exact .done ⟨⟨plan, rfl⟩, by simp⟩
    · rw [hfound]
      cases hrow : backend.store.findBySecretDigest (Secret.digestOf secret) with
      | none => exact .done ⟨⟨plan, rfl⟩, by simp⟩
      | some row =>
        obtain ⟨hstored, hdigest⟩ := hstore.findBySecretDigest_eq_some_iff.mp hrow
        refine (ensures_verifyRow row plan).imp (fun _ h => h) ?_
        rintro result after' ⟨hplan, hpassed⟩
        exact ⟨hplan, fun bearer h => ⟨row, hstored, hdigest, hpassed bearer h⟩⟩
  · intro plan answer hspoilt
    obtain ⟨error, hfailed⟩ | hmissed := hspoilt
    · cases hfailed
      exact .done ⟨⟨plan, rfl⟩, by simp⟩
    · cases hmissed
      exact .done ⟨⟨plan, rfl⟩, by simp⟩

/-- Whoever the filter authenticates in spite of faults is authentic. -/
theorem ensures_authentic (hstore : backend.store.Reachable) (filter : Filter)
    (authorization : List (List UInt8)) :
    (filter.authenticate Backend.environment authorization).Ensures backend
      backend.Replanned fun outcome after => backend.Replanned after ∧
        ∀ bearer, outcome = .authenticated bearer →
          ∃ row, Authentic backend authorization row bearer.user := by
  have hsame : backend.Replanned backend := ⟨backend.faults, rfl⟩
  unfold authenticate
  by_cases henabled : filter.enabled
  · simp only [henabled, if_true]
    cases hpresented : presentedSecret authorization with
    | error reason => exact .done ⟨hsame, by simp⟩
    | ok secret =>
      obtain ⟨value, rest, rfl, hvalue⟩ := presentedSecret_eq_ok_iff.mp hpresented
      have hlimited : (Activity.within filter.lookupTimeout
          ((verify secret).run Backend.environment)).Ensures backend backend.Replanned
          fun result after => backend.Replanned after ∧
            ∀ bearer, result = some (.ok (some bearer)) →
              ∃ row, Authentic backend (value :: rest) row bearer.user := by
        refine (ensures_verify hstore secret).within ?_ ?_ filter.lookupTimeout
        · intro after hplan
          exact ⟨hplan, by simp⟩
        · rintro result after ⟨hplan, hpassed⟩
          refine ⟨hplan, ?_⟩
          intro bearer hresult
          obtain ⟨row, hrow, hdigest, hle, howner, hyes⟩ :=
            hpassed bearer (Option.some.inj hresult)
          exact ⟨row, ⟨value, rest, secret, rfl, hvalue, hdigest⟩, hrow, hle, howner, hyes⟩
      refine hlimited.bind ?_
      rintro result after ⟨hplan, hpassed⟩
      refine .done ⟨hplan, ?_⟩
      intro bearer houtcome
      match result with
      | none => simp [outcome] at houtcome
      | some result =>
        exact hpassed bearer (congrArg some (outcome_eq_authenticated_iff.mp houtcome))
  · simp only [henabled]
    exact .done ⟨hsame, by simp⟩

end Filter
end BearerTokens
