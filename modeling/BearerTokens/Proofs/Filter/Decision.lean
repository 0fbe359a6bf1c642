import BearerTokens.Filter.Basic
import BearerTokens.Proofs.Deployment.FaultFree
import BearerTokens.Proofs.Filter.Presented

/-!
# Decisions of the filter

Over collaborators without faults the decision about a request is a function of
its Authorization values and of the present store, directory and clock.  Making it
takes no time and changes nothing.

Main results:

- Definition {lit}`Filter.decision`: the decision as a function.
- Theorem {lit}`Filter.authenticate_prompt`: the filter decides so.
- Theorem {lit}`Filter.decision_eq_authenticated_iff`: which requests are authenticated.
-/

namespace BearerTokens
namespace Filter

/-! ## The check of a secret -/

/-- What the check of a secret comes to: its row first, then the clock, then the owner. -/
def check (backend : Backend) (secret : String) : Except Denial (Option Authenticated) :=
  match backend.store.findBySecretDigest (Secret.digestOf secret) with
  | none => .ok none
  | some row =>
    if row.isExpiredAt backend.clock then .error .expired
    else checkOwner row (backend.directory.load row.owner)

section

variable {backend : Backend}

/-- A secret in service resolves to the row of its digest. -/
theorem eval_resolve (hout : backend.storeOutage = none) (secret : String) :
    (Lifecycle.resolve secret).eval Backend.answer backend =
      (.ok (backend.store.findBySecretDigest (Secret.digestOf secret)), backend) := by
  simp only [Lifecycle.resolve, Procedure.eval_ask, Procedure.eval_done, Backend.answer,
    Backend.inService, hout]
  rfl

/-- Checking a secret changes nothing. -/
theorem eval_verify (h : backend.FaultFree) (secret : String) :
    (verify secret).eval Backend.answer backend = (check backend secret, backend) := by
  rw [verify, Procedure.eval_bind, eval_resolve h.storeOutage, check]
  cases backend.store.findBySecretDigest (Secret.digestOf secret) with
  | none => rfl
  | some row =>
    simp only [verifyRow, Procedure.eval_ask, Backend.answer]
    by_cases hexpired : row.isExpiredAt backend.clock
    · simp [hexpired]
    · simp [hexpired, Backend.answer, h.directoryOutage]

end

/-! ## The decision -/

/-- What the filter decides about the Authorization values of a request. -/
def decision (filter : Filter) (backend : Backend) (authorization : List (List UInt8)) : Outcome :=
  if filter.enabled then
    match presentedSecret authorization with
    | .error reason => .passThrough reason
    | .ok secret => outcome (some (check backend secret))
  else .passThrough .disabled

variable {filter : Filter} {backend : Backend}

/-- Without faults the filter decides at once and changes nothing. -/
theorem authenticate_prompt (h : backend.FaultFree) (filter : Filter)
    (authorization : List (List UInt8)) :
    (filter.authenticate Backend.environment authorization).Prompt backend
      (filter.decision backend authorization) backend := by
  unfold authenticate decision
  by_cases henabled : filter.enabled
  · simp only [henabled, if_true]
    cases presentedSecret authorization with
    | error reason => exact .done _ _
    | ok secret =>
      have hverify := (verify secret).run_prompt h
      rw [eval_verify h] at hverify
      exact (hverify.within filter.lookupTimeout).bind (.done _ _)
  · simp only [henabled]
    exact .done _ _

/-- An owner passes the check exactly when the directory knows it and has it enabled. -/
theorem checkOwner_eq_ok_iff {row : Token} {directory : UserDirectory} {bearer : Authenticated} :
    checkOwner row (directory.load row.owner) = .ok (some bearer) ↔
      directory.users.get? row.owner = some bearer.user ∧ bearer.user.enabled = true ∧
        bearer.tokenId = row.id ∧ bearer.tokenName = row.name := by
  rcases bearer with ⟨user, tokenId, tokenName⟩
  unfold UserDirectory.load
  cases directory.users.get? row.owner with
  | none => simp [checkOwner]
  | some found =>
    simp only [checkOwner]
    by_cases henabled : found.enabled
    · simp only [henabled, if_true, Except.ok.injEq, Option.some.injEq, Authenticated.mk.injEq]
      constructor
      · rintro ⟨rfl, rfl, rfl⟩
        exact ⟨rfl, henabled, rfl, rfl⟩
      · rintro ⟨rfl, _, rfl, rfl⟩
        exact ⟨rfl, rfl, rfl⟩
    · simp only [henabled]
      constructor
      · intro h
        simp at h
      · rintro ⟨hfound, hyes, _⟩
        rw [Option.some.injEq] at hfound
        rw [hfound] at henabled
        exact absurd hyes henabled

/-- A denied owner is no expired token. -/
theorem checkOwner_ne_expired (row : Token) (answer : Except DirectoryError User) :
    checkOwner row answer ≠ .error .expired := by
  cases answer with
  | error cause => simp [checkOwner]
  | ok user =>
    unfold checkOwner
    by_cases henabled : user.enabled
    · simp [henabled]
    · simp [henabled]

/-! ## Who is authenticated -/

section

variable {secret : String} {row : Token} {bearer : Authenticated}

/-- The check of a secret whose row is stored. -/
theorem check_of_mem (hstore : backend.store.Reachable) (hrow : row ∈ backend.store.rows.values)
    (hdigest : row.digest = Secret.digestOf secret) :
    check backend secret =
      if row.expiresAt < backend.clock then .error .expired
      else checkOwner row (backend.directory.load row.owner) := by
  have hfound := hstore.findBySecretDigest_eq_some_iff.mpr ⟨hrow, hdigest⟩
  simp only [check, hfound, Token.isExpiredAt, isPast, decide_eq_true_eq]

/-- The check of a secret without a row. -/
theorem check_of_absent (hstore : backend.store.Reachable)
    (habsent : ∀ row ∈ backend.store.rows.values, row.digest ≠ Secret.digestOf secret) :
    check backend secret = .ok none := by
  have hnone := hstore.findBySecretDigest_eq_none_iff.mpr habsent
  simp only [check, hnone]

/-- A stored row denies its secret as expired exactly after its expiry. -/
theorem check_eq_expired_iff (hstore : backend.store.Reachable)
    (hrow : row ∈ backend.store.rows.values) (hdigest : row.digest = Secret.digestOf secret) :
    check backend secret = .error .expired ↔ row.expiresAt < backend.clock := by
  rw [check_of_mem hstore hrow hdigest]
  by_cases hexpired : row.expiresAt < backend.clock
  · simp [hexpired]
  · simp only [hexpired, if_false, iff_false]
    exact checkOwner_ne_expired row _

/-- An unexpired row passes its secret exactly when its owner is known and enabled. -/
theorem check_eq_ok_iff (hstore : backend.store.Reachable)
    (hrow : row ∈ backend.store.rows.values) (hdigest : row.digest = Secret.digestOf secret) :
    check backend secret = .ok (some bearer) ↔
      backend.clock ≤ row.expiresAt ∧
        backend.directory.users.get? row.owner = some bearer.user ∧
        bearer.user.enabled = true ∧ bearer.tokenId = row.id ∧ bearer.tokenName = row.name := by
  rw [check_of_mem hstore hrow hdigest]
  by_cases hexpired : row.expiresAt < backend.clock
  · have hle : ¬ backend.clock ≤ row.expiresAt := by omega
    simp [hexpired, hle]
  · have hle : backend.clock ≤ row.expiresAt := by omega
    simp only [hexpired, if_false, checkOwner_eq_ok_iff, hle, true_and]

end

/-- What makes a request that of a user, by a stored row. -/
structure Authentic (backend : Backend) (authorization : List (List UInt8)) (row : Token)
    (user : User) : Prop where
  /-- The first value presents the secret of the row. -/
  presented : ∃ value rest secret, authorization = value :: rest ∧
    BearerCredential value secret ∧ row.digest = Secret.digestOf secret
  stored : row ∈ backend.store.rows.values
  unexpired : backend.clock ≤ row.expiresAt
  owner : backend.directory.users.get? row.owner = some user
  enabled : user.enabled = true

/-- The decision about a bearer credential is that of the check of its secret. -/
theorem decision_of_credential (henabled : filter.enabled = true) {value : List UInt8}
    {secret : String} (hvalue : BearerCredential value secret) (rest : List (List UInt8)) :
    filter.decision backend (value :: rest) = outcome (some (check backend secret)) := by
  have hpresented := presentedSecret_eq_ok_iff.mpr ⟨value, rest, rfl, hvalue⟩
  simp only [decision, henabled, if_true, hpresented]

/-- A check authenticates exactly when it passes a bearer. -/
theorem outcome_eq_authenticated_iff {result : Except Denial (Option Authenticated)}
    {bearer : Authenticated} :
    outcome (some result) = .authenticated bearer ↔ result = .ok (some bearer) := by
  match result with
  | .error reason => simp [outcome]
  | .ok none => simp [outcome]
  | .ok (some other) => simp [outcome]

/-- A check denies exactly for the reason that it gives. -/
theorem outcome_eq_denied_iff {result : Except Denial (Option Authenticated)} {reason : Denial} :
    outcome (some result) = .denied reason ↔ result = .error reason := by
  match result with
  | .error other => simp [outcome]
  | .ok none => simp [outcome]
  | .ok (some bearer) => simp [outcome]

/-- A request is authenticated exactly when it is that of a user, by the row presented. -/
theorem decision_eq_authenticated_iff (henabled : filter.enabled = true)
    (hstore : backend.store.Reachable) {authorization : List (List UInt8)}
    {bearer : Authenticated} :
    filter.decision backend authorization = .authenticated bearer ↔
      ∃ row, Authentic backend authorization row bearer.user ∧
        bearer.tokenId = row.id ∧ bearer.tokenName = row.name := by
  constructor
  · intro h
    cases hpresented : presentedSecret authorization with
    | error reason => simp [decision, henabled, hpresented] at h
    | ok secret =>
      rcases presentedSecret_eq_ok_iff.mp hpresented with ⟨value, rest, rfl, hvalue⟩
      rw [decision_of_credential henabled hvalue, outcome_eq_authenticated_iff] at h
      by_cases habsent : ∀ row ∈ backend.store.rows.values,
          row.digest ≠ Secret.digestOf secret
      · rw [check_of_absent hstore habsent] at h
        simp at h
      · push Not at habsent
        rcases habsent with ⟨row, hrow, hdigest⟩
        rcases (check_eq_ok_iff hstore hrow hdigest).mp h with
          ⟨hle, howner, hyes, hid, hname⟩
        refine ⟨row, ⟨?_, hrow, hle, howner, hyes⟩, hid, hname⟩
        exact ⟨value, rest, secret, rfl, hvalue, hdigest⟩
  · rintro ⟨row, ⟨⟨value, rest, secret, rfl, hvalue, hdigest⟩, hrow, hle, howner, hyes⟩, hid, hname⟩
    rw [decision_of_credential henabled hvalue, outcome_eq_authenticated_iff,
      check_eq_ok_iff hstore hrow hdigest]
    exact ⟨hle, howner, hyes, hid, hname⟩

end Filter
end BearerTokens
