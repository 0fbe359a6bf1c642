import BearerTokens.Deployment.Startup
import BearerTokens.Proofs.Filter.Lookups
import BearerTokens.Proofs.Lifecycle.Evaluation
import BearerTokens.Proofs.Service.History

/-!
# Seeding as a history

To issue a seed, the clock is read once and the token service is called once.  Seeding is
therefore a history like any other, in which the clock is set before each call and which
ends early when a token cannot be issued.

Main results:

- Theorem {lit}`Seed.eval_issue`: what the issue of one seed comes to.
- Definition {lit}`Seed.steps`: the history that seeding amounts to.
- Theorem {lit}`Seed.run_steps`: it leaves the backend of the seeding behind.
-/

namespace BearerTokens

/-! ## Procedures that read no clock -/

/-- A procedure that reads no clock does not notice that the clock moves. -/
theorem Procedure.eval_ticking {α : Type} {p : Procedure α} (h : p.Asks (· ≠ .now))
    (readings : Nat → Int) (ticking : Ticking) :
    p.eval (Ticking.answer readings) ticking =
      ((p.eval Backend.answer ticking.backend).1,
        { ticking with backend := (p.eval Backend.answer ticking.backend).2 }) := by
  induction p generalizing ticking with
  | done value => rfl
  | ask call next ih =>
    rcases h with ⟨hcall, hnext⟩
    have hanswer : ticking.answer readings call =
        ((ticking.backend.answer call).1,
          { ticking with backend := (ticking.backend.answer call).2 }) := by
      cases call with
      | now => exact absurd rfl hcall
      | _ => rfl
    rw [eval_ask, eval_ask, hanswer]
    exact ih _ (hnext _) _

/-- The issue of a token reads no clock. -/
theorem Lifecycle.issue_asks (owner : Int) (name : String) (description : Option String)
    (expiresAt : Int) : (issue owner name description expiresAt).Asks (· ≠ .now) := by
  unfold issue
  cases refusal? owner name description with
  | some refusal => trivial
  | none =>
    refine ⟨Call.noConfusion, ?_⟩
    intro found
    match found with
    | .error cause => trivial
    | .ok (some row) => trivial
    | .ok none =>
      refine ⟨Call.noConfusion, ?_⟩
      intro drawn
      cases drawn with
      | error reason => trivial
      | ok block => exact ⟨Call.noConfusion, fun answer => trivial⟩

/-! ## One seed -/

namespace Seed

/-- The call of the token service that issues a seed. -/
def call (seed : Seed) (expiresAt : Int) : ServiceCall :=
  .issue seed.owner seed.name none expiresAt

/-- What the token service answers to the issue of a seed, and what it leaves behind. -/
def attempt (seed : Seed) (expiresAt : Int) (backend : Backend) :
    Except TokenError Secret × Backend :=
  (Lifecycle.issue seed.owner seed.name none expiresAt).eval Backend.answer backend

/-- The call of a seed is answered as it is attempted. -/
theorem eval_call (seed : Seed) (expiresAt : Int) (backend : Backend) :
    (seed.call expiresAt).procedure.eval Backend.answer backend =
      (.issued (seed.attempt expiresAt backend).1, (seed.attempt expiresAt backend).2) :=
  Procedure.eval_map Backend.answer ServiceAnswer.issued _ backend

/-- An answer to the call of a seed is what its attempt comes to. -/
theorem attempt_eq {seed : Seed} {expiresAt : Int} {backend after : Backend}
    {result : Except TokenError Secret}
    (h : (seed.call expiresAt).procedure.eval Backend.answer backend = (.issued result, after)) :
    seed.attempt expiresAt backend = (result, after) := by
  rw [eval_call, Prod.mk.injEq, ServiceAnswer.issued.injEq] at h
  exact Prod.ext h.1 h.2

/-- A seed that breaks a rule is refused. -/
theorem attempt_of_refusal {seed : Seed} {refusal : TokenError}
    (hrefusal : Lifecycle.refusal? seed.owner seed.name none = some refusal) (expiresAt : Int)
    (backend : Backend) : seed.attempt expiresAt backend = (.error refusal, backend) :=
  attempt_eq (ServiceCall.eval_issue_of_refusal hrefusal)

/-- A refusal is no duplicate, so that it ends the seeding. -/
theorem outcome_of_refusal {owner : Int} {name : String} {description : Option String}
    {refusal : TokenError} (h : Lifecycle.refusal? owner name description = some refusal)
    (seed : String) : outcome seed (.error refusal) = .error (.refused seed refusal) := by
  unfold Lifecycle.refusal? at h
  split at h
  · rw [← Option.some.inj h]
    rfl
  · split at h
    · rw [← Option.some.inj h]
      rfl
    · split at h
      · rw [← Option.some.inj h]
        rfl
      · cases h

/-- The issue of a seed sets the clock to its reading and attempts the call. -/
theorem eval_issue (seed : Seed) (readings : Nat → Int) (backend : Backend) (read : Nat) :
    seed.issue.eval (Ticking.answer readings) ⟨backend, read⟩ =
      let ready := { backend with clock := readings read }
      match hoursAfter (readings read) seed.hours with
      | none => (.error (.lifetimeTooLarge seed.name), ⟨ready, read + 1⟩)
      | some expiresAt =>
        let tried := seed.attempt expiresAt ready
        (outcome seed.name tried.1, ⟨tried.2, read + 1⟩) := by
  simp only [issue, Procedure.eval_ask, Ticking.answer]
  cases hoursAfter (readings read) seed.hours with
  | none => rfl
  | some expiresAt =>
    simp only [Procedure.eval_map, Procedure.eval_ticking (Lifecycle.issue_asks _ _ _ _), attempt]

/-- Seeding goes on until a token cannot be issued. -/
theorem eval_issueFrom_cons {σ : Type} (answer : σ → (c : Call) → c.Answer × σ)
    (issued : List Secret) (seed : Seed) (rest : List Seed) (s : σ) :
    (issueFrom issued (seed :: rest)).eval answer s =
      match seed.issue.eval answer s with
      | (.error cause, s') => (.error cause, s')
      | (.ok secret, s') => (issueFrom (secret.toList ++ issued) rest).eval answer s' := by
  rw [issueFrom, Procedure.eval_bind]
  rcases seed.issue.eval answer s with ⟨result, s'⟩
  cases result with
  | error cause => rfl
  | ok secret => rfl

/-! ## All seeds -/

/-- Nothing that is issued changes the directory. -/
theorem directory_issueFrom (readings : Nat → Int) (issued : List Secret) (seeds : List Seed)
    (ticking : Ticking) :
    ((issueFrom issued seeds).eval (Ticking.answer readings) ticking).2.backend.directory =
      ticking.backend.directory := by
  refine Procedure.eval_invariant
    (P := fun later : Ticking => later.backend.directory = ticking.backend.directory) ?_ _ rfl
  intro later call hlater
  cases call with
  | now => exact hlater
  | _ =>
    simp only [Ticking.answer]
    rw [Backend.answer_frame]
    exact hlater

/-- The history that seeding amounts to, from a backend and a number of readings so far. -/
def steps (readings : Nat → Int) (backend : Backend) (read : Nat) : List Seed → List Step
  | [] => []
  | seed :: rest =>
    .setClock (readings read) ::
      match hoursAfter (readings read) seed.hours with
      | none => []
      | some expiresAt =>
        let tried := seed.attempt expiresAt { backend with clock := readings read }
        .call (seed.call expiresAt) ::
          match outcome seed.name tried.1 with
          | .error _ => []
          | .ok _ => steps readings tried.2 (read + 1) rest

/-- The history that seeding amounts to leaves the same backend behind. -/
theorem run_steps (service : Service) (readings : Nat → Int) {backend : Backend}
    (h : backend.FaultFree) (read : Nat) (issued : List Secret) (seeds : List Seed) :
    service.run backend (steps readings backend read seeds) =
      ((issueFrom issued seeds).eval (Ticking.answer readings) ⟨backend, read⟩).2.backend := by
  induction seeds generalizing backend read issued with
  | nil => rfl
  | cons seed rest ih =>
    let ready := { backend with clock := readings read }
    have hready : ready.FaultFree := ⟨h.storeOutage, h.directoryOutage, h.faults⟩
    rw [eval_issueFrom_cons, eval_issue, steps]
    cases hoursAfter (readings read) seed.hours with
    | none => rfl
    | some expiresAt =>
      have hcall : service.step ready (.call (seed.call expiresAt)) =
          (seed.attempt expiresAt ready).2 := by
        rw [Service.step_call hready, eval_call]
      have htried : (seed.attempt expiresAt ready).2.FaultFree :=
        hready.eval (Lifecycle.issue seed.owner seed.name none expiresAt)
      cases hresult : outcome seed.name (seed.attempt expiresAt ready).1 with
      | error cause =>
        simp only [ready] at hcall hresult
        simp only [hresult]
        exact hcall
      | ok secret =>
        have hrest := ih htried (read + 1) (secret.toList ++ issued)
        simp only [ready] at hcall hresult hrest
        simp only [hresult, ← hrest]
        simp only [Service.run, List.foldl_cons, Service.step] at hcall ⊢
        rw [hcall]

end Seed
end BearerTokens
