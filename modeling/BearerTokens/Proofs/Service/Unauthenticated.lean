import BearerTokens.Proofs.Filter.Lookups
import BearerTokens.Proofs.Management.Addressing
import BearerTokens.Proofs.Service.Layers

/-!
# Requests of nobody

A request that the filter does not authenticate is answered by its path and its method
alone.  It never comes as far as the rest of the request, the store behind the look-up of
a secret, or the random source: a management operation asks for credentials, or for
authentication to be enabled, before it reads anything.

Main results:

- Definition {lit}`Service.anonymous`: the response to a request of nobody.
- Theorem {lit}`Service.dispatch_none`: it depends on the path and the method only.
- Theorem {lit}`Service.no_effect_without_authentication`: nothing is done or told
  without authentication.
-/

namespace BearerTokens

/-! ## Management without a caller -/

/-- A management operation refuses a request of nobody before it reads the request. -/
theorem Operation.handle_none {operation : Operation} (h : operation ≠ .health)
    (authEnabled : Bool) (request : Http.Request) (bodyLimit : Nat) :
    operation.handle authEnabled none request bodyLimit =
      .done (Management.refusal authEnabled).response := by
  cases operation with
  | health => exact absurd rfl h
  | _ => simp only [handle, Caller.require_none]

namespace Service

/-- The response to a request of nobody, by its path and its method. -/
def anonymous (service : Service) (path : Http.Path) (method : String) : Http.Response :=
  match Route.ofPath? path with
  | none => .bare 404
  | some route =>
    match route.operation? method with
    | none => .bare 405
    | some .health => .plain 200 "ok"
    | some _ => (Management.refusal service.filter.enabled).response

/-- A request of nobody is answered at once, whatever else it says. -/
theorem dispatch_none (service : Service) (request : Http.Request) (bodyLimit : Nat) :
    service.dispatch none request bodyLimit =
      .done (service.anonymous request.path request.method) := by
  unfold dispatch anonymous
  cases Route.ofPath? request.path with
  | none => rfl
  | some route =>
    simp only
    cases route.operation? request.method with
    | none => rfl
    | some operation =>
      cases operation with
      | health => rfl
      | _ => simp only [Operation.handle_none, ne_eq, reduceCtorEq, not_false_eq_true]

/-- A management operation refuses nobody with the refusal of the settings. -/
theorem anonymous_of_addressed (service : Service) {path : Http.Path} {method : String}
    (h : Management.Addressed path method) :
    service.anonymous path method = (Management.refusal service.filter.enabled).response := by
  obtain ⟨route, operation, hroute, hoperation, hmanages⟩ := Management.addressed_iff.mp h
  unfold anonymous
  simp only [hroute, hoperation]

variable {σ : Type} {service : Service} {environment : Environment σ} {s : σ}
  {request : Http.Request}

/-! ## Whole requests -/

/-- A request that passes the filter without credentials is answered as one of nobody. -/
theorem respond_of_passThrough (ids : Identifiers) {reason : PassThrough}
    (hlength : (declaredLength? request).any (maxBodyLength < ·) = false)
    (h : (service.filter.authenticate environment request.authorization
      (some service.requestTimeout) s).result = some (.passThrough reason)) :
    let run := service.filter.authenticate environment request.authorization
      (some service.requestTimeout) s
    service.respond environment ids request s =
      ⟨finish request.path request.method (identify request ids.request
        (service.anonymous request.path request.method)), run.state, run.calls⟩ :=
  respond_of_done ids hlength h fun bodyLimit => service.dispatch_none request bodyLimit

/-- A request that the filter denies is answered with the reason. -/
theorem respond_of_denied (ids : Identifiers) {reason : Denial}
    (hlength : (declaredLength? request).any (maxBodyLength < ·) = false)
    (h : (service.filter.authenticate environment request.authorization
      (some service.requestTimeout) s).result = some (.denied reason)) :
    let run := service.filter.authenticate environment request.authorization
      (some service.requestTimeout) s
    service.respond environment ids request s =
      ⟨finish request.path request.method (identify request ids.request
        (Problem.ofDenial reason).response), run.state, run.calls⟩ :=
  respond_of_done ids hlength h fun _ => rfl

/-- Only an enabled filter denies. -/
theorem enabled_of_denied {filter : Filter} {authorization : List (List UInt8)}
    {allowance : Option Nat} {reason : Denial}
    (h : (filter.authenticate environment authorization allowance s).result =
      some (.denied reason)) : filter.enabled = true := by
  cases henabled : filter.enabled with
  | true => rfl
  | false => simp [Filter.authenticate, henabled, Activity.done] at h

/-- The layers around a problem keep its status and its challenge. -/
theorem challenges_of_problem (request : Http.Request) (drawn : String) (problem : Problem) :
    let response := finish request.path request.method (identify request drawn problem.response)
    response.status = problem.status ∧
      response.values "www-authenticate" =
        if problem.status = 401 then [Ascii.bytes Problem.challenge] else [] := by
  constructor
  · rw [status_finish]
    exact problem.status_response
  · rw [values_finish _ _ _ (by decide), values_identify _ _ _ (by decide),
      problem.challenges_response]

/--
Over any backend, with any faults, a request that the filter does not authenticate makes
at most the look-ups of the filter, and changes neither the store nor the random source.
If it addresses a management operation, it is told that credentials are needed, or that
authentication is disabled, whatever its body and its other fields are.  A denied
credential is told so on every path.
-/
theorem no_effect_without_authentication (service : Service) (backend : Backend)
    (ids : Identifiers) (request : Http.Request)
    (hlength : ∀ length ∈ declaredLength? request, length ≤ maxBodyLength)
    (htime : (service.respond Backend.environment ids request backend).response.status ≠ 408)
    (hnot : ∀ bearer, (service.filter.authenticate Backend.environment request.authorization
      (some service.requestTimeout) backend).result ≠ some (.authenticated bearer)) :
    let decided := service.filter.authenticate Backend.environment request.authorization
      (some service.requestTimeout) backend
    let exchange := service.respond Backend.environment ids request backend
    let status := exchange.response.status
    let challenges := exchange.response.values "www-authenticate"
    (∃ digest user, exchange.calls <+: [.findBySecretDigest digest, .now, .load user]) ∧
      exchange.state.store = backend.store ∧ exchange.state.entropy = backend.entropy ∧
      (Management.Addressed request.path request.method →
        if service.filter.enabled then status = 401 ∧ challenges = [Ascii.bytes Problem.challenge]
        else status = 403 ∧ challenges = []) ∧
      ∀ reason, decided.result = some (.denied reason) →
        status = 401 ∧ challenges = [Ascii.bytes Problem.challenge] := by
  intro decided exchange status challenges
  have hshort : (declaredLength? request).any (maxBodyLength < ·) = false := by
    cases hdeclared : declaredLength? request with
    | none => rfl
    | some length => simpa using hlength length hdeclared
  have hcalls := service.filter.looksUp_authenticate Backend.environment request.authorization
    (some service.requestTimeout) backend
  obtain ⟨plan, hstate⟩ := service.filter.replanned_authenticate request.authorization
    (some service.requestTimeout) backend
  cases hresult : decided.result with
  | none =>
    have hlate := respond_of_late ids hshort hresult
    rw [hlate, status_finish] at htime
    exact absurd rfl htime
  | some outcome =>
    cases outcome with
    | authenticated bearer => exact absurd hresult (hnot bearer)
    | passThrough reason =>
      have hexchange := respond_of_passThrough ids hshort hresult
      simp only [status, challenges, exchange, hexchange, hstate]
      refine ⟨hcalls, trivial, trivial, ?_, by simp⟩
      intro haddressed
      rw [anonymous_of_addressed service haddressed]
      obtain ⟨hstatus, hchallenges⟩ := challenges_of_problem request ids.request
        (Management.refusal service.filter.enabled)
      rw [hstatus, hchallenges]
      cases service.filter.enabled <;> exact ⟨rfl, rfl⟩
    | denied reason =>
      have hexchange := respond_of_denied ids hshort hresult
      have hchallenged := challenges_of_problem request ids.request (.ofDenial reason)
      simp only [status, challenges, exchange, hexchange, hstate]
      refine ⟨hcalls, trivial, trivial, ?_, fun _ _ => hchallenged⟩
      intro _
      rw [if_pos (enabled_of_denied hresult)]
      exact hchallenged

/-- A service without a filter. -/
def unguarded : Service := ⟨⟨false, 2000⟩, 5000⟩

/-- A revocation of a token whose name is no text, with a secret that was issued. -/
def undecodableRevocation : Http.Request :=
  { issuedRequest with method := "DELETE", path := Route.itemPath ['%', 'F', 'F'] }

/-- Without a filter even a request with an issued secret is refused, its name unread. -/
theorem no_effect_undecodableRevocation :
    let exchange := unguarded.respond Backend.environment ⟨"r", "s"⟩ undecodableRevocation
      issuedBackend
    exchange.response.status = 403 ∧ exchange.response.values "www-authenticate" = [] ∧
      exchange.state.store = issuedBackend.store := by
  intro exchange
  have hmanaged : Management.Addressed undecodableRevocation.path undecodableRevocation.method :=
    .item (by decide) (by decide) (by decide)
  obtain ⟨-, hstore, -, hrefused, -⟩ := no_effect_without_authentication unguarded issuedBackend
    ⟨"r", "s"⟩ undecodableRevocation (by decide +kernel) (by decide +kernel) (by
      intro bearer h
      cases h)
  obtain ⟨hstatus, hchallenges⟩ := hrefused hmanaged
  exact ⟨hstatus, hchallenges, hstore⟩

end Service
end BearerTokens
