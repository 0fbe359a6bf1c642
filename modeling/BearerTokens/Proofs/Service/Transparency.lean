import BearerTokens.Proofs.Service.Isolation
import BearerTokens.Proofs.Service.Unauthenticated

/-!
# Requests that pass through

A request that passes the filter without credentials is handled as if it had brought no
Authorization value at all, whatever the reason is why it passed.  So a client cannot tell
a secret that is unknown from one that is missing.

Main results:

- Definition {lit}`Http.Request.without`: a request without its fields of a name.
- Theorem {lit}`Service.respond_without_authorization`: the response to a request without
  credentials.
- Theorem {lit}`Service.passThrough_transparent`: passing through is as bringing nothing.
-/

namespace BearerTokens

/-! ## Requests without a field -/

namespace Http

/-- A request without its fields of a name. -/
def Request.without (request : Request) (name : String) : Request :=
  { request with fields := request.fields.filter fun field => field.name ≠ name }

/-- Leaving out the fields of one name leaves those of all others. -/
theorem values_filter_ne (fields : List Field) {name other : String} (h : name ≠ other) :
    values name (fields.filter fun field => field.name ≠ other) = values name fields := by
  unfold values
  rw [List.filter_filter]
  congr 1
  refine List.filter_congr ?_
  intro field _
  by_cases hname : field.name = name
  · simp [hname, h]
  · simp [hname]

/-- The fields that are left out are gone. -/
theorem values_filter_self (fields : List Field) (name : String) :
    values name (fields.filter fun field => field.name ≠ name) = [] := by
  unfold values
  rw [List.filter_filter, List.map_eq_nil_iff, List.filter_eq_nil_iff]
  intro field _
  simp

namespace Request

/-- Fields of other names have the same first value. -/
theorem value?_without (request : Request) {name other : String} (h : name ≠ other) :
    (request.without other).value? name = request.value? name := by
  unfold Request.value? Http.value? without
  rw [values_filter_ne request.fields h]

/-- A request without its Authorization fields has no Authorization values. -/
theorem authorization_without (request : Request) :
    (request.without "authorization").authorization = [] :=
  values_filter_self request.fields "authorization"

end Request
end Http

namespace Service

variable {σ : Type} {request : Http.Request}

/-- The length of the body is declared elsewhere. -/
theorem declaredLength?_without (request : Http.Request) :
    declaredLength? (request.without "authorization") = declaredLength? request := by
  unfold declaredLength?
  rw [request.value?_without (by decide)]

/-- The identifier is brought elsewhere. -/
theorem identifier_without (request : Http.Request) (drawn : String) :
    identifier (request.without "authorization") drawn = identifier request drawn := by
  unfold identifier
  rw [request.value?_without (by decide)]

/-- Without Authorization values a request passes the filter at once. -/
theorem authenticate_nil (filter : Filter) (environment : Environment σ)
    (allowance : Option Nat) (s : σ) :
    ∃ reason, filter.authenticate environment [] allowance s =
      ⟨some (.passThrough reason), 0, s, []⟩ := by
  unfold Filter.authenticate
  by_cases henabled : filter.enabled
  · simp only [henabled, if_true]
    exact ⟨.noCredentials, rfl⟩
  · simp only [henabled]
    exact ⟨.disabled, rfl⟩

/-- A request without credentials is answered as one of nobody, and nothing is called. -/
theorem respond_without_authorization (service : Service) (environment : Environment σ)
    (ids : Identifiers) (s : σ)
    (hlength : (declaredLength? request).any (maxBodyLength < ·) = false) :
    service.respond environment ids (request.without "authorization") s =
      ⟨finish request.path request.method (identify request ids.request
        (service.anonymous request.path request.method)), s, []⟩ := by
  obtain ⟨reason, hrun⟩ := authenticate_nil service.filter environment
    (some service.requestTimeout) s
  rw [← request.authorization_without] at hrun
  rw [← declaredLength?_without] at hlength
  rw [respond_of_passThrough ids hlength (congrArg Run.result hrun), hrun]
  simp only [identify, identifier_without]
  rfl

/--
Whatever the reason is why a request passes the filter, it gets the response of the same
request without its Authorization values, apart from an identifier that is drawn for it,
and leaves the same store.  Without faults it leaves the same backend.
-/
theorem passThrough_transparent (service : Service) (backend : Backend)
    (ids ids' : Identifiers) (request : Http.Request) {reason : PassThrough}
    (hpass : (service.filter.authenticate Backend.environment request.authorization
      (some service.requestTimeout) backend).result = some (.passThrough reason)) :
    let bare := request.without "authorization"
    let exchange := service.respond Backend.environment ids request backend
    let exchange' := service.respond Backend.environment ids' bare backend
    exchange.response.without identifierField = exchange'.response.without identifierField ∧
      (identifier request ids.request = identifier bare ids'.request →
        exchange.response = exchange'.response) ∧
      exchange.state.store = exchange'.state.store ∧
      (backend.FaultFree → exchange.state = exchange'.state) := by
  intro bare exchange exchange'
  have hidentified : ∀ response : Http.Response,
      (finish request.path request.method
          (identify request ids.request response)).without identifierField =
        (finish request.path request.method
          (identify request ids'.request response)).without identifierField := by
    intro response
    rw [without_finish, without_identify]
    rw [without_finish _ _ (identify request ids'.request _), without_identify]
  cases hlength : (declaredLength? request).any (maxBodyLength < ·) with
  | true =>
    -- Neither request comes as far as the filter.
    have hlength' : (declaredLength? bare).any (maxBodyLength < ·) = true := by
      rw [declaredLength?_without]
      exact hlength
    simp only [exchange, exchange', respond_of_tooLong ids hlength,
      respond_of_tooLong ids' hlength']
    refine ⟨?_, ?_, trivial, fun _ => trivial⟩
    · simp only [bare, identify, identifier_without]
      exact hidentified tooLong
    · intro hidentifier
      simp only [identify, ← hidentifier]
      rfl
  | false =>
    have hexchange := respond_of_passThrough ids hlength hpass
    have hexchange' := respond_without_authorization service Backend.environment ids' backend
      hlength
    obtain ⟨plan, hstate⟩ := service.filter.replanned_authenticate request.authorization
      (some service.requestTimeout) backend
    simp only [exchange, exchange', bare, hexchange, hexchange']
    refine ⟨hidentified _, ?_, by rw [hstate], ?_⟩
    · intro hidentifier
      rw [identifier_without] at hidentifier
      simp only [identify, hidentifier]
    · intro hfree
      exact (Filter.authenticate_prompt hfree service.filter request.authorization).state _

/-- A secret that was never issued cannot be told from none, by a request to list tokens. -/
theorem passThrough_transparent_unknownSecret :
    let request : Http.Request :=
      { issuedRequest with path := "/api/v1/access_tokens".toList }
    let backend : Backend := .ofUsers [.ordinary 7 "alice" true] 1000
    let exchange := guarded.respond Backend.environment ⟨"r1", "s1"⟩ request backend
    let exchange' := guarded.respond Backend.environment ⟨"r2", "s2"⟩
      (request.without "authorization") backend
    exchange.response.without identifierField = exchange'.response.without identifierField ∧
      exchange.response.status = 401 ∧ exchange.state = exchange'.state := by
  intro request backend exchange exchange'
  have hpass : (guarded.filter.authenticate Backend.environment request.authorization
      (some guarded.requestTimeout) backend).result = some (.passThrough .unknownToken) := by
    decide +kernel
  obtain ⟨hresponse, -, -, hstate⟩ := passThrough_transparent guarded backend ⟨"r1", "s1"⟩
    ⟨"r2", "s2"⟩ request hpass
  exact ⟨hresponse, by decide +kernel, hstate ⟨rfl, rfl, rfl⟩⟩

end Service
end BearerTokens
