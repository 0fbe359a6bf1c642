import BearerTokens.Proofs.Json.RoundTrip
import BearerTokens.Proofs.Service.Exits
import BearerTokens.Proofs.Service.FailClosed

/-!
# Which responses ask for credentials

A response asks for credentials exactly when it says that they are missing or were
refused, over any collaborators and whatever time they take.  It does so on two of the
ways out of the service: when the filter let a request of nobody pass to an operation that
needs a caller, and when the filter denied a credential.  Each tells its own message.

Main results:

- Definition {lit}`Service.Unauthorized`: why a request lacks credentials, in a message.
- Theorem {lit}`Service.Exit.challenging_or_not`: which ways out ask for credentials, and how.
- Theorem {lit}`Service.challenge_iff_unauthorized`: what a client sees of it.
-/

namespace BearerTokens

open Http (Response)

namespace Service

/-- The message to a request that lacks credentials, by the decision of the filter. -/
inductive Unauthorized : Option Outcome → String → Prop where
  | missing (reason : PassThrough) :
    Unauthorized (some (.passThrough reason)) "Authentication is required"
  | refused (reason : Denial) : Unauthorized (some (.denied reason)) reason.message

/-- A response that asks for credentials and tells why. -/
structure Challenging (message : String) (response : Response) : Prop where
  status : response.status = 401
  challenges : response.values "www-authenticate" = [Ascii.bytes Problem.challenge]
  body : response.body = (denialJson message).text

/-- A response that does not ask for credentials. -/
structure Unchallenging (response : Response) : Prop where
  status : response.status ∈ 408 :: Response.ordinaryStatuses
  challenges : response.values "www-authenticate" = []

/-- Missing credentials are asked for. -/
theorem challenging_unauthorized (message : String) :
    Challenging message (Problem.unauthorized message).response where
  status := rfl
  challenges := (Problem.unauthorized message).challenges_response
  body := rfl

/-- An ordinary response asks for nothing. -/
theorem unchallenging_of_ordinary {response : Response} (h : response.Ordinary) :
    Unchallenging response where
  status := List.mem_cons_of_mem 408 h.status
  challenges := h.values_eq_nil (by decide)

/-- A response that does not ask for credentials does not say that they are missing. -/
theorem Unchallenging.status_ne_unauthorized {response : Response} (h : Unchallenging response) :
    response.status ≠ 401 := by
  have hothers : 401 ∉ 408 :: Response.ordinaryStatuses := by decide
  intro heq
  rw [← heq] at hothers
  exact hothers h.status

/-- An identifier is no challenge. -/
theorem Challenging.identify {message : String} {response : Response}
    (h : Challenging message response) (request : Http.Request) (drawn : String) :
    Challenging message (identify request drawn response) where
  status := h.status
  challenges := (values_identify request drawn response (by decide)).trans h.challenges
  body := h.body

/-- An identifier asks for nothing. -/
theorem Unchallenging.identify {response : Response} (h : Unchallenging response)
    (request : Http.Request) (drawn : String) :
    Unchallenging (identify request drawn response) where
  status := h.status
  challenges := (values_identify request drawn response (by decide)).trans h.challenges

variable {σ : Type} {service : Service} {environment : Environment σ} {ids : Identifiers}
  {request : Http.Request} {s : σ}

/-- On each way out, credentials are asked for with a message of the filter's decision, or not. -/
theorem Exit.challenging_or_not {response : Response}
    (h : Exit service environment ids request s response) :
    Unchallenging response ∨
      ∃ message, Unauthorized (service.decided? environment request s) message ∧
        Challenging message response := by
  cases h with
  | tooLong =>
    exact .inl ((unchallenging_of_ordinary ordinary_tooLong).identify request ids.request)
  | late _ => exact .inl ⟨List.mem_cons_self, rfl⟩
  | @passed reason hdecided =>
    rcases service.anonymous_cases request.path request.method with hordinary | hunauthorized
    · exact .inl ((unchallenging_of_ordinary hordinary).identify request ids.request)
    · right
      refine ⟨"Authentication is required", ?_, ?_⟩
      · rw [hdecided]
        exact .missing reason
      · rw [hunauthorized]
        exact (challenging_unauthorized _).identify request ids.request
  | @denied reason hdecided =>
    right
    refine ⟨reason.message, ?_, (challenging_unauthorized _).identify request ids.request⟩
    rw [hdecided]
    exact .refused reason
  | served hordinary =>
    exact .inl ((unchallenging_of_ordinary hordinary).identify request ids.request)

/--
Over any collaborators, however they answer and however long they take, a response has
status 401 exactly when it carries a challenge.  The challenge is then the only one and
asks for a bearer token, and the body, unless the request is a HEAD, is the document of
the message that the filter's decision calls for.  Every other status is listed.
-/
theorem challenge_iff_unauthorized (service : Service) (environment : Environment σ)
    (ids : Identifiers) (request : Http.Request) (s : σ) :
    let decided := service.decided? environment request s
    let response := (service.respond environment ids request s).response
    let challenges := response.values "www-authenticate"
    (response.status = 401 ↔ challenges ≠ []) ∧
      (response.status = 401 →
        challenges = [Ascii.bytes "Bearer realm=\"access-tokens\""] ∧
          ∃ message, Unauthorized decided message ∧
            (request.method ≠ "HEAD" →
              Json.read? (Utf8.encode response.body) = some (denialJson message))) ∧
      response.status ∈ 401 :: 408 :: Response.ordinaryStatuses := by
  intro decided response challenges
  have hchallenges : challenges =
      (service.respondInside environment ids request s).response.values "www-authenticate" :=
    values_finish request.path request.method _ (by decide)
  have hstatus : response.status =
      (service.respondInside environment ids request s).response.status :=
    status_finish request.path request.method _
  rcases (service.exit_respondInside environment ids request s).challenging_or_not with
    hnothing | ⟨message, hmessage, hchallenging⟩
  · have hother : response.status ≠ 401 := by
      rw [hstatus]
      exact hnothing.status_ne_unauthorized
    refine ⟨?_, fun hunauthorized => absurd hunauthorized hother, ?_⟩
    · rw [hchallenges, hnothing.challenges]
      simpa using hother
    · rw [hstatus]
      exact List.mem_cons_of_mem 401 hnothing.status
  · have hunauthorized : response.status = 401 := hstatus.trans hchallenging.status
    have hchallenge := hchallenges.trans hchallenging.challenges
    refine ⟨?_, fun _ => ⟨hchallenge, message, hmessage, ?_⟩, ?_⟩
    · rw [hchallenge]
      simpa using hunauthorized
    · intro hmethod
      have hbody : response.body = (denialJson message).text :=
        (body_finish request.path hmethod _).trans hchallenging.body
      rw [hbody, Json.read?_text]
    · rw [hunauthorized]
      exact List.mem_cons_self

end Service
end BearerTokens
