import BearerTokens.Proofs.Service.Authentication
import BearerTokens.Proofs.Service.Exits

/-!
# Which responses carry the identifier of their request

The layer that identifies requests stands outside of all that answer a request, whether
they refuse it or serve it, so that each of these answers carries the identifier.  Only
the answer to a request whose time runs out is made further out, and carries none, not
even the one that the request brought.

Main results:

- Theorem {lit}`Service.Exit.identified_or_late`: the identifier on each way out.
- Theorem {lit}`Service.identified_iff_in_time`: only lateness loses an identifier.
-/

namespace BearerTokens

open Http (Response)

/-- A problem brings no identifier. -/
theorem Problem.values_identifierField (problem : Problem) :
    problem.response.values Service.identifierField = [] := by
  cases problem <;> rfl

namespace Service

/-- A response that was given in time, with the identifier of its request only. -/
structure Identified (request : Http.Request) (drawn : String) (response : Response) :
    Prop where
  status : response.status ≠ 408
  values : response.values identifierField = [identifier request drawn]

/-- A response without an identifier gets that of its request. -/
theorem identified_identify {response : Response} (hstatus : response.status ≠ 408)
    (hvalues : response.values identifierField = []) (request : Http.Request) (drawn : String) :
    Identified request drawn (identify request drawn response) where
  status := hstatus
  values := by
    rw [identify, Response.values_withField, hvalues, if_pos rfl, List.nil_append]

/-- An ordinary response gets the identifier of its request. -/
theorem identified_of_ordinary {response : Response} (h : response.Ordinary)
    (request : Http.Request) (drawn : String) :
    Identified request drawn (identify request drawn response) :=
  identified_identify (h.status_ne (by decide)) (h.values_eq_nil (by decide)) request drawn

/-- Missing or refused credentials do not keep a request from being identified. -/
theorem identified_unauthorized (message : String) (request : Http.Request) (drawn : String) :
    Identified request drawn
      (identify request drawn (Problem.unauthorized message).response) := by
  apply identified_identify
  · rw [Problem.status_response]
    simp [Problem.status]
  · exact (Problem.unauthorized message).values_identifierField

variable {σ : Type} {service : Service} {environment : Environment σ} {ids : Identifiers}
  {request : Http.Request} {s : σ}

/-- On each way out the response is identified, unless the time ran out. -/
theorem Exit.identified_or_late {response : Response}
    (h : Exit service environment ids request s response) :
    Identified request ids.request response ∨
      service.RunsOut environment ids request s ∧ response = .bare 408 := by
  cases h with
  | tooLong => exact .inl (identified_of_ordinary ordinary_tooLong request ids.request)
  | late hlate => exact .inr ⟨hlate, rfl⟩
  | passed _ =>
    left
    rcases service.anonymous_cases request.path request.method with hordinary | hunauthorized
    · exact identified_of_ordinary hordinary request ids.request
    · rw [hunauthorized]
      exact identified_unauthorized _ request ids.request
  | denied _ => exact .inl (identified_unauthorized _ request ids.request)
  | served hordinary => exact .inl (identified_of_ordinary hordinary request ids.request)

/--
Over any collaborators, however they answer and however long they take, a response carries
the identifier of its request, and no other, exactly when the time of the request did not
run out.  When it did, the response has status 408, which no other has, and carries no
identifier at all.
-/
theorem identified_iff_in_time (service : Service) (environment : Environment σ)
    (ids : Identifiers) (request : Http.Request) (s : σ) :
    let response := (service.respond environment ids request s).response
    let identifiers := response.values "x-request-id"
    (identifiers = [(request.value? "x-request-id").getD (Ascii.bytes ids.request)] ↔
        ¬ service.RunsOut environment ids request s) ∧
      (response.status = 408 ↔ service.RunsOut environment ids request s) ∧
      (response.status = 408 → identifiers = []) := by
  intro response identifiers
  have hidentifiers : identifiers =
      (service.respondInside environment ids request s).response.values identifierField :=
    values_finish request.path request.method _ (by decide)
  have hstatus : response.status =
      (service.respondInside environment ids request s).response.status :=
    status_finish request.path request.method _
  rcases (service.exit_respondInside environment ids request s).identified_or_late with
    hidentified | ⟨hlate, hbare⟩
  · have hintime : ¬ service.RunsOut environment ids request s := by
      intro hlate
      apply hidentified.status
      rw [respondInside_of_runsOut hlate]
      rfl
    have hother : response.status ≠ 408 := by
      rw [hstatus]
      exact hidentified.status
    refine ⟨?_, ?_, fun hlate => absurd hlate hother⟩
    · exact iff_of_true (hidentifiers.trans hidentified.values) hintime
    · exact iff_of_false hother hintime
  · have hnone : identifiers = [] := by
      rw [hidentifiers, hbare]
      rfl
    have hlost : response.status = 408 := by
      rw [hstatus, hbare]
      rfl
    refine ⟨?_, iff_of_true hlost hlate, fun _ => hnone⟩
    rw [hnone]
    exact iff_of_false (List.cons_ne_nil _ _).symm (not_not_intro hlate)

/-- A service whose filter waits for longer than a request may take. -/
def patient : Service := ⟨⟨true, 100000⟩, 5000⟩

/-- A store that takes 6000 milliseconds to look a secret up. -/
def stalledBackend : Backend :=
  { Backend.ofUsers [] 0 with faults := [(.findBySecretDigest, ⟨none, false, 6000, 0⟩)] }

/-- A request that brings a secret and an identifier. -/
def identifiedRequest : Http.Request :=
  ⟨"GET", "/health".toList,
    [⟨"authorization", Ascii.bytes "Bearer x"⟩, ⟨"x-request-id", Ascii.bytes "r"⟩], []⟩

/-- The request brings an identifier, and the late response to it carries none. -/
theorem unidentified_identifiedRequest :
    let response :=
      (patient.respond Backend.environment ⟨"d", "s"⟩ identifiedRequest stalledBackend).response
    identifiedRequest.value? "x-request-id" = some (Ascii.bytes "r") ∧
      response.status = 408 ∧ response.values "x-request-id" = [] := by
  decide +kernel

end Service
end BearerTokens
