import BearerTokens.Proofs.Service.Answers
import BearerTokens.Proofs.Service.Unauthenticated

/-!
# Ways out of the service

Whatever the collaborators answer and however long they take, a response leaves the service
in one of five ways: a body that is declared too long is refused, the limit of time runs
out, the filter lets the request pass as one of nobody, denies it, or lets a caller in, who
is then answered by a handler.  A handler answers a caller with an ordinary response, which
neither asks for credentials nor brings an identifier of its own.

Main results:

- Definition {lit}`Http.Response.Ordinary`: what a handler answers to a caller.
- Theorem {lit}`Service.dispatch_yields`: it answers nothing else.
- Definition {lit}`Service.Exit`: the ways out.
- Theorem {lit}`Service.exit_respond`: there are no others.
-/

namespace BearerTokens

/-! ## Ordinary responses -/

namespace Http.Response

/-- The statuses of the responses to those who need no credentials, or brought them in time. -/
def ordinaryStatuses : List Nat :=
  [200, 201, 400, 403, 404, 405, 409, 413, 415, 422, 500]

/-- A response with one of these statuses that says no more of itself than its content type. -/
structure Ordinary (response : Response) : Prop where
  status : response.status ∈ ordinaryStatuses
  fields : ∀ field ∈ response.fields, field.name = "content-type"

/-- A bare response has no fields. -/
theorem ordinary_bare {status : Nat} (h : status ∈ ordinaryStatuses) : (bare status).Ordinary where
  status := h
  fields := by
    intro field hfield
    cases hfield

/-- A plain text says its content type only. -/
theorem ordinary_plain {status : Nat} (h : status ∈ ordinaryStatuses) (body : String) :
    (plain status body).Ordinary where
  status := h
  fields := by
    intro field hfield
    rw [List.mem_singleton.mp hfield]
    rfl

/-- A document says its content type only. -/
theorem ordinary_json {status : Nat} (h : status ∈ ordinaryStatuses) (body : Json) :
    (json status body).Ordinary where
  status := h
  fields := by
    intro field hfield
    rw [List.mem_singleton.mp hfield]
    rfl

/-- An ordinary response has no values of any other field. -/
theorem Ordinary.values_eq_nil {response : Response} (h : response.Ordinary) {name : String}
    (hname : "content-type" ≠ name) : response.values name = [] := by
  unfold Response.values Http.values
  rw [List.map_eq_nil_iff, List.filter_eq_nil_iff]
  intro field hfield
  rw [h.fields field hfield]
  simpa using hname

/-- An ordinary response has one of the ordinary statuses and no other. -/
theorem Ordinary.status_ne {response : Response} (h : response.Ordinary) {status : Nat}
    (hstatus : status ∉ ordinaryStatuses) : response.status ≠ status := by
  intro heq
  rw [← heq] at hstatus
  exact hstatus h.status

end Http.Response

open Http (Response)

/-- The result of a run satisfies what the procedure yields. -/
theorem Procedure.Yields.of_result {α σ : Type} {P : α → Prop} {p : Procedure α} (h : p.Yields P)
    {environment : Environment σ} {allowance : Option Nat} {s : σ} {value : α}
    (hresult : (p.run environment allowance s).result = some value) : P value := by
  have hsatisfies := h.ensures environment s allowance
  unfold Run.Satisfies at hsatisfies
  rw [hresult] at hsatisfies
  exact hsatisfies

/-- A problem other than missing credentials is told by an ordinary response. -/
theorem Problem.ordinary_response {problem : Problem} (h : problem.status ≠ 401) :
    problem.response.Ordinary := by
  cases problem with
  | unauthorized message => exact absurd rfl h
  | _ => exact Response.ordinary_json (by simp [status, Response.ordinaryStatuses]) _

/-- A failed operation on tokens is no matter of credentials. -/
theorem Problem.ordinary_ofTokenError (cause : TokenError) :
    (ofTokenError cause).response.Ordinary := by
  apply Problem.ordinary_response
  cases cause <;> simp [ofTokenError, status]

/-- A rejection is an ordinary response. -/
theorem Rejection.ordinary_response (rejection : Rejection) : rejection.response.Ordinary := by
  apply Response.ordinary_plain
  cases rejection <;> simp [status, Response.ordinaryStatuses]

/-! ## Handlers -/

namespace Management

/-- A result and a failure alike are answered ordinarily. -/
theorem ordinary_answer {α : Type} {status : Nat} (h : status ∈ Response.ordinaryStatuses)
    (document : α → Json) (result : Except TokenError α) :
    (answer status document result).Ordinary := by
  cases result with
  | ok value => exact Response.ordinary_json h _
  | error cause => exact Problem.ordinary_ofTokenError cause

/-- A look-up by name is answered ordinarily. -/
theorem ordinary_foundResponse (name : String) (result : Except TokenError (Option Token)) :
    (foundResponse name result).Ordinary := by
  match result with
  | .ok (some row) => exact Response.ordinary_json (by decide) _
  | .ok none => exact Problem.ordinary_ofTokenError (.notFound name)
  | .error cause => exact Problem.ordinary_ofTokenError cause

/-- A procedure whose results are all answered ordinarily. -/
theorem yields_map {α : Type} {respond : α → Response} (h : ∀ value, (respond value).Ordinary)
    (p : Procedure α) : (p.map respond).Yields Response.Ordinary := by
  apply Procedure.Yields.map
  exact Procedure.yields_of_forall h p

/-- A creation is answered ordinarily. -/
theorem create_yields (caller : Caller) (request : CreateRequest) :
    (create caller request).Yields Response.Ordinary := by
  unfold create
  cases request.objection? with
  | some objection => exact Problem.ordinary_response (by simp [Problem.status])
  | none =>
    intro now
    simp only
    cases request.expiresAt now with
    | none => exact Problem.ordinary_response (by simp [Problem.status])
    | some expiresAt => exact yields_map (ordinary_answer (by decide) _) _

/-- A name that cannot be read is answered ordinarily, if all others are. -/
theorem withName_yields {next : String → Procedure Response}
    (h : ∀ name, (next name).Yields Response.Ordinary) (segment : List Char) :
    (withName segment next).Yields Response.Ordinary := by
  unfold withName
  cases nameOf segment with
  | error rejection => exact rejection.ordinary_response
  | ok name => exact h name

end Management

namespace Operation

/-- Every operation of a caller is answered ordinarily. -/
theorem handleFor_yields (operation : Operation) (caller : Caller) (request : Http.Request)
    (bodyLimit : Nat) :
    (operation.handleFor caller request bodyLimit).Yields Response.Ordinary := by
  cases operation with
  | health => exact Response.ordinary_plain (by decide) _
  | list => exact Management.yields_map (Management.ordinary_answer (by decide) _) _
  | create =>
    simp only [handleFor]
    cases CreateRequest.ofBody request bodyLimit with
    | error rejection => exact rejection.ordinary_response
    | ok wanted => exact Management.create_yields caller wanted
  | find segment =>
    apply Management.withName_yields
    intro name
    exact Management.yields_map (Management.ordinary_foundResponse name) _
  | revoke segment =>
    apply Management.withName_yields
    intro name
    exact Management.yields_map (Management.ordinary_answer (by decide) _) _

/-- With the filter on, a caller is served by whatever operation is asked for. -/
theorem handle_some (operation : Operation) (caller : Caller) (request : Http.Request)
    (bodyLimit : Nat) :
    operation.handle true (some caller) request bodyLimit =
      operation.handleFor caller request bodyLimit := by
  cases operation <;> rfl

/-- Every operation is answered ordinarily when a caller is there. -/
theorem handle_yields (operation : Operation) (authEnabled : Bool) (caller : Caller)
    (request : Http.Request) (bodyLimit : Nat) :
    (operation.handle authEnabled (some caller) request bodyLimit).Yields Response.Ordinary := by
  cases authEnabled with
  | true =>
    rw [handle_some]
    exact operation.handleFor_yields caller request bodyLimit
  | false =>
    cases operation with
    | health => exact Response.ordinary_plain (by decide) _
    | _ => exact Problem.ordinary_response (by simp [Problem.status])

end Operation

namespace Service

/-- A request of a caller is answered ordinarily, wherever it goes. -/
theorem dispatch_yields (service : Service) (caller : Caller) (request : Http.Request)
    (bodyLimit : Nat) :
    (service.dispatch (some caller) request bodyLimit).Yields Response.Ordinary := by
  unfold dispatch
  cases Route.ofPath? request.path with
  | none => exact Response.ordinary_bare (by decide)
  | some route =>
    simp only
    cases route.operation? request.method with
    | none => exact Response.ordinary_bare (by decide)
    | some operation =>
      exact operation.handle_yields service.filter.enabled caller request bodyLimit

/-- A body that is declared too long is refused ordinarily. -/
theorem ordinary_tooLong : tooLong.Ordinary :=
  Response.ordinary_plain (by decide) _

/-- A request of nobody is answered ordinarily, or is told that credentials are needed. -/
theorem anonymous_cases (service : Service) (path : Http.Path) (method : String) :
    (service.anonymous path method).Ordinary ∨
      service.anonymous path method =
        (Problem.unauthorized "Authentication is required").response := by
  have hrefusal : (Management.refusal service.filter.enabled).response.Ordinary ∨
      (Management.refusal service.filter.enabled).response =
        (Problem.unauthorized "Authentication is required").response := by
    cases service.filter.enabled with
    | false => exact .inl (Problem.ordinary_response (by simp [Management.refusal, Problem.status]))
    | true => exact .inr rfl
  unfold anonymous
  cases Route.ofPath? path with
  | none => exact .inl (Response.ordinary_bare (by decide))
  | some route =>
    simp only
    cases route.operation? method with
    | none => exact .inl (Response.ordinary_bare (by decide))
    | some operation =>
      cases operation with
      | health => exact .inl (Response.ordinary_plain (by decide) _)
      | list => exact hrefusal
      | create => exact hrefusal
      | find segment => exact hrefusal
      | revoke segment => exact hrefusal

/-! ## Exits -/

section

variable {σ : Type}

/-- Whether the limit of time of a request runs out before it is answered. -/
def RunsOut (service : Service) (environment : Environment σ) (ids : Identifiers)
    (request : Http.Request) (s : σ) : Prop :=
  (declaredLength? request).any (maxBodyLength < ·) = false ∧
    (service.timed environment ids request
      (min maxBodyLength ((declaredLength? request).getD maxBodyLength)) none s).result.join = none

/-- The decision of the filter about a request, unless the time of the request runs out. -/
def decided? (service : Service) (environment : Environment σ) (request : Http.Request) (s : σ) :
    Option Outcome :=
  (service.filter.authenticate environment request.authorization (some service.requestTimeout)
    s).result

/-- The ways in which a response may leave the service, before the outermost layer. -/
inductive Exit (service : Service) (environment : Environment σ) (ids : Identifiers)
    (request : Http.Request) (s : σ) : Response → Prop where
  | tooLong : Exit service environment ids request s (identify request ids.request tooLong)
  | late : service.RunsOut environment ids request s →
    Exit service environment ids request s (.bare 408)
  | passed {reason : PassThrough} :
    service.decided? environment request s = some (.passThrough reason) →
    Exit service environment ids request s
      (identify request ids.request (service.anonymous request.path request.method))
  | denied {reason : Denial} :
    service.decided? environment request s = some (.denied reason) →
    Exit service environment ids request s
      (identify request ids.request (Problem.ofDenial reason).response)
  | served {response : Response} : response.Ordinary →
    Exit service environment ids request s (identify request ids.request response)

variable {service : Service} {environment : Environment σ} {ids : Identifiers}
  {request : Http.Request} {s : σ}

/-- A request whose time runs out is told so, by a bare answer. -/
theorem respondInside_of_runsOut (h : service.RunsOut environment ids request s) :
    (service.respondInside environment ids request s).response = .bare 408 := by
  simp only [respondInside, h.1, Bool.false_eq_true, if_false, h.2]

/-- What is answered in time is what stands behind the filter answers under the limit. -/
theorem join_timed (service : Service) (environment : Environment σ) (ids : Identifiers)
    (request : Http.Request) (bodyLimit : Nat) (s : σ) :
    (service.timed environment ids request bodyLimit none s).result.join =
      (service.filtered environment ids.session none request
        (fun caller => service.dispatch caller request bodyLimit) (some service.requestTimeout)
        s).result := by
  simp only [timed, Activity.within, exceeds, Bool.false_eq_true, if_false]
  split
  · next hresult => rw [hresult, Option.join_some]
  · next value hresult => rw [hresult, Option.join_some]

/-- A request that is let in and answered in time gets an ordinary answer. -/
theorem ordinary_of_filtered {bearer : Authenticated}
    (hdecided : service.decided? environment request s = some (.authenticated bearer))
    {session : String} {bodyLimit : Nat} {response : Response}
    (h : (service.filtered environment session none request
      (fun caller => service.dispatch caller request bodyLimit) (some service.requestTimeout)
      s).result = some response) : response.Ordinary := by
  unfold decided? at hdecided
  simp only [filtered, Activity.bind_of_some hdecided, afterFilter] at h
  have hyields := service.dispatch_yields (.ofBearer bearer session) request bodyLimit
  exact hyields.of_result h

/-- A response in time leaves the service as the filter decided. -/
theorem exit_of_filtered {bodyLimit : Nat} {response : Response}
    (h : (service.filtered environment ids.session none request
      (fun caller => service.dispatch caller request bodyLimit) (some service.requestTimeout)
      s).result = some response) :
    Exit service environment ids request s (identify request ids.request response) := by
  cases hdecided : service.decided? environment request s with
  | none =>
    rw [filtered, Activity.bind_of_none hdecided] at h
    cases h
  | some outcome =>
    cases outcome with
    | authenticated bearer => exact .served (ordinary_of_filtered hdecided h)
    | passThrough reason =>
      simp only [filtered, Activity.bind_of_some hdecided, afterFilter, dispatch_none,
        Procedure.run, Activity.done] at h
      rw [← Option.some.inj h]
      exact .passed hdecided
    | denied reason =>
      simp only [filtered, Activity.bind_of_some hdecided, afterFilter, Procedure.run,
        Activity.done] at h
      rw [← Option.some.inj h]
      exact .denied hdecided

/-- There are no other ways out. -/
theorem exit_respondInside (service : Service) (environment : Environment σ) (ids : Identifiers)
    (request : Http.Request) (s : σ) :
    Exit service environment ids request s
      (service.respondInside environment ids request s).response := by
  cases hlong : (declaredLength? request).any (maxBodyLength < ·) with
  | true =>
    simp only [respondInside, hlong, if_true]
    exact .tooLong
  | false =>
    have hjoin := service.join_timed environment ids request
      (min maxBodyLength ((declaredLength? request).getD maxBodyLength)) s
    cases hresult : (service.timed environment ids request
        (min maxBodyLength ((declaredLength? request).getD maxBodyLength)) none s).result.join with
    | none =>
      have hlate : service.RunsOut environment ids request s := ⟨hlong, hresult⟩
      rw [respondInside_of_runsOut hlate]
      exact .late hlate
    | some response =>
      simp only [respondInside, hlong, Bool.false_eq_true, if_false, hresult]
      exact exit_of_filtered (hjoin.symm.trans hresult)

end

end Service
end BearerTokens
