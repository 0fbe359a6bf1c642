import BearerTokens.Proofs.Deployment.Clock
import BearerTokens.Proofs.Filter.Decision
import BearerTokens.Proofs.Lifecycle.ServiceCall
import BearerTokens.Service

/-!
# What a request comes to

A request is either answered at once, or leads to one call of the token service,
whose answer the response renders.  Which of them depends on the filter's decision,
the route and the request, and for a creation on the clock.  Over collaborators
without faults it does not depend on the limits of time.

Main results:

- Definition {lit}`Service.handling`: the response, or the call, of a request.
- Theorem {lit}`Service.dispatch_atTime`: a dispatched request is so handled.
- Theorem {lit}`Service.respond_eq`: what becomes of a request without faults.
- Theorem {lit}`Service.filtered_prompt`: what a handler behind the filter is given.
-/

namespace BearerTokens

/-- Two changes of the result in a row are one. -/
theorem Procedure.map_map {α β γ : Type} (p : Procedure α) (f : α → β) (g : β → γ) :
    (p.map f).map g = p.map fun value => g (f value) := by
  induction p with
  | done value => rfl
  | ask call next ih =>
    simp only [map, bind, ask.injEq, heq_eq_eq, true_and] at ih ⊢
    funext answer
    exact ih answer

/-- Changing the result of a procedure changes nothing else. -/
@[simp]
theorem Procedure.eval_map {α β σ : Type} (answer : σ → (c : Call) → c.Answer × σ) (f : α → β)
    (p : Procedure α) (s : σ) :
    (p.map f).eval answer s = (f (p.eval answer s).1, (p.eval answer s).2) := by
  rw [map, eval_bind]
  rfl

/-! ## Responses to calls of the token service -/

namespace ServiceCall

/-- The name of the token that a call is about. -/
def tokenName : ServiceCall → String
  | .issue _ name _ _ => name
  | .revoke _ name => name
  | .find _ name => name
  | .list _ => ""
  | .resolve _ => ""

/-- The document of a token that a call has issued. -/
def document : ServiceCall → Secret → Json
  | .issue _ name description expiresAt => issuedJson ⟨name, description, 0⟩ expiresAt
  | _ => fun _ => .null

/-- The response that renders the answer to a call. -/
def response (call : ServiceCall) : ServiceAnswer → Http.Response
  | .issued result => Management.answer 201 call.document result
  | .revoked result => Management.answer 200 (fun _ => revokedJson call.tokenName) result
  | .found result => Management.foundResponse call.tokenName result
  | .listed result => Management.answer 200 (fun rows => .array (rows.map Token.json)) result

/-- A call of the token service reads no clock. -/
theorem procedure_atTime (call : ServiceCall) (now : Int) :
    call.procedure.atTime now = call.procedure := by
  cases call with
  | issue owner name description expiresAt =>
    cases hrefusal : Lifecycle.refusal? owner name description with
    | some refusal =>
      rw [procedure_issue_of_refusal hrefusal]
      rfl
    | none =>
      rw [procedure_issue hrefusal]
      simp only [Procedure.atTime]
      congr 1
      funext found
      cases found with
      | error cause => rfl
      | ok found =>
        cases found with
        | some row => rfl
        | none =>
          rw [issueNamed, issueFree_eq]
          simp only [Procedure.atTime]
          congr 1
          funext drawn
          cases drawn with
          | error reason => rfl
          | ok block => rfl
  | revoke owner name =>
    rw [procedure_revoke]
    simp only [Procedure.atTime]
    congr 1
    funext found
    cases found with
    | error cause => rfl
    | ok found =>
      cases found with
      | none => rfl
      | some row => rfl
  | find owner name => rfl
  | list owner => rfl
  | resolve secret => rfl

end ServiceCall

/-- A response at once, or a call of the token service. -/
inductive Handling where
  | respond (response : Http.Response)
  | serve (call : ServiceCall)

/-- What a handling does. -/
def Handling.procedure : Handling → Procedure Http.Response
  | .respond response => .done response
  | .serve call => call.procedure.map call.response

/-- A handling reads no clock. -/
theorem Handling.procedure_atTime (handling : Handling) (now : Int) :
    handling.procedure.atTime now = handling.procedure := by
  cases handling with
  | respond response => rfl
  | serve call => rw [procedure, Procedure.atTime_map, call.procedure_atTime]

/-! ## Operations -/

namespace Operation

/-- How the creation of a token is handled at a time. -/
def creation (caller : Caller) (request : CreateRequest) (now : Int) : Handling :=
  match request.objection? with
  | some objection => .respond (Problem.badRequest objection).response
  | none =>
    match request.expiresAt now with
    | none => .respond (Problem.badRequest "expires_in_hours is too large").response
    | some expiresAt => .serve (.issue caller.userId request.name request.description expiresAt)

/-- How a call about the token of a segment is handled. -/
def naming (segment : List Char) (call : String → ServiceCall) : Handling :=
  match Management.nameOf segment with
  | .error rejection => .respond rejection.response
  | .ok name => .serve (call name)

/-- How an operation of a caller is handled at a time. -/
def handlingFor (operation : Operation) (caller : Caller) (request : Http.Request)
    (bodyLimit : Nat) (now : Int) : Handling :=
  match operation with
  | .health => .respond (.plain 200 "ok")
  | .list => .serve (.list caller.userId)
  | .create =>
    match CreateRequest.ofBody request bodyLimit with
    | .error rejection => .respond rejection.response
    | .ok wanted => creation caller wanted now
  | .find segment => naming segment (.find caller.userId)
  | .revoke segment => naming segment (.revoke caller.userId)

/-- How an operation is handled at a time. -/
def handling (operation : Operation) (authEnabled : Bool) (caller : Option Caller)
    (request : Http.Request) (bodyLimit : Nat) (now : Int) : Handling :=
  match operation with
  | .health => .respond (.plain 200 "ok")
  | operation =>
    match Caller.require authEnabled caller with
    | .error problem => .respond problem.response
    | .ok caller => operation.handlingFor caller request bodyLimit now

/-- The creation of a token reads the clock first and then is handled as at that time. -/
theorem create_atTime (caller : Caller) (request : CreateRequest) (now : Int) :
    (Management.create caller request).atTime now = (creation caller request now).procedure := by
  unfold Management.create creation
  cases request.objection? with
  | some objection => rfl
  | none =>
    simp only [Procedure.atTime]
    cases request.expiresAt now with
    | none => rfl
    | some expiresAt =>
      rw [← Handling.procedure_atTime _ now]
      simp only [Handling.procedure, ServiceCall.procedure, Procedure.map_map]
      rfl

/-- An operation of a caller is handled as at the time that it reads. -/
theorem handleFor_atTime (operation : Operation) (caller : Caller) (request : Http.Request)
    (bodyLimit : Nat) (now : Int) :
    (operation.handleFor caller request bodyLimit).atTime now =
      (operation.handlingFor caller request bodyLimit now).procedure := by
  cases operation with
  | health => rfl
  | list => rfl
  | create =>
    simp only [handleFor, handlingFor]
    cases CreateRequest.ofBody request bodyLimit with
    | error rejection => rfl
    | ok wanted => exact create_atTime caller wanted now
  | find segment =>
    simp only [handleFor, handlingFor, Management.withName, naming]
    cases Management.nameOf segment with
    | error rejection => rfl
    | ok name => rfl
  | revoke segment =>
    simp only [handleFor, handlingFor, Management.withName, naming]
    cases Management.nameOf segment with
    | error rejection => rfl
    | ok name =>
      rw [← Handling.procedure_atTime _ now]
      simp only [Management.revoke, Handling.procedure, ServiceCall.procedure, Procedure.map_map]
      rfl

/-- An operation is handled as at the time that it reads. -/
theorem handle_atTime (operation : Operation) (authEnabled : Bool) (caller : Option Caller)
    (request : Http.Request) (bodyLimit : Nat) (now : Int) :
    (operation.handle authEnabled caller request bodyLimit).atTime now =
      (operation.handling authEnabled caller request bodyLimit now).procedure := by
  have hneeded : ∀ op : Operation,
      (match Caller.require authEnabled caller with
        | .error problem => Procedure.done problem.response
        | .ok caller => op.handleFor caller request bodyLimit).atTime now =
      (match Caller.require authEnabled caller with
        | .error problem => Handling.respond problem.response
        | .ok caller => op.handlingFor caller request bodyLimit now).procedure := by
    intro op
    cases Caller.require authEnabled caller with
    | error problem => rfl
    | ok caller => exact op.handleFor_atTime caller request bodyLimit now
  cases operation with
  | health => rfl
  | list => exact hneeded .list
  | create => exact hneeded .create
  | find segment => exact hneeded (.find segment)
  | revoke segment => exact hneeded (.revoke segment)

end Operation

/-! ## Requests -/

namespace Service

/-- How a request is handled for a caller at a time. -/
def routing (service : Service) (caller : Option Caller) (request : Http.Request)
    (bodyLimit : Nat) (now : Int) : Handling :=
  match Route.ofPath? request.path with
  | none => .respond (.bare 404)
  | some route =>
    match route.operation? request.method with
    | none => .respond (.bare 405)
    | some operation => operation.handling service.filter.enabled caller request bodyLimit now

/-- How a request is handled as the filter decided. -/
def decided (session : String) (handler : Option Caller → Handling) : Outcome → Handling
  | .passThrough _ => handler none
  | .denied reason => .respond (Problem.ofDenial reason).response
  | .authenticated bearer => handler (some (.ofBearer bearer session))

/-- How a request is handled over collaborators without faults. -/
def handling (service : Service) (backend : Backend) (session : String)
    (request : Http.Request) : Handling :=
  let declared := declaredLength? request
  if declared.any (maxBodyLength < ·) then .respond tooLong
  else
    let bodyLimit := min maxBodyLength (declared.getD maxBodyLength)
    decided session (fun caller => service.routing caller request bodyLimit backend.clock)
      (service.filter.decision backend request.authorization)

/-- A request is dispatched as at the time that it reads. -/
theorem dispatch_atTime (service : Service) (caller : Option Caller) (request : Http.Request)
    (bodyLimit : Nat) (now : Int) :
    (service.dispatch caller request bodyLimit).atTime now =
      (service.routing caller request bodyLimit now).procedure := by
  unfold dispatch routing
  cases Route.ofPath? request.path with
  | none => rfl
  | some route =>
    simp only
    cases route.operation? request.method with
    | none => rfl
    | some operation =>
      exact operation.handle_atTime service.filter.enabled caller request bodyLimit now

/-- What stands behind the filter is handled as the filter decided. -/
theorem afterFilter_atTime (service : Service) (session : String) (request : Http.Request)
    (bodyLimit : Nat) (now : Int) (outcome : Outcome) :
    (afterFilter session none (fun caller => service.dispatch caller request bodyLimit)
        outcome).atTime now =
      (decided session (fun caller => service.routing caller request bodyLimit now)
        outcome).procedure := by
  cases outcome with
  | passThrough reason => exact service.dispatch_atTime none request bodyLimit now
  | denied reason => rfl
  | authenticated bearer => exact service.dispatch_atTime _ request bodyLimit now

variable {backend : Backend}

/-- Without faults the filter puts a handler to work at once, as it decided. -/
theorem filtered_prompt (h : backend.FaultFree) (service : Service) (session : String)
    (brought : Option Caller) (request : Http.Request)
    (handler : Option Caller → Procedure Http.Response) :
    let decision := service.filter.decision backend request.authorization
    let result := (afterFilter session brought handler decision).eval Backend.answer backend
    (service.filtered Backend.environment session brought request handler).Prompt backend
      result.1 result.2 :=
  (Filter.authenticate_prompt h service.filter request.authorization).bind
    (Procedure.run_prompt _ h)

/-- What becomes of a request without faults. -/
theorem respond_eq (h : backend.FaultFree) (service : Service) (ids : Identifiers)
    (request : Http.Request) :
    let exchange := service.respond Backend.environment ids request backend
    let result :=
      (service.handling backend ids.session request).procedure.eval Backend.answer backend
    exchange.response =
        finish request.path request.method (identify request ids.request result.1) ∧
      exchange.state = result.2 := by
  simp only [respond, respondInside, handling]
  by_cases hlong : (declaredLength? request).any (maxBodyLength < ·)
  · simp only [hlong, if_true, Handling.procedure, Procedure.eval_done, and_self]
  · simp only [hlong, Bool.false_eq_true, if_false]
    generalize min maxBodyLength ((declaredLength? request).getD maxBodyLength) = bodyLimit
    have hfiltered := filtered_prompt h service ids.session none request
      fun caller => service.dispatch caller request bodyLimit
    have htimed := hfiltered.within service.requestTimeout
    rw [← Procedure.eval_atTime, afterFilter_atTime] at htimed
    have hresult : (service.timed Backend.environment ids request bodyLimit none backend).result =
        _ := htimed.result none
    have hstate : (service.timed Backend.environment ids request bodyLimit none backend).state =
        _ := htimed.state none
    rw [hresult, hstate]
    exact ⟨rfl, rfl⟩

end Service
end BearerTokens
