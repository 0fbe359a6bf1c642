import BearerTokens.Proofs.Service.Handling

/-!
# What requests ask for

A request leads to a call of the token service only on behalf of a caller, and only by
the method and the path of an operation.  It is then about the tokens of this caller.
Every other request is answered at once, and the response reports no change.

Main results:

- Definition {lit}`Service.AtOnce`: the responses to requests that are answered at once.
- Definition {lit}`Service.Handles`: the ways in which a request is handled.
- Theorem {lit}`Service.handles_decided`: there are no others, whatever the filter decided.
-/

namespace BearerTokens

/-! ## The status of a refusal -/

/-- A problem keeps its status as a response. -/
theorem Problem.status_response (problem : Problem) : problem.response.status = problem.status := by
  cases problem <;> rfl

/-- A problem has the status of a failure. -/
theorem Problem.le_status_response (problem : Problem) : 400 ≤ problem.response.status := by
  rw [problem.status_response]
  cases problem <;> simp [status]

/-- A rejection has the status of a failure. -/
theorem Rejection.le_status_response (rejection : Rejection) :
    400 ≤ rejection.response.status := by
  cases rejection <;> simp [response, status, Http.Response.plain]

/-! ## What a request asks for -/

/-- A body that is accepted decodes to what it asks for. -/
theorem CreateRequest.decode_of_ofBody {request : Http.Request} {limit : Nat}
    {wanted : CreateRequest} (h : ofBody request limit = .ok wanted) :
    decode request.body = .ok wanted := by
  unfold ofBody at h
  split at h
  · cases h
  · split at h
    · cases h
    · split at h
      · next accepted hdecode => rw [hdecode, Except.ok.inj h]
      · cases h
      · cases h

/-- The methods that ask for a document and change nothing. -/
def Http.reads (method : String) : Prop :=
  method = "GET" ∨ method = "HEAD"

/-- A method that reads does not delete. -/
theorem Http.reads.ne_delete {method : String} (h : reads method) : method ≠ "DELETE" := by
  rcases h with rfl | rfl <;> decide

/-- Each operation belongs to one route, and its method tells whether it may change anything. -/
theorem Route.operation?_eq_some {route : Route} {method : String} {operation : Operation}
    (h : route.operation? method = some operation) :
    match operation with
    | .health => route = .health ∧ Http.reads method
    | .list => route = .collection ∧ Http.reads method
    | .create => route = .collection ∧ method = "POST"
    | .find segment => route = .item segment ∧ Http.reads method
    | .revoke segment => route = .item segment ∧ method = "DELETE" := by
  cases route with
  | health =>
    simp only [operation?] at h
    split at h
    · next hmethod =>
      cases h
      exact ⟨rfl, hmethod⟩
    · cases h
  | collection =>
    simp only [operation?] at h
    split at h
    · next hmethod =>
      cases h
      exact ⟨rfl, hmethod⟩
    · split at h
      · next hmethod =>
        cases h
        exact ⟨rfl, hmethod⟩
      · cases h
  | item segment =>
    simp only [operation?] at h
    split at h
    · next hmethod =>
      cases h
      exact ⟨rfl, hmethod⟩
    · split at h
      · next hmethod =>
        cases h
        exact ⟨rfl, hmethod⟩
      · cases h

/-- A caller that is needed and accepted is the one that came. -/
theorem Caller.eq_some_of_require {authEnabled : Bool} {caller : Option Caller} {who : Caller}
    (h : require authEnabled caller = .ok who) : caller = some who := by
  unfold require at h
  cases authEnabled with
  | false => cases h
  | true =>
    cases caller with
    | none => cases h
    | some came => rw [Except.ok.inj h]

/-- How a management operation refuses a request of nobody. -/
def Management.refusal (authEnabled : Bool) : Problem :=
  if authEnabled then .unauthorized "Authentication is required"
  else .forbidden "Authentication must be enabled to manage access tokens"

/-- Nobody is refused as a caller. -/
theorem Caller.require_none (authEnabled : Bool) :
    require authEnabled none = .error (Management.refusal authEnabled) := by
  cases authEnabled <;> rfl

/-- A caller that is needed and not accepted is refused like nobody. -/
theorem Caller.eq_refusal_of_require {authEnabled : Bool} {caller : Option Caller}
    {problem : Problem} (h : require authEnabled caller = .error problem) :
    problem = Management.refusal authEnabled := by
  cases authEnabled with
  | false => exact (Except.error.inj h).symm
  | true =>
    cases caller with
    | none => exact (Except.error.inj h).symm
    | some came => cases h

/-! ## Ways to handle a request -/

namespace Service

/-- The responses to requests that are answered at once, each with its reason. -/
inductive AtOnce (request : Http.Request) (now : Int) : Http.Response → Prop where
  | unrouted : AtOnce request now (.bare 404)
  | unallowed : AtOnce request now (.bare 405)
  | healthy : Http.reads request.method → AtOnce request now (.plain 200 "ok")
  | rejected (rejection : Rejection) : AtOnce request now rejection.response
  | denied (reason : Denial) : AtOnce request now (Problem.ofDenial reason).response
  | refused (authEnabled : Bool) : AtOnce request now (Management.refusal authEnabled).response
  | objected {wanted : CreateRequest} {objection : String} :
    CreateRequest.decode request.body = .ok wanted → wanted.objection? = some objection →
    AtOnce request now (Problem.badRequest objection).response
  | endless {wanted : CreateRequest} :
    CreateRequest.decode request.body = .ok wanted → wanted.expiresAt now = none →
    AtOnce request now (Problem.badRequest "expires_in_hours is too large").response

/-- What is answered at once reports no creation and no deletion. -/
theorem AtOnce.status {request : Http.Request} {now : Int} {response : Http.Response}
    (h : AtOnce request now response) :
    400 ≤ response.status ∨ response.status = 200 ∧ request.method ≠ "DELETE" := by
  cases h with
  | unrouted => exact .inl (by decide)
  | unallowed => exact .inl (by decide)
  | healthy hmethod => exact .inr ⟨rfl, hmethod.ne_delete⟩
  | rejected rejection => exact .inl rejection.le_status_response
  | denied reason => exact .inl (Problem.le_status_response _)
  | refused authEnabled => exact .inl (Problem.le_status_response _)
  | objected => exact .inl (Problem.le_status_response _)
  | endless => exact .inl (Problem.le_status_response _)

/-- The ways to handle a request of a caller at a time. -/
inductive Handles (caller : Option Caller) (request : Http.Request) (now : Int) :
    Handling → Prop where
  | respond {response : Http.Response} :
    AtOnce request now response → Handles caller request now (.respond response)
  | list {who : Caller} :
    caller = some who → Route.ofPath? request.path = some .collection →
    Http.reads request.method → Handles caller request now (.serve (.list who.userId))
  | find {who : Caller} {segment : List Char} {name : String} :
    caller = some who → Route.ofPath? request.path = some (.item segment) →
    Http.reads request.method → Management.nameOf segment = .ok name →
    Handles caller request now (.serve (.find who.userId name))
  | create {who : Caller} {wanted : CreateRequest} {expiresAt : Int} :
    caller = some who → Route.ofPath? request.path = some .collection →
    request.method = "POST" → CreateRequest.decode request.body = .ok wanted →
    wanted.expiresAt now = some expiresAt → wanted.objection? = none →
    Handles caller request now
      (.serve (.issue who.userId wanted.name wanted.description expiresAt))
  | revoke {who : Caller} {segment : List Char} {name : String} :
    caller = some who → Route.ofPath? request.path = some (.item segment) →
    request.method = "DELETE" → Management.nameOf segment = .ok name →
    Handles caller request now (.serve (.revoke who.userId name))

variable {caller : Option Caller} {request : Http.Request} {now : Int}

/-- The creation of a token is refused or asks for it. -/
theorem handles_creation {who : Caller} (hcaller : caller = some who)
    (hroute : Route.ofPath? request.path = some .collection) (hmethod : request.method = "POST")
    {wanted : CreateRequest} (hbody : CreateRequest.decode request.body = .ok wanted) :
    Handles caller request now (Operation.creation who wanted now) := by
  unfold Operation.creation
  cases hobjection : wanted.objection? with
  | some objection => exact .respond (.objected hbody hobjection)
  | none =>
    cases hexpires : wanted.expiresAt now with
    | none => exact .respond (.endless hbody hexpires)
    | some expiresAt => exact .create hcaller hroute hmethod hbody hexpires hobjection

/-- An operation of a caller on a route is handled in one of these ways. -/
theorem handles_handlingFor {who : Caller} (hcaller : caller = some who) {route : Route}
    (hroute : Route.ofPath? request.path = some route) {operation : Operation}
    (hoperation : route.operation? request.method = some operation) (bodyLimit : Nat) :
    Handles caller request now (operation.handlingFor who request bodyLimit now) := by
  have hroutes := Route.operation?_eq_some hoperation
  cases operation with
  | health =>
    obtain ⟨rfl, hmethod⟩ := hroutes
    exact .respond (.healthy hmethod)
  | list =>
    obtain ⟨rfl, hmethod⟩ := hroutes
    exact .list hcaller hroute hmethod
  | create =>
    obtain ⟨rfl, hmethod⟩ := hroutes
    simp only [Operation.handlingFor]
    cases hbody : CreateRequest.ofBody request bodyLimit with
    | error rejection => exact .respond (.rejected rejection)
    | ok wanted =>
      exact handles_creation hcaller hroute hmethod (CreateRequest.decode_of_ofBody hbody)
  | find segment =>
    obtain ⟨rfl, hmethod⟩ := hroutes
    simp only [Operation.handlingFor, Operation.naming]
    cases hname : Management.nameOf segment with
    | error rejection => exact .respond (.rejected rejection)
    | ok name => exact .find hcaller hroute hmethod hname
  | revoke segment =>
    obtain ⟨rfl, hmethod⟩ := hroutes
    simp only [Operation.handlingFor, Operation.naming]
    cases hname : Management.nameOf segment with
    | error rejection => exact .respond (.rejected rejection)
    | ok name => exact .revoke hcaller hroute hmethod hname

/-- An operation on a route is handled in one of these ways. -/
theorem handles_handling {route : Route} (hroute : Route.ofPath? request.path = some route)
    {operation : Operation} (hoperation : route.operation? request.method = some operation)
    (authEnabled : Bool) (bodyLimit : Nat) :
    Handles caller request now (operation.handling authEnabled caller request bodyLimit now) := by
  by_cases hhealth : operation = .health
  · subst hhealth
    exact .respond (.healthy (Route.operation?_eq_some hoperation).2)
  · cases hcaller : Caller.require authEnabled caller with
    | error problem =>
      have hrefused : operation.handling authEnabled caller request bodyLimit now =
          .respond problem.response := by
        cases operation <;> simp [Operation.handling, hcaller] at hhealth ⊢
      rw [hrefused, Caller.eq_refusal_of_require hcaller]
      exact .respond (.refused authEnabled)
    | ok who =>
      have hallowed : operation.handling authEnabled caller request bodyLimit now =
          operation.handlingFor who request bodyLimit now := by
        cases operation <;> simp [Operation.handling, hcaller] at hhealth ⊢
      rw [hallowed]
      exact handles_handlingFor (Caller.eq_some_of_require hcaller) hroute hoperation bodyLimit

/-- A request is handled in one of these ways. -/
theorem handles_routing (service : Service) (caller : Option Caller) (request : Http.Request)
    (bodyLimit : Nat) (now : Int) :
    Handles caller request now (service.routing caller request bodyLimit now) := by
  unfold routing
  cases hroute : Route.ofPath? request.path with
  | none => exact .respond .unrouted
  | some route =>
    simp only
    cases hoperation : route.operation? request.method with
    | none => exact .respond .unallowed
    | some operation =>
      exact handles_handling hroute hoperation service.filter.enabled bodyLimit

/-! ## Decisions of the filter -/

/-- The caller whom a decision lets in. -/
def callerOf (session : String) : Outcome → Option Caller
  | .passThrough _ => none
  | .denied _ => none
  | .authenticated bearer => some (.ofBearer bearer session)

/-- Only a bearer is let in. -/
theorem eq_authenticated_of_callerOf {session : String} {outcome : Outcome} {who : Caller}
    (h : callerOf session outcome = some who) :
    ∃ bearer, outcome = .authenticated bearer ∧ who = .ofBearer bearer session := by
  cases outcome with
  | passThrough reason => cases h
  | denied reason => cases h
  | authenticated bearer => exact ⟨bearer, rfl, (Option.some.inj h).symm⟩

/-- Whatever the filter decided, a request is handled in one of these ways. -/
theorem handles_decided (service : Service) (session : String) (outcome : Outcome)
    (request : Http.Request) (bodyLimit : Nat) (now : Int) :
    Handles (callerOf session outcome) request now
      (decided session (fun caller => service.routing caller request bodyLimit now) outcome) := by
  cases outcome with
  | passThrough reason => exact service.handles_routing none request bodyLimit now
  | denied reason => exact .respond (.denied reason)
  | authenticated bearer => exact service.handles_routing _ request bodyLimit now

end Service
end BearerTokens
