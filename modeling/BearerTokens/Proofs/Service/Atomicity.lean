import BearerTokens.Proofs.Filter.Faults
import BearerTokens.Proofs.Service.Attainable
import BearerTokens.Proofs.Service.Authentication
import BearerTokens.Proofs.Service.Routing

/-!
# Requests that are cut off

A request may be cut off by the limit of the filter or by that of the whole request, at
any call of the store or the directory, and any of these calls may fail.  Whatever
happens, the store is left as it was or with the one change that was asked for, made in
full.  The status of the response tells which, unless it tells that time has run out.

Main results:

- Definitions {lit}`Service.CreatesRow` and {lit}`Service.RevokesRow`: the one change that
  a request asks for.
- Theorem {lit}`Service.respond_concluded`: what a request comes to, cut off or not.
- Theorem {lit}`Service.request_atomic`: a request makes its one change or none.
-/

namespace BearerTokens

/-! ## What a handling comes to -/

namespace ServiceCall

/-- Faults to come make no difference to a change. -/
theorem Transition.of_replanned {before : Backend} {plan : FaultPlan} {after : TokenStore}
    {call : ServiceCall} {answer : ServiceAnswer}
    (h : Transition { before with faults := plan } after call answer) :
    Transition before after call answer := by
  cases h with
  | unchanged hfits hanswer => exact .unchanged hfits hanswer
  | issued block hrefusal hfree => exact .issued block hrefusal hfree
  | revoked row hfound => exact .revoked row hfound

end ServiceCall

namespace Handling

/-- The response of a handling together with what it made of the store. -/
def Result (before : Backend) (response : Http.Response) (after : TokenStore) : Handling → Prop
  | .respond said => response = said ∧ after = before.store
  | .serve call =>
    ∃ answer, response = call.response answer ∧
      ServiceCall.Transition before after call answer

/-- With any faults, a handling is cut off or ends with one of its results. -/
theorem ensures_result {backend : Backend} (hstore : backend.store.Reachable)
    (handling : Handling) (faults : FaultPlan) :
    (handling.procedure.run Backend.environment).Ensures { backend with faults := faults }
      (fun after => ∃ response, handling.Result backend response after.store)
      fun response after => handling.Result backend response after.store := by
  cases handling with
  | respond response => exact .done ⟨rfl, rfl⟩
  | serve call =>
    apply Procedure.ensures_map
    refine (ServiceCall.ensures_transition { backend with faults := faults } hstore
      call).imp ?_ ?_
    · rintro after ⟨answer, htransition⟩
      exact ⟨_, answer, rfl, htransition.of_replanned⟩
    · intro answer after htransition
      exact ⟨answer, rfl, htransition.of_replanned⟩

end Handling

namespace Service

variable {service : Service} {backend : Backend}

/-! ## What a request comes to -/

/--
How a request may be handled behind the limits on its body: as the filter decided, for an
authentic user if it let anybody in.
-/
def Decides (service : Service) (backend : Backend) (session : String) (request : Http.Request)
    (bodyLimit : Nat) (P : Handling → Prop) : Prop :=
  ∃ outcome,
    (∀ bearer, outcome = .authenticated bearer →
      ∃ row, Filter.Authentic backend request.authorization row bearer.user) ∧
    P (decided session (fun caller => service.routing caller request bodyLimit backend.clock)
      outcome)

section

variable {cut : Handling → TokenStore → Prop}
  {result : Handling → Http.Response → TokenStore → Prop}

/-- What every handling comes to under any limits and with any faults, a request comes to. -/
theorem ensures_answered (hstore : backend.store.Reachable) (service : Service)
    (ids : Identifiers) (request : Http.Request) (bodyLimit : Nat)
    (hdenied : ∀ response, cut (.respond response) backend.store)
    (hhandling : ∀ (handling : Handling) (faults : FaultPlan),
      (handling.procedure.run Backend.environment).Ensures { backend with faults := faults }
        (fun after => cut handling after.store)
        fun response after => result handling response after.store) :
    (service.timed Backend.environment ids request bodyLimit).Ensures backend
      (fun after => service.Decides backend ids.session request bodyLimit (cut · after.store))
      fun said after => match said with
        | none => service.Decides backend ids.session request bodyLimit (cut · after.store)
        | some response =>
          service.Decides backend ids.session request bodyLimit
            (result · response after.store) := by
  have hfiltered : (service.filtered Backend.environment ids.session none request fun caller =>
      service.dispatch caller request bodyLimit).Ensures backend
      (fun after => service.Decides backend ids.session request bodyLimit (cut · after.store))
      fun response after =>
        service.Decides backend ids.session request bodyLimit (result · response after.store) := by
    have hauthentic := Filter.ensures_authentic hstore service.filter request.authorization
    refine Activity.Ensures.bind (hauthentic.imp ?_ fun _ _ h => h) ?_
    · rintro after ⟨plan, rfl⟩
      exact ⟨.denied .timedOut, by simp, hdenied _⟩
    · rintro outcome after ⟨⟨plan, rfl⟩, hpassed⟩
      apply Procedure.ensures_of_atTime
      rw [afterFilter_atTime]
      refine (hhandling _ plan).imp ?_ ?_
      · intro after hcut
        exact ⟨outcome, hpassed, hcut⟩
      · intro response after hresult
        exact ⟨outcome, hpassed, hresult⟩
  exact hfiltered.within (fun _ h => h) (fun _ _ h => h) service.requestTimeout

/--
What may have become of a whole request: its body was declared too long, or it ran out of
time, or it was given the response that it came to.
-/
inductive Concluded (service : Service) (backend : Backend) (ids : Identifiers)
    (request : Http.Request) (cut : Handling → TokenStore → Prop)
    (result : Handling → Http.Response → TokenStore → Prop) :
    Http.Response → TokenStore → Prop where
  | tooLong :
    Concluded service backend ids request cut result
      (finish request.path request.method (identify request ids.request tooLong)) backend.store
  | late {bodyLimit : Nat} {after : TokenStore} :
    service.Decides backend ids.session request bodyLimit (cut · after) →
    Concluded service backend ids request cut result
      (finish request.path request.method (.bare 408)) after
  | answered {bodyLimit : Nat} {response : Http.Response} {after : TokenStore} :
    service.Decides backend ids.session request bodyLimit (result · response after) →
    Concluded service backend ids request cut result
      (finish request.path request.method (identify request ids.request response)) after

/-- What every handling comes to under any limits and with any faults, a whole request does. -/
theorem respond_concluded (hstore : backend.store.Reachable) (service : Service)
    (ids : Identifiers) (request : Http.Request)
    (hdenied : ∀ response, cut (.respond response) backend.store)
    (hhandling : ∀ (handling : Handling) (faults : FaultPlan),
      (handling.procedure.run Backend.environment).Ensures { backend with faults := faults }
        (fun after => cut handling after.store)
        fun response after => result handling response after.store) :
    let exchange := service.respond Backend.environment ids request backend
    Concluded service backend ids request cut result exchange.response exchange.state.store := by
  simp only [respond, respondInside]
  by_cases hlong : (declaredLength? request).any (maxBodyLength < ·)
  · simp only [hlong, if_true]
    exact .tooLong
  · simp only [hlong, Bool.false_eq_true, if_false]
    generalize min maxBodyLength ((declaredLength? request).getD maxBodyLength) = bodyLimit
    have hrun := ensures_answered hstore service ids request bodyLimit hdenied hhandling none
    unfold Run.Satisfies at hrun
    cases hresult : (service.timed Backend.environment ids request bodyLimit none
        backend).result with
    | none =>
      simp only [hresult] at hrun
      exact .late hrun
    | some said =>
      simp only [hresult] at hrun
      cases said with
      | none => exact .late hrun
      | some response => exact .answered hrun

end

/-! ## The change that a request asks for -/

/-- A request is that of an owner, whose token it presents. -/
def ActsFor (backend : Backend) (request : Http.Request) (owner : Int) : Prop :=
  ∃ presented user, Filter.Authentic backend request.authorization presented user ∧
    presented.owner = owner ∧ user.id = owner

/-- The one change that a request to create a token asks for, made in full. -/
structure CreatesRow (backend : Backend) (request : Http.Request) (after : TokenStore)
    (row : Token) : Prop where
  method : request.method = "POST"
  route : Route.ofPath? request.path = some .collection
  caller : ActsFor backend request row.owner
  wanted : ∃ wanted, CreateRequest.decode request.body = .ok wanted ∧
    row.name = wanted.name ∧ row.description = wanted.description ∧
    wanted.expiresAt backend.clock = some row.expiresAt
  createdAt : row.createdAt = backend.creationTime
  inserted : backend.store.Inserted after row

/-- The one change that a request to revoke a token asks for, made in full. -/
structure RevokesRow (backend : Backend) (request : Http.Request) (after : TokenStore)
    (row : Token) : Prop where
  method : request.method = "DELETE"
  route : ∃ segment, Route.ofPath? request.path = some (.item segment) ∧
    Management.nameOf segment = .ok row.name
  caller : ActsFor backend request row.owner
  removed : backend.store.Removed after row

/-- What a response tells about the store that a request leaves. -/
inductive Reported (backend : Backend) (request : Http.Request) (response : Http.Response)
    (after : TokenStore) : Prop where
  | unchanged : after = backend.store →
    400 ≤ response.status ∨ response.status = 200 ∧ request.method ≠ "DELETE" →
    Reported backend request response after
  | created (row : Token) : CreatesRow backend request after row → response.status = 201 →
    Reported backend request response after
  | revoked (row : Token) : RevokesRow backend request after row → response.status = 200 →
    Reported backend request response after

section

variable {request : Http.Request} {response : Http.Response} {after : TokenStore}

/-- Reading calls leave the store alone and report no change. -/
theorem reported_of_read {call : ServiceCall} {answer : ServiceAnswer}
    (hanswer : (∃ result, answer = .found result) ∨ ∃ result, answer = .listed result)
    (hmethod : request.method ≠ "DELETE") :
    Reported backend request (call.response answer) backend.store := by
  refine .unchanged rfl ?_
  obtain ⟨result, rfl⟩ | ⟨result, rfl⟩ := hanswer
  · match result with
    | .ok (some row) => exact .inr ⟨rfl, hmethod⟩
    | .ok none => exact .inl (Problem.le_status_response _)
    | .error cause => exact .inl (Problem.le_status_response _)
  · cases result with
    | ok rows => exact .inr ⟨rfl, hmethod⟩
    | error cause => exact .inl (Problem.le_status_response _)

/-- A row that is added for an owner is the one that the request asks for. -/
theorem createsRow_add (h : backend.Regular) {owner : Int} {wanted : CreateRequest}
    {expiresAt : Int} {digest : Digest} (hcaller : ActsFor backend request owner)
    (hroute : Route.ofPath? request.path = some .collection) (hmethod : request.method = "POST")
    (hbody : CreateRequest.decode request.body = .ok wanted)
    (hexpires : wanted.expiresAt backend.clock = some expiresAt)
    (hfree : backend.store.conflicts
      ⟨owner, wanted.name, wanted.description, digest, expiresAt⟩ = false) :
    let token : NewToken := ⟨owner, wanted.name, wanted.description, digest, expiresAt⟩
    CreatesRow backend request (backend.store.add backend.creationTime token).1
      (.ofNew (backend.store.lastId + 1) backend.creationTime token) := by
  have hinserted := h.store.inserted_add hfree backend.creationTime
  exact ⟨hmethod, hroute, hcaller, ⟨wanted, hbody, rfl, rfl, hexpires⟩, rfl, hinserted⟩

/-- A row that is removed for an owner is the one that the request asks for. -/
theorem revokesRow_remove (h : backend.Regular) {owner : Int} {segment : List Char}
    {name : String} {row : Token} (hcaller : ActsFor backend request owner)
    (hroute : Route.ofPath? request.path = some (.item segment))
    (hmethod : request.method = "DELETE") (hname : Management.nameOf segment = .ok name)
    (hfound : backend.store.findByOwnerAndName owner name = some row) :
    RevokesRow backend request (backend.store.remove row.id row) row := by
  have hkey := (h.store.findByOwnerAndName_eq_some_iff.mp hfound).2
  have howner : row.owner = owner := congrArg Prod.fst hkey
  have hrow : row.name = name := congrArg Prod.snd hkey
  refine ⟨hmethod, ⟨segment, hroute, ?_⟩, ?_, h.store.removed_of_found hfound⟩
  · rw [hrow]
    exact hname
  · rw [howner]
    exact hcaller

/-- The result of a handling for an authentic caller is reported by its status. -/
theorem reported_of_handles (h : backend.Regular) {caller : Option Caller}
    (hcaller : ∀ who, caller = some who → ActsFor backend request who.userId)
    {handling : Handling} (hhandles : Handles caller request backend.clock handling)
    (hresult : handling.Result backend response after) :
    Reported backend request response after := by
  cases hhandles with
  | respond hatonce =>
    obtain ⟨rfl, rfl⟩ := hresult
    exact .unchanged rfl hatonce.status
  | list _ _ hmethod =>
    obtain ⟨answer, rfl, htransition⟩ := hresult
    cases htransition with
    | unchanged hfits _ =>
      cases answer with
      | listed result => exact reported_of_read (.inr ⟨result, rfl⟩) hmethod.ne_delete
      | _ => exact hfits.elim
  | find _ _ hmethod _ =>
    obtain ⟨answer, rfl, htransition⟩ := hresult
    cases htransition with
    | unchanged hfits _ =>
      cases answer with
      | found result => exact reported_of_read (.inl ⟨result, rfl⟩) hmethod.ne_delete
      | _ => exact hfits.elim
  | @create who wanted expiresAt hwho hroute hmethod hbody hexpires =>
    obtain ⟨answer, rfl, htransition⟩ := hresult
    cases htransition with
    | unchanged hfits hanswer =>
      match answer with
      | .issued (.error cause) => exact .unchanged rfl (.inl (Problem.le_status_response _))
    | issued block _ hfree =>
      exact .created _
        (createsRow_add h (hcaller who hwho) hroute hmethod hbody hexpires hfree) rfl
  | @revoke who segment name hwho hroute hmethod hname =>
    obtain ⟨answer, rfl, htransition⟩ := hresult
    cases htransition with
    | unchanged hfits hanswer =>
      match answer with
      | .revoked (.error cause) => exact .unchanged rfl (.inl (Problem.le_status_response _))
    | revoked row hfound =>
      exact .revoked row (revokesRow_remove h (hcaller who hwho) hroute hmethod hname hfound) rfl

/-- A caller whom the filter lets in is the owner of the token presented. -/
theorem actsFor_of_callerOf (h : backend.Regular) {session : String} {outcome : Outcome}
    (hauthentic : ∀ bearer, outcome = .authenticated bearer →
      ∃ row, Filter.Authentic backend request.authorization row bearer.user) :
    ∀ who, callerOf session outcome = some who → ActsFor backend request who.userId := by
  intro who hwho
  obtain ⟨bearer, rfl, rfl⟩ := eq_authenticated_of_callerOf hwho
  obtain ⟨presented, hpresented⟩ := hauthentic bearer rfl
  have howner : bearer.user.id = presented.owner :=
    h.directory presented.owner bearer.user hpresented.owner
  exact ⟨presented, bearer.user, hpresented, howner.symm, rfl⟩

/-- What becomes of a request behind the limits on its body is reported. -/
theorem reported_of_decides (h : backend.Regular) {session : String} {bodyLimit : Nat}
    (hdecides : service.Decides backend session request bodyLimit
      (·.Result backend response after)) :
    Reported backend request response after := by
  obtain ⟨outcome, hauthentic, hresult⟩ := hdecides
  exact reported_of_handles h (actsFor_of_callerOf h hauthentic)
    (service.handles_decided session outcome _ bodyLimit _) hresult

end

/-! ## Whole requests -/

/-- What the parts of the outermost layer keep of a response, the layer keeps. -/
theorem finish_keeps {α : Type} {f : Http.Response → α} (path : Http.Path) {method : String}
    (hhead : ∀ response, f (forHead method response) = f response)
    (hallowed : ∀ route response, f (nameAllowed route method response) = f response)
    (response : Http.Response) : f (finish path method response) = f response := by
  unfold finish
  split
  · rw [hhead, hallowed]
  · split
    · rfl
    · exact hhead response

/-- The outermost layers keep the status. -/
theorem status_finish (path : Http.Path) (method : String) (response : Http.Response) :
    (finish path method response).status = response.status := by
  refine finish_keeps path ?_ ?_ response
  · intro response
    unfold forHead
    split <;> rfl
  · intro route response
    unfold nameAllowed
    split <;> rfl

/-- A whole request comes to the result of its handling, unless its time runs out. -/
theorem respond_result (hstore : backend.store.Reachable) (service : Service)
    (ids : Identifiers) (request : Http.Request) :
    Concluded service backend ids request
      (fun handling after => ∃ response, handling.Result backend response after)
      (fun handling response after => handling.Result backend response after)
      (service.respond Backend.environment ids request backend).response
      (service.respond Backend.environment ids request backend).state.store :=
  respond_concluded hstore service ids request
    (fun response => ⟨response, rfl, rfl⟩) (Handling.ensures_result hstore)

/-- What becomes of a request is reported by its status, unless its time runs out. -/
theorem respond_reported (h : backend.Regular) (service : Service) (ids : Identifiers)
    (request : Http.Request) :
    let exchange := service.respond Backend.environment ids request backend
    ∃ response, Reported backend request response exchange.state.store ∧
      (exchange.response.status = 408 ∨ exchange.response.status = response.status) := by
  intro exchange
  have hconcluded : Concluded service backend ids request _ _ exchange.response
      exchange.state.store := respond_result h.store service ids request
  generalize exchange.response = told, exchange.state.store = after at hconcluded ⊢
  cases hconcluded with
  | tooLong =>
    refine ⟨tooLong, .unchanged rfl (.inl (by decide)), .inr ?_⟩
    rw [status_finish]
    rfl
  | late hdecides =>
    obtain ⟨outcome, hauthentic, response, hresult⟩ := hdecides
    refine ⟨response, reported_of_decides h ⟨outcome, hauthentic, hresult⟩, .inl ?_⟩
    rw [status_finish]
    rfl
  | answered hdecides =>
    refine ⟨_, reported_of_decides h hdecides, .inr ?_⟩
    rw [status_finish]
    rfl

/--
Whatever the delays and the failures of the collaborators are, and whatever the limits
of time, a request to any attainable backend leaves the store as it was, or creates the
one row, or revokes the one row, that it asks for.  The store stays consistent.  A
response that reports a creation or a revocation tells the truth, and only an answer
that time has run out may keep silent about one.
-/
theorem request_atomic (h : backend.Attainable) (service : Service) (ids : Identifiers)
    (request : Http.Request) :
    let exchange := service.respond Backend.environment ids request backend
    let after := exchange.state.store
    let status := exchange.response.status
    (after = backend.store ∨ (∃ row, CreatesRow backend request after row) ∨
        ∃ row, RevokesRow backend request after row) ∧
      after.Consistent ∧
      (status = 201 → ∃ row, CreatesRow backend request after row) ∧
      (status = 200 → request.method = "DELETE" → ∃ row, RevokesRow backend request after row) ∧
      (status ≠ 201 → ¬ (status = 200 ∧ request.method = "DELETE") → status ≠ 408 →
        after = backend.store) := by
  intro exchange after status
  have hconsistent : after.Consistent :=
    (service.respond_keeps Backend.Regular.environment ids request h.regular).store.consistent
  obtain ⟨response, hreported, hstatus⟩ := respond_reported h.regular service ids request
  change status = 408 ∨ status = response.status at hstatus
  cases hreported with
  | unchanged hafter hunchanged =>
    refine ⟨.inl hafter, hconsistent, ?_, ?_, fun _ _ _ => hafter⟩
    · intro hcreated
      omega
    · intro hrevoked hmethod
      obtain hfailed | ⟨-, hread⟩ := hunchanged
      · omega
      · exact absurd hmethod hread
  | created row hcreates hresponse =>
    refine ⟨.inr (.inl ⟨row, hcreates⟩), hconsistent, fun _ => ⟨row, hcreates⟩, ?_, ?_⟩
    · intro hrevoked _
      omega
    · intro hcreated _ hlate
      omega
  | revoked row hrevokes hresponse =>
    refine ⟨.inr (.inr ⟨row, hrevokes⟩), hconsistent, ?_, fun _ _ => ⟨row, hrevokes⟩, ?_⟩
    · intro hcreated
      omega
    · intro _ hrevoked hlate
      exact absurd ⟨by omega, hrevokes.method⟩ hrevoked

/-- A store that is slow to answer after it has deleted a row. -/
def stuckBackend : Backend :=
  { issuedBackend with faults := [(.delete, ⟨none, false, 0, 6000⟩)] }

/-- A revocation that is cut off after its deletion keeps silent about it. -/
theorem request_atomic_stuckBackend :
    let exchange := guarded.respond Backend.environment ⟨"r", "s"⟩ revocation stuckBackend
    exchange.response.status = 408 ∧
      ∃ row, RevokesRow stuckBackend revocation exchange.state.store row := by
  intro exchange
  have hattainable : stuckBackend.Attainable := .plan _ (.run (.ofUsers _ _) guarded _)
  obtain ⟨hsame | ⟨row, hcreates⟩ | hrevokes, -⟩ :=
    request_atomic hattainable guarded ⟨"r", "s"⟩ revocation
  · exact absurd hsame (by decide +kernel)
  · exact absurd hcreates.method (by decide)
  · exact ⟨by decide +kernel, hrevokes⟩

end Service
end BearerTokens
