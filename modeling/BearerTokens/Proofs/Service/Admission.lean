import BearerTokens.Proofs.Lifecycle.Evaluation
import BearerTokens.Proofs.Management.CreationBody
import BearerTokens.Proofs.Management.Naming
import BearerTokens.Proofs.Service.Layers
import BearerTokens.Proofs.Service.Rules

/-!
# Requests of authentic callers

Without faults, a request of an authentic caller is handled by its method and its path
alone.  Such a request to the path of a token is answered by the caller's row of that
name, and one to create a token is answered with a creation exactly when its name is allowed,
if nothing else stands in its way.

Main results:

- Definition {lit}`Service.Addresses`: the requests to the path of a token.
- Theorems {lit}`Service.respond_get` and {lit}`Service.respond_delete`: their responses.
- Definition {lit}`Service.Asks`: the requests that only their name can make fail.
- Theorem {lit}`Service.exists_created`: what a response that reports a creation tells.
-/

namespace BearerTokens

/-- Whether a token may be created with a name: it is not too long, and not blank. -/
def Nameable (name : String) : Prop :=
  name.length ≤ 255 ∧ ∃ c ∈ name.toList, Text.isBlank c = false

/-- A name with a character that is not blank is not blank. -/
theorem allBlank_eq_false_iff {name : String} :
    Text.allBlank name = false ↔ ∃ c ∈ name.toList, Text.isBlank c = false := by
  simp [Text.allBlank]

instance (name : String) : Decidable (Nameable name) :=
  decidable_of_iff (name.length ≤ 255 ∧ Text.allBlank name = false)
    (and_congr_right fun _ => allBlank_eq_false_iff)

/-- A name that is allowed is not empty. -/
theorem Nameable.ne_empty {name : String} (h : Nameable name) : name ≠ "" := by
  rintro rfl
  rcases h.2 with ⟨c, hc, -⟩
  cases hc

namespace Service

variable {service : Service} {backend : Backend} {request : Http.Request} {owner : Int}

/-! ## Handling for a caller -/

/-- The longest body that is read of a request. -/
def bodyLimit (request : Http.Request) : Nat :=
  min maxBodyLength ((declaredLength? request).getD maxBodyLength)

/-- A request of an authentic caller is handled for this caller. -/
theorem exists_routing (h : backend.Sound) (henabled : service.filter.enabled = true)
    (hcaller : ActsFor backend request owner)
    (hlength : (declaredLength? request).any (maxBodyLength < ·) = false) (session : String) :
    ∃ who : Caller, who.userId = owner ∧ service.handling backend session request =
      service.routing (some who) request (bodyLimit request) backend.clock := by
  rcases hcaller with ⟨presented, user, hauthentic, -, howner⟩
  have hdecision : service.filter.decision backend request.authorization =
      .authenticated ⟨user, presented.id, presented.name⟩ :=
    (Filter.decision_eq_authenticated_iff henabled h.store).mpr ⟨presented, hauthentic, rfl, rfl⟩
  refine ⟨.ofBearer ⟨user, presented.id, presented.name⟩ session, howner, ?_⟩
  simp only [handling, hlength, Bool.false_eq_true, if_false, hdecision]
  rfl

/-- An operation that needs a caller is handled for the one that came. -/
theorem routing_eq (henabled : service.filter.enabled = true) {route : Route}
    (hroute : Route.ofPath? request.path = some route) {operation : Operation}
    (hoperation : route.operation? request.method = some operation)
    (hmanages : operation ≠ .health) (who : Caller) (limit : Nat) (now : Int) :
    service.routing (some who) request limit now =
      operation.handlingFor who request limit now := by
  simp only [routing, hroute, hoperation, henabled]
  cases operation with
  | health => exact absurd rfl hmanages
  | list => rfl
  | create => rfl
  | find segment => rfl
  | revoke segment => rfl

/-! ## Requests to the path of a token -/

/-- Whether a request of a method goes to the path of a name, in any encoding. -/
structure Addresses (request : Http.Request) (method name : String) : Prop where
  method : request.method = method
  path : ∃ segment, Percent.Encodes (Utf8.encode name) segment ∧
    request.path = Route.itemPath segment
  length : (declaredLength? request).any (maxBodyLength < ·) = false

/-- A request to the path of a name leads to a call about the caller's token of that name. -/
theorem handling_of_addresses (h : backend.Sound) (henabled : service.filter.enabled = true)
    {method name : String} (hname : name ≠ "") (hrequest : Addresses request method name)
    (hcaller : ActsFor backend request owner) (operation : List Char → Operation)
    (call : Int → String → ServiceCall)
    (hoperation : ∀ segment, (Route.item segment).operation? method = some (operation segment))
    (hmanages : ∀ segment, operation segment ≠ .health)
    (hcall : ∀ segment (who : Caller), (operation segment).handlingFor who request
      (bodyLimit request) backend.clock = Operation.naming segment (call who.userId))
    (session : String) : service.handling backend session request = .serve (call owner name) := by
  rcases hrequest with ⟨rfl, ⟨segment, hencodes, hpath⟩, hlength⟩
  rcases exists_routing h henabled hcaller hlength session with ⟨who, rfl, hrouting⟩
  have hroute : Route.ofPath? request.path = some (.item segment) := by
    rw [hpath]
    exact Route.ofPath?_of_encodes hname hencodes
  rw [hrouting, routing_eq henabled hroute (hoperation segment) (hmanages segment), hcall]
  simp only [Operation.naming, Management.nameOf_eq_ok_of_encodes hencodes]

/-- A GET to the path of a name looks the caller's token of that name up. -/
theorem handling_get (h : backend.Sound) (henabled : service.filter.enabled = true)
    {name : String} (hname : name ≠ "") (hrequest : Addresses request "GET" name)
    (hcaller : ActsFor backend request owner) (session : String) :
    service.handling backend session request = .serve (.find owner name) :=
  handling_of_addresses h henabled hname hrequest hcaller .find .find (fun _ => rfl) (by simp)
    (fun _ _ => rfl) session

/-- A DELETE to the path of a name revokes the caller's token of that name. -/
theorem handling_delete (h : backend.Sound) (henabled : service.filter.enabled = true)
    {name : String} (hname : name ≠ "") (hrequest : Addresses request "DELETE" name)
    (hcaller : ActsFor backend request owner) (session : String) :
    service.handling backend session request = .serve (.revoke owner name) :=
  handling_of_addresses h henabled hname hrequest hcaller .revoke .revoke (fun _ => rfl) (by simp)
    (fun _ _ => rfl) session

/-- The response to a request that makes a call renders the answer to it. -/
theorem respond_of_serve (h : backend.FaultFree) {ids : Identifiers} {call : ServiceCall}
    (hserve : service.handling backend ids.session request = .serve call) {answer : ServiceAnswer}
    {after : Backend} (hanswer : call.procedure.eval Backend.answer backend = (answer, after))
    (hmethod : request.method ≠ "HEAD") :
    let exchange := service.respond Backend.environment ids request backend
    exchange.response.status = (call.response answer).status ∧
      exchange.response.body = (call.response answer).body ∧ exchange.state = after := by
  rcases respond_eq h service ids request with ⟨hresponse, hstate⟩
  simp only [hserve, Handling.procedure, Procedure.eval_map, hanswer] at hresponse hstate
  intro exchange
  refine ⟨?_, ?_, hstate⟩
  · rw [hresponse, status_finish]
    rfl
  · rw [hresponse, body_finish _ hmethod]
    rfl

/-- A GET to the path of a name is answered by the caller's row of that name. -/
theorem respond_get (h : backend.Sound) (henabled : service.filter.enabled = true)
    {name : String} (hname : name ≠ "") (hrequest : Addresses request "GET" name)
    (hcaller : ActsFor backend request owner) (ids : Identifiers) :
    let exchange := service.respond Backend.environment ids request backend
    exchange.state = backend ∧
      (∀ row, backend.store.findByOwnerAndName owner name = some row →
        exchange.response.status = 200 ∧ exchange.response.body = row.json.text) ∧
      (backend.store.findByOwnerAndName owner name = none → exchange.response.status = 404) := by
  have hserve := handling_get h henabled hname hrequest hcaller ids.session
  have hmethod : request.method ≠ "HEAD" := by
    rw [hrequest.method]
    decide
  rcases respond_of_serve h.faultFree hserve (ServiceCall.eval_find h.faultFree owner name)
    hmethod with ⟨hstatus, hbody, hstate⟩
  intro exchange
  refine ⟨hstate, ?_, ?_⟩
  · intro row hfound
    rw [hfound] at hstatus hbody
    exact ⟨hstatus, hbody⟩
  · intro hfree
    rw [hfree] at hstatus
    exact hstatus

/-- A DELETE to the path of a name removes the caller's row of that name. -/
theorem respond_delete (h : backend.Sound) (henabled : service.filter.enabled = true)
    {name : String} (hname : name ≠ "") (hrequest : Addresses request "DELETE" name)
    (hcaller : ActsFor backend request owner) (ids : Identifiers) :
    let exchange := service.respond Backend.environment ids request backend
    (∀ row, backend.store.findByOwnerAndName owner name = some row →
        exchange.response.status = 200 ∧
          exchange.state = { backend with store := backend.store.remove row.id row }) ∧
      (backend.store.findByOwnerAndName owner name = none →
        exchange.response.status = 404 ∧ exchange.state = backend) := by
  have hserve := handling_delete h henabled hname hrequest hcaller ids.session
  have hmethod : request.method ≠ "HEAD" := by
    rw [hrequest.method]
    decide
  intro exchange
  constructor
  · intro row hfound
    rcases respond_of_serve h.faultFree hserve
      (ServiceCall.eval_revoke_of_found h.faultFree h.store hfound) hmethod with
      ⟨hstatus, -, hstate⟩
    exact ⟨hstatus, hstate⟩
  · intro hfree
    rcases respond_of_serve h.faultFree hserve
      (ServiceCall.eval_revoke_of_free h.faultFree hfree) hmethod with ⟨hstatus, -, hstate⟩
    exact ⟨hstatus, hstate⟩

/-! ## Requests to create a token -/

/-- A request to create a token that only its name can make fail. -/
structure Asks (backend : Backend) (request : Http.Request) (owner : Int)
    (wanted : CreateRequest) : Prop where
  method : request.method = "POST"
  path : request.path = "/api/v1/access_tokens".toList
  caller : ActsFor backend request owner
  length : (declaredLength? request).any (maxBodyLength < ·) = false
  body : CreateRequest.ofBody request (bodyLimit request) = .ok wanted
  hours : 0 < wanted.hours
  expires : ∃ expiresAt, wanted.expiresAt backend.clock = some expiresAt
  description : ∀ text, wanted.description = some text → text.length ≤ 512
  /-- The caller has no token of the name yet. -/
  free : backend.store.findByOwnerAndName owner wanted.name = none
  /-- The next random block makes a new secret. -/
  drawn : ∃ block, backend.entropy.draw.1 = .ok block ∧
    ∀ row ∈ backend.store.rows.values, row.digest ≠ (Secret.ofBlock block).digest

/-- A body with any name that is allowed is read as a request for this name. -/
theorem ofBody_bodyFor {name : String} (hname : Nameable name) (hjson : declaresJson request = true)
    (hbody : request.body = CreateRequest.bodyFor name)
    (hlength : ∀ length, declaredLength? request = some length → length = request.body.length) :
    CreateRequest.ofBody request (bodyLimit request) = .ok (.named name) := by
  have hshort : request.body.length ≤ maxBodyLength := by
    have hbytes := CreateRequest.length_bodyFor_le name
    have hchars := hname.1
    rw [hbody, maxBodyLength]
    omega
  have hfits : request.body.length ≤ bodyLimit request := by
    rw [bodyLimit]
    cases hdeclared : declaredLength? request with
    | none =>
      rw [Option.getD_none, Nat.min_self]
      exact hshort
    | some length =>
      rw [Option.getD_some, hlength length hdeclared]
      exact Nat.le_min.mpr ⟨hshort, Nat.le_refl _⟩
  have hdecode : CreateRequest.decode request.body = .ok (.named name) := by
    rw [hbody]
    exact CreateRequest.decode_bodyFor name
  simp only [CreateRequest.ofBody, hjson, Bool.not_true, Bool.false_eq_true, if_false,
    Nat.not_lt.mpr hfits, hdecode]

/-- A request for a name that is allowed leads to the issue of a token, if nothing objects. -/
theorem handling_post (h : backend.Sound) (henabled : service.filter.enabled = true)
    {wanted : CreateRequest} (hasks : Asks backend request owner wanted)
    (hname : Nameable wanted.name) {expiresAt : Int}
    (hexpires : wanted.expiresAt backend.clock = some expiresAt) (session : String) :
    service.handling backend session request =
      .serve (.issue owner wanted.name wanted.description expiresAt) := by
  rcases exists_routing h henabled hasks.caller hasks.length session with ⟨who, rfl, hrouting⟩
  have hroute : Route.ofPath? request.path = some .collection := by
    rw [hasks.path]
    decide +kernel
  have hoperation : Route.collection.operation? request.method = some .create := by
    rw [hasks.method]
    rfl
  have hblank : Text.allBlank wanted.name = false := allBlank_eq_false_iff.mpr hname.2
  have hobjection : wanted.objection? = none := by
    simp only [CreateRequest.objection?, hblank, Bool.false_eq_true, if_false,
      Int.not_le.mpr hasks.hours]
  rw [hrouting, routing_eq henabled hroute hoperation (by simp)]
  simp only [Operation.handlingFor, hasks.body, Operation.creation, hobjection, hexpires]

/-- A request for a name that is allowed is answered with a creation, if nothing objects. -/
theorem created_of_nameable (h : backend.Sound) (howner : 0 < owner)
    (henabled : service.filter.enabled = true)
    {wanted : CreateRequest} (hasks : Asks backend request owner wanted)
    (hname : Nameable wanted.name) (ids : Identifiers) :
    (service.respond Backend.environment ids request backend).response.status = 201 := by
  rcases hasks.expires with ⟨expiresAt, hexpires⟩
  rcases hasks.drawn with ⟨block, hdrawn, hfresh⟩
  have hserve := handling_post h henabled hasks hname hexpires ids.session
  have hrefusal : Lifecycle.refusal? owner wanted.name wanted.description = none :=
    Lifecycle.refusal?_eq_none_iff.mpr ⟨howner, hname.1, hasks.description⟩
  rcases ServiceCall.eval_issue_of_free h.faultFree h.store hrefusal hasks.free hdrawn hfresh
    expiresAt with ⟨-, hanswer⟩
  have hmethod : request.method ≠ "HEAD" := by
    rw [hasks.method]
    decide
  exact (respond_of_serve h.faultFree hserve hanswer hmethod).1

/-! ## Responses that report a creation -/

/-- Only an answer that reports a change may be rendered as a creation. -/
theorem status_ne_created {answer : ServiceAnswer} (h : answer.isChange = false)
    (call : ServiceCall) : (call.response answer).status ≠ 201 := by
  have hproblem : ∀ problem : Problem, problem.response.status ≠ 201 := by
    intro problem hstatus
    have hle := problem.le_status_response
    omega
  match answer with
  | .issued (.error cause) => exact hproblem _
  | .revoked (.error cause) => exact hproblem _
  | .found (.error cause) => exact hproblem _
  | .found (.ok none) => exact hproblem _
  | .found (.ok (some row)) =>
    simp [ServiceCall.response, Management.foundResponse, Http.Response.json]
  | .listed (.error cause) => exact hproblem _
  | .listed (.ok rows) =>
    simp [ServiceCall.response, Management.answer, Http.Response.json]

/-- The document of a token that was just created, with its secret. -/
def createdDocument (row : Token) (secret : Secret) : Json :=
  .object [
    ("name", .string row.name),
    ("description", .ofText? row.description),
    ("expires_at", .integer row.expiresAt),
    ("token", .string secret.text)]

/-- A handling that comes to a creation has created the row that the request asks for. -/
theorem exists_createdFor (h : backend.Regular) {caller : Option Caller}
    (hcaller : ∀ who, caller = some who → ActsFor backend request who.userId)
    {handling : Handling} (hhandles : Handles caller request backend.clock handling)
    {response : Http.Response} {after : TokenStore}
    (hresult : handling.Result backend response after) (hstatus : response.status = 201) :
    ∃ row secret, CreatesRow backend request after row ∧ Nameable row.name ∧
      row.digest = secret.digest ∧ response.body = (createdDocument row secret).text := by
  cases handling with
  | respond said =>
    rcases hresult with ⟨rfl, -⟩
    cases hhandles with
    | respond hatonce =>
      have hkinds := hatonce.status
      omega
  | serve call =>
    rcases hresult with ⟨answer, rfl, htransition⟩
    -- Of all changes, only the issue of a token is told by this status.
    cases htransition with
    | unchanged _ hnone => exact absurd hstatus (status_ne_created hnone call)
    | revoked row _ => cases hstatus
    | issued block hrefusal hfree =>
      cases hhandles with
      | @create who wanted expiresAt hwho hroute hmethod hbody hexpires hobjection =>
        have hcreates := createsRow_add h (hcaller who hwho) hroute hmethod hbody hexpires hfree
        refine ⟨_, .ofBlock block, hcreates, ⟨?_, ?_⟩, rfl, rfl⟩
        · exact (Lifecycle.refusal?_eq_none_iff.mp hrefusal).2.1
        · rw [← allBlank_eq_false_iff]
          cases hblank : Text.allBlank wanted.name with
          | false => exact hblank
          | true => simp [CreateRequest.objection?, hblank] at hobjection

/-- A request that is answered with a creation has created the row that it asks for. -/
theorem exists_created (h : backend.Regular) (service : Service) (ids : Identifiers)
    (request : Http.Request) :
    let exchange := service.respond Backend.environment ids request backend
    exchange.response.status = 201 →
      ∃ row secret, CreatesRow backend request exchange.state.store row ∧ Nameable row.name ∧
        row.digest = secret.digest ∧
        exchange.response.body = (createdDocument row secret).text := by
  intro exchange
  have hconcluded : Concluded service backend ids request _ _ exchange.response
      exchange.state.store := respond_result h.store service ids request
  generalize exchange.response = told, exchange.state.store = after at hconcluded ⊢
  intro hstatus
  cases hconcluded with
  | tooLong =>
    rw [status_finish] at hstatus
    cases hstatus
  | late _ =>
    rw [status_finish] at hstatus
    cases hstatus
  | answered hdecides =>
    rw [status_finish] at hstatus
    rcases hdecides with ⟨outcome, hauthentic, hresult⟩
    rcases exists_createdFor h (actsFor_of_callerOf h hauthentic)
      (service.handles_decided ids.session outcome _ _ _) hresult hstatus with
      ⟨row, secret, hcreates, hname, hdigest, hbody⟩
    have hmethod : request.method ≠ "HEAD" := by
      rw [hcreates.method]
      decide
    refine ⟨row, secret, hcreates, hname, hdigest, ?_⟩
    rw [body_finish _ hmethod]
    exact hbody

end Service
end BearerTokens
