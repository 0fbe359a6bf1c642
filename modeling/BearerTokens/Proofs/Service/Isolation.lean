import BearerTokens.Proofs.Lifecycle.OwnerView
import BearerTokens.Proofs.Service.Attainable
import BearerTokens.Proofs.Service.Authentication
import BearerTokens.Proofs.Service.Routing

/-!
# Isolation of owners

A request with the secret of an owner is answered by what this owner sees: its own rows
without their numbers, the clock, the directory and the next random block.  Two backends
that agree on these cannot be told apart by it, whatever rows other owners have, and
it leaves the rows of other owners alone.

Main results:

- Definition {lit}`Backend.AgreeFor`: two backends that look the same to an owner.
- Theorem {lit}`Service.handling_agree`: a request of the owner is handled in the same way.
- Theorem {lit}`Service.owner_isolated`: it has the same response and the same effect.
-/

namespace BearerTokens

/-! ## Backends that look the same -/

/-- Whether the first Authorization value of a request presents the secret of a row of an owner. -/
def Backend.Presents (backend : Backend) (owner : Int) (request : Http.Request) : Prop :=
  ∃ value rest secret, request.authorization = value :: rest ∧ BearerCredential value secret ∧
    ∃ row ∈ backend.store.rows.values,
      row.owner = owner ∧ row.digest = Secret.digestOf secret

/-- Two backends that look the same to an owner. -/
structure Backend.AgreeFor (owner : Int) (backend other : Backend) : Prop where
  rows : backend.store.view owner = other.store.view owner
  clock : backend.clock = other.clock
  directory : ∀ id, backend.directory.load id = other.directory.load id
  drawn : backend.entropy.draw.1 = other.entropy.draw.1

/-- Rows that differ at most in their numbers. -/
theorem Token.eq_of_unnumbered_eq {row other : Token} (h : row.unnumbered = other.unnumbered) :
    ∃ id, other = { row with id := id } := by
  obtain ⟨id, owner, name, description, digest, expiresAt, createdAt⟩ := row
  obtain ⟨id', owner', name', description', digest', expiresAt', createdAt'⟩ := other
  simp only [unnumbered, mk.injEq, true_and] at h
  obtain ⟨rfl, rfl, rfl, rfl, rfl, rfl⟩ := h
  exact ⟨id', rfl⟩

/-- What an owner sees in one backend is a row in the other. -/
theorem Backend.AgreeFor.exists_row {owner : Int} {backend other : Backend}
    (h : AgreeFor owner backend other) {row : Token} (hrow : row ∈ backend.store.rows.values)
    (howner : row.owner = owner) :
    ∃ id, { row with id := id } ∈ other.store.rows.values := by
  have hseen : row.unnumbered ∈ backend.store.view owner := by
    refine List.mem_map.mpr ⟨row, List.mem_filter.mpr ⟨hrow, ?_⟩, rfl⟩
    simpa using howner
  rw [h.rows] at hseen
  obtain ⟨found, hfound, hsame⟩ := List.mem_map.mp hseen
  obtain ⟨id, rfl⟩ := Token.eq_of_unnumbered_eq hsame.symm
  exact ⟨id, (List.mem_filter.mp hfound).1⟩

/-- A response shows no numbers of rows. -/
theorem ServiceCall.response_unnumbered (call : ServiceCall) (answer : ServiceAnswer) :
    call.response answer.unnumbered = call.response answer := by
  match answer with
  | .issued result => rfl
  | .revoked result => rfl
  | .found (.error cause) => rfl
  | .found (.ok none) => rfl
  | .found (.ok (some row)) => rfl
  | .listed (.error cause) => rfl
  | .listed (.ok rows) =>
    have hjson : (rows.map Token.unnumbered).map Token.json = rows.map Token.json := by
      rw [List.map_map]
      rfl
    simp only [ServiceAnswer.unnumbered, Except.map, response, Management.answer, hjson]

namespace Service

variable {service : Service} {backend other : Backend} {owner : Int} {request : Http.Request}

/-! ## Handling for an owner -/

/-- An operation is handled alike for all callers of one number. -/
theorem handlingFor_congr {who who' : Caller} (h : who.userId = who'.userId)
    (operation : Operation) (request : Http.Request) (bodyLimit : Nat) (now : Int) :
    operation.handlingFor who request bodyLimit now =
      operation.handlingFor who' request bodyLimit now := by
  cases operation with
  | health => rfl
  | list => simp only [Operation.handlingFor, h]
  | create => simp only [Operation.handlingFor, Operation.creation, h]
  | find segment => simp only [Operation.handlingFor, h]
  | revoke segment => simp only [Operation.handlingFor, h]

/-- A request is handled alike for all callers of one number. -/
theorem routing_congr {who who' : Caller} (h : who.userId = who'.userId) (service : Service)
    (request : Http.Request) (bodyLimit : Nat) (now : Int) :
    service.routing (some who) request bodyLimit now =
      service.routing (some who') request bodyLimit now := by
  unfold routing
  cases Route.ofPath? request.path with
  | none => rfl
  | some route =>
    simp only
    cases route.operation? request.method with
    | none => rfl
    | some operation =>
      have hfor := handlingFor_congr h operation request bodyLimit now
      cases henabled : service.filter.enabled with
      | false => cases operation <;> rfl
      | true => cases operation <;> first | rfl | exact hfor

/-- Only calls about the tokens of the caller are made. -/
theorem Handles.owner?_eq {caller : Option Caller} {now : Int} {call : ServiceCall}
    (h : Handles caller request now (.serve call)) :
    ∃ who, caller = some who ∧ call.owner? = some who.userId := by
  cases h with
  | list hcaller _ _ => exact ⟨_, hcaller, rfl⟩
  | find hcaller _ _ _ => exact ⟨_, hcaller, rfl⟩
  | create hcaller _ _ _ _ _ => exact ⟨_, hcaller, rfl⟩
  | revoke hcaller _ _ _ => exact ⟨_, hcaller, rfl⟩

/-- A request with the secret of an owner is authenticated for nobody else. -/
theorem id_eq_of_authenticated (h : backend.Sound) (hpresents : backend.Presents owner request)
    {bearer : Authenticated}
    (hdecision : service.filter.decision backend request.authorization =
      .authenticated bearer) : bearer.user.id = owner := by
  have henabled : service.filter.enabled = true := by
    by_contra hdisabled
    simp [Filter.decision, hdisabled] at hdecision
  obtain ⟨value, rest, secret, hrequest, hvalue, row, hrow, rfl, hdigest⟩ := hpresents
  rw [hrequest, Filter.decision_of_credential henabled hvalue,
    Filter.outcome_eq_authenticated_iff, Filter.check_eq_ok_iff h.store hrow hdigest] at hdecision
  exact h.directory row.owner bearer.user hdecision.2.1

/-- A request with the secret of an owner leads to calls about the owner's tokens only. -/
theorem owner?_of_handling (h : backend.Sound) (hpresents : backend.Presents owner request)
    {session : String} {call : ServiceCall}
    (hserve : service.handling backend session request = .serve call) :
    call.owner? = some owner := by
  simp only [handling] at hserve
  by_cases hlong : (declaredLength? request).any (maxBodyLength < ·)
  · simp [hlong] at hserve
  · simp only [hlong, Bool.false_eq_true, if_false] at hserve
    have hhandles := service.handles_decided session
      (service.filter.decision backend request.authorization) request
      (min maxBodyLength ((declaredLength? request).getD maxBodyLength)) backend.clock
    rw [hserve] at hhandles
    obtain ⟨who, hwho, howner⟩ := hhandles.owner?_eq
    obtain ⟨bearer, hdecision, rfl⟩ := eq_authenticated_of_callerOf hwho
    rw [howner, ← id_eq_of_authenticated h hpresents hdecision]
    rfl

/-- A request with the secret of an owner is handled by what this owner sees. -/
theorem handling_agree (h : backend.Sound) (hother : other.Sound)
    (hagree : Backend.AgreeFor owner backend other) (hpresents : backend.Presents owner request)
    (service : Service) (session session' : String) :
    service.handling backend session request = service.handling other session' request := by
  simp only [handling]
  by_cases hlong : (declaredLength? request).any (maxBodyLength < ·)
  · simp only [hlong, if_true]
  · simp only [hlong, Bool.false_eq_true, if_false, ← hagree.clock]
    obtain ⟨value, rest, secret, hrequest, hvalue, row, hrow, howner, hdigest⟩ := hpresents
    obtain ⟨id, hrow'⟩ := hagree.exists_row hrow howner
    rw [hrequest]
    by_cases henabled : service.filter.enabled
    · rw [Filter.decision_of_credential henabled hvalue,
        Filter.decision_of_credential henabled hvalue, Filter.check_of_mem h.store hrow hdigest,
        Filter.check_of_mem hother.store hrow' hdigest, ← hagree.clock, ← hagree.directory]
      -- The same check of two rows that differ in their numbers only.
      by_cases hexpired : row.expiresAt < backend.clock
      · simp only [hexpired, if_true]
        rfl
      · simp only [hexpired, if_false]
        cases backend.directory.load row.owner with
        | error cause => rfl
        | ok user =>
          by_cases henabled : user.enabled
          · simp only [Filter.checkOwner, henabled, if_true]
            refine routing_congr ?_ service request _ _
            rfl
          · simp only [Filter.checkOwner, henabled]
            rfl
    · simp only [Filter.decision, henabled]
      rfl

/-! ## The response and what it leaves -/

/-- A handling for an owner comes to the same for backends that look the same to the owner. -/
theorem eval_agree (h : backend.Sound) (hother : other.Sound)
    (hagree : Backend.AgreeFor owner backend other) (hfresh : backend.DrawsFresh)
    (hfresh' : other.DrawsFresh) {handling : Handling}
    (hserves : ∀ call, handling = .serve call → call.owner? = some owner) :
    let result := handling.procedure.eval Backend.answer backend
    let result' := handling.procedure.eval Backend.answer other
    result.1 = result'.1 ∧ result.2.store.view owner = result'.2.store.view owner := by
  cases handling with
  | respond response => exact ⟨rfl, hagree.rows⟩
  | serve call =>
    have howner := hserves call rfl
    have hseen := ServiceCall.eval_seen h.faultFree h.store hfresh howner
    have hseen' := ServiceCall.eval_seen hother.faultFree hother.store hfresh' howner
    have hcreated : backend.creationTime = other.creationTime := by
      simp only [Backend.creationTime, hagree.clock]
    simp only [← hagree.rows, ← hcreated, ← hagree.drawn, ← hseen, Prod.mk.injEq] at hseen'
    simp only [Handling.procedure, Procedure.eval_map]
    constructor
    · rw [← call.response_unnumbered, ← hseen'.1, call.response_unnumbered]
    · exact hseen'.2.symm

/-- A handling for an owner leaves the rows of others alone. -/
theorem eval_others (h : backend.Sound) {handling : Handling}
    (hserves : ∀ call, handling = .serve call → call.owner? = some owner) :
    (handling.procedure.eval Backend.answer backend).2.store.others owner =
      backend.store.others owner := by
  cases handling with
  | respond response => rfl
  | serve call =>
    simp only [Handling.procedure, Procedure.eval_map]
    exact (ServiceCall.eval_transition h.faultFree h.store call).others h.store (hserves call rfl)

end Service

/-- A response without its fields of a name. -/
def Http.Response.without (response : Http.Response) (name : String) : Http.Response :=
  { response with fields := response.fields.filter fun field => field.name ≠ name }

namespace Service

/-- A response is fitted to its request without regard to its fields of any name. -/
theorem without_finish (path : Http.Path) (method : String) (response : Http.Response)
    (name : String) :
    (finish path method response).without name =
      (finish path method (response.without name)).without name := by
  have hhead : ∀ response : Http.Response,
      (forHead method response).without name = forHead method (response.without name) := by
    intro response
    unfold forHead
    split <;> rfl
  have hallowed : ∀ route, (nameAllowed route method response).without name =
      (nameAllowed route method (response.without name)).without name := by
    intro route
    unfold nameAllowed
    split <;> simp [Http.Response.without, Http.Response.withField, List.filter_append]
  have htwice : (response.without name).without name = response.without name := by
    simp [Http.Response.without]
  unfold finish
  split
  · rw [hhead, hhead, hallowed]
  · split
    · exact htwice.symm
    · rw [hhead, hhead, htwice]

/-- Two identifications of a response differ in nothing but the identifier. -/
theorem without_identify (request : Http.Request) (drawn : String) (response : Http.Response) :
    (identify request drawn response).without identifierField =
      response.without identifierField := by
  simp [identify, Http.Response.withField, Http.Response.without, List.filter_append]

/--
Two attainable backends without faults that look the same to an owner, and whose next
random block is fresh in both, give the same response to any request with the secret of
one of the owner's rows, apart from an identifier that is drawn for it.  They look the
same to the owner afterwards, and each has kept the rows of all other owners.
-/
theorem owner_isolated (h : backend.Attainable) (hother : other.Attainable)
    (hfree : backend.FaultFree) (hfree' : other.FaultFree)
    (hagree : Backend.AgreeFor owner backend other) (hfresh : backend.DrawsFresh)
    (hfresh' : other.DrawsFresh) (hpresents : backend.Presents owner request)
    (service : Service) (ids ids' : Identifiers) :
    let exchange := service.respond Backend.environment ids request backend
    let exchange' := service.respond Backend.environment ids' request other
    exchange.response.without identifierField = exchange'.response.without identifierField ∧
      (identifier request ids.request = identifier request ids'.request →
        exchange.response = exchange'.response) ∧
      exchange.state.store.view owner = exchange'.state.store.view owner ∧
      exchange.state.store.others owner = backend.store.others owner ∧
      exchange'.state.store.others owner = other.store.others owner := by
  have hsound := h.sound hfree
  have hsound' := hother.sound hfree'
  obtain ⟨hresponse, hstate⟩ := respond_eq hfree service ids request
  obtain ⟨hresponse', hstate'⟩ := respond_eq hfree' service ids' request
  have hserves : ∀ call, service.handling backend ids.session request = .serve call →
      call.owner? = some owner :=
    fun call hserve => owner?_of_handling hsound hpresents hserve
  rw [← handling_agree hsound hsound' hagree hpresents service ids.session ids'.session]
    at hresponse' hstate'
  obtain ⟨hsame, hview⟩ := eval_agree hsound hsound' hagree hfresh hfresh' hserves
  intro exchange exchange'
  refine ⟨?_, ?_, ?_, ?_, ?_⟩
  · rw [hresponse, hresponse', without_finish, without_identify, hsame]
    rw [without_finish _ _ (identify request ids'.request _), without_identify]
  · intro hidentifier
    rw [hresponse, hresponse', hsame, identify, identify, hidentifier]
  · rw [hstate, hstate']
    exact hview
  · rw [hstate]
    exact eval_others hsound hserves
  · rw [hstate']
    exact eval_others hsound' hserves

/-- The backend after a token was issued to one of two users. -/
def lonelyBackend : Backend :=
  guarded.run (.ofUsers [.ordinary 7 "alice" true, .ordinary 8 "bob" true] 1000)
    [.call (.issue 7 "ci" none 2000)]

/-- The next block in this backend is the second of the sequence. -/
theorem drawn_lonelyBackend : lonelyBackend.entropy.draw.1 =
    .ok (EntropySource.blockOf (EntropySource.increment * 2)) := by
  decide +kernel

/-- The backend after the other user came first, with a token of the same name. -/
def sharedBackend : Backend :=
  guarded.run (.ofUsers [.ordinary 7 "alice" true, .ordinary 8 "bob" true] 1000)
    [.supply [some (EntropySource.blockOf 0)], .call (.issue 8 "ci" none 2000),
      .call (.issue 7 "ci" none 2000)]

/-- A revocation by its owner takes no notice of a token of the same name. -/
theorem owner_isolated_sharedBackend :
    let exchange := guarded.respond Backend.environment ⟨"r1", "s1"⟩ revocation lonelyBackend
    let exchange' := guarded.respond Backend.environment ⟨"r2", "s2"⟩ revocation sharedBackend
    exchange.response.without identifierField = exchange'.response.without identifierField ∧
      exchange'.state.store.others 7 = sharedBackend.store.others 7 ∧
      (sharedBackend.store.others 7).length = 1 := by
  intro exchange exchange'
  have hattainable : lonelyBackend.Attainable := .run (.ofUsers _ _) guarded _
  have hattainable' : sharedBackend.Attainable := .run (.ofUsers _ _) guarded _
  have hdirectory : lonelyBackend.directory = sharedBackend.directory := by decide +kernel
  have hagree : Backend.AgreeFor 7 lonelyBackend sharedBackend :=
    { rows := by decide +kernel
      clock := by decide +kernel
      directory := fun id => by rw [hdirectory]
      drawn := by decide +kernel }
  have hfresh : lonelyBackend.DrawsFresh := .of_draw drawn_lonelyBackend (by decide +kernel)
  have hfresh' : sharedBackend.DrawsFresh :=
    .of_draw (hagree.drawn.symm.trans drawn_lonelyBackend) (by decide +kernel)
  have hpresents : lonelyBackend.Presents 7 revocation :=
    ⟨_, [], _, rfl, bearerCredential_ofBlock issuedBlock, by decide +kernel⟩
  have hfree : lonelyBackend.FaultFree := (run_sound (.ofUsers _ _) _).faultFree
  have hfree' : sharedBackend.FaultFree := (run_sound (.ofUsers _ _) _).faultFree
  obtain ⟨hresponse, -, -, -, hothers⟩ := owner_isolated hattainable hattainable' hfree hfree'
    hagree hfresh hfresh' hpresents guarded ⟨"r1", "s1"⟩ ⟨"r2", "s2"⟩
  exact ⟨hresponse, hothers, by decide +kernel⟩

end Service
end BearerTokens
