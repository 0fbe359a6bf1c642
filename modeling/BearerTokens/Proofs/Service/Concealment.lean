import BearerTokens.Proofs.Filter.Lookups
import BearerTokens.Proofs.Management.Failures
import BearerTokens.Proofs.Service.Exits
import BearerTokens.Proofs.Service.Isolation

/-!
# What a client learns of a failure

Once a request is authenticated, its handler may meet a failure of the store or of the
random source.  The client is then told one and the same thing, whatever failed and
whatever the error said, except when the store refuses a new token: a name that is taken
and an owner that is gone are told as such.  The store has not changed.

Main results:

- Definition {lit}`Service.Fails`: a failure that the handler of a request meets.
- Theorem {lit}`Service.fails_tells`: the response to a request whose handler fails.
- Theorem {lit}`Service.failures_concealed`: the same for all failures, as statuses, as a
  comparison of two runs, and with the store that is left.
-/

namespace BearerTokens
namespace Service

variable {σ : Type} {service : Service} {environment : Environment σ} {ids : Identifiers}
  {request : Http.Request} {s : σ} {bearer : Authenticated} {call : Call} {answer : call.Answer}

/-! ## Behind the filter -/

/-- The longest body that is read of a request. -/
def readLimit (request : Http.Request) : Nat :=
  min maxBodyLength ((declaredLength? request).getD maxBodyLength)

/-- How the filter decides about a request, under the limit on its handling. -/
def deciding (service : Service) (environment : Environment σ) (request : Http.Request) (s : σ) :
    Run σ Outcome :=
  service.filter.authenticate environment request.authorization (some service.requestTimeout) s

/-- The handler of a request that is authenticated. -/
def handler (service : Service) (ids : Identifiers) (request : Http.Request)
    (bearer : Authenticated) : Procedure Http.Response :=
  service.dispatch (some (.ofBearer bearer ids.session)) request (readLimit request)

/-- The time that the filter leaves to the handler. -/
def timeLeft (service : Service) (environment : Environment σ) (request : Http.Request) (s : σ) :
    Nat :=
  service.requestTimeout - (service.deciding environment request s).elapsed

/-- A response as it is sent to a client, with the identifier of its request. -/
def sent (request : Http.Request) (drawn : String) (response : Http.Response) : Http.Response :=
  finish request.path request.method (identify request drawn response)

/-- A handler tells of a failure by the call that failed. -/
theorem handler_stopsAt (service : Service) (ids : Identifiers) (request : Http.Request)
    (bearer : Authenticated) :
    (service.handler ids request bearer).StopsAt
      (Tells bearer.user.id (request.Wants (readLimit request))) := by
  unfold handler dispatch
  cases Route.ofPath? request.path with
  | none => exact trivial
  | some route =>
    simp only
    cases route.operation? request.method with
    | none => exact trivial
    | some operation =>
      exact operation.handle_stopsAt service.filter.enabled (.ofBearer bearer ids.session) request
        (readLimit request)

/-- A request that is authenticated and handled in time gets the response of its handler. -/
theorem respond_of_handled (hlength : (declaredLength? request).any (maxBodyLength < ·) = false)
    (hbearer : (service.deciding environment request s).result = some (.authenticated bearer))
    {response : Http.Response}
    (hresult : ((service.handler ids request bearer).run environment
      (some (service.timeLeft environment request s))
      (service.deciding environment request s).state).result = some response) :
    let exchange := service.respond environment ids request s
    let handled := (service.handler ids request bearer).run environment
      (some (service.timeLeft environment request s)) (service.deciding environment request s).state
    exchange.response = sent request ids.request response ∧ exchange.state = handled.state := by
  intro exchange handled
  have hfiltered : service.filtered environment ids.session none request
      (fun caller => service.dispatch caller request (readLimit request))
      (some service.requestTimeout) s =
      ⟨handled.result, (service.deciding environment request s).elapsed + handled.elapsed,
        handled.state, (service.deciding environment request s).calls ++ handled.calls⟩ :=
    Activity.bind_of_some hbearer _
  unfold readLimit at hfiltered
  simp only [exchange, respond, respondInside, hlength, Bool.false_eq_true, if_false, timed,
    Activity.within, exceeds, hfiltered, handled, hresult, Option.join_some, sent, and_self]

/-! ## Failures -/

/-- A request is authenticated, and its handler is answered in time that a call failed. -/
structure Fails (service : Service) (environment : Environment σ) (ids : Identifiers)
    (request : Http.Request) (s : σ) (bearer : Authenticated) (call : Call)
    (answer : call.Answer) : Prop where
  /-- The body is not declared too long. -/
  length : (declaredLength? request).any (maxBodyLength < ·) = false
  authenticated :
    (service.deciding environment request s).result = some (.authenticated bearer)
  /-- Behind the filter the handler meets the call, in the time that is left. -/
  meets : (service.handler ids request bearer).Meets environment
    (service.timeLeft environment request s) (service.deciding environment request s).state
    call answer
  failed : Backend.hasFailed call answer = true

/-- The response to a request whose handler fails tells of the failure by the call. -/
theorem fails_tells (h : service.Fails environment ids request s bearer call answer) :
    ∃ response, Tells bearer.user.id (request.Wants (readLimit request)) call answer response ∧
      (service.respond environment ids request s).response =
        sent request ids.request response := by
  obtain ⟨response, hresult, htells⟩ := h.meets.result
    (service.handler_stopsAt ids request bearer) h.failed
  exact ⟨response, htells, (respond_of_handled h.length h.authenticated hresult).1⟩

/-- A request whose handler fails leaves the store as it is, whatever faults there are. -/
theorem fails_store {backend : Backend}
    (h : service.Fails Backend.environment ids request backend bearer call answer) :
    (service.respond Backend.environment ids request backend).state.store = backend.store := by
  have hstops := service.handler_stopsAt ids request bearer
  obtain ⟨response, hresult, -⟩ := h.meets.result hstops h.failed
  obtain ⟨plan, hfilter⟩ := service.filter.replanned_authenticate request.authorization
    (some service.requestTimeout) backend
  rw [(respond_of_handled h.length h.authenticated hresult).2, hstops.store_eq h.meets h.failed,
    deciding, hfilter]

/-- What the three kinds of failures are told as, on behalf of an owner. -/
structure Told (request : Http.Request) (ids : Identifiers) (owner : Int) (call : Call)
    (answer : call.Answer) (response : Http.Response) : Prop where
  concealed_iff : response.status = 500 ↔ Concealed call answer
  conflicts_iff : response.status = 409 ↔ Conflicts call answer
  lacksOwner_iff : response.status = 400 ↔ LacksOwner call answer
  concealed : Concealed call answer → response = sent request ids.request concealedResponse
  taken : Conflicts call answer → ∃ wanted,
    CreateRequest.ofBody request (readLimit request) = .ok wanted ∧
      response = sent request ids.request (takenResponse wanted.name)
  ownerless : LacksOwner call answer →
    response = sent request ids.request (ownerlessResponse owner)

/-- No failure is of two kinds. -/
theorem kinds_exclusive (call : Call) (answer : call.Answer) :
    (Concealed call answer → ¬ Conflicts call answer) ∧
      (Concealed call answer → ¬ LacksOwner call answer) ∧
      (Conflicts call answer → ¬ LacksOwner call answer) := by
  refine ⟨?_, ?_, ?_⟩
  · rintro hconcealed ⟨token⟩
    cases hconcealed
  · rintro hconcealed ⟨token⟩
    cases hconcealed
  · rintro hconflicts ⟨token⟩
    cases hconflicts

/-- A response is sent with its own status. -/
theorem status_sent (request : Http.Request) (drawn : String) (response : Http.Response) :
    (sent request drawn response).status = response.status := by
  rw [sent, status_finish]
  rfl

/-- A failure is told by its kind. -/
theorem fails_told (h : service.Fails environment ids request s bearer call answer) :
    Told request ids bearer.user.id call answer
      (service.respond environment ids request s).response := by
  obtain ⟨response, htells, hresponse⟩ := fails_tells h
  obtain ⟨hfirst, hsecond, hthird⟩ := kinds_exclusive call answer
  rw [hresponse]
  have hstatus := status_sent request ids.request response
  cases htells with
  | concealed hkind =>
    have hcode : _ = 500 := hstatus
    exact
      { concealed_iff := iff_of_true hcode hkind
        conflicts_iff := iff_of_false (hcode.trans_ne (by decide)) (hfirst hkind)
        lacksOwner_iff := iff_of_false (hcode.trans_ne (by decide)) (hsecond hkind)
        concealed := fun _ => rfl
        taken := fun hother => absurd hother (hfirst hkind)
        ownerless := fun hother => absurd hother (hsecond hkind) }
  | taken hkind hwants =>
    obtain ⟨wanted, hbody, rfl⟩ := hwants
    have hcode : _ = 409 := hstatus
    exact
      { concealed_iff := iff_of_false (hcode.trans_ne (by decide)) fun hother => hfirst hother hkind
        conflicts_iff := iff_of_true hcode hkind
        lacksOwner_iff := iff_of_false (hcode.trans_ne (by decide)) (hthird hkind)
        concealed := fun hother => absurd hkind (hfirst hother)
        taken := fun _ => ⟨wanted, hbody, rfl⟩
        ownerless := fun hother => absurd hother (hthird hkind) }
  | ownerless hkind =>
    have hcode : _ = 400 := hstatus
    exact
      { concealed_iff :=
          iff_of_false (hcode.trans_ne (by decide)) fun hother => hsecond hother hkind
        conflicts_iff :=
          iff_of_false (hcode.trans_ne (by decide)) fun hother => hthird hother hkind
        lacksOwner_iff := iff_of_true hcode hkind
        concealed := fun hother => absurd hkind (hsecond hother)
        taken := fun hother => absurd hkind (hthird hother)
        ownerless := fun _ => rfl }
  | unfailed _ hnot =>
    rw [h.failed] at hnot
    cases hnot

/-- Two sent forms of one response differ in nothing but an identifier that is drawn. -/
theorem sent_without (request : Http.Request) (drawn drawn' : String) (response : Http.Response) :
    (sent request drawn response).without identifierField =
        (sent request drawn' response).without identifierField ∧
      (identifier request drawn = identifier request drawn' →
        sent request drawn response = sent request drawn' response) := by
  constructor
  · rw [sent, without_finish, without_identify]
    rw [sent, without_finish _ _ (identify request drawn' _), without_identify]
  · intro hidentifier
    simp only [sent, identify, hidentifier]

/--
Over any collaborators, an authenticated request whose handler meets a failure is answered
by the kind of the failure: 500 in fixed words for every failure of a look-up, a listing, a
deletion, the random source, and of the database at an insertion; 409 with the name that
was asked for exactly when the insertion conflicts; 400 exactly when it lacks its owner.
So any two runs of a request with failures of the first kind, over whatever collaborators,
are answered alike, apart from an identifier that is drawn.  A failure, of any kind and
with any faults, leaves the store as it was.
-/
theorem failures_concealed (service : Service) (request : Http.Request) :
    (∀ {σ : Type} {environment : Environment σ} {ids : Identifiers} {s : σ}
        {bearer : Authenticated} {call : Call} {answer : call.Answer},
      service.Fails environment ids request s bearer call answer →
      Told request ids bearer.user.id call answer
        (service.respond environment ids request s).response) ∧
    (∀ {σ σ' : Type} {environment : Environment σ} {environment' : Environment σ'}
        {ids ids' : Identifiers} {s : σ} {s' : σ'} {bearer bearer' : Authenticated}
        {call call' : Call} {answer : call.Answer} {answer' : call'.Answer},
      service.Fails environment ids request s bearer call answer → Concealed call answer →
      service.Fails environment' ids' request s' bearer' call' answer' →
      Concealed call' answer' →
      let response := (service.respond environment ids request s).response
      let response' := (service.respond environment' ids' request s').response
      response.without identifierField = response'.without identifierField ∧
        (identifier request ids.request = identifier request ids'.request →
          response = response')) ∧
    ∀ {ids : Identifiers} {backend : Backend} {bearer : Authenticated} {call : Call}
        {answer : call.Answer},
      service.Fails Backend.environment ids request backend bearer call answer →
      (service.respond Backend.environment ids request backend).state.store = backend.store := by
  refine ⟨fails_told, ?_, fails_store⟩
  intro σ σ' environment environment' ids ids' s s' bearer bearer' call call' answer answer'
    h hkind h' hkind' response response'
  have hresponse : response = sent request ids.request concealedResponse :=
    (fails_told h).concealed hkind
  have hresponse' : response' = sent request ids'.request concealedResponse :=
    (fails_told h').concealed hkind'
  rw [hresponse, hresponse']
  exact sent_without request ids.request ids'.request concealedResponse

/-- A request to list tokens, with the secret that was issued. -/
def listing : Http.Request :=
  { issuedRequest with path := "/api/v1/access_tokens".toList }

/-- The backend after the issue, with a failure planned for the next listing. -/
def failingBackend (error : StoreError) : Backend :=
  { issuedBackend with faults := [(.listByOwner, ⟨some error, false, 0, 0⟩)] }

/-- A listing that is authenticated before any planned failure fails as planned. -/
theorem fails_listing (error : StoreError) (ids : Identifiers)
    (hbearer : (guarded.deciding Backend.environment listing (failingBackend error)).result =
      some (.authenticated ⟨.ordinary 7 "alice" true, 1, "ci"⟩))
    (hstate : (guarded.deciding Backend.environment listing (failingBackend error)).state =
      failingBackend error) :
    guarded.Fails Backend.environment ids listing (failingBackend error)
      ⟨.ordinary 7 "alice" true, 1, "ci"⟩ (.listByOwner 7) (.error error) where
  length := rfl
  authenticated := hbearer
  meets := by
    rw [hstate]
    exact .first (Nat.zero_le _)
  failed := rfl

/-- A listing tells nothing of where its database is, nor that its store answers oddly. -/
theorem failures_concealed_listing :
    let refused : StoreError := .database (.reported "connection to 10.0.0.5 refused")
    let exchange := guarded.respond Backend.environment ⟨"r1", "s1"⟩ listing
      (failingBackend refused)
    let exchange' := guarded.respond Backend.environment ⟨"r2", "s2"⟩ listing
      (failingBackend .unknownOwner)
    exchange.response.without identifierField = exchange'.response.without identifierField ∧
      exchange.response.status = 500 ∧ exchange.state.store = issuedBackend.store := by
  intro refused exchange exchange'
  have hfails := fails_listing refused ⟨"r1", "s1"⟩ (by decide +kernel) (by decide +kernel)
  have hfails' := fails_listing .unknownOwner ⟨"r2", "s2"⟩ (by decide +kernel)
    (by decide +kernel)
  obtain ⟨htold, hconcealed, hstore⟩ := failures_concealed guarded listing
  have hkind : Concealed (.listByOwner 7) (.error refused) := .list 7 refused
  exact ⟨(hconcealed hfails hkind hfails' (.list 7 _)).1, (htold hfails).concealed_iff.mpr hkind,
    hstore hfails⟩

end Service
end BearerTokens
