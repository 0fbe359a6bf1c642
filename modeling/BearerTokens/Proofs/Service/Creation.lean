import BearerTokens.Proofs.Service.Addressability
import BearerTokens.Proofs.Time.Expiry

/-!
# What becomes of a request to create a token

The texts and the lifetime of a new token are checked in three places: before the clock is
read, when the expiry is computed, and by the token service.  Together they refuse a request
for the first of five reasons, and otherwise the name decides: if the caller has a token of
this name there is a conflict, and else a row is added with exactly what was asked for.

Main results:

- Definition {lit}`CreateRequest.refusal?`: the first reason to refuse a request.
- Definition {lit}`Service.Submits`: the requests of a caller to create a token.
- Theorem {lit}`Service.creation_outcome`: the answer to such a request, and the store then.
-/

namespace BearerTokens

/-! ## Refusals -/

/-- Why a request to create a token is refused at a time, whatever tokens there are. -/
def CreateRequest.refusal? (wanted : CreateRequest) (now : Int) : Option String :=
  if wanted.name.toList.all Text.isBlank then some "name is required"
  else if wanted.hours ≤ 0 then some "expires_in_hours must be a positive number of hours"
  else if 9223372036854775807 < now + 3600000 * wanted.hours then
    some "expires_in_hours is too large"
  else if 255 < wanted.name.length then some "Token name must not exceed 255 characters."
  else if wanted.description.any fun text => 512 < text.length then
    some "Token description must not exceed 512 characters."
  else none

/-- Which of its texts a new token is refused for, and how this is told. -/
theorem Lifecycle.refusal?_of_pos {owner : Int} (h : 0 < owner) (name : String)
    (description : Option String) :
    refusal? owner name description =
      if 255 < name.length then
        some (.validation .name "Token name must not exceed 255 characters.")
      else if description.any fun text => 512 < text.length then
        some (.validation .description "Token description must not exceed 512 characters.")
      else none := by
  simp only [refusal?, Int.not_le.mpr h, if_false]
  rfl

/-- The three places where a request is checked refuse it for the first reason. -/
theorem CreateRequest.refusal?_eq {wanted : CreateRequest} {now owner : Int} (hnow : 0 ≤ now)
    (howner : 0 < owner) :
    wanted.refusal? now =
      match wanted.objection?, wanted.expiresAt now with
      | some objection, _ => some objection
      | none, none => some "expires_in_hours is too large"
      | none, some _ =>
        (Lifecycle.refusal? owner wanted.name wanted.description).map TokenError.message := by
  have hblank : wanted.name.toList.all Text.isBlank = Text.allBlank wanted.name := rfl
  simp only [refusal?, objection?, expiresAt, hblank]
  cases Text.allBlank wanted.name with
  | true => rfl
  | false =>
    simp only [Bool.false_eq_true, if_false]
    by_cases hhours : wanted.hours ≤ 0
    · simp only [hhours, if_true]
    · have hlarge := hoursAfter_eq_none_iff hnow (Int.not_le.mp hhours)
      simp only [hhours, if_false, ← hlarge]
      cases hoursAfter now wanted.hours with
      | none => rfl
      | some expiry =>
        simp only [Lifecycle.refusal?_of_pos howner, reduceCtorEq, if_false]
        split
        · rfl
        · split <;> rfl

/-- The expiry of a token whose request is not refused is in the future, and fits 64 bits. -/
theorem CreateRequest.expiry_of_unrefused {wanted : CreateRequest} {now : Int}
    (h : wanted.refusal? now = none) :
    now < now + 3600000 * wanted.hours ∧ now + 3600000 * wanted.hours ≤ 9223372036854775807 := by
  unfold refusal? at h
  split at h
  · cases h
  · split at h
    · cases h
    · split at h
      · cases h
      · omega

namespace Service

variable {service : Service} {backend : Backend} {request : Http.Request} {owner : Int}
  {wanted : CreateRequest}

/-! ## Requests of a caller to create a token -/

/-- A request of a caller to create a token, with a body that is read as what it wants. -/
structure Submits (backend : Backend) (request : Http.Request) (owner : Int)
    (wanted : CreateRequest) : Prop where
  method : request.method = "POST"
  path : request.path = "/api/v1/access_tokens".toList
  caller : ActsFor backend request owner
  json : declaresJson request = true
  length : request.body.length ≤ 65536
  /-- A declared length is no less than that of the body, and not too long. -/
  declared : ∀ length, declaredLength? request = some length →
    request.body.length ≤ length ∧ length ≤ 65536
  body : CreateRequest.decode request.body = .ok wanted

/-- A body that is as long as declared, and not too long, is read. -/
theorem Submits.ofBody (h : Submits backend request owner wanted) :
    CreateRequest.ofBody request (bodyLimit request) = .ok wanted := by
  have hfits : request.body.length ≤ bodyLimit request := by
    rw [bodyLimit]
    cases hdeclared : declaredLength? request with
    | none => exact Nat.le_min.mpr ⟨h.length, h.length⟩
    | some length => exact Nat.le_min.mpr ⟨h.length, (h.declared length hdeclared).1⟩
  simp only [CreateRequest.ofBody, h.json, Bool.not_true, Bool.false_eq_true, if_false,
    Nat.not_lt.mpr hfits, h.body]

/-- A request to create a token is handled as a creation for its caller. -/
theorem Submits.handling (h : Submits backend request owner wanted) (hsound : backend.Sound)
    (henabled : service.filter.enabled = true) (session : String) :
    ∃ who : Caller, who.userId = owner ∧
      service.handling backend session request = Operation.creation who wanted backend.clock := by
  have hlength : (declaredLength? request).any (maxBodyLength < ·) = false := by
    cases hdeclared : declaredLength? request with
    | none => rfl
    | some length => exact decide_eq_false (Nat.not_lt.mpr (h.declared length hdeclared).2)
  rcases exists_routing hsound henabled h.caller hlength session with ⟨who, hwho, hrouting⟩
  have hroute : Route.ofPath? request.path = some .collection := by
    rw [h.path]
    decide +kernel
  have hoperation : Route.collection.operation? request.method = some .create := by
    rw [h.method]
    rfl
  refine ⟨who, hwho, ?_⟩
  rw [hrouting, routing_eq henabled hroute hoperation (by simp)]
  simp only [Operation.handlingFor, h.ofBody]

/-! ## Answers -/

/-- An exchange that tells a problem and leaves the backend as it was. -/
structure Refuses (exchange : Exchange Backend) (backend : Backend) (status : Nat)
    (code message : String) : Prop where
  status : exchange.response.status = status
  body : exchange.response.body = (Json.object [
    ("error", .object [("code", .string code), ("message", .string message)])]).text
  state : exchange.state = backend

/-- A handling that comes to a problem and changes nothing is answered with this problem. -/
theorem refuses_of_problem (h : backend.FaultFree) {ids : Identifiers} {handling : Handling}
    (hhandling : service.handling backend ids.session request = handling) {problem : Problem}
    (heval : handling.procedure.eval Backend.answer backend = (problem.response, backend))
    (hmethod : request.method ≠ "HEAD") :
    Refuses (service.respond Backend.environment ids request backend) backend problem.status
      problem.code problem.message := by
  rcases respond_eq h service ids request with ⟨hresponse, hstate⟩
  rw [hhandling, heval] at hresponse hstate
  refine ⟨?_, ?_, hstate⟩
  · rw [hresponse, status_finish]
    exact problem.status_response
  · rw [hresponse, body_finish _ hmethod]
    exact body_problem problem

/-- The token service's errors about the texts of a new token are told as they are. -/
theorem problem_of_refusal (h : 0 < owner) {name : String} {description : Option String}
    {cause : TokenError} (hrefusal : Lifecycle.refusal? owner name description = some cause) :
    Problem.ofTokenError cause = .badRequest cause.message := by
  rw [Lifecycle.refusal?_of_pos h] at hrefusal
  split at hrefusal
  · cases hrefusal
    rfl
  · split at hrefusal
    · cases hrefusal
      rfl
    · cases hrefusal

/-- A request with something to refuse is refused for it, and changes nothing. -/
theorem refuses_of_refusal (h : backend.Attainable) (hfree : backend.FaultFree)
    (henabled : service.filter.enabled = true) (hnow : 0 ≤ backend.clock)
    (hsubmits : Submits backend request owner wanted) (ids : Identifiers) {message : String}
    (hrefusal : wanted.refusal? backend.clock = some message) :
    Refuses (service.respond Backend.environment ids request backend) backend 400
      "VALIDATION_ERROR" message := by
  have howner := pos_of_actsFor h hsubmits.caller
  rcases hsubmits.handling (h.sound hfree) henabled ids.session with ⟨who, rfl, hhandling⟩
  have hmethod : request.method ≠ "HEAD" := by
    rw [hsubmits.method]
    decide
  suffices heval : (Operation.creation who wanted backend.clock).procedure.eval Backend.answer
      backend = ((Problem.badRequest message).response, backend) from
    refuses_of_problem hfree hhandling heval hmethod
  rw [CreateRequest.refusal?_eq hnow howner] at hrefusal
  unfold Operation.creation
  cases hobjection : wanted.objection? with
  | some objection =>
    simp only [hobjection, Option.some.injEq] at hrefusal
    rw [hrefusal]
    rfl
  | none =>
    cases hexpires : wanted.expiresAt backend.clock with
    | none =>
      simp only [hobjection, hexpires, Option.some.injEq] at hrefusal
      rw [← hrefusal]
      rfl
    | some expiresAt =>
      simp only [hobjection, hexpires, Option.map_eq_some_iff] at hrefusal
      rcases hrefusal with ⟨cause, hcause, rfl⟩
      simp only [Handling.procedure, Procedure.eval_map,
        ServiceCall.eval_issue_of_refusal hcause, ← problem_of_refusal howner hcause]
      rfl

/-- A request with nothing to refuse leads to the issue of its token. -/
theorem handling_of_unrefused (h : backend.Attainable) (hfree : backend.FaultFree)
    (henabled : service.filter.enabled = true) (hnow : 0 ≤ backend.clock)
    (hsubmits : Submits backend request owner wanted) (session : String)
    (hrefusal : wanted.refusal? backend.clock = none) :
    let expiresAt := backend.clock + 3600000 * wanted.hours
    Lifecycle.refusal? owner wanted.name wanted.description = none ∧
      service.handling backend session request =
        .serve (.issue owner wanted.name wanted.description expiresAt) := by
  have howner := pos_of_actsFor h hsubmits.caller
  rcases hsubmits.handling (h.sound hfree) henabled session with ⟨who, rfl, hhandling⟩
  rw [CreateRequest.refusal?_eq hnow howner] at hrefusal
  rw [hhandling, Operation.creation]
  cases hobjection : wanted.objection? with
  | some objection => simp only [hobjection, reduceCtorEq] at hrefusal
  | none =>
    cases hexpires : wanted.expiresAt backend.clock with
    | none => simp only [hobjection, hexpires, reduceCtorEq] at hrefusal
    | some expiresAt =>
      simp only [hobjection, hexpires, Option.map_eq_none_iff] at hrefusal
      have hsum := hoursAfter_eq_some hexpires
      rw [millisPerHour] at hsum
      exact ⟨hrefusal, by rw [hsum]⟩

/--
In every attainable backend without faults, with a filter and a clock that is not negative,
an authentic caller submits a request to create a token, and the next random block makes a
new secret.  The request is refused for the first of the five reasons that holds, with this
reason and without a change.  If none holds and the caller has a token of exactly this name,
there is a conflict, also without a change.  Otherwise one row is added for the caller, with
the name and the description as they are, an exact expiry in the future, and the digest of
the secret; and the answer tells of this row, and the secret.
-/
theorem creation_outcome (h : backend.Attainable) (hfree : backend.FaultFree)
    (henabled : service.filter.enabled = true) (hnow : 0 ≤ backend.clock)
    (hsubmits : Submits backend request owner wanted) {block : Block}
    (hdrawn : backend.entropy.draw.1 = .ok block)
    (hfresh : ∀ row ∈ backend.store.rows.values, row.digest ≠ (Secret.ofBlock block).digest)
    (ids : Identifiers) :
    let exchange := service.respond Backend.environment ids request backend
    let taken := ∃ row ∈ backend.store.rows.values, row.owner = owner ∧ row.name = wanted.name
    (∀ message, wanted.refusal? backend.clock = some message →
      Refuses exchange backend 400 "VALIDATION_ERROR" message) ∧
    (wanted.refusal? backend.clock = none →
      (taken → Refuses exchange backend 409 "CONFLICT"
        ("Token with name '" ++ wanted.name ++ "' already exist.")) ∧
      (¬ taken →
        let secret := Secret.ofBlock block
        let row := Token.ofNew (backend.store.lastId + 1) backend.creationTime
          ⟨owner, wanted.name, wanted.description, Sha256.digest (Utf8.encode secret.text),
            backend.clock + 3600000 * wanted.hours⟩
        exchange.response.status = 201 ∧
          exchange.response.body = (createdDocument row secret).text ∧
          backend.store.Inserted exchange.state.store row ∧
          backend.clock < row.expiresAt ∧ row.expiresAt ≤ 9223372036854775807)) := by
  intro exchange taken
  refine ⟨fun message => refuses_of_refusal h hfree henabled hnow hsubmits ids, ?_⟩
  intro hrefusal
  have hstore := (h.sound hfree).store
  have hmethod : request.method ≠ "HEAD" := by
    rw [hsubmits.method]
    decide
  rcases handling_of_unrefused h hfree henabled hnow hsubmits ids.session hrefusal with
    ⟨hkept, hhandling⟩
  constructor
  · rintro ⟨row, hrow, howner, hname⟩
    have hfound := hstore.findByOwnerAndName_eq_some_iff.mpr ⟨hrow, Prod.ext howner hname⟩
    let conflict := Problem.ofTokenError (.duplicate wanted.name)
    suffices heval : (Handling.serve (.issue owner wanted.name wanted.description
        (backend.clock + 3600000 * wanted.hours))).procedure.eval Backend.answer backend =
        (conflict.response, backend) from
      refuses_of_problem hfree hhandling heval hmethod
    simp only [Handling.procedure, Procedure.eval_map,
      ServiceCall.eval_issue_of_found hfree hkept hfound]
    rfl
  · intro hnone secret row
    have hunnamed : backend.store.findByOwnerAndName owner wanted.name = none := by
      refine hstore.findByOwnerAndName_eq_none_iff.mpr ?_
      intro other hother hkey
      exact hnone ⟨other, hother, congrArg Prod.fst hkey, congrArg Prod.snd hkey⟩
    rcases ServiceCall.eval_issue_of_free hfree hstore hkept hunnamed hdrawn hfresh _ with
      ⟨hconflicts, hissued⟩
    rcases respond_of_serve hfree hhandling hissued hmethod with ⟨hstatus, hbody, hstate⟩
    refine ⟨hstatus, hbody, ?_, CreateRequest.expiry_of_unrefused hrefusal⟩
    rw [hstate]
    exact hstore.inserted_add hconflicts backend.creationTime

/-- A request for a name with a blank in front that another name without it does not take. -/
def paddedCreation : Http.Request :=
  ⟨"POST", "/api/v1/access_tokens".toList,
    issuedRequest.fields ++ [⟨"content-type", Ascii.bytes "application/json"⟩],
    CreateRequest.bodyFor " ci"⟩

/-- The request is one of the caller who has a token with the name without the blank. -/
theorem submits_paddedCreation : Submits issuedBackend paddedCreation 7 (.named " ci") where
  method := rfl
  path := rfl
  caller := asks_awkwardCreation.caller
  json := by decide +kernel
  length := by decide +kernel
  declared := by
    have hundeclared : declaredLength? paddedCreation = none := rfl
    intro length hdeclared
    rw [hundeclared] at hdeclared
    cases hdeclared
  body := CreateRequest.decode_bodyFor " ci"

/-- A name is stored with its blanks, beside the same name without them. -/
theorem creation_outcome_paddedCreation :
    let exchange := guarded.respond Backend.environment ⟨"r", "s"⟩ paddedCreation issuedBackend
    exchange.response.status = 201 ∧
      exchange.state.store.rows.values.map Token.name = ["ci", " ci"] := by
  intro exchange
  have hattainable : issuedBackend.Attainable := .run (.ofUsers _ _) guarded _
  have hfree : issuedBackend.FaultFree := (run_sound (.ofUsers _ _) _).faultFree
  rcases asks_awkwardCreation.drawn with ⟨block, hdrawn, hfresh⟩
  have hguarded : guarded.filter.enabled = true := rfl
  have houtcome := creation_outcome hattainable hfree hguarded (by decide)
    submits_paddedCreation hdrawn hfresh ⟨"r", "s"⟩
  have huntaken : ¬ ∃ row ∈ issuedBackend.store.rows.values,
      row.owner = 7 ∧ row.name = " ci" := by
    decide +kernel
  rcases (houtcome.2 (by decide +kernel)).2 huntaken with ⟨hstatus, -, hinserted, -⟩
  refine ⟨hstatus, ?_⟩
  rw [hinserted.values, List.map_append]
  rfl

end Service
end BearerTokens
