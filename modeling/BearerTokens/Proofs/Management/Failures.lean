import BearerTokens.Management.Operations
import BearerTokens.Proofs.Deployment.Interruption
import BearerTokens.Proofs.Filter.Verdict

/-!
# Failures of collaborators behind the filter

A handler that meets a failure makes no more calls.  What it then tells depends on the
call that failed: only a refused insertion is told apart by its error, and every other
failure is told in the same words.

Main results:

- Definition {lit}`Procedure.Meets`: the calls that a procedure makes in time, with their
  answers.
- Definitions {lit}`Concealed`, {lit}`Conflicts` and {lit}`LacksOwner`: the failures that
  are told alike, and the two that are told apart.
- Theorem {lit}`Operation.handle_stopsAt`: what each handler tells of a failure.
- Theorem {lit}`Procedure.StopsAt.store_eq`: a handler that meets a failure has changed
  nothing in the store.
-/

namespace BearerTokens

variable {σ α β : Type}

/-! ## The calls that a procedure meets -/

namespace Procedure

/-- Under a limit of time a procedure makes a call, and the answer comes in time. -/
inductive Meets (environment : Environment σ) :
    Procedure α → Nat → σ → (call : Call) → call.Answer → Prop where
  | first {call : Call} {next : call.Answer → Procedure α} {limit : Nat} {s : σ} :
    (environment s call).delay ≤ limit →
    Meets environment (.ask call next) limit s call (environment s call).answer
  | later {call met : Call} {next : call.Answer → Procedure α} {limit : Nat} {s : σ}
    {answer : met.Answer} :
    (environment s call).delay ≤ limit →
    Meets environment (next (environment s call).answer)
      (limit - (environment s call).delay) (environment s call).state met answer →
    Meets environment (.ask call next) limit s met answer

/-- Whether no procedure here goes on after an answer: the call failed, or changed the store. -/
def IsLast (call : Call) (answer : call.Answer) : Prop :=
  Backend.hasFailed call answer = true ∨ call.mutates = true

/-- After a last answer a procedure ends, with a result that tells of the answer. -/
def StopsAt (tells : (call : Call) → call.Answer → α → Prop) : Procedure α → Prop
  | .done _ => True
  | .ask call next => ∀ answer,
    (IsLast call answer → ∃ value, next answer = .done value ∧ tells call answer value) ∧
      (next answer).StopsAt tells

variable {environment : Environment σ} {tells : (call : Call) → call.Answer → α → Prop}
  {p : Procedure α} {limit : Nat} {s : σ} {call : Call} {answer : call.Answer}

/-- A procedure that meets a failure ends with a result that tells of it. -/
theorem Meets.result (h : p.Meets environment limit s call answer) (hstops : p.StopsAt tells)
    (hfailed : Backend.hasFailed call answer = true) :
    ∃ value, (p.run environment (some limit) s).result = some value ∧
      tells call answer value := by
  induction h with
  | first hintime =>
    obtain ⟨value, hnext, htells⟩ := (hstops _).1 (.inl hfailed)
    refine ⟨value, ?_, htells⟩
    rw [run_ask_of_prompt _ rfl hintime, hnext]
    rfl
  | later hintime _ ih =>
    obtain ⟨value, hresult, htells⟩ := ih (hstops _).2 hfailed
    refine ⟨value, ?_, htells⟩
    rw [run_ask_of_prompt _ rfl hintime]
    exact hresult

end Procedure

/-! ## The store -/

namespace Backend

/-- A call that does not change the store leaves it, whatever faults there are. -/
theorem store_of_not_mutates (backend : Backend) {call : Call} (h : call.mutates = false) :
    (environment backend call).state.store = backend.store := by
  obtain ⟨plan, -, ⟨-, hstate⟩ | ⟨-, hstate⟩⟩ := environment_cases backend call
  · rw [hstate]
    cases call with
    | insert token => cases h
    | delete id => cases h
    | load user =>
      obtain ⟨error, hload⟩ | hload := answer_load_cases { backend with faults := plan } user
      · rw [hload]
      · rw [hload]
    | _ => rfl
  · rw [hstate]

/-- An insertion that fails leaves the store as it is. -/
theorem store_of_failed_insert (backend : Backend) {token : NewToken}
    (h : hasFailed (.insert token) (backend.answer (.insert token)).1 = true) :
    (backend.answer (.insert token)).2.store = backend.store := by
  simp only [answer] at h ⊢
  split
  · rfl
  · next hservice =>
    simp only [hservice, TokenStore.insert] at h ⊢
    split
    · rfl
    · next hfree =>
      rw [if_neg hfree] at h
      cases h

/-- A deletion that fails leaves the store as it is. -/
theorem store_of_failed_delete (backend : Backend) {id : Int}
    (h : hasFailed (.delete id) (backend.answer (.delete id)).1 = true) :
    (backend.answer (.delete id)).2.store = backend.store := by
  simp only [answer] at h ⊢
  split
  · rfl
  · next hservice =>
    rw [hservice] at h
    cases h

/-- A call that fails leaves the store as it is, whatever faults there are. -/
theorem store_of_failed (backend : Backend) {call : Call}
    (h : hasFailed call (environment backend call).answer = true) :
    (environment backend call).state.store = backend.store := by
  cases hmutates : call.mutates with
  | false => exact backend.store_of_not_mutates hmutates
  | true =>
    obtain ⟨plan, -, ⟨hanswer, hstate⟩ | ⟨-, hstate⟩⟩ := environment_cases backend call
    · rw [hanswer] at h
      rw [hstate]
      cases call with
      | insert token => exact store_of_failed_insert _ h
      | delete id => exact store_of_failed_delete _ h
      | _ => cases hmutates
    · rw [hstate]

end Backend

/-- A procedure that meets a failure leaves the store as it is, whatever faults there are. -/
theorem Procedure.StopsAt.store_eq {tells : (call : Call) → call.Answer → α → Prop}
    {p : Procedure α} (hstops : p.StopsAt tells) {limit : Nat} {backend : Backend} {call : Call}
    {answer : call.Answer} (h : p.Meets Backend.environment limit backend call answer)
    (hfailed : Backend.hasFailed call answer = true) :
    (p.run Backend.environment (some limit) backend).state.store = backend.store := by
  induction h with
  | @first call next limit backend hintime =>
    obtain ⟨value, hnext, -⟩ := (hstops _).1 (.inl hfailed)
    rw [run_ask_of_prompt _ rfl hintime, hnext]
    exact backend.store_of_failed hfailed
  | @later call met next limit backend answer hintime hlater ih =>
    -- A call that changes the store is the last, so that none comes after it.
    have hmutates : call.mutates = false := by
      by_contra hmutates
      obtain ⟨value, hnext, -⟩ := (hstops (Backend.environment backend call).answer).1
        (.inr (by simpa using hmutates))
      rw [hnext] at hlater
      cases hlater
    rw [run_ask_of_prompt _ rfl hintime]
    exact (ih (hstops _).2 hfailed).trans (backend.store_of_not_mutates hmutates)

/-! ## Failures and what is told of them -/

/-- The failures that are told alike: all but a refused insertion. -/
inductive Concealed : (call : Call) → call.Answer → Prop where
  | insert (token : NewToken) (cause : DatabaseError) :
    Concealed (.insert token) (.error (.database cause))
  | find (owner : Int) (name : String) (error : StoreError) :
    Concealed (.findByOwnerAndName owner name) (.error error)
  | resolve (digest : Digest) (error : StoreError) :
    Concealed (.findBySecretDigest digest) (.error error)
  | list (owner : Int) (error : StoreError) : Concealed (.listByOwner owner) (.error error)
  | delete (id : Int) (error : StoreError) : Concealed (.delete id) (.error error)
  | entropy (reason : String) : Concealed .entropy (.error reason)

/-- An insertion is refused because the name of its owner, or the digest, is taken. -/
inductive Conflicts : (call : Call) → call.Answer → Prop where
  | insert (token : NewToken) : Conflicts (.insert token) (.error .conflict)

/-- An insertion is refused because its owner does not exist. -/
inductive LacksOwner : (call : Call) → call.Answer → Prop where
  | insert (token : NewToken) : LacksOwner (.insert token) (.error .unknownOwner)

/-- The JSON document of a problem with a code and a message. -/
def problemJson (code message : String) : Json :=
  .object [("error", .object [("code", .string code), ("message", .string message)])]

/-- The one response to all failures that are told alike. -/
def concealedResponse : Http.Response :=
  .json 500 (problemJson "INTERNAL_SERVER_ERROR" "internal server error")

example : concealedResponse.body = "\x7b\"error\":\x7b\"code\":\"INTERNAL_SERVER_ERROR\"," ++
    "\"message\":\"internal server error\"\x7d\x7d" := by decide

/-- The response to a name that is taken. -/
def takenResponse (name : String) : Http.Response :=
  .json 409 (problemJson "CONFLICT" ("Token with name '" ++ name ++ "' already exist."))

/-- The response to an owner that does not exist. -/
def ownerlessResponse (owner : Int) : Http.Response :=
  .json 400 (problemJson "VALIDATION_ERROR" ("User id with value '" ++ Decimal.text owner ++
    "' is not permitted. Access Token must be associated with a valid user-id."))

/-- What is told of a last answer on behalf of an owner, who may want tokens of some names. -/
inductive Tells (owner : Int) (wants : String → Prop) (call : Call) (answer : call.Answer) :
    Http.Response → Prop where
  | concealed : Concealed call answer → Tells owner wants call answer concealedResponse
  | taken {name : String} : Conflicts call answer → wants name →
    Tells owner wants call answer (takenResponse name)
  | ownerless : LacksOwner call answer → Tells owner wants call answer (ownerlessResponse owner)
  | unfailed (response : Http.Response) : Backend.hasFailed call answer = false →
    Tells owner wants call answer response

/-! ## Handlers -/

namespace Management

open Procedure

variable {wants : String → Prop}

/-- An answer that neither fails nor changes the store is not a last one. -/
theorem not_isLast {call : Call} {answer : call.Answer}
    (hfailed : Backend.hasFailed call answer = false) (hmutates : call.mutates = false) :
    ¬ IsLast call answer := by
  rintro (h | h)
  · rw [hfailed] at h
    cases h
  · rw [hmutates] at h
    cases h

/-- A listing that fails conceals why. -/
theorem list_stopsAt (caller : Caller) : (list caller).StopsAt (Tells caller.userId wants) := by
  intro rows
  refine ⟨fun _ => ?_, trivial⟩
  match rows with
  | .error error => exact ⟨_, rfl, .concealed (.list _ error)⟩
  | .ok rows => exact ⟨_, rfl, .unfailed _ rfl⟩

/-- A look-up that fails conceals why. -/
theorem find_stopsAt (caller : Caller) (name : String) :
    (find caller name).StopsAt (Tells caller.userId wants) := by
  intro row
  refine ⟨fun _ => ?_, trivial⟩
  match row with
  | .error error => exact ⟨_, rfl, .concealed (.find _ _ error)⟩
  | .ok none => exact ⟨_, rfl, .unfailed _ rfl⟩
  | .ok (some row) => exact ⟨_, rfl, .unfailed _ rfl⟩

/-- A revocation conceals why its look-up or its deletion fails. -/
theorem revoke_stopsAt (caller : Caller) (name : String) :
    (revoke caller name).StopsAt (Tells caller.userId wants) := by
  intro found
  match found with
  | .error error => exact ⟨fun _ => ⟨_, rfl, .concealed (.find _ _ error)⟩, trivial⟩
  | .ok none => exact ⟨fun _ => ⟨_, rfl, .unfailed _ rfl⟩, trivial⟩
  | .ok (some row) =>
    refine ⟨fun hlast => absurd hlast (not_isLast rfl rfl), fun answer => ⟨fun _ => ?_, trivial⟩⟩
    match answer with
    | .error error => exact ⟨_, rfl, .concealed (.delete _ error)⟩
    | .ok true => exact ⟨_, rfl, .unfailed _ rfl⟩
    | .ok false => exact ⟨_, rfl, .unfailed _ rfl⟩

/-- An issue conceals why it fails, unless the store refuses the new token. -/
theorem issue_stopsAt (caller : Caller) (request : CreateRequest) (hwants : wants request.name)
    (expiresAt : Int) :
    ((Lifecycle.issue caller.userId request.name request.description expiresAt).map
      (answer 201 (issuedJson request expiresAt))).StopsAt (Tells caller.userId wants) := by
  unfold Lifecycle.issue
  cases Lifecycle.refusal? caller.userId request.name request.description with
  | some refusal => exact trivial
  | none =>
    intro found
    match found with
    | .error error => exact ⟨fun _ => ⟨_, rfl, .concealed (.find _ _ error)⟩, trivial⟩
    | .ok (some row) => exact ⟨fun _ => ⟨_, rfl, .unfailed _ rfl⟩, trivial⟩
    | .ok none =>
      refine ⟨fun hlast => absurd hlast (not_isLast rfl rfl), fun drawn => ?_⟩
      match drawn with
      | .error reason => exact ⟨fun _ => ⟨_, rfl, .concealed (.entropy reason)⟩, trivial⟩
      | .ok block =>
        refine ⟨fun hlast => absurd hlast (not_isLast rfl rfl),
          fun answer => ⟨fun _ => ?_, trivial⟩⟩
        match answer with
        | .ok row => exact ⟨_, rfl, .unfailed _ rfl⟩
        | .error .conflict => exact ⟨_, rfl, .taken (.insert _) hwants⟩
        | .error .unknownOwner => exact ⟨_, rfl, .ownerless (.insert _)⟩
        | .error (.database cause) => exact ⟨_, rfl, .concealed (.insert _ cause)⟩

/-- A creation conceals why it fails, unless the store refuses the new token. -/
theorem create_stopsAt (caller : Caller) (request : CreateRequest)
    (hwants : wants request.name) :
    (create caller request).StopsAt (Tells caller.userId wants) := by
  unfold create
  cases request.objection? with
  | some objection => exact trivial
  | none =>
    intro now
    refine ⟨fun hlast => absurd hlast (not_isLast rfl rfl), ?_⟩
    simp only
    cases request.expiresAt now with
    | none => exact trivial
    | some expiresAt => exact issue_stopsAt caller request hwants expiresAt

/-- An operation whose name cannot be read meets no failure. -/
theorem withName_stopsAt {tells : (call : Call) → call.Answer → Http.Response → Prop}
    {next : String → Procedure Http.Response} (h : ∀ name, (next name).StopsAt tells)
    (segment : List Char) : (withName segment next).StopsAt tells := by
  unfold withName
  cases nameOf segment with
  | error rejection => exact trivial
  | ok name => exact h name

end Management

/-- The names of tokens that a request wants, if its body asks for one. -/
def Http.Request.Wants (request : Http.Request) (bodyLimit : Nat) (name : String) : Prop :=
  ∃ wanted, CreateRequest.ofBody request bodyLimit = .ok wanted ∧ wanted.name = name

/-- An operation for a caller tells of a failure by the call that failed. -/
theorem Operation.handleFor_stopsAt (operation : Operation) (caller : Caller)
    (request : Http.Request) (bodyLimit : Nat) :
    (operation.handleFor caller request bodyLimit).StopsAt
      (Tells caller.userId (request.Wants bodyLimit)) := by
  cases operation with
  | health => exact trivial
  | list => exact Management.list_stopsAt caller
  | create =>
    unfold handleFor
    simp only
    cases hbody : CreateRequest.ofBody request bodyLimit with
    | error rejection => exact trivial
    | ok wanted => exact Management.create_stopsAt caller wanted ⟨wanted, hbody, rfl⟩
  | find segment => exact Management.withName_stopsAt (Management.find_stopsAt caller) segment
  | revoke segment => exact Management.withName_stopsAt (Management.revoke_stopsAt caller) segment

/-- An operation that may refuse its caller tells of a failure by the call that failed. -/
theorem Operation.handle_stopsAt (operation : Operation) (authEnabled : Bool) (caller : Caller)
    (request : Http.Request) (bodyLimit : Nat) :
    (operation.handle authEnabled (some caller) request bodyLimit).StopsAt
      (Tells caller.userId (request.Wants bodyLimit)) := by
  cases operation with
  | health => exact trivial
  | _ =>
    unfold handle Caller.require
    cases authEnabled with
    | false => exact trivial
    | true => exact handleFor_stopsAt _ caller request bodyLimit

end BearerTokens
