import BearerTokens.Proofs.Json.RoundTrip
import BearerTokens.Proofs.Service.Answers
import BearerTokens.Proofs.Service.Layers
import BearerTokens.Proofs.Service.Rules
import BearerTokens.Proofs.Time.TimestampText

/-!
# What documents report

A response with a JSON document is read as one of five things: the rows of the caller, one
row, a row that was just created with its secret, the message that a row was revoked, or a
problem with its code and its message.  The document has exactly the members of this
thing, whatever texts a user has chosen, and what it reports is true.

Main results:

- Definition {lit}`Service.Raises`: the problems that a request may raise.
- Definition {lit}`Service.Reports`: the documents that report what became of a request.
- Theorem {lit}`Service.documents_report`: there are no others, and each is read back.
-/

namespace BearerTokens

/-! ## Handlings and what they tell -/

/-- The response of a handling, what it made of the store, and that it told the truth. -/
def Handling.Tells (before : Backend) (response : Http.Response) (after : TokenStore) :
    Handling → Prop
  | .respond said => response = said ∧ after = before.store
  | .serve call =>
    ∃ answer, response = call.response answer ∧
      ServiceCall.Transition before after call answer ∧
      ServiceCall.Told before.store call answer

/-- With any faults, a handling that is not cut off tells the truth. -/
theorem Handling.ensures_tells {backend : Backend} (hstore : backend.store.Reachable)
    (handling : Handling) (faults : FaultPlan) :
    (handling.procedure.run Backend.environment).Ensures { backend with faults := faults }
      (fun _ => True) fun response after => handling.Tells backend response after.store := by
  cases handling with
  | respond response => exact .done ⟨rfl, rfl⟩
  | serve call =>
    apply Procedure.ensures_map
    have htransition := ServiceCall.ensures_transition { backend with faults := faults } hstore call
    have htold := ServiceCall.ensures_told { backend with faults := faults } call
    refine (htransition.and htold).imp (fun _ _ => trivial) ?_
    rintro answer after ⟨hchange, hanswer⟩
    exact ⟨answer, rfl, hchange.of_replanned, hanswer⟩

namespace Service

variable {service : Service} {backend : Backend} {request : Http.Request}
  {response : Http.Response} {after : TokenStore}

/-! ## Documents and what they report -/

/-- Whether a request names a token: in the segment of its path, or in its body. -/
inductive Names (request : Http.Request) (name : String) : Prop where
  | path {segment : List Char} : Route.ofPath? request.path = some (.item segment) →
    Management.nameOf segment = .ok name → Names request name
  | body {wanted : CreateRequest} : Route.ofPath? request.path = some .collection →
    CreateRequest.decode request.body = .ok wanted → wanted.name = name → Names request name

/-- The problems that a request may raise at a time. -/
inductive Raises (request : Http.Request) (now : Int) : Problem → Prop where
  | denied (reason : Denial) : Raises request now (.ofDenial reason)
  | refused (authEnabled : Bool) : Raises request now (Management.refusal authEnabled)
  | objected {wanted : CreateRequest} {objection : String} :
    CreateRequest.decode request.body = .ok wanted → wanted.objection? = some objection →
    Raises request now (.badRequest objection)
  | endless {wanted : CreateRequest} :
    CreateRequest.decode request.body = .ok wanted → wanted.expiresAt now = none →
    Raises request now (.badRequest "expires_in_hours is too large")
  /-- An error about a token is about one that the request names. -/
  | failed {cause : TokenError} : (∀ name, cause.name? = some name → Names request name) →
    Raises request now (.ofTokenError cause)

/-- The document of a row. -/
def rowDocument (row : Token) : Json :=
  .object [
    ("name", .string row.name),
    ("description", row.description.elim .null .string),
    ("expires_at", .integer row.expiresAt),
    ("created_at", .string row.createdAt.text)]

/-- The documents that report what became of a request, with the status of the response. -/
inductive Reports (backend : Backend) (request : Http.Request) (after : TokenStore) :
    Nat → Json → Prop where
  | listed {owner : Int} :
    Http.reads request.method → Route.ofPath? request.path = some .collection →
    ActsFor backend request owner → after = backend.store →
    Reports backend request after 200 (.array ((backend.store.listByOwner owner).map rowDocument))
  | found {row : Token} :
    Http.reads request.method → Names request row.name →
    ActsFor backend request row.owner → row ∈ backend.store.rows.values →
    after = backend.store → Reports backend request after 200 (rowDocument row)
  | created {row : Token} {secret : Secret} :
    CreatesRow backend request after row → row.digest = secret.digest →
    Reports backend request after 201 (.object [
      ("name", .string row.name),
      ("description", row.description.elim .null .string),
      ("expires_at", .integer row.expiresAt),
      ("token", .string secret.text)])
  | revoked {row : Token} :
    RevokesRow backend request after row →
    Reports backend request after 200 (.object [
      ("message", .string ("The token '" ++ row.name ++ "' was successfully deleted."))])
  | problem {problem : Problem} :
    Raises request backend.clock problem → after = backend.store →
    Reports backend request after problem.status (.object [
      ("error", .object [
        ("code", .string problem.code), ("message", .string problem.message)])])

/-! ## Documents of responses -/

/-- A response with a plain text declares no JSON. -/
theorem not_json_plain (status : Nat) (body : String) :
    Ascii.bytes "application/json" ∉ (Http.Response.plain status body).values "content-type" := by
  have hplain : (Http.Response.plain status body).values "content-type" =
      [Ascii.bytes "text/plain; charset=utf-8"] := rfl
  rw [hplain, List.mem_singleton]
  decide +kernel

/-- An optional text is sent as the text or as null. -/
theorem ofText?_eq_elim (text : Option String) : Json.ofText? text = text.elim .null .string := by
  cases text <;> rfl

/-- The document of a row is that of its members. -/
theorem json_eq_rowDocument (row : Token) : row.json = rowDocument row := by
  rw [Token.json, ofText?_eq_elim]
  rfl

/-- A problem is sent as its code and its message. -/
theorem body_problem (problem : Problem) :
    problem.response.body = (Json.object [
      ("error", .object [
        ("code", .string problem.code), ("message", .string problem.message)])]).text := by
  cases problem <;> rfl

/-- A problem that a request raises is reported. -/
theorem reports_problem {problem : Problem} (h : Raises request backend.clock problem) :
    ∃ document, problem.response.body = document.text ∧
      Reports backend request backend.store problem.response.status document := by
  rw [problem.status_response]
  exact ⟨_, body_problem problem, .problem h rfl⟩

/-- A document that answers a request at once reports a problem. -/
theorem reports_of_atOnce (h : AtOnce request backend.clock response)
    (hjson : Ascii.bytes "application/json" ∈ response.values "content-type") :
    ∃ document, response.body = document.text ∧
      Reports backend request backend.store response.status document := by
  cases h with
  | unrouted => cases hjson
  | unallowed => cases hjson
  | healthy _ => exact absurd hjson (not_json_plain _ _)
  | rejected rejection => exact absurd hjson (not_json_plain _ _)
  | denied reason => exact reports_problem (.denied reason)
  | refused authEnabled => exact reports_problem (.refused authEnabled)
  | objected hbody hobjection => exact reports_problem (.objected hbody hobjection)
  | endless hbody hexpires => exact reports_problem (.endless hbody hexpires)

/-- The error that a call answers with is reported. -/
theorem reports_error {call : ServiceCall} {cause : TokenError} (hblames : call.Blames cause)
    (hnames : ∀ name, call.name? = some name → Names request name) :
    ∃ document, (Problem.ofTokenError cause).response.body = document.text ∧
      Reports backend request backend.store (Problem.ofTokenError cause).response.status document :=
  reports_problem (.failed fun name hname => hnames name (hblames name hname))

/-- The document that a handling for an authentic caller comes to is reported. -/
theorem reports_of_handles (h : backend.Regular) {caller : Option Caller}
    (hcaller : ∀ who, caller = some who → ActsFor backend request who.userId)
    {handling : Handling} (hhandles : Handles caller request backend.clock handling)
    (htells : handling.Tells backend response after)
    (hjson : Ascii.bytes "application/json" ∈ response.values "content-type") :
    ∃ document, response.body = document.text ∧
      Reports backend request after response.status document := by
  cases hhandles with
  | respond hatonce =>
    rcases htells with ⟨rfl, rfl⟩
    exact reports_of_atOnce hatonce hjson
  | @list who hwho hroute hmethod =>
    rcases htells with ⟨answer, rfl, htransition, htold⟩
    cases htransition with
    | unchanged hfits _ =>
      match answer with
      | .listed (.error cause) =>
        exact reports_error (htold.error cause rfl) (by rintro name ⟨⟩)
      | .listed (.ok rows) =>
        have hrows : rows = backend.store.listByOwner who.userId := htold.rows
        refine ⟨_, ?_, .listed hmethod hroute (hcaller who hwho) rfl⟩
        rw [hrows, List.map_congr_left fun row _ => (json_eq_rowDocument row).symm]
        rfl
  | @find who segment name hwho hroute hmethod hname =>
    rcases htells with ⟨answer, rfl, htransition, htold⟩
    have hnamed : Names request name := .path hroute hname
    cases htransition with
    | unchanged hfits _ =>
      match answer with
      | .found (.error cause) =>
        refine reports_error (htold.error cause rfl) ?_
        rintro _ ⟨⟩
        exact hnamed
      | .found (.ok none) =>
        refine reports_problem (.failed ?_)
        rintro _ ⟨⟩
        exact hnamed
      | .found (.ok (some row)) =>
        have hfound : backend.store.findByOwnerAndName who.userId name = some row := htold.rows
        rcases h.store.findByOwnerAndName_eq_some_iff.mp hfound with ⟨hrow, hkey⟩
        have howner : row.owner = who.userId := congrArg Prod.fst hkey
        have hrowName : row.name = name := congrArg Prod.snd hkey
        refine ⟨rowDocument row, ?_, .found hmethod ?_ ?_ hrow rfl⟩
        · rw [← json_eq_rowDocument]
          rfl
        · rw [hrowName]
          exact hnamed
        · rw [howner]
          exact hcaller who hwho
  | @create who wanted expiresAt hwho hroute hmethod hbody hexpires =>
    rcases htells with ⟨answer, rfl, htransition, htold⟩
    cases htransition with
    | unchanged hfits hchange =>
      match answer with
      | .issued (.error cause) =>
        refine reports_error (htold.error cause rfl) ?_
        rintro _ ⟨⟩
        exact .body hroute hbody rfl
    | issued block _ hfree =>
      have hcreates := createsRow_add h (hcaller who hwho) hroute hmethod hbody hexpires hfree
      refine ⟨_, ?_, .created hcreates rfl⟩
      simp only [ServiceCall.response, ServiceCall.document, Management.answer, Http.Response.json,
        issuedJson, ofText?_eq_elim]
      rfl
  | @revoke who segment name hwho hroute hmethod hname =>
    rcases htells with ⟨answer, rfl, htransition, htold⟩
    cases htransition with
    | unchanged hfits hchange =>
      match answer with
      | .revoked (.error cause) =>
        refine reports_error (htold.error cause rfl) ?_
        rintro _ ⟨⟩
        exact .path hroute hname
    | revoked row hfound =>
      have hrevokes := revokesRow_remove h (hcaller who hwho) hroute hmethod hname hfound
      have hkey := (h.store.findByOwnerAndName_eq_some_iff.mp hfound).2
      have hrowName : row.name = name := congrArg Prod.snd hkey
      refine ⟨_, ?_, .revoked hrevokes⟩
      rw [hrowName]
      rfl

/-- The document that a request behind the limits on its body comes to is reported. -/
theorem reports_of_decides (h : backend.Regular) {session : String} {bodyLimit : Nat}
    (hdecides : service.Decides backend session request bodyLimit (·.Tells backend response after))
    (hjson : Ascii.bytes "application/json" ∈ response.values "content-type") :
    ∃ document, response.body = document.text ∧
      Reports backend request after response.status document := by
  rcases hdecides with ⟨outcome, hauthentic, htells⟩
  exact reports_of_handles h (actsFor_of_callerOf h hauthentic)
    (service.handles_decided session outcome _ bodyLimit _) htells hjson

/-- The document of a whole response is reported. -/
theorem respond_reports (h : backend.Regular) (service : Service) (ids : Identifiers)
    (hmethod : request.method ≠ "HEAD") :
    let exchange := service.respond Backend.environment ids request backend
    Ascii.bytes "application/json" ∈ exchange.response.values "content-type" →
      ∃ document, exchange.response.body = document.text ∧
        Reports backend request exchange.state.store exchange.response.status document := by
  intro exchange
  have hconcluded : Concluded service backend ids request (fun _ _ => True)
      (fun handling response after => handling.Tells backend response after)
      exchange.response exchange.state.store :=
    respond_concluded h.store service ids request (fun _ => trivial)
      (Handling.ensures_tells h.store)
  generalize exchange.response = told, exchange.state.store = after at hconcluded ⊢
  have hfields : ∀ response : Http.Response,
      (finish request.path request.method response).values "content-type" =
        response.values "content-type" :=
    fun response => values_finish _ _ _ (by decide)
  have hidentified : ∀ response : Http.Response,
      (identify request ids.request response).values "content-type" =
        response.values "content-type" :=
    fun response => values_identify _ _ _ (by decide)
  intro hjson
  cases hconcluded with
  | tooLong =>
    rw [hfields, hidentified] at hjson
    exact absurd hjson (not_json_plain _ _)
  | late _ =>
    rw [hfields] at hjson
    cases hjson
  | answered hdecides =>
    rw [hfields, hidentified] at hjson
    rw [body_finish _ hmethod, status_finish]
    have hreports := reports_of_decides h hdecides hjson
    exact hreports

end Service

/-! ## Times of creation -/

/-- A row that is created now has a representable time of creation. -/
theorem Backend.representable_creationTime (backend : Backend) :
    backend.creationTime.Representable := by
  have hepoch : Timestamp.epoch.Representable := by
    unfold Timestamp.Representable
    decide
  unfold Backend.creationTime
  cases htime : Timestamp.ofMillis? backend.clock with
  | none => exact hepoch
  | some time => exact Timestamp.representable_of_of? htime

/-- Every row of an attained store has a representable time of creation. -/
theorem Backend.Attainable.representable {backend : Backend} (h : backend.Attainable) :
    ∀ row ∈ backend.store.rows.values, row.createdAt.Representable :=
  h.rows_invariant fun before _ _ => before.representable_creationTime

/-! ## Rows and their documents -/

/-- Different optional texts are sent differently. -/
theorem Json.ofText?_injective {text other : Option String} (h : ofText? text = ofText? other) :
    text = other := by
  cases text with
  | none =>
    cases other with
    | none => rfl
    | some s => cases h
  | some s =>
    cases other with
    | none => cases h
    | some t => rw [Json.string.inj h]

/-- Rows with the same document agree in all that it tells. -/
theorem Token.members_of_json_text {row other : Token} (h : row.json.text = other.json.text) :
    row.name = other.name ∧ row.description = other.description ∧
      row.expiresAt = other.expiresAt ∧ row.createdAt.text = other.createdAt.text := by
  have hdocument := Json.text_injective h
  simp only [json, Json.object.injEq, List.cons.injEq, Prod.mk.injEq, Json.string.injEq,
    Json.integer.injEq, true_and, and_true] at hdocument
  rcases hdocument with ⟨hname, hdescription, hexpires, hcreated⟩
  exact ⟨hname, Json.ofText?_injective hdescription, hexpires, hcreated⟩

/-- A representable time of creation is told to the nanosecond. -/
theorem Token.eq_of_json_text {row other : Token} (hrow : row.createdAt.Representable)
    (hother : other.createdAt.Representable) (h : row.json.text = other.json.text) :
    row.name = other.name ∧ row.description = other.description ∧
      row.expiresAt = other.expiresAt ∧ row.createdAt = other.createdAt := by
  rcases members_of_json_text h with ⟨hname, hdescription, hexpires, hcreated⟩
  exact ⟨hname, hdescription, hexpires, Timestamp.text_injective hrow hother hcreated⟩

namespace Service

/-! ## Whole responses -/

/--
Whatever has happened before and whatever faults there are, a response with a JSON
document to anything but a HEAD has a body that is read as one document, which has
exactly the members of what became of the request, and tells the truth about it.  All
rows have representable times of creation, and rows that are told by the same text agree
in name, description, expiry and time of creation.
-/
theorem documents_report (h : backend.Attainable) (service : Service) (ids : Identifiers)
    (request : Http.Request) (hmethod : request.method ≠ "HEAD") :
    let exchange := service.respond Backend.environment ids request backend
    (Ascii.bytes "application/json" ∈ exchange.response.values "content-type" →
      ∃ document, Json.read? (Utf8.encode exchange.response.body) = some document ∧
        Reports backend request exchange.state.store exchange.response.status document) ∧
    (∀ row ∈ exchange.state.store.rows.values, row.createdAt.Representable) ∧
    ∀ row other : Token, row.createdAt.Representable → other.createdAt.Representable →
      row.json.text = other.json.text →
      row.name = other.name ∧ row.description = other.description ∧
        row.expiresAt = other.expiresAt ∧ row.createdAt = other.createdAt := by
  intro exchange
  refine ⟨?_, ?_, fun row other => Token.eq_of_json_text⟩
  · intro hjson
    rcases respond_reports h.regular service ids hmethod hjson with ⟨document, hbody, hreports⟩
    refine ⟨document, ?_, hreports⟩
    rw [hbody]
    exact Json.read?_text document
  · have hafter : exchange.state.Attainable := h.step service (.request ids request)
    exact hafter.representable

/-- A name that would end a string and forge a member, were it not escaped. -/
def forgingName : String := "ci\",\"token\":\"\\\n\x00😀"

/-- The backend after a token with such a name was issued. -/
def forgingBackend : Backend :=
  guarded.run (.ofUsers [.ordinary 7 "alice" true] 1000)
    [.call (.issue 7 forgingName (some forgingName) 2000)]

/-- A list of tokens with such names is read back. -/
theorem documents_report_forgingBackend :
    let request : Http.Request :=
      { issuedRequest with path := "/api/v1/access_tokens".toList }
    let exchange := guarded.respond Backend.environment ⟨"r", "s"⟩ request forgingBackend
    exchange.response.status = 200 ∧
      ∃ document, Json.read? (Utf8.encode exchange.response.body) = some document ∧
        Reports forgingBackend request exchange.state.store 200 document := by
  intro request exchange
  have hattainable : forgingBackend.Attainable := .run (.ofUsers _ _) guarded _
  have hstatus : exchange.response.status = 200 := by decide +kernel
  rcases documents_report hattainable guarded ⟨"r", "s"⟩ request (by decide) with ⟨hread, -, -⟩
  refine ⟨hstatus, ?_⟩
  rw [← hstatus]
  exact hread (by decide +kernel)

end Service
end BearerTokens
