import BearerTokens.Management.Operations

/-!
# The service

A request goes through layers.  Outermost, it gets an identifier, which its
response carries.  A body that is declared too long is refused at once.  The
filter and the operation behind it run under one limit of time; when it runs
out, the answer is bare and carries no identifier.
-/

namespace BearerTokens

/-- The settings of the service. -/
structure Service where
  filter : Filter
  /-- The limit on the handling of one request, in milliseconds. -/
  requestTimeout : Nat
  deriving DecidableEq, Repr

/-- The identifiers drawn for one request. -/
structure Identifiers where
  /-- The identifier of a request that brings none. -/
  request : String
  /-- The session of a caller who is authenticated. -/
  session : String
  deriving DecidableEq, Repr

/-- What became of a request. -/
structure Exchange (σ : Type) where
  response : Http.Response
  /-- The state of the collaborators. -/
  state : σ
  /-- The calls in order. -/
  calls : List Call

namespace Service

variable {σ : Type}

/-! ## Behind the filter -/

/-- Handle a request for a caller, or for nobody. -/
def dispatch (service : Service) (caller : Option Caller) (request : Http.Request)
    (bodyLimit : Nat) : Procedure Http.Response :=
  match Route.ofPath? request.path with
  | none => .done (.bare 404)
  | some route =>
    match route.operation? request.method with
    | none => .done (.bare 405)
    | some operation => operation.handle service.filter.enabled caller request bodyLimit

/-- Handle a request as the filter decided, for a given handler. -/
def afterFilter (session : String) (brought : Option Caller)
    (handler : Option Caller → Procedure Http.Response) : Outcome → Procedure Http.Response
  | .passThrough _ => handler brought
  | .denied reason => .done (Problem.ofDenial reason).response
  | .authenticated bearer => handler (some (.ofBearer bearer session))

/-- Filter a request and handle it. -/
def filtered (service : Service) (environment : Environment σ) (session : String)
    (brought : Option Caller) (request : Http.Request)
    (handler : Option Caller → Procedure Http.Response) : Activity σ Http.Response :=
  (service.filter.authenticate environment request.authorization).bind fun outcome =>
    (afterFilter session brought handler outcome).run environment

/-! ## The length of a body -/

/-- The length that a request declares for its body, if that is readable. -/
def declaredLength? (request : Http.Request) : Option Nat :=
  ((request.value? "content-length").bind Http.visibleText?).bind fun text =>
    Decimal.bounded? Number.maxUnsigned64 text.toList

/-- The answer to a body that is declared too long. -/
def tooLong : Http.Response :=
  .plain 413 "length limit exceeded"

/-! ## Identifiers -/

/-- The name of the field that holds the identifier of a request. -/
def identifierField : String := "x-request-id"

/-- The identifier of a request: the first that it brings, else the one drawn. -/
def identifier (request : Http.Request) (drawn : String) : List UInt8 :=
  (request.value? identifierField).getD (Ascii.bytes drawn)

/-- A response with the identifier of its request. -/
def identify (request : Http.Request) (drawn : String) (response : Http.Response) :
    Http.Response :=
  response.withField ⟨identifierField, identifier request drawn⟩

/-! ## The outermost layer -/

/-- Name the methods of a route in the response to a request with any other method. -/
def nameAllowed (route : Route) (method : String) (response : Http.Response) : Http.Response :=
  if (route.operation? method).isSome then response
  else response.withField (.ofText "allow" (String.intercalate "," route.methods))

/-- Leave out the body of the response to a HEAD. -/
def forHead (method : String) (response : Http.Response) : Http.Response :=
  if method = "HEAD" then response.withoutBody else response

/--
Fit a response to the path and the method of its request.  A path that begins
with a slash and leads nowhere gets the response as it is; only there does a
HEAD keep the body.
-/
def finish (path : Http.Path) (method : String) (response : Http.Response) : Http.Response :=
  match Route.ofPath? path with
  | some route => forHead method (nameAllowed route method response)
  | none => if path.head? = some '/' then response else forHead method response

/-- Handle a request whose body is not declared too long, under the limit of time. -/
def timed (service : Service) (environment : Environment σ) (ids : Identifiers)
    (request : Http.Request) (bodyLimit : Nat) : Activity σ (Option Http.Response) :=
  Activity.within service.requestTimeout
    (service.filtered environment ids.session none request fun caller =>
      service.dispatch caller request bodyLimit)

/-- The response to a request before the outermost layer, and what else came of it. -/
def respondInside (service : Service) (environment : Environment σ) (ids : Identifiers)
    (request : Http.Request) (s : σ) : Exchange σ :=
  let declared := declaredLength? request
  if declared.any (maxBodyLength < ·) then
    ⟨identify request ids.request tooLong, s, []⟩
  else
    let bodyLimit := min maxBodyLength (declared.getD maxBodyLength)
    let run := service.timed environment ids request bodyLimit none s
    let response := match run.result.join with
      | none => .bare 408
      | some response => identify request ids.request response
    ⟨response, run.state, run.calls⟩

/-- Respond to a request. -/
def respond (service : Service) (environment : Environment σ) (ids : Identifiers)
    (request : Http.Request) (s : σ) : Exchange σ :=
  let exchange := service.respondInside environment ids request s
  { exchange with response := finish request.path request.method exchange.response }

/-! ## Who the caller is -/

/-- The caller as a JSON document, null for nobody. -/
def callerJson : Option Caller → Json
  | none => .null
  | some caller => caller.json

/-- Tell a caller who it is. -/
def introduce (method : String) (caller : Option Caller) : Procedure Http.Response :=
  if method = "GET" ∨ method = "HEAD" then .done (.json 200 (callerJson caller))
  else .done (.bare 405)

/--
Filter a request that may bring a caller of its own, and tell who the caller
is.  Nothing but the filter stands in front of this route.
-/
def whoAmI (service : Service) (environment : Environment σ) (session : String)
    (brought : Option Caller) (request : Http.Request) (s : σ) : Exchange σ :=
  let run :=
    service.filtered environment session brought request (introduce request.method) none s
  let response := nameAllowed .health request.method (run.result.getD (.bare 408))
  ⟨forHead request.method response, run.state, run.calls⟩

end Service
end BearerTokens
