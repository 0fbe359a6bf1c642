import BearerTokens.Proofs.Filter.Verdict
import BearerTokens.Proofs.Service.Authentication

/-!
# The filter fails closed

Whatever the store and the directory answer, and however long they take, only a
look-up that finds nothing in time lets a presented secret pass, and only an
unexpired row of an enabled owner, all found in time, authenticates.  Everything
else is denied with its own reason, and a denial is answered at once: what stands
behind the filter is not run.

Main results:

- Theorem {lit}`Service.filtered_of_denied`: what becomes of a denied request.
- Theorem {lit}`Service.filter_fails_closed`: the decision over any collaborators.
-/

namespace BearerTokens

/-- The document of a denial with a message. -/
def denialJson (message : String) : Json :=
  .object [("error", .object [("code", .string "UNAUTHORIZED"), ("message", .string message)])]

namespace Service

variable {σ : Type} {service : Service} {environment : Environment σ} {s : σ}
  {allowance : Option Nat}

/-- A denied request is answered with the reason, and its handler is not run. -/
theorem filtered_of_denied {request : Http.Request} {reason : Denial}
    (h : (service.filter.authenticate environment request.authorization allowance s).result =
      some (.denied reason)) (session : String) (brought : Option Caller)
    (handler : Option Caller → Procedure Http.Response) :
    let run := service.filter.authenticate environment request.authorization allowance s
    ∃ response,
      service.filtered environment session brought request handler allowance s =
        ⟨some response, run.elapsed, run.state, run.calls⟩ ∧
      response.status = 401 ∧ response.body = (denialJson reason.message).text := by
  refine ⟨(Problem.ofDenial reason).response, ?_, rfl, rfl⟩
  simp only [filtered, Activity.bind, h, afterFilter, Procedure.run, Activity.done,
    Nat.add_zero, List.append_nil]

/--
The filter decides about a bearer credential by the replies that it meets, over any
store and any directory, as long as no shorter allowance cuts it off.  It asks the
directory only about the owner of an unexpired row that was found in time, and makes
no call that could change the store.  When it denies, the answer has status 401 and
tells the reason, and nothing but the calls of the filter was made.
-/
theorem filter_fails_closed (service : Service) (henabled : service.filter.enabled = true)
    (hclock : Filter.ReadsAtOnce environment) (request : Http.Request) {value : List UInt8}
    {rest : List (List UInt8)} {secret : String}
    (hrequest : request.authorization = value :: rest) (hvalue : BearerCredential value secret)
    (allowance : Option Nat)
    (hallowance : exceeds allowance service.filter.lookupTimeout = false) (s : σ) :
    let limit := service.filter.lookupTimeout
    let run := service.filter.authenticate environment request.authorization allowance s
    ∃ outcome, run.result = some outcome ∧ Filter.Decides environment secret s limit outcome ∧
      (∀ user, .load user ∈ run.calls →
        ∃ row, Filter.FindsUnexpired environment secret s row ∧ row.owner = user ∧
          (Filter.lookup environment secret s).delay ≤ limit) ∧
      (∀ call ∈ run.calls, call.mutates = false) ∧
      ∀ reason, outcome = .denied reason → ∀ session brought handler,
        ∃ response,
          service.filtered environment session brought request handler allowance s =
            ⟨some response, run.elapsed, run.state, run.calls⟩ ∧
          response.status = 401 ∧ response.body = (denialJson reason.message).text := by
  intro limit run
  obtain ⟨hresult, hcalls⟩ := Filter.authenticate_verdict henabled hclock hvalue rest
    hallowance s
  rw [← hrequest] at hresult hcalls
  refine ⟨_, hresult, Filter.verdict_decides environment secret s limit, ?_, ?_, ?_⟩
  · intro user hload
    rw [hcalls] at hload
    exact Filter.unexpired_of_load_mem hload
  · intro call hcall
    rw [hcalls] at hcall
    exact Filter.not_mutates_of_mem hcall
  · intro reason hdenied session brought handler
    rw [hdenied] at hresult
    exact filtered_of_denied hresult session brought handler

/-- A store that takes 1500 milliseconds to look a secret up, and a directory that takes 600. -/
def slowBackend : Backend :=
  { issuedBackend with
    faults := [(.findBySecretDigest, ⟨none, false, 1500, 0⟩), (.load, ⟨none, false, 0, 600⟩)] }

/-- Each look-up alone is in time, but both together are not, and the request is denied. -/
theorem denied_slowBackend :
    (guarded.filter.authenticate Backend.environment issuedRequest.authorization none
        slowBackend).result = some (.denied .timedOut) ∧
      ∃ response, (guarded.filtered Backend.environment "s" none issuedRequest
          (introduce "GET") none slowBackend).result = some response ∧
        response.status = 401 ∧
        response.body = (denialJson "Timed out while authenticating the access token").text := by
  have hclock : Filter.ReadsAtOnce Backend.environment := fun _ => rfl
  have hvalue := bearerCredential_ofBlock issuedBlock
  obtain ⟨outcome, hresult, hdecides, -, -, hdenied⟩ :=
    filter_fails_closed guarded rfl hclock issuedRequest rfl hvalue none rfl slowBackend
  have htimedOut : outcome = .denied .timedOut := hdecides.timedOut_iff.mpr (by decide +kernel)
  obtain ⟨response, hfiltered, hstatus, hbody⟩ := hdenied _ htimedOut "s" none (introduce "GET")
  refine ⟨by rw [hresult, htimedOut], response, ?_, hstatus, hbody⟩
  rw [hfiltered]

end Service
end BearerTokens
