import BearerTokens.Proofs.Service.History

/-!
# Authentication

After any history, a request is authenticated exactly when its first Authorization
value presents the secret of a stored token that has not expired and whose owner is
enabled.  What stands behind the filter then acts for that owner and nobody else.

Main results:

- Theorem {lit}`Service.authenticated_iff_authentic`: who is authenticated, and for
  whom the request is handled.
-/

namespace BearerTokens
namespace Service

variable {service : Service} {backend : Backend}

/-- The user of an authentic request is the owner of the row. -/
theorem id_eq_owner (h : backend.Sound) {authorization : List (List UInt8)} {row : Token}
    {user : User} (hauthentic : Filter.Authentic backend authorization row user) :
    user.id = row.owner :=
  h.directory row.owner user hauthentic.owner

/-- An authentic request is handled for its user, whoever came with it. -/
theorem filtered_of_authentic (h : backend.Sound) (henabled : service.filter.enabled = true)
    {request : Http.Request} {row : Token} {user : User}
    (hauthentic : Filter.Authentic backend request.authorization row user) (session : String)
    (brought : Option Caller) (handler : Option Caller → Procedure Http.Response) :
    let caller := Caller.ofBearer ⟨user, row.id, row.name⟩ session
    let result := (handler (some caller)).eval Backend.answer backend
    (service.filtered Backend.environment session brought request handler).Prompt backend
      result.1 result.2 := by
  have hdecision : service.filter.decision backend request.authorization =
      .authenticated ⟨user, row.id, row.name⟩ :=
    (Filter.decision_eq_authenticated_iff henabled h.store).mpr ⟨row, hauthentic, rfl, rfl⟩
  have hprompt := filtered_prompt h.faultFree service session brought request handler
  rw [hdecision] at hprompt
  exact hprompt

/--
A request is authenticated exactly when it is that of a user, by the row presented.
The user is then the owner of the row, and any handler behind the filter is run for
a caller with that number, whoever came with the request.
-/
theorem authenticated_iff_authentic (h : service.Reachable backend)
    (henabled : service.filter.enabled = true) (request : Http.Request) :
    (∀ allowance bearer,
      (service.filter.authenticate Backend.environment request.authorization allowance
          backend).result = some (.authenticated bearer) ↔
        ∃ row, Filter.Authentic backend request.authorization row bearer.user ∧
          bearer.tokenId = row.id ∧ bearer.tokenName = row.name) ∧
    ∀ row user, Filter.Authentic backend request.authorization row user →
      user.id = row.owner ∧
        ∀ session brought handler allowance,
          let caller := Caller.ofBearer ⟨user, row.id, row.name⟩ session
          let run := service.filtered Backend.environment session brought request handler
            allowance backend
          let result := (handler (some caller)).eval Backend.answer backend
          caller.userId = row.owner ∧ run.result = some result.1 ∧ run.state = result.2 := by
  have hsound := h.sound
  constructor
  · intro allowance bearer
    have hprompt :=
      Filter.authenticate_prompt hsound.faultFree service.filter request.authorization
    rw [hprompt.result allowance, Option.some.injEq]
    exact Filter.decision_eq_authenticated_iff henabled hsound.store
  · intro row user hauthentic
    have howner := id_eq_owner hsound hauthentic
    refine ⟨howner, ?_⟩
    intro session brought handler allowance
    have hprompt := filtered_of_authentic hsound henabled hauthentic session brought handler
    exact ⟨howner, hprompt.result allowance, hprompt.state allowance⟩

/-- A service with a filter. -/
def guarded : Service := ⟨⟨true, 2000⟩, 5000⟩

/-- The backend after a token was issued to a user. -/
def issuedBackend : Backend :=
  guarded.run (.ofUsers [.ordinary 7 "alice" true] 1000) [.call (.issue 7 "ci" none 2000)]

/-- The block of the secret that was issued. -/
def issuedBlock : Block := EntropySource.blockOf EntropySource.increment

/-- A request with the secret that was issued. -/
def issuedRequest : Http.Request :=
  ⟨"GET", "/health".toList,
    [⟨"authorization", Ascii.bytes ("Bearer " ++ (Secret.ofBlock issuedBlock).text)⟩], []⟩

/-- A request with the secret that was issued is authenticated. -/
theorem authenticated_issuedRequest :
    (guarded.filter.authenticate Backend.environment issuedRequest.authorization none
      issuedBackend).result = some (.authenticated ⟨.ordinary 7 "alice" true, 1, "ci"⟩) := by
  have hreachable : guarded.Reachable issuedBackend := ⟨_, _, _, rfl⟩
  refine ((authenticated_iff_authentic hreachable rfl issuedRequest).1 none _).mpr ?_
  refine ⟨.ofNew 1 issuedBackend.creationTime
    ⟨7, "ci", none, (Secret.ofBlock issuedBlock).digest, 2000⟩, ?_, rfl, rfl⟩
  exact
    { presented := ⟨_, [], _, rfl, bearerCredential_ofBlock issuedBlock, rfl⟩
      stored := List.mem_singleton.mpr rfl
      unexpired := by decide
      owner := rfl
      enabled := rfl }

/-- A request to revoke the token that was issued, with its secret. -/
def revocation : Http.Request :=
  { issuedRequest with method := "DELETE", path := "/api/v1/access_tokens/ci".toList }

end Service
end BearerTokens
