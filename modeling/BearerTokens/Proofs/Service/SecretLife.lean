import BearerTokens.Proofs.Service.Authentication

/-!
# The life of a secret

From its issue on, a secret stands for one and the same row, whatever else happens,
until the token of its owner and name is revoked.  From then on it stands for
nothing, even when the name is issued again.

Main results:

- Definitions {lit}`Secret.Honoured` and {lit}`Secret.Forgotten`: what the token
  service and the filter make of a secret.
- Theorem {lit}`Service.mem_or_gone`: a row stays until it is revoked, and its digest
  does not come back.
- Theorem {lit}`Service.secret_life`: the life of an issued secret.
-/

namespace BearerTokens

/-- The secret that an answer hands out. -/
def ServiceAnswer.secret? : ServiceAnswer → Option Secret
  | .issued (.ok secret) => some secret
  | _ => none

/-! ## What a secret stands for -/

namespace Secret

/-- The Authorization value with a secret. -/
def credential (secret : Secret) : List UInt8 :=
  Ascii.bytes ("Bearer " ++ secret.text)

/-- What the filter decides when a secret comes first among the Authorization values. -/
def outcome? (filter : Filter) (backend : Backend) (secret : Secret)
    (rest : List (List UInt8)) (allowance : Option Nat) : Option Outcome :=
  (filter.authenticate Backend.environment (secret.credential :: rest) allowance backend).result

/--
A secret resolves to a row.  The filter denies it as expired exactly after the row's
expiry, and until then authenticates the owner exactly when it is known and enabled.
-/
structure Honoured (filter : Filter) (backend : Backend) (secret : Secret) (row : Token) :
    Prop where
  resolved : ∀ allowance,
    ((Lifecycle.resolve secret.text).run Backend.environment allowance backend).result =
      some (.ok (some row))
  expired : ∀ rest allowance, secret.outcome? filter backend rest allowance =
    some (.denied .expired) ↔ row.expiresAt < backend.clock
  authenticated : ∀ rest allowance bearer, secret.outcome? filter backend rest allowance =
    some (.authenticated bearer) ↔
      backend.clock ≤ row.expiresAt ∧
        backend.directory.users.get? row.owner = some bearer.user ∧
        bearer.user.enabled = true ∧ bearer.tokenId = row.id ∧ bearer.tokenName = row.name
  owner : ∀ user, backend.directory.users.get? row.owner = some user → user.id = row.owner

/-- A secret resolves to nothing, and the filter lets it pass as unknown. -/
structure Forgotten (filter : Filter) (backend : Backend) (secret : Secret) : Prop where
  resolved : ∀ allowance,
    ((Lifecycle.resolve secret.text).run Backend.environment allowance backend).result =
      some (.ok none)
  passed : ∀ rest allowance, secret.outcome? filter backend rest allowance =
    some (.passThrough .unknownToken)

variable {filter : Filter} {backend : Backend} {secret : Secret} {row : Token}

/-- What the filter decides about the credential of a secret is the check of the secret. -/
theorem outcome?_eq (h : backend.Sound) (henabled : filter.enabled = true)
    (hcredential : BearerCredential secret.credential secret.text) (rest : List (List UInt8))
    (allowance : Option Nat) :
    secret.outcome? filter backend rest allowance =
      some (Filter.outcome (some (Filter.check backend secret.text))) := by
  have hprompt := Filter.authenticate_prompt h.faultFree filter (secret.credential :: rest)
  rw [Filter.decision_of_credential henabled hcredential] at hprompt
  exact hprompt.result allowance

/-- Resolving a secret is looking its digest up. -/
theorem run_resolve (h : backend.Sound) (secret : Secret) (allowance : Option Nat) :
    ((Lifecycle.resolve secret.text).run Backend.environment allowance backend).result =
      some (.ok (backend.store.findBySecretDigest secret.digest)) := by
  have hprompt := (Lifecycle.resolve secret.text).run_prompt h.faultFree
  rw [Filter.eval_resolve h.faultFree.storeOutage] at hprompt
  exact hprompt.result allowance

/-- A secret whose row is stored is honoured. -/
theorem honoured_of_mem (h : backend.Sound) (henabled : filter.enabled = true)
    (hcredential : BearerCredential secret.credential secret.text)
    (hrow : row ∈ backend.store.rows.values) (hdigest : row.digest = secret.digest) :
    Honoured filter backend secret row where
  resolved := by
    intro allowance
    rw [run_resolve h, h.store.findBySecretDigest_eq_some_iff.mpr ⟨hrow, hdigest⟩]
  expired := by
    intro rest allowance
    rw [outcome?_eq h henabled hcredential, Option.some.injEq, Filter.outcome_eq_denied_iff]
    exact Filter.check_eq_expired_iff h.store hrow hdigest
  authenticated := by
    intro rest allowance bearer
    rw [outcome?_eq h henabled hcredential, Option.some.injEq,
      Filter.outcome_eq_authenticated_iff]
    exact Filter.check_eq_ok_iff h.store hrow hdigest
  owner := h.directory row.owner

/-- A secret whose digest no row has is forgotten. -/
theorem forgotten_of_absent (h : backend.Sound) (henabled : filter.enabled = true)
    (hcredential : BearerCredential secret.credential secret.text)
    (habsent : ∀ row ∈ backend.store.rows.values, row.digest ≠ secret.digest) :
    Forgotten filter backend secret where
  resolved := by
    intro allowance
    rw [run_resolve h, h.store.findBySecretDigest_eq_none_iff.mpr habsent]
  passed := by
    intro rest allowance
    rw [outcome?_eq h henabled hcredential, Filter.check_of_absent h.store habsent]
    rfl

end Secret

/-! ## Rows over histories -/

namespace Service

variable {service : Service} {backend : Backend}

/-- Whether none of some events issued a secret with a digest. -/
def NoneIssues (digest : Digest) (events : List (ServiceCall × ServiceAnswer)) : Prop :=
  ∀ event ∈ events, event.2.secret?.map Secret.digest ≠ some digest

instance (digest : Digest) (events : List (ServiceCall × ServiceAnswer)) :
    Decidable (NoneIssues digest events) :=
  inferInstanceAs (Decidable (∀ event ∈ events, event.2.secret?.map Secret.digest ≠ some digest))

/-- Whether one of some events revoked the token of an owner with a name. -/
def SomeRevokes (owner : Int) (name : String) (events : List (ServiceCall × ServiceAnswer)) :
    Prop :=
  ∃ event ∈ events, ServiceCall.Revoked owner name event.1 event.2

/-- A digest that no row has stays away unless a secret with it is issued. -/
theorem digest_absent_run (h : backend.Sound) {digest : Digest}
    (habsent : ∀ row ∈ backend.store.rows.values, row.digest ≠ digest) (history : List Step)
    (hfresh : NoneIssues digest (service.events backend history)) :
    ∀ row ∈ (service.run backend history).store.rows.values, row.digest ≠ digest := by
  induction history generalizing backend with
  | nil => exact habsent
  | cons step rest ih =>
    have hrest : NoneIssues digest (service.events (service.step backend step) rest) :=
      fun event hevent => hfresh event (List.mem_append_right _ hevent)
    refine ih (service.step_sound h step) ?_ hrest
    cases hevent : service.event? backend step with
    | none =>
      rw [store_of_event?_eq_none h hevent]
      exact habsent
    | some event =>
      refine (effect_of_event? h hevent).digest_absent habsent ?_
      have hmem : event ∈ service.events backend (step :: rest) := by
        simp [events, hevent]
      intro secret hissued hdigest
      apply hfresh event hmem
      rw [hissued, ServiceAnswer.secret?, Option.map_some, hdigest]

/-- A row stays until its owner and name are revoked, and its digest does not come back. -/
theorem mem_or_gone (h : backend.Sound) {row : Token} {owner : Int} {name : String}
    (hrow : row ∈ backend.store.rows.values) (hkey : row.key = (owner, name))
    (history : List Step) (hfresh : NoneIssues row.digest (service.events backend history)) :
    (¬ SomeRevokes owner name (service.events backend history) →
      row ∈ (service.run backend history).store.rows.values) ∧
    (SomeRevokes owner name (service.events backend history) →
      ∀ other ∈ (service.run backend history).store.rows.values, other.digest ≠ row.digest) := by
  induction history generalizing backend with
  | nil =>
    refine ⟨fun _ => hrow, ?_⟩
    rintro ⟨event, hevent, _⟩
    simp [events] at hevent
  | cons step rest ih =>
    have hsound := service.step_sound h step
    have hrest : NoneIssues row.digest (service.events (service.step backend step) rest) :=
      fun event hevent => hfresh event (List.mem_append_right _ hevent)
    cases hevent : service.event? backend step with
    | none =>
      have hstays : row ∈ (service.step backend step).store.rows.values := by
        rw [store_of_event?_eq_none h hevent]
        exact hrow
      have hevents : service.events backend (step :: rest) =
          service.events (service.step backend step) rest := by
        simp [events, hevent]
      rw [hevents]
      exact ih hsound hstays hrest
    | some event =>
      have heffect := effect_of_event? h hevent
      have hevents : service.events backend (step :: rest) =
          event :: service.events (service.step backend step) rest := by
        simp [events, hevent]
      rw [hevents]
      -- Up to its revocation the row itself is kept, after it the absence of its digest.
      by_cases hrevoked : ServiceCall.Revoked owner name event.1 event.2
      · have habsent := heffect.digest_absent_of_revoked h.store hrow hkey hrevoked
        constructor
        · intro hnone
          exact absurd ⟨event, List.mem_cons_self, hrevoked⟩ hnone
        · intro _
          exact digest_absent_run hsound habsent rest hrest
      · have hstays := (heffect.mem_or_revoked h.store hrow hkey).resolve_right hrevoked
        rcases ih hsound hstays hrest with ⟨hkept, hgone⟩
        constructor
        · intro hnone
          refine hkept fun hsome => hnone ?_
          rcases hsome with ⟨later, hlater, hlaterRevoked⟩
          exact ⟨later, List.mem_cons_of_mem _ hlater, hlaterRevoked⟩
        · rintro ⟨later, hlater, hlaterRevoked⟩
          rcases List.mem_cons.mp hlater with rfl | hlater
          · exact absurd hlaterRevoked hrevoked
          · exact hgone ⟨later, hlater, hlaterRevoked⟩

/-! ## Issued secrets -/

/--
An issue leaves one row, and the secret that it returned stands for this very row
until the token of its owner and name is revoked, and for nothing afterwards.  It is
enough that no later issue returns a secret with the same digest.
-/
theorem secret_life (h : service.Reachable backend) {filter : Filter}
    (henabled : filter.enabled = true) {step : Step} {owner : Int} {name : String}
    {description : Option String} {expiresAt : Int} {secret : Secret}
    (hissued : service.event? backend step =
      some (.issue owner name description expiresAt, .issued (.ok secret))) :
    ∃ row : Token, row.owner = owner ∧ row.name = name ∧ row.description = description ∧
      row.expiresAt = expiresAt ∧
      ∀ history,
        let events := service.events (service.step backend step) history
        let after := service.run (service.step backend step) history
        NoneIssues secret.digest events →
          (¬ SomeRevokes owner name events → secret.Honoured filter after row) ∧
          (SomeRevokes owner name events → secret.Forgotten filter after) := by
  have hsound := service.step_sound h.sound step
  rcases (effect_of_event? h.sound hissued).exists_row with
    ⟨⟨block, rfl⟩, row, hrow, hkey, hdescription, hexpiresAt, hdigest⟩
  have hcredential := bearerCredential_ofBlock block
  refine ⟨row, congrArg Prod.fst hkey, congrArg Prod.snd hkey, hdescription, hexpiresAt, ?_⟩
  intro history events after hfresh
  have hafter : after.Sound := run_sound hsound history
  rw [← hdigest] at hfresh
  rcases mem_or_gone hsound hrow hkey history hfresh with ⟨hkept, hgone⟩
  constructor
  · intro hnone
    exact Secret.honoured_of_mem hafter henabled hcredential (hkept hnone) hdigest
  · intro hsome
    refine Secret.forgotten_of_absent hafter henabled hcredential ?_
    rw [← hdigest]
    exact hgone hsome

/-- What happens after an issue: time passes, and the token is revoked and issued again. -/
def laterSteps : List Step :=
  [.setClock 5000, .call (.revoke 7 "ci"), .call (.issue 7 "ci" none 9000)]

/-- An issued secret is honoured, and forgotten once its name was revoked and issued again. -/
theorem secret_life_laterSteps :
    ∃ row : Token, row.owner = 7 ∧ row.name = "ci" ∧
      (Secret.ofBlock issuedBlock).Honoured guarded.filter issuedBackend row ∧
      (Secret.ofBlock issuedBlock).Forgotten guarded.filter
        (guarded.run issuedBackend laterSteps) := by
  have hreachable : guarded.Reachable (.ofUsers [.ordinary 7 "alice" true] 1000) :=
    ⟨_, _, [], rfl⟩
  have hissued : guarded.event? (.ofUsers [.ordinary 7 "alice" true] 1000)
      (.call (.issue 7 "ci" none 2000)) =
      some (.issue 7 "ci" none 2000, .issued (.ok (.ofBlock issuedBlock))) := rfl
  have hfilter : guarded.filter.enabled = true := rfl
  rcases secret_life hreachable hfilter hissued with ⟨row, howner, hname, _, _, hlife⟩
  refine ⟨row, howner, hname, (hlife [] (by decide)).1 ?_, (hlife laterSteps ?_).2 ?_⟩
  · rintro ⟨event, hevent, _⟩
    simp [events] at hevent
  · decide +kernel
  · exact ⟨(.revoke 7 "ci", .revoked (.ok ())), List.mem_cons_self, rfl, rfl⟩

end Service
end BearerTokens
