import BearerTokens.Proofs.Filter.Faults

/-!
# Look-ups of the filter

To decide about a request the filter only looks things up: a secret in the store, then
the time, then the owner of the row that was found.  This is so whatever the
collaborators answer, and wherever a limit of time cuts the filter off.

Main results:

- Definition {lit}`Procedure.Asks`: a procedure that makes calls of one kind only.
- Definition {lit}`Filter.LooksUp`: the calls that the filter may make, in their order.
- Theorem {lit}`Filter.looksUp_authenticate`: it makes no others.
- Theorem {lit}`Filter.replanned_authenticate`: it changes nothing but the plan of faults.
-/

namespace BearerTokens

variable {σ α : Type}

/-! ## The calls of an activity -/

namespace Activity

/-- A call is made once, whether it is dropped or not. -/
theorem calls_perform (environment : Environment σ) (call : Call) (allowance : Option Nat)
    (s : σ) : (perform environment call allowance s).calls = [call] := by
  simp only [perform]
  split
  · rfl
  · split <;> rfl

/-- An activity under a limit of its own makes its calls under some allowance. -/
theorem calls_within (limit : Nat) (activity : Activity σ α) (allowance : Option Nat) (s : σ) :
    ∃ left, (within limit activity allowance s).calls = (activity left s).calls := by
  simp only [within]
  split
  · exact ⟨allowance, rfl⟩
  · refine ⟨some limit, ?_⟩
    split <;> rfl

end Activity

/-! ## Procedures that make calls of one kind -/

namespace Procedure

/-- Whether all calls of a procedure are of a kind, whatever the answers are. -/
def Asks (kind : Call → Prop) : Procedure α → Prop
  | .done _ => True
  | .ask call next => kind call ∧ ∀ answer, (next answer).Asks kind

/-- What no call of a kind breaks, a procedure with such calls does not break. -/
theorem ensures_of_asks {environment : Environment σ} {kind : Call → Prop} {P : σ → Prop}
    (hcall : ∀ s call, kind call → P s →
      P (environment s call).waiting ∧ P (environment s call).state)
    {p : Procedure α} (hasks : p.Asks kind) {s : σ} (hs : P s) :
    (p.run environment).Ensures s P fun _ => P := by
  induction p generalizing s with
  | done value => exact .done hs
  | ask call next ih =>
    obtain ⟨hkind, hnext⟩ := hasks
    obtain ⟨hwaiting, hstate⟩ := hcall s call hkind hs
    exact ensures_ask hwaiting hstate (ih _ (hnext _) hstate)

/-- A procedure is cut off at its first call, or goes on with the answer to it. -/
theorem calls_run_ask (environment : Environment σ) (call : Call)
    (next : call.Answer → Procedure α) (allowance : Option Nat) (s : σ) :
    ((ask call next).run environment allowance s).calls = [call] ∨
      ∃ answer left s', ((ask call next).run environment allowance s).calls =
        call :: ((next answer).run environment left s').calls := by
  have hone := Activity.calls_perform environment call allowance s
  cases hresult : (Activity.perform environment call allowance s).result with
  | none =>
    left
    rw [run, Activity.bind_of_none hresult]
    exact hone
  | some answer =>
    right
    let one := Activity.perform environment call allowance s
    refine ⟨answer, allowance.map (· - one.elapsed), one.state, ?_⟩
    rw [run, Activity.bind_of_some hresult, hone]
    rfl

end Procedure

/-! ## Calls that read -/

/-- Whether a call only reads: it changes no store and draws no random block. -/
def Call.reads : Call → Bool
  | .insert _ => false
  | .delete _ => false
  | .entropy => false
  | _ => true

namespace Backend

variable {backend : Backend} {call : Call}

/-- A call that reads leaves everything as it is. -/
theorem answer_of_reads (backend : Backend) (h : call.reads = true) :
    (backend.answer call).2 = backend := by
  cases call with
  | insert token => cases h
  | delete id => cases h
  | entropy => cases h
  | load user =>
    simp only [answer]
    split <;> rfl
  | _ => rfl

/-- A call that reads changes nothing but the plan of faults, whether it is cut off or not. -/
theorem Replanned.environment {before : Backend} (h : before.Replanned backend)
    (hreads : call.reads = true) :
    before.Replanned (Backend.environment backend call).waiting ∧
      before.Replanned (Backend.environment backend call).state := by
  obtain ⟨earlier, rfl⟩ := h
  obtain ⟨plan, hwaiting, ⟨-, hstate⟩ | ⟨-, hstate⟩⟩ :=
    environment_cases { before with faults := earlier } call
  · rw [hwaiting, hstate, answer_of_reads _ hreads]
    exact ⟨⟨plan, rfl⟩, ⟨plan, rfl⟩⟩
  · rw [hwaiting, hstate]
    exact ⟨⟨plan, rfl⟩, ⟨plan, rfl⟩⟩

end Backend

/-! ## The filter -/

namespace Filter

variable {environment : Environment σ}

/-- Whether calls are the beginning of a look-up of a secret, of the time, and of a user. -/
def LooksUp (calls : List Call) : Prop :=
  ∃ digest user, calls <+: [.findBySecretDigest digest, .now, .load user]

/-- Making no call is the beginning of any look-up. -/
theorem LooksUp.nil : LooksUp [] :=
  ⟨Secret.digestOf "", 0, List.nil_prefix⟩

/-- The check of a row reads the time and then loads the owner. -/
theorem calls_verifyRow (row : Token) (allowance : Option Nat) (s : σ) :
    ((verifyRow row).run environment allowance s).calls <+: [.now, .load row.owner] := by
  obtain hcut | ⟨now, left, s', hcalls⟩ := Procedure.calls_run_ask environment .now
    (fun now => if row.isExpiredAt now then .done (.error .expired)
      else .ask (.load row.owner) fun answer => .done (checkOwner row answer)) allowance s
  · rw [verifyRow, hcut]
    exact ⟨_, rfl⟩
  · rw [verifyRow, hcalls]
    by_cases hexpired : row.isExpiredAt now
    · simp only [hexpired, if_true]
      exact ⟨[.load row.owner], rfl⟩
    · simp only [hexpired]
      obtain hload | ⟨answer, left', s'', hload⟩ := Procedure.calls_run_ask environment
        (.load row.owner) (fun answer => .done (checkOwner row answer)) left s'
      · simp only [Bool.false_eq_true, if_false, hload]
        exact ⟨[], rfl⟩
      · simp only [Bool.false_eq_true, if_false, hload]
        exact ⟨[], rfl⟩

/-- The check of a secret looks its digest up once, and then at most reads the time
and loads a user. -/
theorem calls_verify (environment : Environment σ) (secret : String) (allowance : Option Nat)
    (s : σ) : ∃ user more, ((verify secret).run environment allowance s).calls =
      .findBySecretDigest (Secret.digestOf secret) :: more ∧ more <+: [.now, .load user] := by
  rw [verify_eq]
  obtain hcut | ⟨found, left, s', hcalls⟩ := Procedure.calls_run_ask environment
    (.findBySecretDigest (Secret.digestOf secret)) verifyFound allowance s
  · exact ⟨0, [], hcut, List.nil_prefix⟩
  · rw [hcalls]
    match found with
    | .error error => exact ⟨0, [], rfl, List.nil_prefix⟩
    | .ok none => exact ⟨0, [], rfl, List.nil_prefix⟩
    | .ok (some row) => exact ⟨row.owner, _, rfl, calls_verifyRow row left s'⟩

/-- Once a secret is presented, the filter makes the calls of its check. -/
theorem calls_authenticate {filter : Filter} (henabled : filter.enabled = true)
    (environment : Environment σ) {authorization : List (List UInt8)} {secret : String}
    (hpresented : presentedSecret authorization = .ok secret) (allowance : Option Nat) (s : σ) :
    ∃ left, (filter.authenticate environment authorization allowance s).calls =
      ((verify secret).run environment left s).calls := by
  obtain ⟨left, hcalls⟩ := Activity.calls_within filter.lookupTimeout
    ((verify secret).run environment) allowance s
  refine ⟨left, ?_⟩
  simp only [authenticate, henabled, if_true, hpresented]
  rw [← hcalls]
  cases hresult : (Activity.within filter.lookupTimeout
      ((verify secret).run environment) allowance s).result with
  | none => rw [Activity.bind_of_none hresult]
  | some checked =>
    rw [Activity.bind_of_some hresult]
    exact List.append_nil _

/-- The filter makes a beginning of the three look-ups, in their order. -/
theorem looksUp_authenticate (filter : Filter) (environment : Environment σ)
    (authorization : List (List UInt8)) (allowance : Option Nat) (s : σ) :
    LooksUp (filter.authenticate environment authorization allowance s).calls := by
  by_cases henabled : filter.enabled = true
  · cases hpresented : presentedSecret authorization with
    | error reason =>
      simp only [authenticate, henabled, if_true, hpresented]
      exact .nil
    | ok secret =>
      obtain ⟨left, hcalls⟩ := calls_authenticate henabled environment hpresented allowance s
      obtain ⟨user, more, hverify, hmore⟩ := calls_verify environment secret left s
      rw [hcalls, hverify]
      exact ⟨_, user, List.prefix_cons_inj _ |>.mpr hmore⟩
  · simp only [authenticate, henabled]
    exact .nil

/-- The check of a secret makes no calls but such as read. -/
theorem asks_verify (secret : String) : (verify secret).Asks fun call => call.reads = true := by
  rw [verify_eq]
  refine ⟨rfl, ?_⟩
  intro found
  match found with
  | .error error => exact trivial
  | .ok none => exact trivial
  | .ok (some row) =>
    refine ⟨rfl, ?_⟩
    intro now
    by_cases hexpired : row.isExpiredAt now
    · simp only [hexpired, if_true]
      exact trivial
    · simp only [hexpired]
      exact ⟨rfl, fun _ => trivial⟩

/-- The filter changes nothing but the plan of faults, whether it is cut off or not. -/
theorem replanned_authenticate (filter : Filter) (authorization : List (List UInt8))
    (allowance : Option Nat) (backend : Backend) :
    backend.Replanned
      (filter.authenticate Backend.environment authorization allowance backend).state := by
  have hsame : backend.Replanned backend := ⟨backend.faults, rfl⟩
  have hensures : (filter.authenticate Backend.environment authorization).Ensures backend
      backend.Replanned fun _ => backend.Replanned := by
    unfold authenticate
    by_cases henabled : filter.enabled
    · simp only [henabled, if_true]
      cases presentedSecret authorization with
      | error reason => exact .done hsame
      | ok secret =>
        have hverify := Procedure.ensures_of_asks
          (fun s call hreads h => Backend.Replanned.environment h hreads) (asks_verify secret) hsame
        have hlimited : (Activity.within filter.lookupTimeout
            ((verify secret).run Backend.environment)).Ensures backend
            backend.Replanned fun _ => backend.Replanned :=
          hverify.within (fun _ h => h) (fun _ _ h => h) filter.lookupTimeout
        exact hlimited.bind fun result s' h => .done h
    · simp only [henabled]
      exact .done hsame
  exact hensures.state allowance

end Filter
end BearerTokens
