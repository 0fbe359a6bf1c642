import BearerTokens.Deployment.Backend
import BearerTokens.Proofs.Store.Reachable

/-!
# Collaborators without faults

A backend that is in service and has no faults planned answers every call at
once, so that carrying out a procedure under any limits of time is the same as
evaluating it.  Calls touch nothing but the store and the random source, and
they keep the store reachable.

Main results:

- Definition {lit}`Backend.FaultFree`: in service, and without planned faults.
- Definition {lit}`Activity.Prompt`: an activity that no limit of time ends.
- Theorem {lit}`Procedure.run_prompt`: carrying out is evaluating.
- Theorem {lit}`Backend.answer_change`: a call makes at most one change of the store.
- Theorem {lit}`Procedure.eval_frame`: what no procedure touches.
- Theorem {lit}`Procedure.eval_store_reachable`: the store stays reachable.
-/

namespace BearerTokens

/-! ## What every call keeps -/

namespace Procedure

variable {α σ : Type}

/-- What every call keeps, every procedure keeps. -/
theorem eval_invariant {answer : σ → (c : Call) → c.Answer × σ} {P : σ → Prop}
    (h : ∀ s c, P s → P (answer s c).2) (p : Procedure α) {s : σ} (hs : P s) :
    P (p.eval answer s).2 := by
  induction p generalizing s with
  | done value => exact hs
  | ask c next ih => exact ih _ (h s c hs)

end Procedure

namespace Backend

/-- A call changes nothing but the store and the random source. -/
theorem answer_frame (backend : Backend) (call : Call) :
    (backend.answer call).2 =
      { backend with
        store := (backend.answer call).2.store
        entropy := (backend.answer call).2.entropy } := by
  cases call with
  | insert token => simp only [answer]; split <;> rfl
  | delete id => simp only [answer]; split <;> rfl
  | load user => simp only [answer]; split <;> rfl
  | findByOwnerAndName owner name => rfl
  | findBySecretDigest digest => rfl
  | listByOwner owner => rfl
  | now => rfl
  | entropy => rfl

/-- A call makes at most one change of the store. -/
theorem answer_change (backend : Backend) (call : Call) :
    TokenStore.Change backend.store (backend.answer call).2.store := by
  cases call with
  | insert token =>
    simp only [answer]
    split
    · exact .same
    · exact .insert _ token
  | delete id =>
    simp only [answer]
    split
    · exact .same
    · exact .delete id
  | load user =>
    simp only [answer]
    split <;> exact .same
  | findByOwnerAndName owner name => exact .same
  | findBySecretDigest digest => exact .same
  | listByOwner owner => exact .same
  | now => exact .same
  | entropy => exact .same

end Backend

namespace Procedure

variable {α : Type}

/-- A procedure changes nothing but the store and the random source. -/
theorem eval_frame (p : Procedure α) (backend : Backend) :
    (p.eval Backend.answer backend).2 =
      { backend with
        store := (p.eval Backend.answer backend).2.store
        entropy := (p.eval Backend.answer backend).2.entropy } := by
  refine eval_invariant
    (P := fun b : Backend => b = { backend with store := b.store, entropy := b.entropy }) ?_ p rfl
  intro b c hb
  rw [Backend.answer_frame b c, hb]

/-- A procedure keeps the store reachable. -/
theorem eval_store_reachable (p : Procedure α) {backend : Backend}
    (h : backend.store.Reachable) : (p.eval Backend.answer backend).2.store.Reachable :=
  eval_invariant (P := fun b : Backend => b.store.Reachable)
    (fun b c hb => (b.answer_change c).reachable hb) p h

/-- A procedure takes back no number of a row. -/
theorem lastId_le_eval (p : Procedure α) {backend : Backend} (h : backend.store.Reachable) :
    backend.store.lastId ≤ (p.eval Backend.answer backend).2.store.lastId := by
  have hkept := eval_invariant
    (P := fun b : Backend => b.store.Reachable ∧ backend.store.lastId ≤ b.store.lastId)
    (fun b c hb => by
      have hchange := b.answer_change c
      exact ⟨hchange.reachable hb.1, Int.le_trans hb.2 (hchange.lastId_le hb.1)⟩)
    p ⟨h, Int.le_refl _⟩
  exact hkept.2

end Procedure

/-! ## Answers in service -/

namespace Backend

/-- The store and the directory are in service, and no faults are planned. -/
structure FaultFree (backend : Backend) : Prop where
  storeOutage : backend.storeOutage = none
  directoryOutage : backend.directoryOutage = none
  faults : backend.faults = []

/-- A procedure plans no faults. -/
theorem FaultFree.eval {α : Type} {backend : Backend} (h : backend.FaultFree)
    (p : Procedure α) : (p.eval Backend.answer backend).2.FaultFree := by
  rw [Procedure.eval_frame]
  exact ⟨h.storeOutage, h.directoryOutage, h.faults⟩

/-- Without faults a call is answered at once. -/
theorem environment_of_faultFree {backend : Backend} (h : backend.FaultFree) (call : Call) :
    environment backend call =
      ⟨0, backend, (backend.answer call).1, 0, (backend.answer call).2⟩ := by
  have hfaults : ({ backend with faults := [] } : Backend) = backend := by
    rw [← h.faults]
  cases call <;>
    simp [environment, Call.method?, h.faults, FaultPlan.take, hfaults, faulty, injected,
      Fault.none]

end Backend

/-- No allowance is exceeded by no delay. -/
@[simp]
theorem exceeds_zero (allowance : Option Nat) : exceeds allowance 0 = false := by
  cases allowance <;> simp [exceeds]

/-! ## Activities that take no time -/

namespace Activity

variable {σ α β : Type} {s s' s'' : σ}

/-- An activity that under every allowance takes no time and ends in the same way. -/
def Prompt (activity : Activity σ α) (s : σ) (value : α) (s' : σ) : Prop :=
  ∀ allowance, ∃ calls, activity allowance s = ⟨some value, 0, s', calls⟩

/-- What a prompt activity gives. -/
theorem Prompt.result {activity : Activity σ α} {value : α} (h : activity.Prompt s value s')
    (allowance : Option Nat) : (activity allowance s).result = some value := by
  rcases h allowance with ⟨calls, heq⟩
  rw [heq]

/-- Where a prompt activity leads. -/
theorem Prompt.state {activity : Activity σ α} {value : α} (h : activity.Prompt s value s')
    (allowance : Option Nat) : (activity allowance s).state = s' := by
  rcases h allowance with ⟨calls, heq⟩
  rw [heq]

/-- Doing nothing is prompt. -/
theorem Prompt.done (value : α) (s : σ) : (Activity.done value).Prompt s value s :=
  fun _ => ⟨[], rfl⟩

/-- Two prompt activities in a row are prompt. -/
theorem Prompt.bind {first : Activity σ α} {next : α → Activity σ β} {value : α} {final : β}
    (hfirst : first.Prompt s value s') (hnext : (next value).Prompt s' final s'') :
    (first.bind next).Prompt s final s'' := by
  intro allowance
  rcases hfirst allowance with ⟨calls, heq⟩
  rcases hnext (allowance.map (· - 0)) with ⟨more, hmore⟩
  refine ⟨calls ++ more, ?_⟩
  simp only [Activity.bind, heq, hmore, Nat.add_zero]

/-- No limit ends a prompt activity. -/
theorem Prompt.within {activity : Activity σ α} {value : α} (h : activity.Prompt s value s')
    (limit : Nat) : (Activity.within limit activity).Prompt s (some value) s' := by
  intro allowance
  -- The inner limit counts only when it is not the longer one.
  by_cases hlimit : exceeds allowance limit
  · rcases h allowance with ⟨calls, heq⟩
    refine ⟨calls, ?_⟩
    simp only [Activity.within, hlimit, if_true, heq, Option.map_some]
  · rcases h (some limit) with ⟨calls, heq⟩
    refine ⟨calls, ?_⟩
    simp only [Activity.within, hlimit, heq]
    rfl

end Activity

/-- A call without faults is prompt. -/
theorem Backend.perform_prompt {backend : Backend} (h : backend.FaultFree) (call : Call) :
    (Activity.perform Backend.environment call).Prompt backend
      (backend.answer call).1 (backend.answer call).2 := by
  intro allowance
  refine ⟨[call], ?_⟩
  simp only [Activity.perform, Backend.environment_of_faultFree h, Nat.add_zero, exceeds_zero,
    Bool.false_eq_true, if_false]

/-- Without faults, carrying out a procedure is evaluating it, and takes no time. -/
theorem Procedure.run_prompt {α : Type} (p : Procedure α) {backend : Backend}
    (h : backend.FaultFree) :
    (p.run Backend.environment).Prompt backend
      (p.eval Backend.answer backend).1 (p.eval Backend.answer backend).2 := by
  induction p generalizing backend with
  | done value => exact .done value backend
  | ask c next ih =>
    have hafter : (backend.answer c).2.FaultFree := h.eval (.ask c .done)
    exact (Backend.perform_prompt h c).bind (ih _ hafter)

end BearerTokens
