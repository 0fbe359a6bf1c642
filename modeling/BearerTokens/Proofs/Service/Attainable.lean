import BearerTokens.Proofs.Service.History

/-!
# Histories with faults

Between the steps of a history, faults may be planned, and the store or the directory
may go out of service and come back.  Calls and requests that are cut off by them leave
a store that insertions and deletions reach.

Main results:

- Definition {lit}`Backend.Attainable`: the backends that histories with faults reach.
- Theorem {lit}`Service.respond_keeps`: what no call breaks, no request breaks.
- Theorem {lit}`Backend.Attainable.regular`: what every history with faults keeps.
-/

namespace BearerTokens

/-! ## What requests keep -/

section

variable {σ : Type} {environment : Environment σ} {P : σ → Prop} {s : σ}

/-- What no call breaks, the filter does not break. -/
theorem Filter.ensures_of_invariant
    (hcall : ∀ s call, P s → P (environment s call).waiting ∧ P (environment s call).state)
    (filter : Filter) (authorization : List (List UInt8)) (hs : P s) :
    (filter.authenticate environment authorization).Ensures s P fun _ => P := by
  unfold authenticate
  by_cases henabled : filter.enabled
  · simp only [henabled, if_true]
    cases presentedSecret authorization with
    | error reason => exact .done hs
    | ok secret =>
      have hverify := Procedure.ensures_of_invariant hcall (verify secret) hs
      have hlimited : (Activity.within filter.lookupTimeout
          ((verify secret).run environment)).Ensures s P fun _ => P :=
        hverify.within (fun _ h => h) (fun _ _ h => h) filter.lookupTimeout
      exact hlimited.bind fun result s' h => .done h
  · simp only [henabled]
    exact .done hs

/-- What no call breaks, no request breaks, whether it is cut off or not. -/
theorem Service.respond_keeps
    (hcall : ∀ s call, P s → P (environment s call).waiting ∧ P (environment s call).state)
    (service : Service) (ids : Identifiers) (request : Http.Request) (hs : P s) :
    P (service.respond environment ids request s).state := by
  simp only [respond, respondInside]
  by_cases hlong : (declaredLength? request).any (maxBodyLength < ·)
  · simp only [hlong, if_true]
    exact hs
  · simp only [hlong, Bool.false_eq_true, if_false]
    generalize min maxBodyLength ((declaredLength? request).getD maxBodyLength) = bodyLimit
    have hfiltered : (service.filtered environment ids.session none request fun caller =>
        service.dispatch caller request bodyLimit).Ensures s P fun _ => P := by
      refine (Filter.ensures_of_invariant hcall service.filter request.authorization hs).bind ?_
      intro outcome s' h
      exact Procedure.ensures_of_invariant hcall _ h
    have htimed : (service.timed environment ids request bodyLimit).Ensures s P fun _ => P :=
      hfiltered.within (fun _ h => h) (fun _ _ h => h) service.requestTimeout
    exact htimed.state none

end

/-! ## Attainable backends -/

namespace Backend

/-- A store that insertions and deletions reach, and a keyed directory. -/
structure Regular (backend : Backend) : Prop where
  store : backend.store.Reachable
  directory : backend.directory.Keyed

variable {backend : Backend}

/-- No call breaks a regular backend, whatever faults it meets. -/
theorem Regular.environment (backend : Backend) (call : Call) (h : backend.Regular) :
    (Backend.environment backend call).waiting.Regular ∧
      (Backend.environment backend call).state.Regular := by
  refine environment_keeps (fun _ _ h => ⟨h.store, h.directory⟩) ?_ backend call h
  intro before call h
  refine ⟨(before.answer_change call).reachable h.store, ?_⟩
  rw [before.answer_frame call]
  exact h.directory

/-- No step breaks a regular backend. -/
theorem Regular.step (h : backend.Regular) (service : Service) (step : Step) :
    (service.step backend step).Regular := by
  cases step with
  | call call =>
    exact (Procedure.ensures_of_invariant Regular.environment call.procedure h).state none
  | request ids request => exact service.respond_keeps Regular.environment ids request h
  | setClock clock => exact ⟨h.store, h.directory⟩
  | putUser user => exact ⟨h.store, h.directory.insert user⟩
  | supply blocks => exact ⟨h.store, h.directory⟩

/-- The backends that histories with faults and outages reach, under any settings. -/
inductive Attainable : Backend → Prop where
  | ofUsers (users : List User) (clock : Int) : Attainable (.ofUsers users clock)
  | step {backend : Backend} (service : Service) (step : Step) :
    Attainable backend → Attainable (service.step backend step)
  | plan {backend : Backend} (faults : FaultPlan) :
    Attainable backend → Attainable { backend with faults := faults }
  | outage {backend : Backend} (store directory : Option StoreError) :
    Attainable backend →
    Attainable { backend with storeOutage := store, directoryOutage := directory }

/-- Every attainable backend is regular. -/
theorem Attainable.regular (h : backend.Attainable) : backend.Regular := by
  induction h with
  | ofUsers users clock => exact ⟨.empty, UserDirectory.keyed_ofList users⟩
  | step service step _ ih => exact ih.step service step
  | plan faults _ ih => exact ⟨ih.store, ih.directory⟩
  | outage store directory _ ih => exact ⟨ih.store, ih.directory⟩

/-- Without faults at present, an attainable backend is sound. -/
theorem Attainable.sound (h : backend.Attainable) (hfree : backend.FaultFree) :
    backend.Sound :=
  ⟨hfree, h.regular.store, h.regular.directory⟩

/-- A history attains its backends step by step. -/
theorem Attainable.run (h : backend.Attainable) (service : Service) (history : List Step) :
    (service.run backend history).Attainable := by
  induction history generalizing backend with
  | nil => exact h
  | cons step rest ih => exact ih (h.step service step)

end Backend
end BearerTokens
