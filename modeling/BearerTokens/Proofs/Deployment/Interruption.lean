import BearerTokens.Proofs.Deployment.FaultFree

/-!
# Activities that may be cut off

A limit of time may end an activity during any of its calls, before the call has
had its effect or after.  What is known in either case is proved along the
activity, with one condition for the state in which it is dropped and one for the
result and the state with which it ends.

Main results:

- Definition {lit}`Activity.Ensures`: what holds of an activity however it ends.
- Theorems {lit}`Ensures.bind`, {lit}`Ensures.within` and {lit}`Procedure.ensures_ask`:
  one rule for each way to build an activity.
- Theorem {lit}`Backend.environment_cases`: what a call with a fault may do.
- Theorem {lit}`Backend.ensures_ask`: the rule for calls with any faults.
-/

namespace BearerTokens

variable {σ α β : Type}

/-! ## What an activity ensures -/

/-- One condition holds of the state when a run was cut off, another of its end. -/
def Run.Satisfies (run : Run σ α) (cut : σ → Prop) (post : α → σ → Prop) : Prop :=
  match run.result with
  | none => cut run.state
  | some value => post value run.state

namespace Activity

/-- Under every allowance, a run of the activity satisfies both conditions. -/
def Ensures (activity : Activity σ α) (s : σ) (cut : σ → Prop) (post : α → σ → Prop) : Prop :=
  ∀ allowance, (activity allowance s).Satisfies cut post

variable {s : σ} {cut : σ → Prop} {post : α → σ → Prop}

/-- Doing nothing leaves everything as it is. -/
theorem Ensures.done {value : α} (h : post value s) :
    (Activity.done value).Ensures s cut post :=
  fun _ => h

/-- An activity that is cut off is all that happens. -/
theorem bind_of_none {first : Activity σ α} {allowance : Option Nat}
    (h : (first allowance s).result = none) (next : α → Activity σ β) :
    let one := first allowance s
    first.bind next allowance s = ⟨none, one.elapsed, one.state, one.calls⟩ := by
  simp only [Activity.bind, h]

/-- An activity that ends is followed by the next with what is left of the allowance. -/
theorem bind_of_some {first : Activity σ α} {allowance : Option Nat} {value : α}
    (h : (first allowance s).result = some value) (next : α → Activity σ β) :
    let one := first allowance s
    let two := next value (allowance.map (· - one.elapsed)) one.state
    first.bind next allowance s =
      ⟨two.result, one.elapsed + two.elapsed, two.state, one.calls ++ two.calls⟩ := by
  simp only [Activity.bind, h]

/-- What is ensured in between carries over to what follows. -/
theorem Ensures.bind {first : Activity σ α} {next : α → Activity σ β} {mid : α → σ → Prop}
    {post : β → σ → Prop} (hfirst : first.Ensures s cut mid)
    (hnext : ∀ value s', mid value s' → (next value).Ensures s' cut post) :
    (first.bind next).Ensures s cut post := by
  intro allowance
  have hone := hfirst allowance
  unfold Run.Satisfies at hone
  cases hresult : (first allowance s).result with
  | none =>
    simp only [hresult] at hone
    rw [bind_of_none hresult]
    exact hone
  | some value =>
    simp only [hresult] at hone
    have htwo := hnext value _ hone (allowance.map (· - (first allowance s).elapsed))
    rw [bind_of_some hresult]
    exact htwo

/-- Under a limit of its own, an activity that is dropped has ended without a result. -/
theorem Ensures.within {activity : Activity σ α} {limited : Option α → σ → Prop}
    (h : activity.Ensures s cut post) (hnone : ∀ s', cut s' → limited none s')
    (hsome : ∀ value s', post value s' → limited (some value) s') (limit : Nat) :
    (Activity.within limit activity).Ensures s cut limited := by
  intro allowance
  -- Either the allowance ends the activity first, or its own limit does.
  by_cases hlimit : exceeds allowance limit
  · have hinner := h allowance
    unfold Run.Satisfies at hinner
    cases hresult : (activity allowance s).result with
    | none =>
      simp only [hresult] at hinner
      simpa only [Activity.within, hlimit, if_true, Run.Satisfies, hresult, Option.map_none]
        using hinner
    | some value =>
      simp only [hresult] at hinner
      simpa only [Activity.within, hlimit, if_true, Run.Satisfies, hresult, Option.map_some]
        using hsome value _ hinner
  · have hinner := h (some limit)
    unfold Run.Satisfies at hinner
    cases hresult : (activity (some limit) s).result with
    | none =>
      simp only [hresult] at hinner
      simpa only [Activity.within, hlimit, Bool.false_eq_true, if_false, Run.Satisfies, hresult]
        using hnone _ hinner
    | some value =>
      simp only [hresult] at hinner
      simpa only [Activity.within, hlimit, Bool.false_eq_true, if_false, Run.Satisfies, hresult]
        using hsome value _ hinner

/-- Weaker conditions are ensured as well. -/
theorem Ensures.imp {activity : Activity σ α} {cut' : σ → Prop} {post' : α → σ → Prop}
    (h : activity.Ensures s cut post) (hcut : ∀ s', cut s' → cut' s')
    (hpost : ∀ value s', post value s' → post' value s') :
    activity.Ensures s cut' post' := by
  intro allowance
  have hrun := h allowance
  unfold Run.Satisfies at hrun ⊢
  cases hresult : (activity allowance s).result with
  | none =>
    rw [hresult] at hrun
    exact hcut _ hrun
  | some value =>
    rw [hresult] at hrun
    exact hpost value _ hrun

/-- Two pairs of conditions are ensured together. -/
theorem Ensures.and {activity : Activity σ α} {cut' : σ → Prop} {post' : α → σ → Prop}
    (h : activity.Ensures s cut post) (h' : activity.Ensures s cut' post') :
    activity.Ensures s (fun s' => cut s' ∧ cut' s')
      fun value s' => post value s' ∧ post' value s' := by
  intro allowance
  have hrun := h allowance
  have hrun' := h' allowance
  unfold Run.Satisfies at hrun hrun' ⊢
  cases hresult : (activity allowance s).result with
  | none =>
    rw [hresult] at hrun hrun'
    exact ⟨hrun, hrun'⟩
  | some value =>
    rw [hresult] at hrun hrun'
    exact ⟨hrun, hrun'⟩

/-- What is ensured of every state holds in the end. -/
theorem Ensures.state {activity : Activity σ α} {P : σ → Prop}
    (h : activity.Ensures s P fun _ => P) (allowance : Option Nat) :
    P (activity allowance s).state := by
  have hrun := h allowance
  unfold Run.Satisfies at hrun
  cases hresult : (activity allowance s).result with
  | none => simpa only [hresult] using hrun
  | some value => simpa only [hresult] using hrun

/-- An activity that no limit of time ends satisfies the condition of its end. -/
theorem Ensures.of_prompt {activity : Activity σ α} {value : α} {s' : σ}
    (h : activity.Ensures s cut post) (hprompt : activity.Prompt s value s') : post value s' := by
  have hrun := h none
  unfold Run.Satisfies at hrun
  simpa only [hprompt.result none, hprompt.state none] using hrun

/-- A call is dropped before its effect or after it, or gives its answer. -/
theorem Ensures.perform {environment : Environment σ} {call : Call}
    {post : call.Answer → σ → Prop} (hwaiting : cut (environment s call).waiting)
    (hstate : cut (environment s call).state)
    (hanswer : post (environment s call).answer (environment s call).state) :
    (Activity.perform environment call).Ensures s cut post := by
  intro allowance
  unfold Activity.perform
  by_cases hbefore : exceeds allowance (environment s call).before
  · rw [if_pos hbefore]
    exact hwaiting
  · by_cases hafter : exceeds allowance ((environment s call).before + (environment s call).after)
    · rw [if_neg hbefore, if_pos hafter]
      exact hstate
    · rw [if_neg hbefore, if_neg hafter]
      exact hanswer

/-- Nothing comes before an activity that follows on nothing. -/
theorem done_bind (value : α) (next : α → Activity σ β) :
    (Activity.done value).bind next = next value := by
  funext allowance s
  simp [Activity.bind, Activity.done]

/-- Activities in a row need no brackets. -/
theorem bind_assoc {γ : Type} (first : Activity σ α) (second : α → Activity σ β)
    (third : β → Activity σ γ) :
    (first.bind second).bind third = first.bind fun value => (second value).bind third := by
  funext allowance s
  unfold Activity.bind
  cases hone : (first allowance s).result with
  | none => simp only [hone]
  | some value =>
    simp only [hone]
    cases htwo : (second value (allowance.map (· - (first allowance s).elapsed))
        (first allowance s).state).result with
    | none => rfl
    | some value' =>
      simp [Option.map_map, Function.comp_def, Nat.sub_sub, Nat.add_assoc]

end Activity

/-! ## Procedures -/

namespace Procedure

variable {environment : Environment σ} {s : σ} {cut : σ → Prop}

/-- A sequence of procedures is carried out in order. -/
theorem run_bind (p : Procedure α) (f : α → Procedure β) :
    (p.bind f).run environment =
      (p.run environment).bind fun value => (f value).run environment := by
  induction p with
  | done value => exact (Activity.done_bind value fun v => (f v).run environment).symm
  | ask call next ih =>
    simp only [bind, run, ih]
    exact (Activity.bind_assoc _ _ _).symm

/-- A procedure goes on from the answer to its first call, unless it is dropped there. -/
theorem ensures_ask {call : Call} {next : call.Answer → Procedure α} {post : α → σ → Prop}
    (hwaiting : cut (environment s call).waiting) (hstate : cut (environment s call).state)
    (hnext : ((next (environment s call).answer).run environment).Ensures
      (environment s call).state cut post) :
    ((ask call next).run environment).Ensures s cut post := by
  have hperform : (Activity.perform environment call).Ensures s cut
      fun answer s' => answer = (environment s call).answer ∧
        s' = (environment s call).state :=
    .perform hwaiting hstate ⟨rfl, rfl⟩
  refine hperform.bind ?_
  rintro answer s' ⟨rfl, rfl⟩
  exact hnext

/-- A change of the result follows what a procedure ensures. -/
theorem ensures_map {p : Procedure α} {f : α → β} {post : β → σ → Prop}
    (h : (p.run environment).Ensures s cut fun value s' => post (f value) s') :
    ((p.map f).run environment).Ensures s cut post := by
  rw [map, run_bind]
  refine h.bind ?_
  intro value s' hpost
  exact .done hpost

/-- What every call keeps, in every state that it may leave, a procedure keeps. -/
theorem ensures_of_invariant {P : σ → Prop}
    (h : ∀ s call, P s → P (environment s call).waiting ∧ P (environment s call).state)
    (p : Procedure α) {s : σ} (hs : P s) :
    (p.run environment).Ensures s P fun _ => P := by
  induction p generalizing s with
  | done value => exact .done hs
  | ask call next ih =>
    obtain ⟨hwaiting, hstate⟩ := h s call hs
    exact ensures_ask hwaiting hstate (ih _ hstate)

end Procedure

/-! ## Calls with faults -/

namespace Backend

/-- An answer that a fault puts in place of a call: a failure, or nothing found or deleted. -/
def Spoilt (call : Call) (answer : call.Answer) : Prop :=
  (∃ error, failed error call = some answer) ∨ missed call = some answer

/-- A store tells what it holds, or that it is out of service. -/
theorem inService_cases {α : Type} (backend : Backend) (value : α) :
    (∃ error, backend.inService value = .error error) ∨ backend.inService value = .ok value := by
  unfold inService
  cases backend.storeOutage with
  | some outage => exact .inl ⟨outage, rfl⟩
  | none => exact .inr rfl

/-- A directory gives a user, or tells that it is out of service. -/
theorem answer_load_cases (backend : Backend) (user : Int) :
    (∃ error, backend.answer (.load user) = (.error error, backend)) ∨
      backend.answer (.load user) = (backend.directory.load user, backend) := by
  simp only [answer]
  split
  · next outage _ => exact .inl ⟨.backend outage, rfl⟩
  · exact .inr rfl

/-- The clock and the random source give no spoilt answers. -/
theorem not_spoilt_of_method? {call : Call} (h : call.method? = none) (answer : call.Answer) :
    ¬ Spoilt call answer := by
  rintro (⟨error, hfailed⟩ | hmissed)
  · cases call <;> cases h <;> cases hfailed
  · cases call <;> cases h <;> cases hmissed

/--
A call takes a fault from the plan.  While it waits, nothing else has changed; then
it either is answered as without faults, or has a spoilt answer and no effect.
-/
theorem environment_cases (backend : Backend) (call : Call) :
    ∃ plan,
      let planned := { backend with faults := plan }
      (environment backend call).waiting = planned ∧
        ((environment backend call).answer = (planned.answer call).1 ∧
            (environment backend call).state = (planned.answer call).2 ∨
          Spoilt call (environment backend call).answer ∧
            (environment backend call).state = planned) := by
  have hfaulty : ∀ (fault : Fault) (planned : Backend),
      (planned.faulty fault call).waiting = planned ∧
        ((planned.faulty fault call).answer = (planned.answer call).1 ∧
            (planned.faulty fault call).state = (planned.answer call).2 ∨
          Spoilt call (planned.faulty fault call).answer ∧
            (planned.faulty fault call).state = planned) := by
    intro fault planned
    unfold faulty
    cases hinjected : injected fault call with
    | none => exact ⟨rfl, .inl ⟨rfl, rfl⟩⟩
    | some value =>
      refine ⟨rfl, .inr ⟨?_, rfl⟩⟩
      unfold injected at hinjected
      split at hinjected
      · next error _ => exact .inl ⟨error, hinjected⟩
      · split at hinjected
        · exact .inr hinjected
        · simp at hinjected
  unfold environment
  cases call.method? with
  | none => exact ⟨backend.faults, hfaulty .none backend⟩
  | some method => exact ⟨_, hfaulty (FaultPlan.take method backend.faults).1 _⟩

/-- What no answer and no change of the plan breaks, no call with a fault breaks. -/
theorem environment_keeps {P : Backend → Prop}
    (hplan : ∀ backend plan, P backend → P { backend with faults := plan })
    (hanswer : ∀ backend call, P backend → P (backend.answer call).2) (backend : Backend)
    (call : Call) (h : P backend) :
    P (environment backend call).waiting ∧ P (environment backend call).state := by
  obtain ⟨plan, hwaiting, ⟨-, hstate⟩ | ⟨-, hstate⟩⟩ := environment_cases backend call
  · rw [hwaiting, hstate]
    exact ⟨hplan backend plan h, hanswer _ call (hplan backend plan h)⟩
  · rw [hwaiting, hstate]
    exact ⟨hplan backend plan h, hplan backend plan h⟩

/-- With any faults, a procedure goes on from a true answer or from a spoilt one. -/
theorem ensures_ask {α : Type} {backend : Backend} {cut : Backend → Prop} {call : Call}
    {next : call.Answer → Procedure α} {post : α → Backend → Prop}
    (hwaiting : ∀ plan, cut { backend with faults := plan })
    (htrue : ∀ plan,
      let after := ({ backend with faults := plan } : Backend).answer call
      cut after.2 ∧ ((next after.1).run environment).Ensures after.2 cut post)
    (hspoilt : ∀ plan answer, Spoilt call answer →
      ((next answer).run environment).Ensures { backend with faults := plan } cut post) :
    ((Procedure.ask call next).run environment).Ensures backend cut post := by
  obtain ⟨plan, hstill, ⟨hanswer, hafter⟩ | ⟨hanswer, hafter⟩⟩ := environment_cases backend call
  · obtain ⟨hcut, hnext⟩ := htrue plan
    apply Procedure.ensures_ask
    · rw [hstill]
      exact hwaiting plan
    · rw [hafter]
      exact hcut
    · rw [hanswer, hafter]
      exact hnext
  · apply Procedure.ensures_ask
    · rw [hstill]
      exact hwaiting plan
    · rw [hafter]
      exact hwaiting plan
    · rw [hafter]
      exact hspoilt plan _ hanswer

end Backend
end BearerTokens
