import BearerTokens.Proofs.Deployment.Interruption

/-!
# Procedures at a point of time

Nothing that a procedure calls moves the clock of a backend.  A procedure may
therefore be carried out as if every reading of the clock stood in it already, with
faults and delays as well as without.

Main results:

- Definition {lit}`Procedure.atTime`: a procedure with its readings of the clock filled in.
- Theorems {lit}`Procedure.eval_atTime` and {lit}`Procedure.run_atTime`: it does the same.
-/

namespace BearerTokens
namespace Procedure

variable {α β : Type}

/-- A procedure whose readings of the clock are all given one time. -/
def atTime (now : Int) : Procedure α → Procedure α
  | .done value => .done value
  | .ask .now next => (next now).atTime now
  | .ask call next => .ask call fun answer => (next answer).atTime now

/-- Readings are filled in on both sides of a sequence. -/
theorem atTime_bind (now : Int) (p : Procedure α) (f : α → Procedure β) :
    (p.bind f).atTime now = (p.atTime now).bind fun value => (f value).atTime now := by
  induction p with
  | done value => rfl
  | ask call next ih =>
    cases call with
    | now => exact ih now
    | _ =>
      simp only [bind, atTime]
      congr 1
      funext answer
      exact ih answer

/-- A change of the result reads no clock. -/
theorem atTime_map (now : Int) (p : Procedure α) (f : α → β) :
    (p.map f).atTime now = (p.atTime now).map f :=
  atTime_bind now p _

/-! ## Without faults -/

/-- A call leaves the clock as it is. -/
theorem clock_answer (backend : Backend) (call : Call) :
    (backend.answer call).2.clock = backend.clock := by
  rw [backend.answer_frame call]

/-- Without faults a procedure may be evaluated with its readings filled in. -/
theorem eval_atTime (p : Procedure α) (backend : Backend) :
    (p.atTime backend.clock).eval Backend.answer backend = p.eval Backend.answer backend := by
  induction p generalizing backend with
  | done value => rfl
  | ask call next ih =>
    have hclock := clock_answer backend call
    have hrest := ih (backend.answer call).1 (backend.answer call).2
    rw [hclock] at hrest
    cases call with
    | now => exact hrest
    | _ => exact hrest

end Procedure

/-! ## With faults -/

/-- Two runs that end in the same way, whatever calls they made. -/
structure Run.Alike {σ α : Type} (run other : Run σ α) : Prop where
  result : run.result = other.result
  elapsed : run.elapsed = other.elapsed
  state : run.state = other.state

/-- Activities that go on alike after the same beginning end alike. -/
theorem Activity.bind_alike {σ α β : Type} {first : Activity σ α}
    {next other : α → Activity σ β} {allowance : Option Nat} {s : σ}
    (h : ∀ value left, (next value left (first allowance s).state).Alike
      (other value left (first allowance s).state)) :
    (first.bind next allowance s).Alike (first.bind other allowance s) := by
  cases hresult : (first allowance s).result with
  | none =>
    rw [bind_of_none hresult, bind_of_none hresult]
    exact ⟨rfl, rfl, rfl⟩
  | some value =>
    have hnext := h value (allowance.map (· - (first allowance s).elapsed))
    rw [bind_of_some hresult, bind_of_some hresult]
    exact ⟨hnext.result, congrArg ((first allowance s).elapsed + ·) hnext.elapsed, hnext.state⟩

namespace Backend

/-- Even a call that is dropped leaves the clock as it is. -/
theorem clock_perform (backend : Backend) (call : Call) (allowance : Option Nat) :
    (Activity.perform environment call allowance backend).state.clock = backend.clock := by
  obtain ⟨hwaiting, hstate⟩ := environment_keeps
    (P := fun after => after.clock = backend.clock) (fun _ _ h => h)
    (fun before call h => (Procedure.clock_answer before call).trans h) backend call rfl
  have hkept : (Activity.perform environment call).Ensures backend
      (fun after => after.clock = backend.clock) fun _ after => after.clock = backend.clock :=
    .perform hwaiting hstate hstate
  exact hkept.state allowance

end Backend

namespace Procedure

variable {α : Type}

/-- With any faults a procedure may be carried out with its readings filled in. -/
theorem run_atTime (p : Procedure α) (backend : Backend) (allowance : Option Nat) :
    ((p.atTime backend.clock).run Backend.environment allowance backend).Alike
      (p.run Backend.environment allowance backend) := by
  induction p generalizing backend allowance with
  | done value => exact ⟨rfl, rfl, rfl⟩
  | ask call next ih =>
    have hrest : ∀ answer left,
        let after := (Activity.perform Backend.environment call allowance backend).state
        (((next answer).atTime backend.clock).run Backend.environment left after).Alike
          ((next answer).run Backend.environment left after) := by
      intro answer left after
      have hnext := ih answer after left
      rwa [backend.clock_perform call allowance] at hnext
    cases call with
    | now =>
      -- The reading itself takes no time and changes nothing.
      have hread : (ask .now next).run Backend.environment allowance backend =
          let run := (next backend.clock).run Backend.environment allowance backend
          ⟨run.result, run.elapsed, run.state, .now :: run.calls⟩ := by
        simp [run, Activity.bind, Activity.perform, Backend.environment, Call.method?,
          Backend.faulty, Backend.injected, Fault.none, Backend.answer, Backend.hasFailed]
      have hnext := ih backend.clock backend allowance
      rw [hread]
      exact ⟨hnext.result, hnext.elapsed, hnext.state⟩
    | _ => exact Activity.bind_alike hrest

/-- What a procedure ensures may be shown with its readings filled in. -/
theorem ensures_of_atTime {p : Procedure α} {backend : Backend} {cut : Backend → Prop}
    {post : α → Backend → Prop}
    (h : ((p.atTime backend.clock).run Backend.environment).Ensures backend cut post) :
    (p.run Backend.environment).Ensures backend cut post := by
  intro allowance
  have hfilled := h allowance
  obtain ⟨hresult, -, hstate⟩ := p.run_atTime backend allowance
  unfold Run.Satisfies at hfilled ⊢
  rwa [hresult, hstate] at hfilled

end Procedure
end BearerTokens
