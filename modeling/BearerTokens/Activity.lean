import BearerTokens.Procedure

/-!
# Activities under an allowance of time

An activity runs a procedure against collaborators that may be slow.  It is
given an allowance: once the delays that it meets add up to more, the work in
progress is dropped, and the call that was waiting keeps the effect that it had
so far.  An activity may put a part of itself under a limit of its own; when
both run out together, the inner limit is the one that is noticed.

Main results:

- Definition {lit}`Procedure.run`: the calls of a procedure, carried out in order.
- Definition {lit}`Activity.within`: a part of an activity under its own limit.
-/

namespace BearerTokens

variable {σ α β : Type}

/-! ## Collaborators that take time -/

/-- How a collaborator treats one call. -/
structure Reply (σ : Type) (call : Call) where
  /-- The delay before the call has its effect. -/
  before : Nat
  /-- The state if the call is dropped during that delay. -/
  waiting : σ
  answer : call.Answer
  /-- The delay after the effect and before the answer. -/
  after : Nat
  /-- The state once the call has had its effect. -/
  state : σ

/-- Collaborators with a state of their own. -/
abbrev Environment (σ : Type) := σ → (call : Call) → Reply σ call

/-! ## Runs -/

/-- What became of an activity. -/
structure Run (σ α : Type) where
  /-- The result, unless the allowance ran out. -/
  result : Option α
  /-- The time spent. -/
  elapsed : Nat
  /-- The state of the collaborators. -/
  state : σ
  /-- The calls in order, the one that was dropped included. -/
  calls : List Call

/-- A computation under an allowance of time; none is an allowance without end. -/
def Activity (σ α : Type) := Option Nat → σ → Run σ α

/-- Whether a delay is longer than an allowance. -/
def exceeds : Option Nat → Nat → Bool
  | none, _ => false
  | some limit, delay => limit < delay

namespace Activity

/-- The activity that does nothing. -/
def done (value : α) : Activity σ α :=
  fun _ s => ⟨some value, 0, s, []⟩

/-- Go on with the result of an activity and what is left of the allowance. -/
def bind (first : Activity σ α) (next : α → Activity σ β) : Activity σ β :=
  fun allowance s =>
    let one := first allowance s
    match one.result with
    | none => ⟨none, one.elapsed, one.state, one.calls⟩
    | some value =>
      let two := next value (allowance.map (· - one.elapsed)) one.state
      ⟨two.result, one.elapsed + two.elapsed, two.state, one.calls ++ two.calls⟩

instance : Monad (Activity σ) where
  pure := done
  bind := bind

/-- Carry out one call. -/
def perform (environment : Environment σ) (call : Call) : Activity σ call.Answer :=
  fun allowance s =>
    let reply := environment s call
    if exceeds allowance reply.before then
      ⟨none, allowance.getD 0, reply.waiting, [call]⟩
    else if exceeds allowance (reply.before + reply.after) then
      ⟨none, allowance.getD 0, reply.state, [call]⟩
    else ⟨some reply.answer, reply.before + reply.after, reply.state, [call]⟩

/--
Put an activity under a limit of its own.  The result is {lit}`none` when that
limit runs out; when the outer allowance runs out first, there is no result.
-/
def within (limit : Nat) (activity : Activity σ α) : Activity σ (Option α) :=
  fun allowance s =>
    if exceeds allowance limit then
      let run := activity allowance s
      ⟨run.result.map some, run.elapsed, run.state, run.calls⟩
    else
      let run := activity (some limit) s
      match run.result with
      | none => ⟨some none, limit, run.state, run.calls⟩
      | some value => ⟨some (some value), run.elapsed, run.state, run.calls⟩

end Activity

/-- Carry out the calls of a procedure in order. -/
def Procedure.run (environment : Environment σ) : Procedure α → Activity σ α
  | .done value => Activity.done value
  | .ask call next =>
    (Activity.perform environment call).bind fun answer => (next answer).run environment

end BearerTokens
