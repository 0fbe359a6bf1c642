import BearerTokens.Proofs.Lifecycle.Transition
import BearerTokens.Proofs.Service.Handling

/-!
# Histories of a service

A history is any sequence of calls of the token service, requests, changes of the
directory, settings of the clock and supplies of random blocks.  Requests and calls
alike leave their trace in the store through calls of the token service only.

Main results:

- Definition {lit}`Service.run`: the backend after a history.
- Definition {lit}`Service.events`: the calls of the token service in a history,
  with their answers.
- Theorem {lit}`Service.Reachable.sound`: what every history keeps.
- Theorem {lit}`Service.effect_of_event?`: an event has an effect of its call.
-/

namespace BearerTokens

/-- What may happen to a service. -/
inductive Step where
  | call (call : ServiceCall)
  | request (ids : Identifiers) (request : Http.Request)
  | setClock (clock : Int)
  | putUser (user : User)
  | supply (blocks : List (Option Block))

/-- The call of the token service that a handling makes. -/
def Handling.call? : Handling → Option ServiceCall
  | .respond _ => none
  | .serve call => some call

namespace Service

/-! ## Steps and events -/

/-- The backend after a step. -/
def step (service : Service) (backend : Backend) : Step → Backend
  | .call call => (call.procedure.run Backend.environment none backend).state
  | .request ids request => (service.respond Backend.environment ids request backend).state
  | .setClock clock => { backend with clock := clock }
  | .putUser user => { backend with directory := backend.directory.insert user }
  | .supply blocks => { backend with entropy := backend.entropy.push blocks }

/-- The call of the token service that a step makes. -/
def callOf? (service : Service) (backend : Backend) : Step → Option ServiceCall
  | .call call => some call
  | .request ids request => (service.handling backend ids.session request).call?
  | .setClock _ => none
  | .putUser _ => none
  | .supply _ => none

/-- The call of the token service that a step makes, with its answer. -/
def event? (service : Service) (backend : Backend) (step : Step) :
    Option (ServiceCall × ServiceAnswer) :=
  (service.callOf? backend step).map fun call =>
    (call, (call.procedure.eval Backend.answer backend).1)

/-- The backend after a history. -/
def run (service : Service) (backend : Backend) (history : List Step) : Backend :=
  history.foldl service.step backend

/-- The calls of the token service in a history, with their answers. -/
def events (service : Service) (backend : Backend) :
    List Step → List (ServiceCall × ServiceAnswer)
  | [] => []
  | step :: history =>
    (service.event? backend step).toList ++ service.events (service.step backend step) history

/-- The backends that histories reach from one without tokens and faults. -/
def Reachable (service : Service) (backend : Backend) : Prop :=
  ∃ users clock history, backend = service.run (.ofUsers users clock) history

end Service

/-! ## What every history keeps -/

/-- A directory gives every user under its own number. -/
def UserDirectory.Keyed (directory : UserDirectory) : Prop :=
  ∀ id user, directory.users.get? id = some user → user.id = id

namespace UserDirectory

/-- A new user comes under its own number. -/
theorem Keyed.insert {directory : UserDirectory} (h : directory.Keyed) (user : User) :
    (directory.insert user).Keyed := by
  intro id found hfound
  simp only [UserDirectory.insert, Index.get?_insert] at hfound
  by_cases heq : user.id = id
  · rw [if_pos heq, Option.some.injEq] at hfound
    rw [← hfound]
    exact heq
  · rw [if_neg heq] at hfound
    exact h id found hfound

/-- New users come under their own numbers. -/
theorem Keyed.foldl_insert {directory : UserDirectory} (h : directory.Keyed)
    (users : List User) : (users.foldl UserDirectory.insert directory).Keyed := by
  induction users generalizing directory with
  | nil => exact h
  | cons user rest ih => exact ih (h.insert user)

/-- The directory of a list gives every user under its own number. -/
theorem keyed_ofList (users : List User) : (ofList users).Keyed := by
  have hempty : UserDirectory.Keyed ⟨.empty⟩ := by
    intro id user hfound
    simp at hfound
  exact hempty.foldl_insert users

end UserDirectory

namespace Backend

/-- No faults, a store that insertions and deletions reach, and a keyed directory. -/
structure Sound (backend : Backend) : Prop where
  faultFree : backend.FaultFree
  store : backend.store.Reachable
  directory : backend.directory.Keyed

/-- A backend without tokens is sound. -/
theorem Sound.ofUsers (users : List User) (clock : Int) : (ofUsers users clock).Sound where
  faultFree := ⟨rfl, rfl, rfl⟩
  store := .empty
  directory := UserDirectory.keyed_ofList users

/-- The time is no matter of soundness. -/
theorem Sound.setClock {backend : Backend} (h : backend.Sound) (clock : Int) :
    ({ backend with clock := clock } : Backend).Sound where
  faultFree := ⟨h.faultFree.storeOutage, h.faultFree.directoryOutage, h.faultFree.faults⟩
  store := h.store
  directory := h.directory

/-- A procedure keeps a backend sound. -/
theorem Sound.eval {α : Type} {backend : Backend} (h : backend.Sound) (p : Procedure α) :
    (p.eval Backend.answer backend).2.Sound where
  faultFree := h.faultFree.eval p
  store := p.eval_store_reachable h.store
  directory := by
    rw [p.eval_frame]
    exact h.directory

end Backend

namespace Service

variable {service : Service} {backend : Backend}

/-- A call of the token service is carried out as it is evaluated. -/
theorem step_call (h : backend.FaultFree) (call : ServiceCall) :
    service.step backend (.call call) = (call.procedure.eval Backend.answer backend).2 :=
  (call.procedure.run_prompt h).state none

/-- A request is carried out as it is handled. -/
theorem step_request (h : backend.FaultFree) (ids : Identifiers) (request : Http.Request) :
    service.step backend (.request ids request) =
      ((service.handling backend ids.session request).procedure.eval Backend.answer backend).2 :=
  (respond_eq h service ids request).2

/-- A step keeps a backend sound. -/
theorem step_sound (service : Service) (h : backend.Sound) (step : Step) :
    (service.step backend step).Sound := by
  cases step with
  | call call =>
    rw [step_call h.faultFree]
    exact h.eval call.procedure
  | request ids request =>
    rw [step_request h.faultFree]
    exact h.eval _
  | setClock clock => exact h.setClock clock
  | putUser user => exact ⟨⟨h.1.1, h.1.2, h.1.3⟩, h.store, h.directory.insert user⟩
  | supply blocks => exact ⟨⟨h.1.1, h.1.2, h.1.3⟩, h.store, h.directory⟩

/-- A history keeps a backend sound. -/
theorem run_sound (h : backend.Sound) (history : List Step) :
    (service.run backend history).Sound := by
  induction history generalizing backend with
  | nil => exact h
  | cons step rest ih => exact ih (service.step_sound h step)

/-- Every backend that a history reaches is sound. -/
theorem Reachable.sound (h : service.Reachable backend) : backend.Sound := by
  rcases h with ⟨users, clock, history, rfl⟩
  exact run_sound (.ofUsers users clock) history

/-! ## Effects of events -/

/-- The event of a request is the call that the request leads to, with its answer. -/
theorem handling_of_event? {ids : Identifiers} {request : Http.Request} {call : ServiceCall}
    {answer : ServiceAnswer}
    (hevent : service.event? backend (.request ids request) = some (call, answer)) :
    service.handling backend ids.session request = .serve call ∧
      (call.procedure.eval Backend.answer backend).1 = answer := by
  cases hhandling : service.handling backend ids.session request with
  | respond response => simp [event?, callOf?, hhandling, Handling.call?] at hevent
  | serve made =>
    simp only [event?, callOf?, hhandling, Handling.call?, Option.map_some, Option.some.injEq,
      Prod.mk.injEq] at hevent
    rcases hevent with ⟨rfl, rfl⟩
    exact ⟨rfl, rfl⟩

/-- A step that makes no call of the token service leaves the store alone. -/
theorem store_of_event?_eq_none (h : backend.Sound) {step : Step}
    (hnone : service.event? backend step = none) :
    (service.step backend step).store = backend.store := by
  cases step with
  | call call => simp [event?, callOf?] at hnone
  | request ids request =>
    rw [step_request h.faultFree]
    cases hhandling : service.handling backend ids.session request with
    | respond response => rfl
    | serve call => simp [event?, callOf?, hhandling, Handling.call?] at hnone
  | setClock clock => rfl
  | putUser user => rfl
  | supply blocks => rfl

/-- A step that makes a call of the token service has an effect of that call. -/
theorem effect_of_event? (h : backend.Sound) {step : Step} {call : ServiceCall}
    {answer : ServiceAnswer} (hevent : service.event? backend step = some (call, answer)) :
    ServiceCall.Effect backend.store (service.step backend step).store call answer := by
  have heffect := ServiceCall.eval_effect h.faultFree h.store call
  cases step with
  | call made =>
    simp only [event?, callOf?, Option.map_some, Option.some.injEq, Prod.mk.injEq] at hevent
    rcases hevent with ⟨rfl, rfl⟩
    rw [step_call h.faultFree]
    exact heffect
  | request ids request =>
    rcases handling_of_event? hevent with ⟨hhandling, rfl⟩
    rw [step_request h.faultFree, hhandling]
    simp only [Handling.procedure, Procedure.eval_map]
    exact heffect
  | setClock clock => simp [event?, callOf?] at hevent
  | putUser user => simp [event?, callOf?] at hevent
  | supply blocks => simp [event?, callOf?] at hevent

end Service
end BearerTokens
