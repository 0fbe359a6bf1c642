import Mathlib.Logic.Function.Basic
import BearerTokens.Proofs.Lifecycle.ServiceCall

/-!
# Interleaved calls of the token service

Any number of tasks share one store, and each carries out one call of the token
service.  A task takes turns: the first begins its call, every further one makes
its next call of a collaborator.  Nothing is locked between two turns, so other
tasks may change the store in the meantime.  Every task has a clock reading and
a random source of its own.

A task that has begun is in one of few stages.  As long as it is open it can
still take effect as if nothing had happened since it began; once it is settled
its answer is certain and it changes nothing more.

Main results:

- Definition {lit}`Machine.run`: the tasks and the store after a schedule of turns.
- Theorem {lit}`Thread.Open.turn`: an open task's turn leaves it open, or settles
  it as if it were served without interruption at that very point.
- Theorem {lit}`Thread.Settled.turn_eq`: a settled task changes nothing more.
- Theorem {lit}`Thread.Open.change`: what the turns of others do to an open task.
-/

namespace BearerTokens

/-! ## Tasks -/

/-- A call of the token service with what its surroundings give it. -/
structure Task where
  call : ServiceCall
  clock : Int
  entropy : EntropySource

namespace Task

/-- The collaborators of a task: the shared store, and what is its own. -/
def backend (task : Task) (store : TokenStore) (entropy : EntropySource) : Backend :=
  { Backend.ofUsers [] task.clock with store := store, entropy := entropy }

/-- The time at which a row of the task is created. -/
def creationTime (task : Task) : Timestamp :=
  (Timestamp.ofMillis? task.clock).getD .epoch

/-- The answer of a task that nobody interrupts, and the store that it leaves. -/
def serve (task : Task) (store : TokenStore) : ServiceAnswer × TokenStore :=
  let result := task.call.procedure.eval Backend.answer (task.backend store task.entropy)
  (result.1, result.2.store)

end Task

/-- The answers of tasks served one after another, and the store that they leave. -/
def serveInOrder (store : TokenStore) : List Task → List ServiceAnswer × TokenStore
  | [] => ([], store)
  | task :: tasks =>
    let one := task.serve store
    let rest := serveInOrder one.2 tasks
    (one.1 :: rest.1, rest.2)

/-! ## Threads and turns -/

/-- How far a task has come. -/
inductive Thread where
  | waiting
  /-- What is left of the random source and of the procedure. -/
  | running (entropy : EntropySource) (rest : Procedure ServiceAnswer)

/-- The answer of a task that has returned. -/
def Thread.answer? : Thread → Option ServiceAnswer
  | .running _ (.done answer) => some answer
  | _ => none

/-- Whether a task is about to delete the row of a number. -/
def Thread.Aims (thread : Thread) (id : Int) : Prop :=
  ∃ entropy next, thread = .running entropy (.ask (.delete id) next)

/-- One turn of a task on the shared store. -/
def Task.turn (task : Task) (store : TokenStore) : Thread → Thread × TokenStore
  | .waiting => (.running task.entropy task.call.procedure, store)
  | .running entropy (.done answer) => (.running entropy (.done answer), store)
  | .running entropy (.ask call next) =>
    let reply := (task.backend store entropy).answer call
    (.running reply.2.entropy (next reply.1), reply.2.store)

/-- A task that has returned does nothing more. -/
theorem Task.turn_of_answer? (task : Task) (store : TokenStore) {thread : Thread}
    {answer : ServiceAnswer} (h : thread.answer? = some answer) :
    task.turn store thread = (thread, store) := by
  cases thread with
  | waiting => simp [Thread.answer?] at h
  | running entropy rest =>
    cases rest with
    | done answer => rfl
    | ask call next => simp [Thread.answer?] at h

/-- The shared store and how far each task has come. -/
structure Machine (ι : Type) where
  store : TokenStore
  threads : ι → Thread

namespace Machine

variable {ι : Type}

/-- No task has begun. -/
def start (store : TokenStore) : Machine ι := ⟨store, fun _ => .waiting⟩

variable [DecidableEq ι]

/-- The turn of one task. -/
def turn (tasks : ι → Task) (machine : Machine ι) (i : ι) : Machine ι :=
  let after := (tasks i).turn machine.store (machine.threads i)
  ⟨after.2, Function.update machine.threads i after.1⟩

/-- The turns of a schedule in order. -/
def run (tasks : ι → Task) (machine : Machine ι) (schedule : List ι) : Machine ι :=
  schedule.foldl (turn tasks) machine

@[simp]
theorem turn_store (tasks : ι → Task) (machine : Machine ι) (i : ι) :
    (machine.turn tasks i).store = ((tasks i).turn machine.store (machine.threads i)).2 :=
  rfl

@[simp]
theorem turn_threads_self (tasks : ι → Task) (machine : Machine ι) (i : ι) :
    (machine.turn tasks i).threads i = ((tasks i).turn machine.store (machine.threads i)).1 := by
  simp [turn]

@[simp]
theorem turn_threads_of_ne (tasks : ι → Task) (machine : Machine ι) {i j : ι} (h : j ≠ i) :
    (machine.turn tasks i).threads j = machine.threads j := by
  simp [turn, h]

@[simp]
theorem run_nil (tasks : ι → Task) (machine : Machine ι) : machine.run tasks [] = machine :=
  rfl

/-- The last turn of a schedule comes after all others. -/
theorem run_concat (tasks : ι → Task) (machine : Machine ι) (schedule : List ι) (i : ι) :
    machine.run tasks (schedule ++ [i]) = (machine.run tasks schedule).turn tasks i := by
  simp [run]

end Machine

/-! ## Tasks without interruption -/

section

variable {task : Task} (store : TokenStore) {owner : Int} {name : String}
  {description : Option String} {expiresAt : Int}

/-- What an issue that breaks no rule answers and does. -/
theorem Task.serve_issue (hcall : task.call = .issue owner name description expiresAt)
    (hrefusal : Lifecycle.refusal? owner name description = none) :
    task.serve store =
      match store.findByOwnerAndName owner name with
      | some _ => (.issued (.error (.duplicate name)), store)
      | none =>
        match task.entropy.draw.1 with
        | .error reason => (.issued (.error (.entropy reason)), store)
        | .ok block =>
          let inserted := store.insert task.creationTime
            ⟨owner, name, description, (Secret.ofBlock block).digest, expiresAt⟩
          (.issued (Lifecycle.issued owner name (.ofBlock block) inserted.2), inserted.1) := by
  simp only [serve, hcall, ServiceCall.procedure_issue hrefusal, Procedure.eval_ask,
    Backend.answer, Backend.inService, backend, Backend.ofUsers]
  cases store.findByOwnerAndName owner name with
  | some row => rfl
  | none =>
    simp only [ServiceCall.issueNamed, ServiceCall.issueFree_eq, Procedure.eval_ask,
      Backend.answer]
    cases task.entropy.draw.1 with
    | error reason => rfl
    | ok block => rfl

/-- What a revocation answers and does. -/
theorem Task.serve_revoke (hcall : task.call = .revoke owner name) :
    task.serve store =
      match store.findByOwnerAndName owner name with
      | none => (.revoked (.error (.notFound name)), store)
      | some row =>
        (.revoked (Lifecycle.revoked name (.ok (store.delete row.id).2)),
          (store.delete row.id).1) := by
  simp only [serve, hcall, ServiceCall.procedure_revoke, Procedure.eval_ask, Backend.answer,
    Backend.inService, backend, Backend.ofUsers]
  cases store.findByOwnerAndName owner name with
  | none => rfl
  | some row => rfl

end

/-! ## Stages of a task -/

namespace Thread

/-- The stages of a task that has not taken effect, on a store. -/
inductive Open (task : Task) (store : TokenStore) : Thread → Prop where
  | waiting : Open task store .waiting
  | begun {call : Call} {next : call.Answer → Procedure ServiceAnswer} :
    task.call.procedure = .ask call next → Open task store (.running task.entropy (.ask call next))
  /-- An issue that found its name free and will draw a secret. -/
  | free {owner : Int} {name : String} {description : Option String} {expiresAt : Int}
    {block : Block} :
    task.call = .issue owner name description expiresAt →
    Lifecycle.refusal? owner name description = none → task.entropy.draw.1 = .ok block →
    Open task store
      (.running task.entropy
        (.ask .entropy (ServiceCall.issueDrawn owner name description expiresAt)))
  /-- An issue that has drawn its secret. -/
  | drawn {owner : Int} {name : String} {description : Option String} {expiresAt : Int}
    {block : Block} :
    task.call = .issue owner name description expiresAt →
    Lifecycle.refusal? owner name description = none → task.entropy.draw.1 = .ok block →
    Open task store
      (.running task.entropy.draw.2
        (ServiceCall.issueDrawn owner name description expiresAt (.ok block)))
  /-- A revocation that found its row, which is still there. -/
  | aimed {owner : Int} {name : String} (row : Token) :
    task.call = .revoke owner name → row ∈ store.rows.values → row.key = (owner, name) →
    Open task store (.running task.entropy (ServiceCall.revokeFound name (.ok (some row))))

/-- The stages of a task whose answer is certain, on a store. -/
inductive Settled (task : Task) (store : TokenStore) : ServiceAnswer → Thread → Prop where
  | returned (entropy : EntropySource) (answer : ServiceAnswer) :
    Settled task store answer (.running entropy (.done answer))
  /-- An issue that found its name free and will draw no secret. -/
  | starved {owner : Int} {name : String} {description : Option String} {expiresAt : Int}
    {reason : String} :
    task.entropy.draw.1 = .error reason →
    Settled task store (.issued (.error (.entropy reason)))
      (.running task.entropy
        (.ask .entropy (ServiceCall.issueDrawn owner name description expiresAt)))
  /-- A revocation that found its row, which is gone. -/
  | beaten {name : String} (row : Token) :
    (∀ other ∈ store.rows.values, other.id ≠ row.id) → row.id ≤ store.lastId →
    Settled task store (.revoked (.error (.notFound name)))
      (.running task.entropy (ServiceCall.revokeFound name (.ok (some row))))

/-- A task that has begun waits no longer. -/
theorem Settled.ne_waiting {task : Task} {store : TokenStore} {answer : ServiceAnswer}
    {thread : Thread} (h : Settled task store answer thread) : thread ≠ .waiting := by
  cases h <;> simp

/-- An open task has not returned. -/
theorem Open.answer?_eq_none {task : Task} {store : TokenStore} {thread : Thread}
    (h : Open task store thread) : thread.answer? = none := by
  cases h <;> rfl

/-- A settled task that returns gives its answer. -/
theorem Settled.eq_of_answer? {task : Task} {store : TokenStore} {answer given : ServiceAnswer}
    {thread : Thread} (h : Settled task store answer thread)
    (hgiven : thread.answer? = some given) : answer = given := by
  cases h with
  | returned entropy => simpa [Thread.answer?] using hgiven
  | starved => simp [Thread.answer?] at hgiven
  | beaten row => simp [Thread.answer?, ServiceCall.revokeFound] at hgiven

/-! ## Turns of the task itself -/

variable {task : Task} {store : TokenStore} {thread : Thread}

/-- The turn of a revocation that found its row deletes that row. -/
theorem turn_revokeFound (task : Task) (store : TokenStore) (entropy : EntropySource)
    (name : String) (row : Token) :
    task.turn store (.running entropy (ServiceCall.revokeFound name (.ok (some row)))) =
      (.running entropy
        (.done (.revoked (Lifecycle.revoked name (.ok (store.delete row.id).2)))),
        (store.delete row.id).1) :=
  rfl

/-- By its turn a settled task returns its answer and changes nothing. -/
theorem Settled.turn_eq {answer : ServiceAnswer} (hstore : store.Reachable)
    (h : Settled task store answer thread) :
    ∃ entropy, task.turn store thread = (.running entropy (.done answer), store) := by
  cases h with
  | returned entropy => exact ⟨entropy, rfl⟩
  | starved hdraw =>
    refine ⟨task.entropy.draw.2, ?_⟩
    simp only [Task.turn, Backend.answer, Task.backend, hdraw]
    rfl
  | beaten row habsent hgiven =>
    refine ⟨task.entropy, ?_⟩
    rw [turn_revokeFound, hstore.delete_of_absent habsent]
    rfl

/-- What the turn of an open task may come to. -/
inductive Progress (task : Task) (store : TokenStore) (after : Thread × TokenStore) : Prop where
  /-- The task is still open, and the store is as before. -/
  | stillOpen : after.2 = store → Open task store after.1 → Progress task store after
  /-- The task took effect at this point and deletes nothing more. -/
  | tookEffect (answer : ServiceAnswer) : Settled task after.2 answer after.1 →
    (∀ id, ¬ after.1.Aims id) → task.serve store = (answer, after.2) → Progress task store after

/-- A turn that returns the answer of the task served at this point. -/
theorem Progress.of_done {after : TokenStore} {answer : ServiceAnswer} (entropy : EntropySource)
    (hserve : task.serve store = (answer, after)) :
    Progress task store (.running entropy (.done answer), after) := by
  refine .tookEffect answer (.returned entropy answer) ?_ hserve
  rintro id ⟨entropy', next, heq⟩
  simp at heq

/-- The first call of an issue, revocation or look-up. -/
theorem progress_of_begun {call : Call} {next : call.Answer → Procedure ServiceAnswer}
    (hstore : store.Reachable) (hfirst : task.call.procedure = .ask call next) :
    Progress task store (task.turn store (.running task.entropy (.ask call next))) := by
  rw [← hfirst]
  cases hcall : task.call with
  | issue owner name description expiresAt =>
    cases hrefusal : Lifecycle.refusal? owner name description with
    | some refusal =>
      rw [hcall, ServiceCall.procedure_issue_of_refusal hrefusal] at hfirst
      simp at hfirst
    | none =>
      have hserve := Task.serve_issue store hcall hrefusal
      rw [ServiceCall.procedure_issue hrefusal]
      simp only [Task.turn, Backend.answer, Backend.inService, Task.backend, Backend.ofUsers]
      cases hfind : store.findByOwnerAndName owner name with
      | some row =>
        simp only [hfind] at hserve
        exact .of_done _ hserve
      | none =>
        simp only [ServiceCall.issueNamed, ServiceCall.issueFree_eq]
        cases hdraw : task.entropy.draw.1 with
        | ok block => exact .stillOpen rfl (.free hcall hrefusal hdraw)
        | error reason =>
          simp only [hfind, hdraw] at hserve
          refine .tookEffect _ (.starved hdraw) ?_ hserve
          rintro id ⟨entropy, next', heq⟩
          simp at heq
  | revoke owner name =>
    have hserve := Task.serve_revoke store hcall
    rw [ServiceCall.procedure_revoke]
    simp only [Task.turn, Backend.answer, Backend.inService, Task.backend, Backend.ofUsers]
    cases hfind : store.findByOwnerAndName owner name with
    | none =>
      simp only [hfind] at hserve
      exact .of_done _ hserve
    | some row =>
      obtain ⟨hrow, hkey⟩ := hstore.findByOwnerAndName_eq_some_iff.mp hfind
      exact .stillOpen rfl (.aimed row hcall hrow hkey)
  | find owner name => exact .of_done _ (by rw [Task.serve, hcall]; rfl)
  | list owner => exact .of_done _ (by rw [Task.serve, hcall]; rfl)
  | resolve secret => exact .of_done _ (by rw [Task.serve, hcall]; rfl)

/-- A turn of an open task leaves it open, or settles it as if it were served at this point. -/
theorem Open.turn (hstore : store.Reachable) (h : Open task store thread) :
    Progress task store (task.turn store thread) := by
  cases h with
  | waiting =>
    cases hfirst : task.call.procedure with
    | done answer =>
      simp only [Task.turn, hfirst]
      exact .of_done _ (by simp [Task.serve, hfirst, Task.backend])
    | ask call next =>
      simp only [Task.turn, hfirst]
      exact .stillOpen rfl (.begun hfirst)
  | begun hfirst => exact progress_of_begun hstore hfirst
  | free hcall hrefusal hdraw =>
    simp only [Task.turn, Backend.answer, Task.backend, hdraw]
    exact .stillOpen rfl (.drawn hcall hrefusal hdraw)
  | @drawn owner name description expiresAt block hcall hrefusal hdraw =>
    let token : NewToken :=
      ⟨owner, name, description, (Secret.ofBlock block).digest, expiresAt⟩
    have hserve := Task.serve_issue store hcall hrefusal
    have hturn : task.turn store (.running task.entropy.draw.2
        (ServiceCall.issueDrawn owner name description expiresAt (.ok block))) =
        (.running task.entropy.draw.2 (.done (.issued
          (Lifecycle.issued owner name (.ofBlock block) (store.insert task.creationTime token).2))),
          (store.insert task.creationTime token).1) := rfl
    rw [hturn]
    cases hfind : store.findByOwnerAndName owner name with
    | none =>
      simp only [hfind, hdraw] at hserve
      exact .of_done _ hserve
    | some row =>
      -- The name was taken since: the insertion is refused as the look-up would be now.
      obtain ⟨hrow, hkey⟩ := hstore.findByOwnerAndName_eq_some_iff.mp hfind
      rw [hstore.insert_of_clash hrow (.inl hkey)]
      simp only [hfind] at hserve
      exact .of_done _ hserve
  | aimed row hcall hrow hkey =>
    have hserve := Task.serve_revoke store hcall
    rw [hstore.findByOwnerAndName_eq_some_iff.mpr ⟨hrow, hkey⟩] at hserve
    rw [turn_revokeFound]
    exact .of_done _ hserve

/-! ## Turns of others -/

/-- A settled task stays settled whatever others do. -/
theorem Settled.change {after : TokenStore} {answer : ServiceAnswer}
    (hc : TokenStore.Change store after) (hstore : store.Reachable)
    (h : Settled task store answer thread) : Settled task after answer thread := by
  cases h with
  | returned entropy => exact .returned entropy answer
  | starved hdraw => exact .starved hdraw
  | beaten row habsent hgiven =>
    obtain ⟨habsent', hgiven'⟩ := hc.absent hstore habsent hgiven
    exact .beaten row habsent' hgiven'

/--
An open task stays open, or it is a revocation whose row went by this change: then
its answer is that of being served right after the change.
-/
theorem Open.change {after : TokenStore} (hc : TokenStore.Change store after)
    (hstore : store.Reachable) (h : Open task store thread) :
    Open task after thread ∨
      ∃ answer, Settled task after answer thread ∧ task.serve after = (answer, after) := by
  cases h with
  | waiting => exact .inl .waiting
  | begun hfirst => exact .inl (.begun hfirst)
  | free hcall hrefusal hdraw => exact .inl (.free hcall hrefusal hdraw)
  | drawn hcall hrefusal hdraw => exact .inl (.drawn hcall hrefusal hdraw)
  | @aimed owner name row hcall hrow hkey =>
    by_cases hstays : row ∈ after.rows.values
    · exact .inl (.aimed row hcall hstays hkey)
    · right
      have hafter := hc.reachable hstore
      have hfree := hc.key_free hstore hrow hstays
      have habsent : ∀ other ∈ after.rows.values, other.id ≠ row.id := by
        intro other hother heq
        exact hstays (hc.mem_of_id_eq hstore hrow hother heq)
      refine ⟨.revoked (.error (.notFound name)), .beaten row habsent ?_, ?_⟩
      · exact Int.le_trans (hstore.id_le_lastId hrow) (hc.lastId_le hstore)
      · rw [Task.serve_revoke after hcall]
        rw [hkey] at hfree
        rw [hafter.findByOwnerAndName_eq_none_iff.mpr hfree]

end Thread
end BearerTokens
