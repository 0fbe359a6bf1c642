import BearerTokens.Proofs.Lifecycle.Linearization

/-!
# Linearizable calls

Interleaved calls of the token service answer and leave the store as if each had
been served at once, in an order that respects real time.  Several revocations may
find one row before the first of them deletes it; the row then goes once, and only
the one that deleted it reports so.

Main results:

- Definition {lit}`Machine.Fate`: what became of a row that revocations found.
- Theorem {lit}`Machine.fate_run`: the fate of a row after any schedule.
- Theorem {lit}`Machine.linearizable`: the order, and what it means for issues of
  one name and for revocations of one row.
-/

namespace BearerTokens

/-! ## Tasks about to delete a row -/

/-- No call of the token service begins with a deletion. -/
theorem ServiceCall.procedure_ne_delete (call : ServiceCall) {id : Int}
    {next : Call.Answer (.delete id) → Procedure ServiceAnswer} :
    call.procedure ≠ .ask (.delete id) next := by
  cases call with
  | issue owner name description expiresAt =>
    cases hrefusal : Lifecycle.refusal? owner name description with
    | some refusal => simp [procedure_issue_of_refusal hrefusal]
    | none => simp [procedure_issue hrefusal]
  | revoke owner name => simp [procedure_revoke]
  | find owner name => simp [procedure, Lifecycle.find, Procedure.map, Procedure.bind]
  | list owner => simp [procedure, Lifecycle.list, Procedure.map, Procedure.bind]
  | resolve secret => simp [procedure, Lifecycle.resolve, Procedure.map, Procedure.bind]

namespace Thread

variable {task : Task} {store : TokenStore} {thread : Thread} {id : Int}

/-- A task about to delete a row has not returned. -/
theorem Aims.answer?_eq_none (h : thread.Aims id) : thread.answer? = none := by
  obtain ⟨entropy, next, rfl⟩ := h
  rfl

/-- An open task about to delete a row is a revocation that found it. -/
theorem Open.exists_of_aims (h : Open task store thread) (haims : thread.Aims id) :
    ∃ row ∈ store.rows.values, row.id = id ∧ ∃ entropy name,
      thread = .running entropy (ServiceCall.revokeFound name (.ok (some row))) := by
  obtain ⟨entropy, next, heq⟩ := haims
  cases h with
  | waiting => simp at heq
  | begun hfirst =>
    simp only [running.injEq, Procedure.ask.injEq] at heq
    obtain ⟨-, rfl, -⟩ := heq
    exact absurd hfirst task.call.procedure_ne_delete
  | free => simp at heq
  | drawn => simp [ServiceCall.issueDrawn] at heq
  | aimed row _ hrow _ =>
    simp only [ServiceCall.revokeFound, running.injEq, Procedure.ask.injEq,
      Call.delete.injEq] at heq
    exact ⟨row, hrow, heq.2.1, _, _, rfl⟩

/-- A settled task about to delete a row will report that it was not found. -/
theorem Settled.eq_of_aims {answer : ServiceAnswer} (h : Settled task store answer thread)
    (haims : thread.Aims id) :
    (∀ row ∈ store.rows.values, row.id ≠ id) ∧
      ∃ name, answer = .revoked (.error (.notFound name)) := by
  obtain ⟨entropy, next, heq⟩ := haims
  cases h with
  | returned => simp at heq
  | starved => simp at heq
  | @beaten name row habsent _ =>
    simp only [ServiceCall.revokeFound, running.injEq, Procedure.ask.injEq,
      Call.delete.injEq] at heq
    rw [← heq.2.1]
    exact ⟨habsent, name, rfl⟩

end Thread

/-- A turn of a task that is not about to delete a row leaves the row. -/
theorem Task.mem_of_turn (task : Task) {store : TokenStore} (hstore : store.Reachable)
    {thread : Thread} {row : Token} (hrow : row ∈ store.rows.values)
    (haims : ¬ thread.Aims row.id) : row ∈ (task.turn store thread).2.rows.values := by
  cases thread with
  | waiting => exact hrow
  | running entropy rest =>
    cases rest with
    | done answer => exact hrow
    | ask call next =>
      cases call with
      | delete other =>
        have hne : row.id ≠ other := by
          rintro rfl
          exact haims ⟨entropy, next, rfl⟩
        exact hstore.mem_delete hrow hne
      | insert token => exact hstore.mem_insert hrow task.creationTime token
      | load user =>
        simp only [Task.turn, Backend.answer]
        split <;> exact hrow
      | findByOwnerAndName owner name => exact hrow
      | findBySecretDigest digest => exact hrow
      | listByOwner owner => exact hrow
      | now => exact hrow
      | entropy => exact hrow

namespace Machine

variable {ι : Type} {tasks : ι → Task} {initial : TokenStore} {machine : Machine ι}
  {order : List (ι × ServiceAnswer)} {id : Int}

/-- A task is open or settled. -/
theorem Complete.open_or_settled (h : Complete tasks initial machine order) (i : ι) :
    (machine.threads i).Open (tasks i) machine.store ∨
      ∃ answer, (machine.threads i).Settled (tasks i) machine.store answer := by
  by_cases hi : i ∈ order.map Prod.fst
  · obtain ⟨entry, hentry, rfl⟩ := List.mem_map.mp hi
    exact .inr ⟨entry.2, h.settled entry hentry⟩
  · exact .inl (h.isOpen i hi)

section

variable [DecidableEq ι]

/-- A task that finds a row by its turn finds it in the store. -/
theorem Complete.exists_of_found (h : Complete tasks initial machine order) {i : ι}
    (haims : ((machine.turn tasks i).threads i).Aims id) :
    ∃ row ∈ (machine.turn tasks i).store.rows.values, row.id = id := by
  rw [turn_threads_self] at haims
  rw [turn_store]
  rcases h.open_or_settled i with hopen | ⟨answer, hsettled⟩
  · cases hopen.turn h.reachable with
    | stillOpen hsame hstill =>
      obtain ⟨row, hrow, hid, -⟩ := hstill.exists_of_aims haims
      exact ⟨row, by rwa [hsame], hid⟩
    | tookEffect answer _ hnot _ => exact absurd haims (hnot id)
  · obtain ⟨entropy, hturn⟩ := hsettled.turn_eq h.reachable
    rw [hturn] at haims
    have hnone := haims.answer?_eq_none
    simp [Thread.answer?] at hnone

/-! ## Rows that revocations found -/

/-- Whether a task was about to delete the row of a number at some point of a schedule. -/
def Found (tasks : ι → Task) (initial : TokenStore) (schedule : List ι) (id : Int) (i : ι) :
    Prop :=
  ∃ before, before <+: schedule ∧ (((start initial).run tasks before).threads i).Aims id

/-- By one more turn a task finds a row, or it had found it before. -/
theorem found_concat (tasks : ι → Task) (initial : TokenStore) (schedule : List ι) (last i : ι) :
    Found tasks initial (schedule ++ [last]) id i ↔
      Found tasks initial schedule id i ∨
        (((start initial).run tasks (schedule ++ [last])).threads i).Aims id := by
  constructor
  · rintro ⟨before, hbefore, haims⟩
    rcases List.prefix_concat_iff.mp hbefore with rfl | hearlier
    · exact .inr haims
    · exact .inl ⟨before, hearlier, haims⟩
  · rintro (⟨before, hbefore, haims⟩ | haims)
    · exact ⟨before, hbefore.trans (List.prefix_append _ _), haims⟩
    · exact ⟨schedule ++ [last], List.prefix_rfl, haims⟩

/-- What became of the row of a number, and of the tasks that found it. -/
inductive Fate (tasks : ι → Task) (id : Int) (machine : Machine ι) (found : ι → Prop) : Prop where
  | unfound : (∀ i, ¬ found i) → Fate tasks id machine found
  /-- The row is there, and all that found it are about to delete it. -/
  | present (row : Token) : row ∈ machine.store.rows.values → row.id = id →
    (∀ i, found i → (machine.threads i).Aims id) → Fate tasks id machine found
  /-- One task has deleted the row; the others report, or will, that it was not found. -/
  | deleted (winner : ι) : (∀ row ∈ machine.store.rows.values, row.id ≠ id) →
    id ≤ machine.store.lastId → found winner →
    (machine.threads winner).answer? = some (.revoked (.ok ())) →
    (∀ i, found i → i ≠ winner → ∃ name, (machine.threads i).Settled (tasks i) machine.store
      (.revoked (.error (.notFound name)))) →
    Fate tasks id machine found

/-- A turn of a task that is about to delete the row deletes it. -/
theorem Complete.deleted_of_aims (h : Complete tasks initial machine order) {row : Token}
    (hrow : row ∈ machine.store.rows.values) {i : ι} (haims : (machine.threads i).Aims row.id) :
    (machine.turn tasks i).store = (machine.store.delete row.id).1 ∧
      ((machine.turn tasks i).threads i).answer? = some (.revoked (.ok ())) := by
  rcases h.open_or_settled i with hopen | ⟨answer, hsettled⟩
  · rcases hopen.exists_of_aims haims with ⟨other, _, hid, entropy, name, heq⟩
    have hdelete := h.reachable.delete_of_mem hrow
    rw [turn_store, turn_threads_self, heq, Thread.turn_revokeFound, hid, hdelete]
    exact ⟨rfl, rfl⟩
  · exact absurd rfl ((hsettled.eq_of_aims haims).1 row hrow)

/-- What a turn makes of the row and of those that found it. -/
theorem Fate.turn {after : List (ι × ServiceAnswer)} {found : ι → Prop}
    (hfate : Fate tasks id machine found) (h : Complete tasks initial machine order) (i : ι)
    (hafter : Complete tasks initial (machine.turn tasks i) after)
    (hnow : ∀ j, (machine.threads j).Aims id → found j) :
    Fate tasks id (machine.turn tasks i)
      (fun j => found j ∨ ((machine.turn tasks i).threads j).Aims id) := by
  -- The turn is one task's: another that is about to delete the row was so before.
  have hold : ∀ j, j ≠ i → ((machine.turn tasks i).threads j).Aims id → found j := by
    intro j hne haims
    rw [turn_threads_of_ne tasks machine hne] at haims
    exact hnow j haims
  cases hfate with
  | unfound hnone =>
    by_cases haims : ((machine.turn tasks i).threads i).Aims id
    · rcases h.exists_of_found haims with ⟨row, hrow, hid⟩
      refine .present row hrow hid ?_
      rintro j (hfound | hj)
      · exact absurd hfound (hnone j)
      · exact hj
    · refine .unfound ?_
      rintro j (hfound | hj)
      · exact hnone j hfound
      · by_cases hne : j = i
        · exact haims (hne ▸ hj)
        · exact hnone j (hold j hne hj)
  | present row hrow hid hall =>
    subst hid
    by_cases haims : (machine.threads i).Aims row.id
    · rcases h.deleted_of_aims hrow haims with ⟨hstore, hanswer⟩
      have habsent : ∀ other ∈ (machine.turn tasks i).store.rows.values, other.id ≠ row.id := by
        intro other hother
        rw [hstore, h.reachable.values_delete] at hother
        simpa using (List.mem_filter.mp hother).2
      have hgiven : row.id ≤ (machine.turn tasks i).store.lastId := by
        rw [hstore, h.reachable.lastId_delete]
        exact h.reachable.id_le_lastId hrow
      refine .deleted i habsent hgiven (.inl (hnow i haims)) hanswer ?_
      intro j hj hne
      have hjaims : ((machine.turn tasks i).threads j).Aims row.id := by
        rcases hj with hfound | hj
        · rw [turn_threads_of_ne tasks machine hne]
          exact hall j hfound
        · exact hj
      -- With the row gone, whoever is about to delete it can no longer be open.
      rcases hafter.open_or_settled j with hopen | ⟨answer, hsettled⟩
      · rcases hopen.exists_of_aims hjaims with ⟨other, hother, hid, _⟩
        exact absurd hid (habsent other hother)
      · rcases (hsettled.eq_of_aims hjaims).2 with ⟨name, rfl⟩
        exact ⟨name, hsettled⟩
    · have hstays := (tasks i).mem_of_turn h.reachable hrow haims
      refine .present row hstays rfl ?_
      rintro j (hfound | hj)
      · by_cases hne : j = i
        · exact absurd (hne ▸ hall j hfound) haims
        · rw [turn_threads_of_ne tasks machine hne]
          exact hall j hfound
      · exact hj
  | deleted winner habsent hgiven hwinner hanswer hothers =>
    have hchange := (tasks i).turn_change machine.store (machine.threads i)
    rcases hchange.absent h.reachable habsent hgiven with ⟨habsent', hgiven'⟩
    refine .deleted winner habsent' hgiven' (.inl hwinner) ?_ ?_
    · by_cases hne : winner = i
      · subst hne
        rw [turn_threads_self, Task.turn_of_answer? _ _ hanswer]
        exact hanswer
      · rw [turn_threads_of_ne tasks machine hne]
        exact hanswer
    · intro j hj hne
      have hfound : found j := by
        rcases hj with hfound | hj
        · exact hfound
        · by_cases hji : j = i
          · subst hji
            rcases h.exists_of_found hj with ⟨row, hrow, hid⟩
            exact absurd hid (habsent' row hrow)
          · exact hold j hji hj
      rcases hothers j hfound hne with ⟨name, hsettled⟩
      exact ⟨name, settled_turn h.reachable i hsettled⟩

/-- The fate of a row after any schedule. -/
theorem fate_run [Fintype ι] (tasks : ι → Task) (hinitial : initial.Reachable) (id : Int)
    (schedule : List ι) :
    Fate tasks id ((start initial).run tasks schedule) (Found tasks initial schedule id) := by
  induction schedule using List.reverseRecOn with
  | nil =>
    refine .unfound ?_
    rintro i ⟨before, hbefore, entropy, next, heq⟩
    rw [List.prefix_nil.mp hbefore] at heq
    simp [start] at heq
  | append_singleton earlier i ih =>
    rcases exists_complete_run tasks hinitial earlier with ⟨order, h, _⟩
    rcases exists_complete_run tasks hinitial (earlier ++ [i]) with ⟨after, hafter, _⟩
    have hfound : Found tasks initial (earlier ++ [i]) id =
        fun j => Found tasks initial earlier id j ∨
          (((start initial).run tasks (earlier ++ [i])).threads j).Aims id := by
      funext j
      exact propext (found_concat tasks initial earlier i j)
    rw [hfound]
    rw [run_concat] at hafter ⊢
    exact ih.turn h i hafter fun j haims => ⟨earlier, List.prefix_rfl, haims⟩

/-- When all have returned, one of those that found a row has revoked it. -/
theorem Fate.existsUnique {found : ι → Prop} {answers : ι → ServiceAnswer}
    (hfate : Fate tasks id machine found)
    (hdone : ∀ i, (machine.threads i).answer? = some (answers i)) (hsome : ∃ i, found i) :
    ∃! i, found i ∧ answers i = .revoked (.ok ()) := by
  rcases hsome with ⟨first, hfirst⟩
  cases hfate with
  | unfound hnone => exact absurd hfirst (hnone first)
  | present row _ _ hall =>
    have hnone := (hall first hfirst).answer?_eq_none
    rw [hdone first] at hnone
    contradiction
  | deleted winner _ _ hwinner hanswer hothers =>
    rw [hdone winner, Option.some.injEq] at hanswer
    refine ⟨winner, ⟨hwinner, hanswer⟩, ?_⟩
    rintro i ⟨hfound, hok⟩
    by_contra hne
    rcases hothers i hfound hne with ⟨name, hsettled⟩
    have heq := hsettled.eq_of_answer? (hdone i)
    rw [hok] at heq
    simp at heq

/-! ## Linearizability -/

/-- Whether one task had returned at a point of a schedule at which another had not begun. -/
def ReturnedBefore (tasks : ι → Task) (initial : TokenStore) (schedule : List ι) (i j : ι) :
    Prop :=
  ∃ before, before <+: schedule ∧
    (∃ answer, (((start initial).run tasks before).threads i).answer? = some answer) ∧
    ((start initial).run tasks before).threads j = .waiting

/-- An order of all tasks that respects real time and gives their answers and the final store. -/
structure Linearization (tasks : ι → Task) (initial : TokenStore) (schedule : List ι)
    (answers : ι → ServiceAnswer) (order : List ι) : Prop where
  nodup : order.Nodup
  mem : ∀ i, i ∈ order
  realTime : ∀ i j, ReturnedBefore tasks initial schedule i j → [i, j].Sublist order
  replay : serveInOrder initial (order.map tasks) =
    (order.map answers, ((start initial).run tasks schedule).store)

/-- Every schedule after which all tasks have returned has a linearization. -/
theorem exists_linearization [Fintype ι] (hinitial : initial.Reachable) {schedule : List ι}
    {answers : ι → ServiceAnswer}
    (hdone : ∀ i, (((start initial).run tasks schedule).threads i).answer? = some (answers i)) :
    ∃ order, Linearization tasks initial schedule answers order := by
  rcases exists_complete_run tasks hinitial schedule with ⟨order, h, hhistory⟩
  refine ⟨order.map Prod.fst, h.nodup, ?_, ?_, ?_⟩
  · intro i
    exact List.mem_map.mpr ⟨_, h.mem_of_answer? (hdone i), rfl⟩
  · rintro i j ⟨before, hbefore, ⟨answer, hanswer⟩, hwaiting⟩
    rcases hhistory before hbefore with ⟨first, hfirst, hthen⟩
    exact h.sublist_of_returned hthen hfirst hanswer hwaiting (hdone j)
  · rw [List.map_map, ← h.map_snd hdone]
    exact h.replay

/--
Interleaved calls are linearizable.  Between two issues of one name in the order
comes a revocation of it, and of the revocations that found one row exactly one
succeeds.  Digests need not differ for this: an issue whose digest is stored already
is refused at its place in the order as well.
-/
theorem linearizable [Fintype ι] (tasks : ι → Task) {initial : TokenStore}
    (hinitial : initial.Reachable) (schedule : List ι) {answers : ι → ServiceAnswer}
    (hdone : ∀ i, (((start initial).run tasks schedule).threads i).answer? = some (answers i)) :
    (∃ order, Linearization tasks initial schedule answers order ∧
      ∀ owner name i j, [i, j].Sublist order →
        ServiceCall.Issued owner name (tasks i).call (answers i) →
        ServiceCall.Issued owner name (tasks j).call (answers j) →
        ∃ k, [i, k, j].Sublist order ∧
          ServiceCall.Revoked owner name (tasks k).call (answers k)) ∧
    ∀ id, (∃ i, Found tasks initial schedule id i) →
      ∃! i, Found tasks initial schedule id i ∧ answers i = .revoked (.ok ()) := by
  constructor
  · rcases exists_linearization hinitial hdone with ⟨order, horder⟩
    refine ⟨order, horder, ?_⟩
    intro owner name i j hij hi hj
    exact exists_revoked_between hinitial horder.replay hij hi hj
  · intro id hsome
    exact (fate_run tasks hinitial id schedule).existsUnique hdone hsome

end

/-- Two revocations of one token, and an issue of its name. -/
def raceTasks : Fin 3 → Task
  | 0 => ⟨.revoke 7 "ci", 5, .empty⟩
  | 1 => ⟨.revoke 7 "ci", 6, .empty⟩
  | 2 => ⟨.issue 7 "ci" none 50, 7, .empty⟩

/-- The store in which the race begins holds the token. -/
def raceStore : TokenStore :=
  (TokenStore.empty.insert .epoch ⟨7, "ci", none, [], 10⟩).1

/-- Both revocations find the token, and its name is issued again between their deletions. -/
def raceSchedule : List (Fin 3) := [0, 1, 0, 1, 0, 2, 2, 2, 2, 1]

/-- The answers of the race. -/
def raceAnswers : Fin 3 → ServiceAnswer
  | 0 => .revoked (.ok ())
  | 1 => .revoked (.error (.notFound "ci"))
  | 2 => .issued (.ok (.ofBlock (EntropySource.blockOf EntropySource.increment)))

/-- The race is linearizable, and one revocation succeeds. -/
theorem linearizable_race :
    (∃ order, Linearization raceTasks raceStore raceSchedule raceAnswers order) ∧
      ∃! i, Found raceTasks raceStore raceSchedule 1 i ∧ raceAnswers i = .revoked (.ok ()) := by
  have hdone : ∀ i, (((start raceStore).run raceTasks raceSchedule).threads i).answer? =
      some (raceAnswers i) := by
    intro i
    match i with
    | 0 => rfl
    | 1 => rfl
    | 2 => rfl
  have h := linearizable raceTasks (.insert _ _ .empty) raceSchedule hdone
  constructor
  · rcases h.1 with ⟨order, horder, _⟩
    exact ⟨order, horder⟩
  · exact h.2 1 ⟨0, [0, 1, 0], ⟨[1, 0, 2, 2, 2, 2, 1], rfl⟩, _, _, rfl⟩

end Machine
end BearerTokens
