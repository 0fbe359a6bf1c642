import Mathlib.Data.Fintype.Card
import BearerTokens.Proofs.Lifecycle.Interleaving
import BearerTokens.Proofs.Lifecycle.Transition

/-!
# An order for interleaved calls

Whatever the interleaving, every call of the token service takes effect at one
point between its beginning and its return.  The points are found turn by turn: a
task that settles by its own turn is put into the order there, and right after it
the revocations whose row that turn took away.

Main results:

- Definition {lit}`Machine.Linearized`: an order of the settled tasks that explains
  all answers and the store.
- Theorem {lit}`Complete.turn`: after a turn the order goes on.
- Theorem {lit}`Machine.exists_complete_run`: every schedule has a complete order,
  which goes on from those of its beginnings.
- Theorem {lit}`Complete.sublist_of_returned`: the order respects real time.
- Theorem {lit}`exists_revoked_between`: between two issues of one name there is a
  revocation.
-/

namespace BearerTokens

/-! ## Tasks one after another -/

/-- What is served after a list of tasks is served on the store that they leave. -/
theorem serveInOrder_concat (store : TokenStore) (tasks : List Task) (task : Task) :
    serveInOrder store (tasks ++ [task]) =
      let before := serveInOrder store tasks
      let last := task.serve before.2
      (before.1 ++ [last.1], last.2) := by
  induction tasks generalizing store with
  | nil => rfl
  | cons first rest ih => simp [serveInOrder, ih]

/-- A task that nobody interrupts has one of the effects of its call. -/
theorem Task.serve_effect (task : Task) {store : TokenStore} (hstore : store.Reachable) :
    ServiceCall.Effect store (task.serve store).2 task.call (task.serve store).1 :=
  @ServiceCall.eval_effect (task.backend store task.entropy) ⟨rfl, rfl, rfl⟩ hstore task.call

/-- A task that nobody interrupts leaves a reachable store. -/
theorem Task.serve_reachable (task : Task) {store : TokenStore} (hstore : store.Reachable) :
    (task.serve store).2.Reachable :=
  @Procedure.eval_store_reachable _ task.call.procedure (task.backend store task.entropy) hstore

/-- A turn makes at most one change of the store. -/
theorem Task.turn_change (task : Task) (store : TokenStore) (thread : Thread) :
    TokenStore.Change store (task.turn store thread).2 := by
  cases thread with
  | waiting => exact .same
  | running entropy rest =>
    cases rest with
    | done answer => exact .same
    | ask call next => exact (task.backend store entropy).answer_change call

namespace Machine

variable {ι : Type}

/-! ## The order of the settled tasks -/

/-- An order of tasks whose answers and store are those of serving one after another. -/
structure Explains (tasks : ι → Task) (initial store : TokenStore)
    (order : List (ι × ServiceAnswer)) : Prop where
  nodup : (order.map Prod.fst).Nodup
  replay : serveInOrder initial (order.map fun entry => tasks entry.1) =
    (order.map Prod.snd, store)

/--
An order of settled tasks that explains the present store.  Every other task is
open, or settles here.
-/
structure Linearized (tasks : ι → Task) (initial : TokenStore) (machine : Machine ι)
    (order : List (ι × ServiceAnswer)) : Prop extends
    Explains tasks initial machine.store order where
  reachable : machine.store.Reachable
  settled : ∀ entry ∈ order,
    (machine.threads entry.1).Settled (tasks entry.1) machine.store entry.2
  pending : ∀ i ∉ order.map Prod.fst,
    (machine.threads i).Open (tasks i) machine.store ∨
      ∃ answer, (machine.threads i).Settled (tasks i) machine.store answer ∧
        (tasks i).serve machine.store = (answer, machine.store)

/-- An order with every task that has settled. -/
structure Complete (tasks : ι → Task) (initial : TokenStore) (machine : Machine ι)
    (order : List (ι × ServiceAnswer)) : Prop extends
    Linearized tasks initial machine order where
  isOpen : ∀ i ∉ order.map Prod.fst, (machine.threads i).Open (tasks i) machine.store

variable {tasks : ι → Task} {initial : TokenStore} {machine : Machine ι}
  {order : List (ι × ServiceAnswer)}

/-- The task that is served next comes last in the order. -/
theorem Explains.concat {store after : TokenStore} (h : Explains tasks initial store order) {i : ι}
    {answer : ServiceAnswer} (hnew : i ∉ order.map Prod.fst)
    (hserve : (tasks i).serve store = (answer, after)) :
    Explains tasks initial after (order ++ [(i, answer)]) where
  nodup := by
    simp only [List.map_append, List.map_cons, List.map_nil]
    refine List.Nodup.append h.nodup (List.nodup_singleton i) ?_
    rw [List.disjoint_singleton]
    exact hnew
  replay := by
    simp only [List.map_append, List.map_cons, List.map_nil]
    rw [serveInOrder_concat, h.replay]
    simp only [hserve]

/-- At the start no task has settled. -/
theorem Complete.start (hinitial : initial.Reachable) :
    Complete tasks initial (start initial) [] where
  reachable := hinitial
  nodup := List.nodup_nil
  replay := rfl
  settled := by simp
  pending := fun _ _ => .inl .waiting
  isOpen := fun _ _ => .waiting

/-- A task that settles on the present store comes last in the order. -/
theorem Linearized.concat (h : Linearized tasks initial machine order) {i : ι}
    {answer : ServiceAnswer} (hnew : i ∉ order.map Prod.fst)
    (hsettled : (machine.threads i).Settled (tasks i) machine.store answer)
    (hserve : (tasks i).serve machine.store = (answer, machine.store)) :
    Linearized tasks initial machine (order ++ [(i, answer)]) where
  toExplains := h.toExplains.concat hnew hserve
  reachable := h.reachable
  settled := by
    intro entry hentry
    rcases List.mem_append.mp hentry with hold | hlast
    · exact h.settled entry hold
    · rw [List.mem_singleton.mp hlast]
      exact hsettled
  pending := by
    intro j hj
    apply h.pending j
    intro hold
    rw [List.map_append] at hj
    exact hj (List.mem_append_left _ hold)

/-- Everything that settles here can be put into the order. -/
theorem Linearized.exists_complete [Fintype ι] {order : List (ι × ServiceAnswer)}
    (h : Linearized tasks initial machine order) :
    ∃ more, Complete tasks initial machine (order ++ more) := by
  by_cases hopen : ∀ i ∉ order.map Prod.fst, (machine.threads i).Open (tasks i) machine.store
  · refine ⟨[], ?_⟩
    rw [List.append_nil]
    exact ⟨h, hopen⟩
  · -- Each round puts one more task into the order, which has room for every task once.
    push Not at hopen
    obtain ⟨i, hi, hnot⟩ := hopen
    obtain ⟨answer, hsettled, hserve⟩ := (h.pending i hi).resolve_left hnot
    have hlast := h.concat hi hsettled hserve
    have hlength := List.Nodup.length_le_card hlast.nodup
    obtain ⟨more, hcomplete⟩ := hlast.exists_complete
    refine ⟨(i, answer) :: more, ?_⟩
    simpa using hcomplete
termination_by Fintype.card ι - order.length
decreasing_by
  simp only [List.length_map, List.length_append, List.length_singleton] at hlength ⊢
  omega

/-! ## Turns -/

section

variable [DecidableEq ι]

/-- What a turn does to the tasks that it is not the turn of. -/
theorem Complete.others (h : Complete tasks initial machine order) (i : ι) {j : ι}
    (hne : j ≠ i) (hj : j ∉ order.map Prod.fst) :
    ((machine.turn tasks i).threads j).Open (tasks j) (machine.turn tasks i).store ∨
      ∃ answer,
        ((machine.turn tasks i).threads j).Settled (tasks j) (machine.turn tasks i).store answer ∧
        (tasks j).serve (machine.turn tasks i).store = (answer, (machine.turn tasks i).store) := by
  rw [turn_threads_of_ne tasks machine hne, turn_store]
  exact (h.isOpen j hj).change (Task.turn_change _ _ _) h.reachable

/-- Whoever takes a turn, a settled task stays settled. -/
theorem settled_turn (hstore : machine.store.Reachable) (i : ι) {j : ι} {answer : ServiceAnswer}
    (hsettled : (machine.threads j).Settled (tasks j) machine.store answer) :
    ((machine.turn tasks i).threads j).Settled (tasks j) (machine.turn tasks i).store answer := by
  by_cases heq : j = i
  · subst heq
    rcases hsettled.turn_eq hstore with ⟨entropy, hturn⟩
    rw [turn_threads_self, turn_store, hturn]
    exact .returned entropy answer
  · rw [turn_threads_of_ne tasks machine heq, turn_store]
    exact hsettled.change (Task.turn_change _ _ _) hstore

/-- A turn that leaves the store alone keeps the order. -/
theorem Complete.turn_of_same (h : Complete tasks initial machine order) {i : ι}
    (hsame : (machine.turn tasks i).store = machine.store)
    (hopen : i ∉ order.map Prod.fst →
      ((machine.turn tasks i).threads i).Open (tasks i) (machine.turn tasks i).store) :
    Linearized tasks initial (machine.turn tasks i) order where
  toExplains := by
    rw [hsame]
    exact h.toExplains
  reachable := by
    rw [hsame]
    exact h.reachable
  settled := fun entry hentry => settled_turn h.reachable i (h.settled entry hentry)
  pending := by
    intro j hj
    by_cases heq : j = i
    · subst heq
      exact .inl (hopen hj)
    · exact h.others i heq hj

/-- A turn by which a task takes effect puts it last in the order. -/
theorem Complete.turn_of_effect (h : Complete tasks initial machine order) {i : ι}
    (hi : i ∉ order.map Prod.fst) {answer : ServiceAnswer}
    (hsettled : ((machine.turn tasks i).threads i).Settled (tasks i)
      (machine.turn tasks i).store answer)
    (hserve : (tasks i).serve machine.store = (answer, (machine.turn tasks i).store)) :
    Linearized tasks initial (machine.turn tasks i) (order ++ [(i, answer)]) where
  toExplains := h.toExplains.concat hi hserve
  reachable := (Task.turn_change _ _ _).reachable h.reachable
  settled := by
    intro entry hentry
    rcases List.mem_append.mp hentry with hold | hlast
    · exact settled_turn h.reachable i (h.settled entry hold)
    · rw [List.mem_singleton.mp hlast]
      exact hsettled
  pending := by
    intro j hj
    simp only [List.map_append, List.mem_append, not_or] at hj
    refine h.others i ?_ hj.1
    simpa using hj.2

/-- After a turn the order goes on. -/
theorem Complete.turn [Fintype ι] (h : Complete tasks initial machine order) (i : ι) :
    ∃ more, Complete tasks initial (machine.turn tasks i) (order ++ more) := by
  by_cases hi : i ∈ order.map Prod.fst
  · obtain ⟨entry, hentry, heq⟩ := List.mem_map.mp hi
    have hsettled := h.settled entry hentry
    rw [heq] at hsettled
    obtain ⟨entropy, hturn⟩ := hsettled.turn_eq h.reachable
    have hsame : (machine.turn tasks i).store = machine.store := by
      rw [turn_store, hturn]
    exact (h.turn_of_same hsame fun hout => absurd hi hout).exists_complete
  · -- Only a task outside the order can take effect, and it does so on the present store.
    cases (h.isOpen i hi).turn h.reachable with
    | stillOpen hsame hopen =>
      refine (h.turn_of_same hsame fun _ => ?_).exists_complete
      rw [turn_threads_self, turn_store, hsame]
      exact hopen
    | tookEffect answer hsettled _ hserve =>
      rw [← turn_threads_self, ← turn_store] at hsettled
      obtain ⟨more, hcomplete⟩ := (h.turn_of_effect hi hsettled hserve).exists_complete
      refine ⟨(i, answer) :: more, ?_⟩
      simpa using hcomplete

/-! ## Schedules -/

/-- Every schedule has a complete order, and it goes on from those of its beginnings. -/
theorem exists_complete_run [Fintype ι] (tasks : ι → Task) (hinitial : initial.Reachable)
    (schedule : List ι) :
    ∃ order, Complete tasks initial ((start initial).run tasks schedule) order ∧
      ∀ before, before <+: schedule → ∃ first, first <+: order ∧
        Complete tasks initial ((start initial).run tasks before) first := by
  induction schedule using List.reverseRecOn with
  | nil =>
    refine ⟨[], .start hinitial, ?_⟩
    intro before hbefore
    rw [List.prefix_nil.mp hbefore]
    exact ⟨[], List.prefix_rfl, .start hinitial⟩
  | append_singleton earlier i ih =>
    obtain ⟨order, hcomplete, hhistory⟩ := ih
    obtain ⟨more, hmore⟩ := hcomplete.turn i
    rw [← run_concat] at hmore
    refine ⟨order ++ more, hmore, ?_⟩
    intro before hbefore
    rcases List.prefix_concat_iff.mp hbefore with rfl | hearlier
    · exact ⟨order ++ more, List.prefix_rfl, hmore⟩
    · obtain ⟨first, hfirst, hthen⟩ := hhistory before hearlier
      exact ⟨first, hfirst.trans (List.prefix_append order more), hthen⟩

end

/-- A task that has returned is in the order, with its answer. -/
theorem Complete.mem_of_answer? (h : Complete tasks initial machine order) {i : ι}
    {answer : ServiceAnswer} (hanswer : (machine.threads i).answer? = some answer) :
    (i, answer) ∈ order := by
  by_cases hi : i ∈ order.map Prod.fst
  · obtain ⟨entry, hentry, rfl⟩ := List.mem_map.mp hi
    rw [← (h.settled entry hentry).eq_of_answer? hanswer]
    exact hentry
  · have hnone := (h.isOpen i hi).answer?_eq_none
    rw [hanswer] at hnone
    contradiction

/-- A task that has not begun is not in the order. -/
theorem Complete.not_mem_of_waiting (h : Complete tasks initial machine order) {i : ι}
    (hwaiting : machine.threads i = .waiting) : i ∉ order.map Prod.fst := by
  intro hi
  obtain ⟨entry, hentry, rfl⟩ := List.mem_map.mp hi
  exact (h.settled entry hentry).ne_waiting hwaiting

/-- An order of tasks that have all returned lists the answers that they returned. -/
theorem Complete.map_snd (h : Complete tasks initial machine order)
    {answers : ι → ServiceAnswer}
    (hdone : ∀ i, (machine.threads i).answer? = some (answers i)) :
    order.map Prod.snd = (order.map Prod.fst).map answers := by
  rw [List.map_map]
  apply List.map_congr_left
  intro entry hentry
  exact (h.settled entry hentry).eq_of_answer? (hdone entry.1)

/-- A task that returned before another began comes before it in the order. -/
theorem Complete.sublist_of_returned {before : Machine ι} {first : List (ι × ServiceAnswer)}
    (h : Complete tasks initial machine order) (hbefore : Complete tasks initial before first)
    (hfirst : first <+: order) {i j : ι} {answer answer' : ServiceAnswer}
    (hi : (before.threads i).answer? = some answer) (hj : before.threads j = .waiting)
    (hlater : (machine.threads j).answer? = some answer') :
    [i, j].Sublist (order.map Prod.fst) := by
  obtain ⟨more, rfl⟩ := hfirst
  have himem : i ∈ first.map Prod.fst :=
    List.mem_map.mpr ⟨_, hbefore.mem_of_answer? hi, rfl⟩
  have hjnot := hbefore.not_mem_of_waiting hj
  have hjmem : j ∈ (first ++ more).map Prod.fst :=
    List.mem_map.mpr ⟨_, h.mem_of_answer? hlater, rfl⟩
  rw [List.map_append] at hjmem ⊢
  have hjmore := (List.mem_append.mp hjmem).resolve_left hjnot
  exact (List.singleton_sublist.mpr himem).append (List.singleton_sublist.mpr hjmore)

end Machine

/-! ## Issues of one name -/

section

variable {ι : Type} {tasks : ι → Task} {answers : ι → ServiceAnswer} {store final : TokenStore}
  {owner : Int} {name : String}

/-- Before a taken name is issued, the token that has it is revoked. -/
theorem exists_revoked_before (hstore : store.Reachable) {row : Token}
    (hrow : row ∈ store.rows.values) (hkey : row.key = (owner, name)) {order : List ι}
    (hserve : serveInOrder store (order.map tasks) = (order.map answers, final)) {j : ι}
    (hj : j ∈ order) (hissued : ServiceCall.Issued owner name (tasks j).call (answers j)) :
    ∃ k, [k, j].Sublist order ∧ ServiceCall.Revoked owner name (tasks k).call (answers k) := by
  induction order generalizing store with
  | nil => simp at hj
  | cons i rest ih =>
    simp only [List.map_cons, serveInOrder, Prod.mk.injEq, List.cons.injEq] at hserve
    obtain ⟨⟨hanswer, hrest⟩, hfinal⟩ := hserve
    have heffect := (tasks i).serve_effect hstore
    rw [hanswer] at heffect
    rcases List.mem_cons.mp hj with rfl | hj
    · exact absurd hissued (heffect.not_issued_of_mem hrow hkey)
    · rcases heffect.mem_or_revoked hstore hrow hkey with hstays | hrevoked
      · have hafter := (tasks i).serve_reachable hstore
        obtain ⟨k, hk, hrevoked⟩ := ih hafter hstays (Prod.ext hrest hfinal) hj
        exact ⟨k, hk.cons i, hrevoked⟩
      · exact ⟨i, (List.singleton_sublist.mpr hj).cons_cons i, hrevoked⟩

/-- Between two issues of one name its token is revoked. -/
theorem exists_revoked_between (hstore : store.Reachable) {order : List ι}
    (hserve : serveInOrder store (order.map tasks) = (order.map answers, final)) {i j : ι}
    (hij : [i, j].Sublist order)
    (hi : ServiceCall.Issued owner name (tasks i).call (answers i))
    (hj : ServiceCall.Issued owner name (tasks j).call (answers j)) :
    ∃ k, [i, k, j].Sublist order ∧ ServiceCall.Revoked owner name (tasks k).call (answers k) := by
  induction order generalizing store with
  | nil => simp at hij
  | cons head rest ih =>
    simp only [List.map_cons, serveInOrder, Prod.mk.injEq, List.cons.injEq] at hserve
    obtain ⟨⟨hanswer, hrest⟩, hfinal⟩ := hserve
    have hafter := (tasks head).serve_reachable hstore
    cases hij with
    | cons _ hij =>
      obtain ⟨k, hk, hrevoked⟩ := ih hafter (Prod.ext hrest hfinal) hij
      exact ⟨k, hk.cons head, hrevoked⟩
    | cons_cons _ hjrest =>
      have heffect := (tasks i).serve_effect hstore
      rw [hanswer] at heffect
      obtain ⟨row, hrow, hkey⟩ := heffect.exists_of_issued hi
      obtain ⟨k, hk, hrevoked⟩ := exists_revoked_before hafter hrow hkey
        (Prod.ext hrest hfinal) (List.singleton_sublist.mp hjrest) hj
      exact ⟨k, hk.cons_cons i, hrevoked⟩

end

end BearerTokens
