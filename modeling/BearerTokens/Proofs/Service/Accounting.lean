import Mathlib.Data.List.Induction
import BearerTokens.Proofs.Lifecycle.Draws
import BearerTokens.Proofs.Service.Rules
import BearerTokens.Proofs.Service.Seeding

/-!
# The books of the store

Calls of the token service, requests and seedings may follow each other in any order and
with any arguments, random blocks that fail or repeat included.  Every row of the store
keeps the rules, and was brought there by exactly one step, which drew the row's secret
and handed it out.  Under each owner and name there are as many rows as tokens were issued
and not revoked.

Main results:

- Definition {lit}`Service.course`: the backend after steps and seedings.
- Theorem {lit}`Service.course_eq_run`: a course is a history.
- Theorem {lit}`Service.exists_origin`: where the rows of a history come from.
- Theorem {lit}`Service.balance_run`: how many rows there are.
- Theorem {lit}`Service.rows_accounted`: both, for every course.
-/

namespace BearerTokens

/-! ## Courses -/

/-- What may happen to a service, seeding included. -/
inductive Turn where
  | step (step : Step)
  /-- Seeding, given what each reading of the clock shows meanwhile. -/
  | seeding (seeds : List Seed) (readings : Nat → Int)

namespace Service

/-- The backend after a turn. -/
def turn (service : Service) (backend : Backend) : Turn → Backend
  | .step step => service.step backend step
  | .seeding seeds readings =>
    ((Seed.issueAll seeds).eval (Ticking.answer readings) ⟨backend, 0⟩).2.backend

/-- The backend after turns in order. -/
def course (service : Service) (backend : Backend) (turns : List Turn) : Backend :=
  turns.foldl service.turn backend

/-- The steps that a turn amounts to. -/
def stepsOf (backend : Backend) : Turn → List Step
  | .step step => [step]
  | .seeding seeds readings => Seed.steps readings backend 0 seeds

/-- The history that turns in order amount to. -/
def historyOf (service : Service) (backend : Backend) : List Turn → List Step
  | [] => []
  | turn :: rest => stepsOf backend turn ++ service.historyOf (service.turn backend turn) rest

variable {service : Service} {backend : Backend}

/-- A turn leaves the backend of its steps behind. -/
theorem turn_eq_run (service : Service) (h : backend.Sound) (turn : Turn) :
    service.turn backend turn = service.run backend (stepsOf backend turn) := by
  cases turn with
  | step step => rfl
  | seeding seeds readings => exact (Seed.run_steps service readings h.faultFree 0 [] seeds).symm

/-- A course leaves the backend of its history behind. -/
theorem course_eq_run (h : backend.Sound) (turns : List Turn) :
    service.course backend turns = service.run backend (service.historyOf backend turns) := by
  induction turns generalizing backend with
  | nil => rfl
  | cons turn rest ih =>
    have hturn := turn_eq_run service h turn
    have hsound : (service.turn backend turn).Sound := by
      rw [hturn]
      exact run_sound h (stepsOf backend turn)
    have hrest := ih hsound
    simp only [course, run, List.foldl_cons, historyOf, List.foldl_append] at hrest hturn ⊢
    rw [hrest, ← hturn]

/-! ## Origins of rows -/

/-- A step of a history brings a row into the store. -/
def Appears (service : Service) (backend : Backend) (history : List Step) (i : Nat)
    (row : Token) : Prop :=
  row ∉ (service.run backend (history.take i)).store.rows.values ∧
    row ∈ (service.run backend (history.take (i + 1))).store.rows.values

/--
A step of a history issues a row: it draws a block, calls for the row, hands out the
secret of the block, and brings the row with the digest of the secret into the store.
-/
structure Issues (service : Service) (backend : Backend) (history : List Step) (i : Nat)
    (row : Token) (secret : Secret) : Prop where
  event : ∃ step, history[i]? = some step ∧
    service.event? (service.run backend (history.take i)) step =
      some (.issue row.owner row.name row.description row.expiresAt, .issued (.ok secret))
  drawn : ∃ block, (service.run backend (history.take i)).entropy.draw.1 = .ok block ∧
    secret = .ofBlock block
  appears : service.Appears backend history i row
  digest : row.digest = secret.digest

/-- A secret that a step hands out consists of 32 hexadecimal digits. -/
theorem Issues.text_digits {history : List Step} {i : Nat} {row : Token} {secret : Secret}
    (h : service.Issues backend history i row secret) :
    secret.text.length = 32 ∧ ∀ c ∈ secret.text.toList, c ∈ "0123456789ABCDEF".toList := by
  rcases h.drawn with ⟨block, -, rfl⟩
  have hwrites := Secret.writes_ofBlock block
  exact ⟨hwrites.length, hwrites.digits⟩

/-- A step takes back no number of a row. -/
theorem lastId_le_step (h : backend.Sound) (step : Step) :
    backend.store.lastId ≤ (service.step backend step).store.lastId := by
  cases step with
  | call call =>
    rw [step_call h.faultFree]
    exact call.procedure.lastId_le_eval h.store
  | request ids request =>
    rw [step_request h.faultFree]
    exact Procedure.lastId_le_eval _ h.store
  | setClock clock => exact Int.le_refl _
  | putUser user => exact Int.le_refl _
  | supply blocks => exact Int.le_refl _

/-- A history takes back no number of a row. -/
theorem lastId_le_run (service : Service) (h : backend.Sound) (history : List Step) :
    backend.store.lastId ≤ (service.run backend history).store.lastId := by
  induction history generalizing backend with
  | nil => exact Int.le_refl _
  | cons step rest ih =>
    calc backend.store.lastId
        ≤ (service.step backend step).store.lastId := lastId_le_step h step
      _ ≤ (service.run backend (step :: rest)).store.lastId := ih (service.step_sound h step)

/-- The answer to an issue is that of the call, and its secret was drawn. -/
theorem drawn_of_event? (h : backend.Sound) {step : Step} {owner : Int} {name : String}
    {description : Option String} {expiresAt : Int} {secret : Secret}
    (hevent : service.event? backend step =
      some (.issue owner name description expiresAt, .issued (.ok secret))) :
    ∃ block, backend.entropy.draw.1 = .ok block ∧ secret = .ofBlock block := by
  rcases Option.map_eq_some_iff.mp hevent with ⟨call, -, hpair⟩
  rcases Prod.mk.inj hpair with ⟨rfl, hanswer⟩
  exact ServiceCall.drawn_of_issued h.faultFree hanswer

/-- A row that a step brings is the one that its event issued, with the next number. -/
theorem event?_of_new (h : backend.Sound) {step : Step} {row : Token}
    (hbefore : row ∉ backend.store.rows.values)
    (hafter : row ∈ (service.step backend step).store.rows.values) :
    ∃ secret, service.event? backend step =
        some (.issue row.owner row.name row.description row.expiresAt, .issued (.ok secret)) ∧
      row.digest = secret.digest ∧ row.id = backend.store.lastId + 1 := by
  cases hevent : service.event? backend step with
  | none =>
    rw [store_of_event?_eq_none h hevent] at hafter
    exact absurd hafter hbefore
  | some event =>
    rcases event with ⟨call, answer⟩
    cases effect_of_event? h hevent with
    | unchanged hsame _ =>
      rw [hsame] at hafter
      exact absurd hafter hbefore
    | issued new createdAt hnew _ _ hrows =>
      rw [hrows] at hafter
      rcases List.mem_append.mp hafter with hold | hlast
      · exact absurd hold hbefore
      · rw [List.mem_singleton.mp hlast, hnew]
        exact ⟨_, rfl, rfl, rfl⟩
    | revoked gone _ _ hrows =>
      rw [hrows] at hafter
      exact absurd (List.mem_filter.mp hafter).1 hbefore

/-- A step that comes last in a history is carried out on what the steps before it left. -/
theorem run_concat (service : Service) (backend : Backend) (history : List Step) (step : Step) :
    service.run backend (history ++ [step]) =
      service.step (service.run backend history) step := by
  rw [run, List.foldl_append]
  rfl

/-- One more step at the end leaves what came before it as it was. -/
theorem take_concat {history : List Step} {i : Nat} (h : i ≤ history.length) (last : Step) :
    (history ++ [last]).take i = history.take i :=
  List.take_append_of_le_length h

/-- One more step at the end leaves the origins of rows where they are. -/
theorem Issues.concat {history : List Step} {i : Nat} {row : Token} {secret : Secret}
    (h : service.Issues backend history i row secret) (last : Step) :
    service.Issues backend (history ++ [last]) i row secret := by
  rcases h.event with ⟨step, hstep, hevent⟩
  have hlt : i < history.length := (List.getElem?_eq_some_iff.mp hstep).1
  have hbefore := take_concat (Nat.le_of_lt hlt) last
  refine ⟨⟨step, ?_, ?_⟩, ?_, ?_, h.digest⟩
  · rwa [List.getElem?_append_left hlt]
  · rwa [hbefore]
  · rw [hbefore]
    exact h.drawn
  · rw [Appears, hbefore, take_concat hlt]
    exact h.appears

/-- A row appears before the last step of a history or with it. -/
theorem Appears.of_concat {history : List Step} {last : Step} {i : Nat} {row : Token}
    (h : service.Appears backend (history ++ [last]) i row) :
    service.Appears backend history i row ∨
      i = history.length ∧ row ∉ (service.run backend history).store.rows.values := by
  rcases Nat.lt_trichotomy i history.length with hlt | heq | hgt
  · left
    rwa [Appears, take_concat (Nat.le_of_lt hlt), take_concat hlt] at h
  · right
    refine ⟨heq, ?_⟩
    have hbefore := h.1
    rwa [take_concat (Nat.le_of_eq heq), heq, List.take_length] at hbefore
  · -- Behind the end of the history nothing appears.
    have hlength : (history ++ [last]).length ≤ i := by
      rw [List.length_append, List.length_singleton]
      exact hgt
    have happears := h.2
    rw [List.take_of_length_le (Nat.le_succ_of_le hlength),
      ← List.take_of_length_le hlength] at happears
    exact absurd happears h.1

/-- A row that appears in a history has a number that was given in it. -/
theorem Appears.id_le_lastId (h : backend.Sound) {history : List Step} {i : Nat} {row : Token}
    (happears : service.Appears backend history i row) :
    row.id ≤ (service.run backend history).store.lastId := by
  have hthen : (service.run backend (history.take (i + 1))).Sound := run_sound h _
  have hlater := lastId_le_run service hthen (history.drop (i + 1))
  rw [run, run, ← List.foldl_append, List.take_append_drop] at hlater
  exact Int.le_trans (hthen.store.id_le_lastId happears.2) hlater

/-- Every row of a history that starts without rows was issued by exactly one of its steps. -/
theorem exists_origin (h : backend.Sound) (hempty : backend.store.rows.values = [])
    (history : List Step) {row : Token}
    (hrow : row ∈ (service.run backend history).store.rows.values) :
    ∃ i secret, service.Issues backend history i row secret ∧
      ∀ j, service.Appears backend history j row → j = i := by
  induction history using List.reverseRecOn with
  | nil =>
    rw [run, List.foldl_nil, hempty] at hrow
    cases hrow
  | append_singleton history last ih =>
    by_cases hold : row ∈ (service.run backend history).store.rows.values
    · rcases ih hold with ⟨i, secret, hissues, honly⟩
      refine ⟨i, secret, hissues.concat last, ?_⟩
      intro j hj
      rcases hj.of_concat with hearlier | ⟨-, hnew⟩
      · exact honly j hearlier
      · exact absurd hold hnew
    · have hsound : (service.run backend history).Sound := run_sound h history
      have hafter := hrow
      rw [run_concat] at hafter
      rcases event?_of_new hsound hold hafter with ⟨secret, hevent, hdigest, hid⟩
      have hbefore : (history ++ [last]).take history.length = history := List.take_left
      have hwhole : (history ++ [last]).take (history.length + 1) = history ++ [last] :=
        List.take_of_length_le (Nat.le_of_eq List.length_append)
      refine ⟨history.length, secret, ⟨⟨last, ?_, ?_⟩, ?_, ?_, hdigest⟩, ?_⟩
      · rw [List.getElem?_concat_length]
      · rwa [hbefore]
      · rw [hbefore]
        exact drawn_of_event? hsound hevent
      · refine ⟨by rwa [hbefore], ?_⟩
        rwa [hwhole]
      · -- Its number is new, so no step before can have brought it.
        intro j hj
        rcases hj.of_concat with hearlier | ⟨hlast, -⟩
        · have hgiven := hearlier.id_le_lastId h
          omega
        · exact hlast

/-! ## Books -/

/-- Whether an event issued the token of an owner and a name. -/
def issuesKey (key : Int × String) : ServiceCall × ServiceAnswer → Bool
  | (.issue owner name _ _, .issued (.ok _)) => (owner, name) = key
  | _ => false

/-- Whether an event revoked the token of an owner and a name. -/
def revokesKey (key : Int × String) : ServiceCall × ServiceAnswer → Bool
  | (.revoke owner name, .revoked (.ok _)) => (owner, name) = key
  | _ => false

/-- The number of rows of an owner and a name. -/
def rowsWith (key : Int × String) (store : TokenStore) : Nat :=
  store.rows.values.countP fun row => row.key = key

/-- An event that reports no change neither issues nor revokes. -/
theorem not_changesKey_of_not_isChange (call : ServiceCall) {answer : ServiceAnswer}
    (h : answer.isChange = false) (key : Int × String) :
    issuesKey key (call, answer) = false ∧ revokesKey key (call, answer) = false := by
  match answer with
  | .issued (.ok secret) => cases h
  | .revoked (.ok done) => cases h
  | .issued (.error cause) => cases call <;> exact ⟨rfl, rfl⟩
  | .revoked (.error cause) => cases call <;> exact ⟨rfl, rfl⟩
  | .found result => cases call <;> exact ⟨rfl, rfl⟩
  | .listed result => cases call <;> exact ⟨rfl, rfl⟩

/-- An event changes the number of rows by what it issued and what it revoked. -/
theorem balance_effect {before after : TokenStore} {call : ServiceCall} {answer : ServiceAnswer}
    (h : ServiceCall.Effect before after call answer) (hstore : before.Reachable)
    (key : Int × String) :
    rowsWith key after + [(call, answer)].countP (revokesKey key) =
      rowsWith key before + [(call, answer)].countP (issuesKey key) := by
  cases h with
  | unchanged hsame hanswer =>
    rcases not_changesKey_of_not_isChange call hanswer key with ⟨hissues, hrevokes⟩
    rw [hsame, List.countP_singleton, List.countP_singleton, hissues, hrevokes]
  | issued row createdAt hrow _ _ hrows =>
    rw [rowsWith, hrows, List.countP_append, hrow]
    rfl
  | revoked row hrow hkey hrows =>
    have hperm := List.perm_cons_erase hrow
    rw [hstore.filter_id_ne hrow] at hrows
    rw [rowsWith, rowsWith, hrows, hperm.countP_eq]
    simp [List.countP_cons, hkey, issuesKey, revokesKey]

/-- A step changes the number of rows by what its event issued and revoked. -/
theorem balance_step (service : Service) (h : backend.Sound) (step : Step)
    (key : Int × String) :
    rowsWith key (service.step backend step).store +
        (service.event? backend step).toList.countP (revokesKey key) =
      rowsWith key backend.store +
        (service.event? backend step).toList.countP (issuesKey key) := by
  cases hevent : service.event? backend step with
  | none =>
    rw [store_of_event?_eq_none h hevent]
    rfl
  | some event => exact balance_effect (effect_of_event? h hevent) h.store key

/-- A history changes the number of rows by what its events issued and revoked. -/
theorem balance_run (service : Service) (h : backend.Sound) (history : List Step)
    (key : Int × String) :
    rowsWith key (service.run backend history).store +
        (service.events backend history).countP (revokesKey key) =
      rowsWith key backend.store + (service.events backend history).countP (issuesKey key) := by
  induction history generalizing backend with
  | nil => rfl
  | cons step rest ih =>
    have hstep := balance_step service h step key
    have hrest := ih (service.step_sound h step)
    simp only [run, List.foldl_cons, events, List.countP_append] at hrest ⊢
    omega

/-! ## Accounts -/

/--
Over any users, whatever is called, requested and seeded in any order, and whatever the
random source gives, every row has a positive owner and texts that fit their columns, and
was issued by exactly one step of the course, with the digest of a secret of 32
hexadecimal digits that was drawn and handed out there.  The rows of an owner and a name,
of which there is at most one, are the tokens that were issued and not revoked.
-/
theorem rows_accounted (service : Service) (users : List User) (clock : Int)
    (turns : List Turn) :
    let start := Backend.ofUsers users clock
    let history := service.historyOf start turns
    let events := service.events start history
    let store := (service.course start turns).store
    service.course start turns = service.run start history ∧
      (∀ row ∈ store.rows.values,
        0 < row.owner ∧ row.name.length ≤ 255 ∧
          (∀ text, row.description = some text → text.length ≤ 512) ∧
          row.digest.length = 32 ∧
          ∃ i secret, service.Issues start history i row secret ∧
            (∀ j, service.Appears start history j row → j = i) ∧
            row.digest = Sha256.digest (Utf8.encode secret.text) ∧
            secret.text.length = 32 ∧
            ∀ c ∈ secret.text.toList, c ∈ "0123456789ABCDEF".toList) ∧
      ∀ key, rowsWith key store ≤ 1 ∧
        rowsWith key store + events.countP (revokesKey key) = events.countP (issuesKey key) := by
  intro start history events store
  have hsound : start.Sound := .ofUsers users clock
  have hcourse : service.course start turns = service.run start history :=
    course_eq_run hsound turns
  have hafter : (service.course start turns).Sound := by
    rw [hcourse]
    exact run_sound hsound history
  have hattainable : (service.course start turns).Attainable := by
    rw [hcourse]
    exact (Backend.Attainable.ofUsers users clock).run service history
  refine ⟨hcourse, ?_, ?_⟩
  · intro row hrow
    rcases Lifecycle.refusal?_eq_none_iff.mp (hattainable.rules row hrow) with
      ⟨howner, hname, hdescription⟩
    have hstored := hrow
    simp only [store, hcourse] at hstored
    rcases exists_origin hsound rfl history hstored with ⟨i, secret, hissues, honly⟩
    have hdigest : row.digest = Sha256.digest (Utf8.encode secret.text) := hissues.digest
    refine ⟨howner, hname, hdescription, ?_, i, secret, hissues, honly, hdigest,
      hissues.text_digits⟩
    rw [hdigest, Sha256.length_digest]
  · intro key
    have hbalance := balance_run service hsound history key
    rw [← hcourse] at hbalance
    have hnone : rowsWith key start.store = 0 := rfl
    rw [hnone, Nat.zero_add] at hbalance
    exact ⟨hafter.store.countP_key_le_one key, hbalance⟩

end Service
end BearerTokens
