import BearerTokens.Filter.Basic
import BearerTokens.Proofs.Filter.Presented

/-!
# Verdicts over any collaborators

Nothing is assumed here about the store and the directory: each may answer anything
and take any time, and one that hangs takes longer than every limit.  The verdict on
a presented secret depends on three replies in turn, those of the store, the clock
and the directory, and on the time that the first and the last of them take
together.

Main results:

- Definitions {lit}`Filter.lookup`, {lit}`Filter.reading` and {lit}`Filter.loading`:
  what a check meets in turn.
- Definition {lit}`Filter.verdict`: what the replies come to under a limit of time.
- Theorem {lit}`Filter.authenticate_verdict`: the filter decides so.
- Theorem {lit}`Filter.verdict_decides`: when the verdict is which outcome.
-/

namespace BearerTokens

variable {σ α : Type}

/-! ## Calls under a limit of time -/

/-- The time that a call takes. -/
def Reply.delay {call : Call} (reply : Reply σ call) : Nat :=
  reply.before + reply.after

/-- Whether a call may change the store. -/
def Call.mutates : Call → Bool
  | .insert _ => true
  | .delete _ => true
  | _ => false

namespace Procedure

variable {environment : Environment σ} {call : Call} {reply : Reply σ call}
  {limit : Nat} {s : σ}

/-- A procedure is dropped at a call that takes longer than the limit. -/
theorem run_ask_of_late (next : call.Answer → Procedure α) (hreply : environment s call = reply)
    (h : limit < reply.delay) :
    ((ask call next).run environment (some limit) s).result = none ∧
      ((ask call next).run environment (some limit) s).calls = [call] := by
  unfold Reply.delay at h
  by_cases hbefore : limit < reply.before
  · simp [run, Activity.bind, Activity.perform, exceeds, hreply, hbefore]
  · simp [run, Activity.bind, Activity.perform, exceeds, hreply, hbefore, h]

/-- A procedure goes on from a call in time, with what is left of the limit. -/
theorem run_ask_of_prompt (next : call.Answer → Procedure α)
    (hreply : environment s call = reply) (h : reply.delay ≤ limit) :
    (ask call next).run environment (some limit) s =
      let rest := (next reply.answer).run environment (some (limit - reply.delay)) reply.state
      ⟨rest.result, reply.delay + rest.elapsed, rest.state, call :: rest.calls⟩ := by
  unfold Reply.delay at h
  have hbefore : ¬ limit < reply.before := by omega
  have hboth : ¬ limit < reply.before + reply.after := by omega
  simp [run, Activity.bind, Activity.perform, exceeds, hreply, hbefore, hboth, Reply.delay]

end Procedure

namespace Filter

/-! ## The replies that a check meets -/

section

variable (environment : Environment σ) (secret : String) (s : σ)

/-- How the store treats the look-up of a secret. -/
def lookup : Reply σ (.findBySecretDigest (Secret.digestOf secret)) :=
  environment s _

/-- How the clock is then read. -/
def clockReply : Reply σ .now :=
  environment (lookup environment secret s).state .now

/-- The time on the clock. -/
def reading : Int :=
  (clockReply environment secret s).answer

/-- How the directory then treats the owner of a row. -/
def loading (row : Token) : Reply σ (.load row.owner) :=
  environment (clockReply environment secret s).state _

/-- Whether the look-up gives a row that has not expired. -/
def FindsUnexpired (row : Token) : Prop :=
  (lookup environment secret s).answer = .ok (some row) ∧
    reading environment secret s ≤ row.expiresAt

/-- The delays that a check meets when nothing cuts it off. -/
def delaysMet : Nat :=
  (lookup environment secret s).delay +
    match (lookup environment secret s).answer with
    | .ok (some row) =>
      if row.isExpiredAt (reading environment secret s) then 0
      else (loading environment secret s row).delay
    | _ => 0

/-- What the replies come to under a limit of time. -/
def verdict (limit : Nat) : Outcome :=
  if limit < (lookup environment secret s).delay then .denied .timedOut
  else
    match (lookup environment secret s).answer with
    | .error cause => .denied (.token (.store cause))
    | .ok none => .passThrough .unknownToken
    | .ok (some row) =>
      if row.isExpiredAt (reading environment secret s) then .denied .expired
      else if limit < (lookup environment secret s).delay +
          (loading environment secret s row).delay then .denied .timedOut
      else outcome (some (checkOwner row (loading environment secret s row).answer))

/-- When a check comes to which outcome, under a limit of time. -/
structure Decides (limit : Nat) (outcome : Outcome) : Prop where
  passThrough_iff : outcome = .passThrough .unknownToken ↔
    (lookup environment secret s).answer = .ok none ∧
      (lookup environment secret s).delay ≤ limit
  unknown_of_passThrough : ∀ reason, outcome = .passThrough reason → reason = .unknownToken
  authenticated_iff : ∀ user id name, outcome = .authenticated ⟨user, id, name⟩ ↔
    ∃ row, FindsUnexpired environment secret s row ∧
      (loading environment secret s row).answer = .ok user ∧ user.enabled = true ∧
      (lookup environment secret s).delay + (loading environment secret s row).delay ≤ limit ∧
      row.id = id ∧ row.name = name
  timedOut_iff : outcome = .denied .timedOut ↔ limit < delaysMet environment secret s
  expired_iff : outcome = .denied .expired ↔
    ∃ row, (lookup environment secret s).answer = .ok (some row) ∧
      row.expiresAt < reading environment secret s ∧
      (lookup environment secret s).delay ≤ limit
  disabledUser_iff : outcome = .denied .disabledUser ↔
    ∃ row user, FindsUnexpired environment secret s row ∧
      (loading environment secret s row).answer = .ok user ∧ user.enabled = false ∧
      (lookup environment secret s).delay + (loading environment secret s row).delay ≤ limit
  store_iff : ∀ error, outcome = .denied (.token (.store error)) ↔
    (lookup environment secret s).answer = .error error ∧
      (lookup environment secret s).delay ≤ limit
  store_of_token : ∀ cause, outcome = .denied (.token cause) → ∃ error, cause = .store error
  directory_iff : ∀ error, outcome = .denied (.directory error) ↔
    ∃ row, FindsUnexpired environment secret s row ∧
      (loading environment secret s row).answer = .error error ∧
      (lookup environment secret s).delay + (loading environment secret s row).delay ≤ limit

end

variable {environment : Environment σ} {secret : String} {s : σ} {limit : Nat}

/-! ## When the verdict is which outcome -/

/-- A look-up that takes too long times out, whatever it would have answered. -/
theorem decides_of_late (h : limit < (lookup environment secret s).delay) :
    Decides environment secret s limit (.denied .timedOut) := by
  have hnot : ¬ (lookup environment secret s).delay ≤ limit := by omega
  have hsum : ∀ row, ¬ (lookup environment secret s).delay +
      (loading environment secret s row).delay ≤ limit := by
    intro row
    omega
  have hmet : limit < delaysMet environment secret s := by
    unfold delaysMet
    omega
  constructor <;> simp [hnot, hsum, hmet]

/-- A look-up that fails in time denies with the error of the store. -/
theorem decides_of_error (h : (lookup environment secret s).delay ≤ limit) {error : StoreError}
    (hanswer : (lookup environment secret s).answer = .error error) :
    Decides environment secret s limit (.denied (.token (.store error))) := by
  have hmet : delaysMet environment secret s ≤ limit := by
    simpa [delaysMet, hanswer] using h
  constructor <;> simp [hanswer, h, hmet, FindsUnexpired]

/-- A look-up that finds nothing in time lets the request pass. -/
theorem decides_of_miss (h : (lookup environment secret s).delay ≤ limit)
    (hanswer : (lookup environment secret s).answer = .ok none) :
    Decides environment secret s limit (.passThrough .unknownToken) := by
  have hmet : delaysMet environment secret s ≤ limit := by
    simpa [delaysMet, hanswer] using h
  constructor <;> simp [hanswer, h, hmet, FindsUnexpired]

/-- A row that has expired denies, and the directory is not asked. -/
theorem decides_of_expired (h : (lookup environment secret s).delay ≤ limit) {row : Token}
    (hanswer : (lookup environment secret s).answer = .ok (some row))
    (hexpired : row.expiresAt < reading environment secret s) :
    Decides environment secret s limit (.denied .expired) := by
  have hle : ¬ reading environment secret s ≤ row.expiresAt := by omega
  have hmet : delaysMet environment secret s ≤ limit := by
    simpa [delaysMet, hanswer, Token.isExpiredAt, isPast, hexpired] using h
  constructor <;> simp [hanswer, h, hle, hexpired, hmet, FindsUnexpired]

section

variable {row : Token} (hrow : FindsUnexpired environment secret s row)
include hrow

/-- The unexpired row that a look-up gives is the only one. -/
theorem exists_findsUnexpired_iff {P : Token → Prop} :
    (∃ other, FindsUnexpired environment secret s other ∧ P other) ↔ P row := by
  constructor
  · rintro ⟨other, hother, hP⟩
    have heq := hrow.1.symm.trans hother.1
    simp only [Except.ok.injEq, Option.some.injEq] at heq
    rwa [heq]
  · intro hP
    exact ⟨row, hrow, hP⟩

/-- A check that finds an unexpired row meets the delay of the directory as well. -/
theorem delaysMet_of_unexpired :
    delaysMet environment secret s =
      (lookup environment secret s).delay + (loading environment secret s row).delay := by
  have hexpired : ¬ row.expiresAt < reading environment secret s := by
    have hle := hrow.2
    omega
  simp [delaysMet, hrow.1, Token.isExpiredAt, isPast, hexpired]

/-- An unexpired row whose owner takes too long to load times out. -/
theorem decides_of_late_owner
    (h : limit < (lookup environment secret s).delay + (loading environment secret s row).delay) :
    Decides environment secret s limit (.denied .timedOut) := by
  have hnot : ¬ (lookup environment secret s).delay +
      (loading environment secret s row).delay ≤ limit := by omega
  have hexpired : ¬ row.expiresAt < reading environment secret s := by
    have hle := hrow.2
    omega
  constructor <;> simp [exists_findsUnexpired_iff hrow, delaysMet_of_unexpired hrow, hrow.1,
    hexpired, h, hnot]

/-- An unexpired row is judged by its owner, when all is in time. -/
theorem decides_of_owner
    (h : (lookup environment secret s).delay + (loading environment secret s row).delay ≤ limit) :
    Decides environment secret s limit
      (outcome (some (checkOwner row (loading environment secret s row).answer))) := by
  have hexpired : ¬ row.expiresAt < reading environment secret s := by
    have hle := hrow.2
    omega
  cases hload : (loading environment secret s row).answer with
  | error error =>
    constructor <;> simp [exists_findsUnexpired_iff hrow, delaysMet_of_unexpired hrow, hrow.1,
      hexpired, h, hload, checkOwner, outcome]
  | ok user =>
    by_cases henabled : user.enabled
    · constructor <;> simp [exists_findsUnexpired_iff hrow, delaysMet_of_unexpired hrow, hrow.1,
        hexpired, h, hload, checkOwner, outcome, henabled]
    · constructor <;> simp [exists_findsUnexpired_iff hrow, delaysMet_of_unexpired hrow, hrow.1,
        hexpired, h, hload, checkOwner, outcome, henabled]
      rintro other id name rfl hyes
      exact absurd hyes henabled

end

/-- The verdict is the outcome that its replies call for. -/
theorem verdict_decides (environment : Environment σ) (secret : String) (s : σ) (limit : Nat) :
    Decides environment secret s limit (verdict environment secret s limit) := by
  unfold verdict
  by_cases hlate : limit < (lookup environment secret s).delay
  · rw [if_pos hlate]
    exact decides_of_late hlate
  · have hin : (lookup environment secret s).delay ≤ limit := by omega
    rw [if_neg hlate]
    match hanswer : (lookup environment secret s).answer with
    | .error error => exact decides_of_error hin hanswer
    | .ok none => exact decides_of_miss hin hanswer
    | .ok (some row) =>
      simp only [Token.isExpiredAt, isPast, decide_eq_true_eq]
      by_cases hexpired : row.expiresAt < reading environment secret s
      · rw [if_pos hexpired]
        exact decides_of_expired hin hanswer hexpired
      · have hrow : FindsUnexpired environment secret s row := ⟨hanswer, by omega⟩
        rw [if_neg hexpired]
        by_cases hlateOwner : limit < (lookup environment secret s).delay +
            (loading environment secret s row).delay
        · rw [if_pos hlateOwner]
          exact decides_of_late_owner hrow hlateOwner
        · rw [if_neg hlateOwner]
          exact decides_of_owner hrow (by omega)

/-! ## The filter -/

/-- The calls that a check makes under a limit of time, the one that is cut off included. -/
def callsMade (environment : Environment σ) (secret : String) (s : σ) (limit : Nat) :
    List Call :=
  .findBySecretDigest (Secret.digestOf secret) ::
    if limit < (lookup environment secret s).delay then []
    else
      match (lookup environment secret s).answer with
      | .ok (some row) =>
        .now :: if row.isExpiredAt (reading environment secret s) then [] else [.load row.owner]
      | _ => []

/-- What follows the look-up of a secret. -/
def verifyFound : Except StoreError (Option Token) →
    Procedure (Except Denial (Option Authenticated))
  | .error error => .done (.error (.token (.store error)))
  | .ok none => .done (.ok none)
  | .ok (some row) => verifyRow row

/-- A check looks its secret up first. -/
theorem verify_eq (secret : String) :
    verify secret = .ask (.findBySecretDigest (Secret.digestOf secret)) verifyFound := by
  simp only [verify, Lifecycle.resolve, Procedure.bind]
  congr 1
  funext found
  match found with
  | .error error => rfl
  | .ok none => rfl
  | .ok (some row) => rfl

/-- The time on the clock is read at once. -/
def ReadsAtOnce (environment : Environment σ) : Prop :=
  ∀ s, (environment s .now).delay = 0

/-- The check of a found row under what is left of the limit. -/
theorem run_verifyRow (hclock : ReadsAtOnce environment) (secret : String) (s : σ) (row : Token)
    (left : Nat) :
    let run := (verifyRow row).run environment (some left) (lookup environment secret s).state
    (outcome run.result =
      if row.isExpiredAt (reading environment secret s) then .denied .expired
      else if left < (loading environment secret s row).delay then .denied .timedOut
      else outcome (some (checkOwner row (loading environment secret s row).answer))) ∧
    run.calls =
      .now :: if row.isExpiredAt (reading environment secret s) then [] else [.load row.owner] := by
  have hnow : environment (lookup environment secret s).state .now =
      clockReply environment secret s := rfl
  have hload : environment (clockReply environment secret s).state (.load row.owner) =
      loading environment secret s row := rfl
  have hzero : (clockReply environment secret s).delay = 0 := hclock _
  have hin : (clockReply environment secret s).delay ≤ left := by omega
  rw [verifyRow, Procedure.run_ask_of_prompt _ hnow hin, hzero, Nat.sub_zero]
  by_cases hexpired : row.isExpiredAt (clockReply environment secret s).answer
  · simp only [reading, hexpired, if_true]
    exact ⟨rfl, rfl⟩
  · simp only [reading, hexpired, Bool.false_eq_true, if_false]
    by_cases hlate : left < (loading environment secret s row).delay
    · obtain ⟨hresult, hcalls⟩ := Procedure.run_ask_of_late
        (fun answer => .done (checkOwner row answer)) hload hlate
      simp only [hresult, hcalls, hlate, if_true]
      exact ⟨rfl, trivial⟩
    · have hintime : (loading environment secret s row).delay ≤ left := by omega
      rw [Procedure.run_ask_of_prompt _ hload hintime, if_neg hlate]
      exact ⟨rfl, rfl⟩

/-- Under a limit of time a check comes to its verdict, by the calls that it needs. -/
theorem run_verify (hclock : ReadsAtOnce environment) (secret : String) (s : σ) (limit : Nat) :
    let run := (verify secret).run environment (some limit) s
    outcome run.result = verdict environment secret s limit ∧
      run.calls = callsMade environment secret s limit := by
  have hlookup : environment s (.findBySecretDigest (Secret.digestOf secret)) =
      lookup environment secret s := rfl
  rw [verify_eq]
  unfold verdict callsMade
  by_cases hlate : limit < (lookup environment secret s).delay
  · obtain ⟨hresult, hcalls⟩ := Procedure.run_ask_of_late verifyFound hlookup hlate
    simp only [hresult, hcalls, hlate, if_true]
    exact ⟨rfl, trivial⟩
  · have hin : (lookup environment secret s).delay ≤ limit := by omega
    rw [Procedure.run_ask_of_prompt _ hlookup hin, if_neg hlate, if_neg hlate]
    match hanswer : (lookup environment secret s).answer with
    | .error error => exact ⟨rfl, rfl⟩
    | .ok none => exact ⟨rfl, rfl⟩
    | .ok (some row) =>
      obtain ⟨hresult, hcalls⟩ := run_verifyRow hclock secret s row
        (limit - (lookup environment secret s).delay)
      have hleft : limit - (lookup environment secret s).delay <
          (loading environment secret s row).delay ↔
          limit < (lookup environment secret s).delay +
            (loading environment secret s row).delay := by omega
      simp only [hleft] at hresult
      exact ⟨hresult, congrArg _ hcalls⟩

/-- Under an allowance that is no shorter than its own limit, the filter gives the verdict. -/
theorem authenticate_verdict {filter : Filter} (henabled : filter.enabled = true)
    (hclock : ReadsAtOnce environment) {value : List UInt8} (hvalue : BearerCredential value secret)
    (rest : List (List UInt8)) {allowance : Option Nat}
    (hallowance : exceeds allowance filter.lookupTimeout = false) (s : σ) :
    let run := filter.authenticate environment (value :: rest) allowance s
    run.result = some (verdict environment secret s filter.lookupTimeout) ∧
      run.calls = callsMade environment secret s filter.lookupTimeout := by
  obtain ⟨hresult, hcalls⟩ := run_verify hclock secret s filter.lookupTimeout
  have hpresented := presentedSecret_eq_ok_iff.mpr ⟨value, rest, rfl, hvalue⟩
  simp only [authenticate, henabled, if_true, hpresented, Activity.bind, Activity.within,
    hallowance, Bool.false_eq_true, if_false]
  cases hrun : ((verify secret).run environment (some filter.lookupTimeout) s).result with
  | none =>
    rw [hrun] at hresult
    simp only [Activity.done, hresult, hcalls, List.append_nil, and_self]
  | some checked =>
    rw [hrun] at hresult
    simp only [Activity.done, hresult, hcalls, List.append_nil, and_self]

/-- The directory is asked only for the owner of an unexpired row that was found in time. -/
theorem unexpired_of_load_mem {user : Int}
    (h : .load user ∈ callsMade environment secret s limit) :
    ∃ row, FindsUnexpired environment secret s row ∧ row.owner = user ∧
      (lookup environment secret s).delay ≤ limit := by
  unfold callsMade at h
  by_cases hlate : limit < (lookup environment secret s).delay
  · simp [hlate] at h
  · rw [if_neg hlate] at h
    match hanswer : (lookup environment secret s).answer with
    | .error error => simp [hanswer] at h
    | .ok none => simp [hanswer] at h
    | .ok (some row) =>
      by_cases hexpired : row.expiresAt < reading environment secret s
      · simp [hanswer, Token.isExpiredAt, isPast, hexpired] at h
      · simp only [hanswer, Token.isExpiredAt, isPast, hexpired, decide_false,
          Bool.false_eq_true, if_false, List.mem_cons, reduceCtorEq, Call.load.injEq,
          List.not_mem_nil, or_false, false_or] at h
        exact ⟨row, ⟨hanswer, by omega⟩, h.symm, by omega⟩

/-- A check changes nothing in the store. -/
theorem not_mutates_of_mem {call : Call} (h : call ∈ callsMade environment secret s limit) :
    call.mutates = false := by
  unfold callsMade at h
  rcases List.mem_cons.mp h with rfl | h
  · rfl
  · split at h
    · simp at h
    · split at h
      · rcases List.mem_cons.mp h with rfl | h
        · rfl
        · split at h
          · simp at h
          · rw [List.mem_singleton.mp h]
            rfl
      · simp at h

end Filter
end BearerTokens
