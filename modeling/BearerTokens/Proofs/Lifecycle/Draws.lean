import Mathlib.Data.List.Nodup
import BearerTokens.Proofs.Deployment.Interruption
import BearerTokens.Proofs.Lifecycle.Evaluation

/-!
# The blocks behind secrets

Collaborators may keep a record of the random blocks that they give; nobody who calls them
notices.  With it the blocks that issues draw are known, whatever the store answers, however
long a call takes, and wherever a limit of time cuts an issue off.  Every secret that is
handed out is that of a block which its issue drew, so that secrets repeat only where blocks
do.

Main results:

- Definition {lit}`Secret.Writes`: how a secret tells its block.
- Definition {lit}`Environment.recorded`: collaborators that keep the record.
- Theorem {lit}`Procedure.run_recorded`: a procedure ends as it does without the record.
- Theorem {lit}`Lifecycle.exists_block_of_result`: how an issue that succeeds came to it.
- Theorem {lit}`Issuance.secretsOf_sublist`: the secrets of a run of issues are those of
  blocks that it drew, in their order.
-/

namespace BearerTokens

/-! ## The text of a secret -/

namespace Secret

/-- Whether a secret is 32 digits, with upper-case letters, from which a block is read. -/
structure Writes (secret : Secret) (block : Block) : Prop where
  length : secret.text.length = 32
  digits : ∀ c ∈ secret.text.toList, c ∈ "0123456789ABCDEF".toList
  decoded : Hex.decode? secret.text.toList = some block.bytes

/-- The secret of a block is written so, and the block is read back. -/
theorem writes_ofBlock (block : Block) : (ofBlock block).Writes block where
  length := by
    rw [← String.length_toList]
    exact length_ofBlock block
  digits _ hc := mem_digits_ofBlock hc
  decoded := by
    rw [ofBlock, String.toList_ofList]
    exact Hex.decode?_encode .upper block.bytes

end Secret

variable {σ α : Type}

/-! ## A record of blocks -/

/-- The block that a call is answered with, if it is a draw that does not fail. -/
def Call.block? : (call : Call) → call.Answer → Option Block
  | .entropy, answer => Except.toOption (ε := String) (α := Block) answer
  | .insert _, _ => none
  | .findByOwnerAndName _ _, _ => none
  | .findBySecretDigest _, _ => none
  | .listByOwner _, _ => none
  | .delete _, _ => none
  | .load _, _ => none
  | .now, _ => none

/-- The same collaborators, with a record of the blocks that they have given. -/
def Environment.recorded (environment : Environment σ) : Environment (σ × List Block) :=
  fun s call =>
    let reply := environment s.1 call
    { before := reply.before
      waiting := (reply.waiting, s.2)
      answer := reply.answer
      after := reply.after
      state := (reply.state, s.2 ++ (call.block? reply.answer).toList) }

@[simp]
theorem Environment.recorded_answer (environment : Environment σ) (s : σ × List Block)
    (call : Call) : (environment.recorded s call).answer = (environment s.1 call).answer :=
  rfl

@[simp]
theorem Environment.recorded_state (environment : Environment σ) (s : σ × List Block)
    (call : Call) :
    (environment.recorded s call).state =
      ((environment s.1 call).state, s.2 ++ (call.block? (environment s.1 call).answer).toList) :=
  rfl

/-- Whether a run over recorded collaborators is another one with a record besides. -/
structure Run.Records (recorded : Run (σ × List Block) α) (run : Run σ α) : Prop where
  result : recorded.result = run.result
  elapsed : recorded.elapsed = run.elapsed
  state : recorded.state.1 = run.state
  calls : recorded.calls = run.calls

/-- A call is carried out as it is without the record. -/
theorem Activity.perform_recorded (environment : Environment σ) (call : Call)
    (allowance : Option Nat) (s : σ) (blocks : List Block) :
    (perform environment.recorded call allowance (s, blocks)).Records
      (perform environment call allowance s) := by
  by_cases hbefore : exceeds allowance (environment s call).before
  · simp only [perform, Environment.recorded, hbefore, if_true]
    exact ⟨rfl, rfl, rfl, rfl⟩
  · by_cases hafter : exceeds allowance ((environment s call).before + (environment s call).after)
    · simp only [perform, Environment.recorded, hbefore, hafter, if_true]
      exact ⟨rfl, rfl, rfl, rfl⟩
    · simp only [perform, Environment.recorded, hbefore, hafter]
      exact ⟨rfl, rfl, rfl, rfl⟩

/-- A procedure is carried out as it is without the record. -/
theorem Procedure.run_recorded (p : Procedure α) (environment : Environment σ)
    (allowance : Option Nat) (s : σ) (blocks : List Block) :
    (p.run environment.recorded allowance (s, blocks)).Records
      (p.run environment allowance s) := by
  induction p generalizing allowance s blocks with
  | done value => exact ⟨rfl, rfl, rfl, rfl⟩
  | ask call next ih =>
    have hone := Activity.perform_recorded environment call allowance s blocks
    cases hresult : (Activity.perform environment call allowance s).result with
    | none =>
      rw [run, run, Activity.bind_of_none hresult,
        Activity.bind_of_none (hone.result.trans hresult)]
      exact ⟨rfl, hone.elapsed, hone.state, hone.calls⟩
    | some answer =>
      -- Both go on with the same answer, time and state, one of them with its record besides.
      let one := Activity.perform environment.recorded call allowance (s, blocks)
      let two := Activity.perform environment call allowance s
      have hrest : ((next answer).run environment.recorded
          (allowance.map (· - one.elapsed)) one.state).Records
          ((next answer).run environment (allowance.map (· - two.elapsed)) two.state) := by
        rw [← hone.elapsed, ← hone.state]
        exact ih answer _ _ _
      rw [run, run, Activity.bind_of_some hresult,
        Activity.bind_of_some (hone.result.trans hresult)]
      refine ⟨hrest.result, ?_, hrest.state, ?_⟩
      · exact congrArg₂ (· + ·) hone.elapsed hrest.elapsed
      · exact congrArg₂ (· ++ ·) hone.calls hrest.calls

/-! ## An issue that succeeds -/

/-- A procedure that ends has gone on from the answer to its first call. -/
theorem Procedure.run_ask_of_result {environment : Environment σ} {call : Call}
    {next : call.Answer → Procedure α} {allowance : Option Nat} {s : σ} {value : α}
    (h : ((ask call next).run environment allowance s).result = some value) :
    let reply := environment s call
    ∃ left,
      let rest := (next reply.answer).run environment left reply.state
      rest.result = some value ∧
        ((ask call next).run environment allowance s).state = rest.state ∧
        ((ask call next).run environment allowance s).calls = call :: rest.calls := by
  by_cases hbefore : exceeds allowance (environment s call).before
  · simp [run, Activity.bind, Activity.perform, hbefore] at h
  · by_cases hafter : exceeds allowance ((environment s call).before + (environment s call).after)
    · simp [run, Activity.bind, Activity.perform, hbefore, hafter] at h
    · refine ⟨allowance.map (· - ((environment s call).before + (environment s call).after)), ?_⟩
      simp only [run, Activity.bind, Activity.perform, hbefore, hafter] at h ⊢
      exact ⟨h, rfl, rfl⟩

namespace Lifecycle

variable {environment : Environment σ} {owner : Int} {name : String}
  {description : Option String} {expiresAt : Int} {allowance : Option Nat} {s : σ}
  {secret : Secret}

/-- An issue under a free name that hands out a secret drew its block, and the row was inserted. -/
theorem exists_block_of_issueFree
    (h : ((issueFree owner name description expiresAt).run environment allowance s).result =
      some (.ok secret)) :
    let run := (issueFree owner name description expiresAt).run environment allowance s
    let draw := environment s .entropy
    ∃ block, secret = .ofBlock block ∧ draw.answer = .ok block ∧
      let token : NewToken := ⟨owner, name, description, secret.digest, expiresAt⟩
      run.state = (environment draw.state (.insert token)).state ∧
        run.calls = [.entropy, .insert token] := by
  intro run draw
  obtain ⟨left, hdrawn, hstate, hcalls⟩ := Procedure.run_ask_of_result h
  cases hdraw : draw.answer with
  | error reason =>
    rw [hdraw] at hdrawn
    cases hdrawn
  | ok block =>
    rw [hdraw] at hdrawn hstate hcalls
    obtain ⟨left', hinserted, hstate', hcalls'⟩ := Procedure.run_ask_of_result hdrawn
    obtain rfl := secret_eq_of_issued (Option.some.inj hinserted)
    exact ⟨block, rfl, rfl, hstate.trans hstate', hcalls.trans (congrArg _ hcalls')⟩

/--
An issue that hands out a secret looked its name up, drew the block of the secret, and had the
row with the digest of the secret inserted.  These were all of its calls.
-/
theorem exists_block_of_result
    (h : ((issue owner name description expiresAt).run environment allowance s).result =
      some (.ok secret)) :
    let run := (issue owner name description expiresAt).run environment allowance s
    let lookup := environment s (.findByOwnerAndName owner name)
    let draw := environment lookup.state .entropy
    ∃ block, secret = .ofBlock block ∧ draw.answer = .ok block ∧
      let token : NewToken := ⟨owner, name, description, secret.digest, expiresAt⟩
      run.state = (environment draw.state (.insert token)).state ∧
        run.calls = [.findByOwnerAndName owner name, .entropy, .insert token] := by
  intro run lookup draw
  cases hrefusal : refusal? owner name description with
  | some refusal =>
    simp only [issue, hrefusal] at h
    cases h
  | none =>
    simp only [run, issue, hrefusal] at h ⊢
    obtain ⟨left, hfound, hstate, hcalls⟩ := Procedure.run_ask_of_result h
    cases hlookup : lookup.answer with
    | error cause =>
      rw [hlookup] at hfound
      cases hfound
    | ok found =>
      rw [hlookup] at hfound hstate hcalls
      cases found with
      | some row => cases hfound
      | none =>
        obtain ⟨block, hsecret, hdraw, hstate', hcalls'⟩ := exists_block_of_issueFree hfound
        exact ⟨block, hsecret, hdraw, hstate.trans hstate', hcalls.trans (congrArg _ hcalls')⟩

end Lifecycle

/-! ## Runs of issues -/

/-- An issue of a run: what it asks for, the time that it is given, and what happens before it. -/
structure Issuance (σ : Type) where
  owner : Int
  name : String
  description : Option String
  expiresAt : Int
  allowance : Option Nat
  /-- What becomes of the collaborators between the issue before and this one. -/
  meanwhile : σ → σ

namespace Issuance

variable (environment : Environment σ)

/-- The procedure of an issue. -/
def procedure (issuance : Issuance σ) : Procedure (Except TokenError Secret) :=
  Lifecycle.issue issuance.owner issuance.name issuance.description issuance.expiresAt

/-- An issue is carried out after what happens before it. -/
def run (issuance : Issuance σ) (s : σ) : Run σ (Except TokenError Secret) :=
  issuance.procedure.run environment issuance.allowance (issuance.meanwhile s)

/-- The secret that an issue hands out, if it ends and succeeds. -/
def secret? (issuance : Issuance σ) (s : σ) : Option Secret :=
  match (issuance.run environment s).result with
  | some (.ok secret) => some secret
  | _ => none

/-- The blocks that an issue draws, whether it succeeds or not. -/
def blocks (issuance : Issuance σ) (s : σ) : List Block :=
  (issuance.procedure.run environment.recorded issuance.allowance
    (issuance.meanwhile s, [])).state.2

/-- The secrets that issues hand out one after another. -/
def secretsOf : List (Issuance σ) → σ → List Secret
  | [], _ => []
  | issuance :: rest, s =>
    (issuance.secret? environment s).toList ++ secretsOf rest (issuance.run environment s).state

/-- The blocks that issues draw one after another. -/
def blocksOf : List (Issuance σ) → σ → List Block
  | [], _ => []
  | issuance :: rest, s =>
    issuance.blocks environment s ++ blocksOf rest (issuance.run environment s).state

variable {environment} {issuance : Issuance σ} {issues : List (Issuance σ)} {s : σ}
  {secret : Secret}

/-- The secret of an issue is the one that it ends with. -/
theorem secret?_eq_some_iff :
    issuance.secret? environment s = some secret ↔
      (issuance.run environment s).result = some (.ok secret) := by
  unfold secret?
  match (issuance.run environment s).result with
  | none => simp
  | some (.error cause) => simp
  | some (.ok other) => simp

/-- An issue that hands out a secret has drawn one block, that of the secret. -/
theorem exists_block (h : issuance.secret? environment s = some secret) :
    ∃ block, secret = .ofBlock block ∧ issuance.blocks environment s = [block] := by
  have hplain := secret?_eq_some_iff.mp h
  have hrecords := issuance.procedure.run_recorded environment issuance.allowance
    (issuance.meanwhile s) []
  obtain ⟨block, hsecret, hdraw, hstate, -⟩ :=
    Lifecycle.exists_block_of_result (hrecords.result.trans hplain)
  refine ⟨block, hsecret, ?_⟩
  -- Of the three calls only the draw adds to the record.
  simp only [Environment.recorded_answer, Environment.recorded_state] at hdraw
  have hblocks : issuance.blocks environment s = _ := congrArg Prod.snd hstate
  simpa only [Environment.recorded_state, Call.block?, hdraw, Except.toOption,
    Option.toList_none, Option.toList_some, List.append_nil, List.nil_append] using hblocks

/-- The secret of an issue, if there is one, is that of a block which the issue drew. -/
theorem secret?_sublist (environment : Environment σ) (issuance : Issuance σ) (s : σ) :
    (issuance.secret? environment s).toList.Sublist
      ((issuance.blocks environment s).map Secret.ofBlock) := by
  cases h : issuance.secret? environment s with
  | none => exact List.nil_sublist _
  | some secret =>
    obtain ⟨block, rfl, hblocks⟩ := exists_block h
    rw [hblocks]
    exact List.Sublist.refl _

/-- The secrets of a run of issues are those of blocks that it drew, in their order. -/
theorem secretsOf_sublist (environment : Environment σ) (issues : List (Issuance σ)) (s : σ) :
    (secretsOf environment issues s).Sublist
      ((blocksOf environment issues s).map Secret.ofBlock) := by
  induction issues generalizing s with
  | nil => exact List.Sublist.refl _
  | cons issuance rest ih =>
    rw [secretsOf, blocksOf, List.map_append]
    exact (issuance.secret?_sublist environment s).append (ih _)

/-- As long as no block is drawn twice, no secret is handed out twice. -/
theorem secretsOf_nodup_of_blocksOf (h : (blocksOf environment issues s).Nodup) :
    (secretsOf environment issues s).Nodup :=
  (h.map fun _ _ => Secret.ofBlock_injective).sublist (secretsOf_sublist environment issues s)

end Issuance
end BearerTokens
