import BearerTokens.Proofs.Lifecycle.Evaluation

/-!
# How an issue deals with its collaborators

An issue asks its collaborators in a fixed order: for a row with the name, then for a
random block, and at last for the insertion of the new row.  The first answer that stands
in its way ends it, and decides about its error.  This is so whatever the store and the
random source answer, and a store in memory is left with one row more or as it was.

Main results:

- Definition {lit}`Lifecycle.FirstBroken`: the rule by which a new token is refused.
- Theorem {lit}`Procedure.run_ask_unlimited`: a procedure goes on with what it is answered.
- Theorem {lit}`Lifecycle.run_issueFree`: how an issue under a free name goes on.
- Theorem {lit}`Lifecycle.issue_conduct`: the calls and the result of every issue.
-/

namespace BearerTokens

variable {σ α : Type}

/-- Without a limit of time a procedure goes on with what it is answered. -/
theorem Procedure.run_ask_unlimited (environment : Environment σ) (call : Call)
    (next : call.Answer → Procedure α) (s : σ) :
    (ask call next).run environment none s =
      let reply := environment s call
      let rest := (next reply.answer).run environment none reply.state
      ⟨rest.result, reply.before + reply.after + rest.elapsed, rest.state,
        call :: rest.calls⟩ := by
  simp [run, Activity.bind, Activity.perform, exceeds]

namespace Lifecycle

variable {owner : Int} {name : String} {description : Option String} {expiresAt : Int}

/-! ## Refusals -/

/-- The rule that a new token breaks first, of those on its owner, name and description. -/
def FirstBroken (owner : Int) (name : String) (description : Option String) : TokenField → Prop
  | .owner => owner ≤ 0
  | .name => 0 < owner ∧ 255 < name.length
  | .description =>
    0 < owner ∧ name.length ≤ 255 ∧ ∃ text, description = some text ∧ 512 < text.length

/-- A new token is refused for the rule that it breaks first. -/
theorem exists_refusal_iff {field : TokenField} :
    (∃ reason, refusal? owner name description = some (.validation field reason)) ↔
      FirstBroken owner name description field := by
  unfold refusal?
  by_cases howner : owner ≤ 0
  · cases field <;> simp [FirstBroken, howner, TokenError.invalidOwner, Int.not_lt.mpr howner]
  by_cases hname : TokenError.maxNameLength < name.length
  · have hlong : 255 < name.length := hname
    cases field <;> simp [FirstBroken, howner, hname, hlong, TokenError.nameTooLong,
      Int.not_le.mp howner, Nat.not_le.mpr hlong]
  · have hshort : name.length ≤ 255 := Nat.not_lt.mp hname
    cases description with
    | none => cases field <;> simp [FirstBroken, howner, hname, hshort, Nat.not_lt.mpr hshort]
    | some text =>
      by_cases htext : TokenError.maxDescriptionLength < text.length
      · have hlong : 512 < text.length := htext
        cases field <;> simp [FirstBroken, howner, hname, hshort, htext, hlong,
          TokenError.descriptionTooLong, Int.not_le.mp howner, Nat.not_lt.mpr hshort]
      · have hfits : ¬ 512 < text.length := htext
        cases field <;> simp [FirstBroken, howner, hname, hshort, htext, hfits,
          Nat.not_lt.mpr hshort]

/-- A new token that breaks no rule is not refused. -/
theorem refusal?_eq_none_of_kept (h : ∀ field, ¬ FirstBroken owner name description field) :
    refusal? owner name description = none := by
  have howner : 0 < owner := Int.not_le.mp (h .owner)
  have hname : name.length ≤ 255 := Nat.not_lt.mp fun hlong => h .name ⟨howner, hlong⟩
  refine refusal?_eq_none_iff.mpr ⟨howner, hname, ?_⟩
  intro text htext
  exact Nat.not_lt.mp fun hlong => h .description ⟨howner, hname, text, htext, hlong⟩

/-! ## Calls and answers -/

/-- An issue that is refused calls nobody. -/
theorem run_issue_of_refusal {environment : Environment σ} {s : σ} {refusal : TokenError}
    (h : refusal? owner name description = some refusal) :
    (issue owner name description expiresAt).run environment none s =
      ⟨some (.error refusal), 0, s, []⟩ := by
  simp only [issue, h]
  rfl

/-- Any other issue looks its name up, and goes on only if no row has it. -/
theorem run_issue {environment : Environment σ} {s : σ} (expiresAt : Int)
    (h : refusal? owner name description = none) {found : Except StoreError (Option Token)}
    (hlookup : (environment s (.findByOwnerAndName owner name)).answer = found) :
    let run := (issue owner name description expiresAt).run environment none s
    match found with
    | .error cause =>
      run.calls = [.findByOwnerAndName owner name] ∧ run.result = some (.error (.store cause))
    | .ok (some _) =>
      run.calls = [.findByOwnerAndName owner name] ∧ run.result = some (.error (.duplicate name))
    | .ok none =>
      let free := (issueFree owner name description expiresAt).run environment none
        (environment s (.findByOwnerAndName owner name)).state
      run.calls = .findByOwnerAndName owner name :: free.calls ∧ run.result = free.result := by
  simp only [issue, h, Procedure.run_ask_unlimited, hlookup]
  cases found with
  | error cause => exact ⟨rfl, rfl⟩
  | ok found =>
    cases found with
    | none => exact ⟨rfl, rfl⟩
    | some row => exact ⟨rfl, rfl⟩

/-- An issue under a free name draws a block, and inserts the row of its secret. -/
theorem run_issueFree {environment : Environment σ} {s : σ} (owner : Int) (name : String)
    (description : Option String) (expiresAt : Int) {drawn : Except String Block}
    (hdraw : (environment s .entropy).answer = drawn) :
    let run := (issueFree owner name description expiresAt).run environment none s
    match drawn with
    | .error reason => run.calls = [.entropy] ∧ run.result = some (.error (.entropy reason))
    | .ok block =>
      let token : NewToken := ⟨owner, name, description, (Secret.ofBlock block).digest, expiresAt⟩
      let inserted := (environment (environment s .entropy).state (.insert token)).answer
      run.calls = [.entropy, .insert token] ∧
        run.result = some (issued owner name (.ofBlock block) inserted) := by
  simp only [issueFree, Procedure.run_ask_unlimited, hdraw]
  cases drawn with
  | error reason => exact ⟨rfl, rfl⟩
  | ok block =>
    simp only [Procedure.run_ask_unlimited]
    exact ⟨rfl, rfl⟩

/-- How the store answers the insertion decides what an issue comes to. -/
theorem issued_eq_ok_iff {secret given : Secret} {answer : Except StoreError Token} :
    issued owner name secret answer = .ok given ↔ given = secret ∧ ∃ row, answer = .ok row := by
  constructor
  · intro h
    refine ⟨secret_eq_of_issued h, ?_⟩
    match answer with
    | .ok row => exact ⟨row, rfl⟩
    | .error .conflict => cases h
    | .error .unknownOwner => cases h
    | .error (.database cause) => cases h
  · rintro ⟨rfl, row, rfl⟩
    rfl

/-- An issue is refused before any call exactly for the rule that its token breaks first. -/
theorem refused_iff {environment : Environment σ} {s : σ} {field : TokenField} :
    let run := (issue owner name description expiresAt).run environment none s
    (run.calls = [] ∧ ∃ reason, run.result = some (.error (.validation field reason))) ↔
      FirstBroken owner name description field := by
  intro run
  rw [← exists_refusal_iff]
  cases hrefusal : refusal? owner name description with
  | some refusal => simp [run, run_issue_of_refusal hrefusal]
  | none =>
    have hcalls : run.calls ≠ [] := by
      simp only [run, issue, hrefusal, Procedure.run_ask_unlimited]
      exact List.cons_ne_nil _ _
    simp [hcalls]

/-! ## Issues over a store in memory -/

section

variable {backend : Backend}

/-- Without faults an issue leaves the store as it was, or adds the one row that it asks for. -/
theorem run_issue_cases (h : backend.FaultFree) (hstore : backend.store.Reachable) :
    let run := (issue owner name description expiresAt).run Backend.environment none backend
    (∃ cause, run.result = some (.error cause) ∧ run.state.store = backend.store) ∨
      ∃ block, run.result = some (.ok (.ofBlock block)) ∧
        backend.store.Inserted run.state.store (.ofNew (backend.store.lastId + 1)
          backend.creationTime
          ⟨owner, name, description, (Secret.ofBlock block).digest, expiresAt⟩) := by
  intro run
  have hprompt := (issue owner name description expiresAt).run_prompt h
  have hresult : run.result = _ := hprompt.result none
  have hstate : run.state = _ := hprompt.state none
  have htransition :=
    ServiceCall.eval_transition h hstore (.issue owner name description expiresAt)
  simp only [ServiceCall.procedure, Procedure.map, Procedure.eval_bind, Procedure.eval_done,
    ← hstate] at htransition
  generalize ((issue owner name description expiresAt).eval Backend.answer backend).1 = result
    at hresult htransition
  generalize run.state.store = after at htransition
  cases htransition with
  | unchanged _ hchange =>
    cases result with
    | error cause => exact .inl ⟨cause, hresult, rfl⟩
    | ok secret => cases hchange
  | issued block _ hfree =>
    exact .inr ⟨block, hresult, hstore.inserted_add hfree backend.creationTime⟩

/-- Without faults a look-up by name is answered by the store as it is. -/
theorem run_find (h : backend.FaultFree) (owner : Int) (name : String) :
    ((find owner name).run Backend.environment none backend).result =
      some (.ok (backend.store.findByOwnerAndName owner name)) := by
  rw [((find owner name).run_prompt h).result none, find, Procedure.eval_ask,
    ServiceCall.answer_find h]
  rfl

/-- Without faults a look-up by secret is answered by the store as it is. -/
theorem run_resolve (h : backend.FaultFree) (secret : String) :
    ((resolve secret).run Backend.environment none backend).result =
      some (.ok (backend.store.findBySecretDigest (Secret.digestOf secret))) := by
  rw [((resolve secret).run_prompt h).result none]
  simp only [resolve, Procedure.eval_ask, Backend.answer, Backend.inService, h.storeOutage]
  rfl

/-- A row that an issue has added is found by its name and by the secret of its digest. -/
theorem found_of_inserted (h : backend.FaultFree) (hstore : backend.store.Reachable)
    {before : TokenStore} {row : Token} (hinserted : before.Inserted backend.store row)
    {secret : Secret} (hdigest : row.digest = secret.digest) :
    ((find row.owner row.name).run Backend.environment none backend).result =
        some (.ok (some row)) ∧
      ((resolve secret.text).run Backend.environment none backend).result =
        some (.ok (some row)) := by
  have hrow : row ∈ backend.store.rows.values := by
    rw [hinserted.values]
    exact List.mem_append_right _ (List.mem_singleton_self row)
  constructor
  · rw [run_find h, hstore.findByOwnerAndName_eq_some_iff.mpr ⟨hrow, rfl⟩]
  · rw [Secret.digest] at hdigest
    rw [run_resolve h, hstore.findBySecretDigest_eq_some_iff.mpr ⟨hrow, hdigest⟩]

end

/-! ## Every issue -/

/--
Whatever the collaborators answer: an issue is refused before any call exactly for the rule
that its token breaks first.  Otherwise it looks the name up, draws a block only if no row
has the name, and inserts the row of the secret only if a block was drawn.  It makes no
other calls, and its result is what the last answer comes to.  Over a store in memory an
issue that fails leaves the whole store as it was, and one that does not adds one row, which
is found by its name and by the secret that was handed out.
-/
theorem issue_conduct (environment : Environment σ) (s : σ) (owner : Int) (name : String)
    (description : Option String) (expiresAt : Int) :
    let run := (issue owner name description expiresAt).run environment none s
    let named : Call := .findByOwnerAndName owner name
    let lookup := environment s (.findByOwnerAndName owner name)
    let draw := environment lookup.state .entropy
    (∀ field,
      (run.calls = [] ∧ ∃ reason, run.result = some (.error (.validation field reason))) ↔
        FirstBroken owner name description field) ∧
    ((∀ field, ¬ FirstBroken owner name description field) →
      (∀ cause, lookup.answer = .error cause →
        run.calls = [named] ∧ run.result = some (.error (.store cause))) ∧
      (∀ row, lookup.answer = .ok (some row) →
        run.calls = [named] ∧ run.result = some (.error (.duplicate name))) ∧
      (lookup.answer = .ok none →
        (∀ reason, draw.answer = .error reason →
          run.calls = [named, .entropy] ∧ run.result = some (.error (.entropy reason))) ∧
        ∀ block, draw.answer = .ok block →
          let secret := Secret.ofBlock block
          let token : NewToken :=
            ⟨owner, name, description, Sha256.digest (Utf8.encode secret.text), expiresAt⟩
          let inserted := (environment draw.state (.insert token)).answer
          run.calls = [named, .entropy, .insert token] ∧
          (∀ given, run.result = some (.ok given) ↔ given = secret ∧ ∃ row, inserted = .ok row) ∧
          (inserted = .error .conflict → run.result = some (.error (.duplicate name))) ∧
          (inserted = .error .unknownOwner →
            ∃ reason, run.result = some (.error (.validation .owner reason))) ∧
          ∀ cause, inserted = .error (.database cause) →
            run.result = some (.error (.store (.database cause))))) ∧
    ∀ backend : Backend, backend.FaultFree → backend.store.Reachable →
      let run := (issue owner name description expiresAt).run Backend.environment none backend
      let after := run.state
      (∃ cause, run.result = some (.error cause) ∧ after.store = backend.store) ∨
      ∃ block row,
        let secret := Secret.ofBlock block
        run.result = some (.ok secret) ∧ backend.store.Inserted after.store row ∧
        row = .ofNew (backend.store.lastId + 1) backend.creationTime
          ⟨owner, name, description, Sha256.digest (Utf8.encode secret.text), expiresAt⟩ ∧
        ((find owner name).run Backend.environment none after).result = some (.ok (some row)) ∧
        ((resolve secret.text).run Backend.environment none after).result =
          some (.ok (some row)) := by
  intro run named lookup draw
  refine ⟨fun field => refused_iff, ?_, ?_⟩
  · intro hkept
    have hrefusal := refusal?_eq_none_of_kept hkept
    refine ⟨?_, ?_, ?_⟩
    · intro cause hlookup
      exact run_issue expiresAt hrefusal hlookup
    · intro row hlookup
      exact run_issue expiresAt hrefusal hlookup
    · intro hlookup
      rcases run_issue expiresAt hrefusal hlookup with ⟨hcalls, hresult⟩
      constructor
      · intro reason hdraw
        rcases run_issueFree owner name description expiresAt hdraw with ⟨hrest, hfailed⟩
        exact ⟨hcalls.trans (congrArg _ hrest), hresult.trans hfailed⟩
      · intro block hdraw secret token inserted
        rcases run_issueFree owner name description expiresAt hdraw with ⟨hrest, hissued⟩
        have hcome : run.result = some (issued owner name secret inserted) :=
          hresult.trans hissued
        refine ⟨hcalls.trans (congrArg _ hrest), ?_, ?_, ?_, ?_⟩
        · intro given
          rw [hcome, Option.some.injEq]
          exact issued_eq_ok_iff
        · intro hinserted
          rw [hcome, hinserted]
          rfl
        · intro hinserted
          rw [hcome, hinserted]
          exact ⟨_, rfl⟩
        · intro cause hinserted
          rw [hcome, hinserted]
          rfl
  · intro backend h hstore run after
    rcases run_issue_cases h hstore with hfailed | ⟨block, hresult, hinserted⟩
    · exact .inl hfailed
    · have hstate : after = _ :=
        ((issue owner name description expiresAt).run_prompt h).state none
      have hafter : after.FaultFree ∧ after.store.Reachable := by
        rw [hstate]
        exact ⟨h.eval _, Procedure.eval_store_reachable _ hstore⟩
      exact .inr ⟨block, _, hresult, hinserted, rfl,
        found_of_inserted hafter.1 hafter.2 hinserted rfl⟩

/-- A name of as many characters as are allowed, and of twice as many bytes. -/
def longestName : String := String.ofList (List.replicate 255 'é')

/-- Collaborators that find every name free and then refuse every insertion. -/
def outpaced : Environment Unit
  | _, .insert _ => ⟨0, (), .error .conflict, 0, ()⟩
  | _, .findByOwnerAndName _ _ => ⟨0, (), .ok none, 0, ()⟩
  | _, .findBySecretDigest _ => ⟨0, (), .ok none, 0, ()⟩
  | _, .listByOwner _ => ⟨0, (), .ok [], 0, ()⟩
  | _, .delete _ => ⟨0, (), .ok false, 0, ()⟩
  | _, .load user => ⟨0, (), .error (.unknownUser user), 0, ()⟩
  | _, .now => ⟨0, (), 0, 0, ()⟩
  | _, .entropy => ⟨0, (), .ok (EntropySource.blockOf 1), 0, ()⟩

/-- An issue that others outpace is a duplicate; over an empty store the same issue succeeds. -/
theorem issue_conduct_outpaced :
    ((issue 7 longestName none 2000).run outpaced none ()).result =
        some (.error (.duplicate longestName)) ∧
      ∃ row, ((find 7 longestName).run Backend.environment none
        ((issue 7 longestName none 2000).run Backend.environment none
          (.ofUsers [] 1000)).state).result = some (.ok (some row)) := by
  have hkept : ∀ field, ¬ FirstBroken 7 longestName none field := by
    have hlength : longestName.length = 255 := by
      unfold longestName
      simp only [String.length_ofList, List.length_replicate]
    rintro (_ | _ | _) <;> simp [FirstBroken, hlength]
  have hfree : (Backend.ofUsers [] 1000).FaultFree := ⟨rfl, rfl, rfl⟩
  obtain ⟨-, hanswers, -⟩ := issue_conduct outpaced () 7 longestName none 2000
  obtain ⟨-, hstored, hmemory⟩ :=
    issue_conduct Backend.environment (.ofUsers [] 1000) 7 longestName none 2000
  have hrefused := (((hanswers hkept).2.2 rfl).2 _ rfl).2.2.1 rfl
  have hissued := ((((hstored hkept).2.2 rfl).2 _ rfl).2.1 _).mpr ⟨rfl, _, rfl⟩
  refine ⟨hrefused, ?_⟩
  obtain ⟨cause, hfailed, -⟩ | ⟨block, row, -, -, -, hfound, -⟩ := hmemory _ hfree .empty
  · cases hfailed.symm.trans hissued
  · exact ⟨row, hfound⟩

end Lifecycle
end BearerTokens
