import BearerTokens.Proofs.Deployment.Interruption
import BearerTokens.Proofs.Lifecycle.ServiceCall
import BearerTokens.Proofs.Store.Consistency

/-!
# Calls that may be cut off

A call of the token service makes at most one change of the store.  Wherever it is
cut off, and whatever faults it meets before, the store is as it was or has this one
change in all of its maps.  A call that ends reports the change in its answer.

Main results:

- Definitions {lit}`TokenStore.Inserted` and {lit}`TokenStore.Removed`: one row more,
  or one row less, in all maps of a store.
- Definition {lit}`ServiceCall.Transition`: the change of a call and its report.
- Theorem {lit}`ServiceCall.ensures_transition`: no call does anything else.
- Theorem {lit}`ServiceCall.eval_effect`: the effect of a call without faults.
-/

namespace BearerTokens

/-! ## One row more or less -/

namespace TokenStore

/-- One store has one row more than another, with a number, a key and a digest of its own. -/
structure Inserted (before after : TokenStore) (row : Token) : Prop where
  id_eq : row.id = before.lastId + 1
  fresh : ∀ other ∈ before.rows.values,
    other.id ≠ row.id ∧ other.key ≠ row.key ∧ other.digest ≠ row.digest
  values : after.rows.values = before.rows.values ++ [row]
  rows : after.rows = before.rows.insert row.id row
  byName : after.byName = before.byName.insert row.key row.id
  byDigest : after.byDigest = before.byDigest.insert row.digest row.id
  lastId : after.lastId = row.id

/-- One store has one of the rows of another no longer. -/
structure Removed (before after : TokenStore) (row : Token) : Prop where
  stored : row ∈ before.rows.values
  values : after.rows.values = before.rows.values.erase row
  rows : after.rows = before.rows.erase row.id
  byName : after.byName = before.byName.erase row.key
  byDigest : after.byDigest = before.byDigest.erase row.digest
  lastId : after.lastId = before.lastId

variable {store : TokenStore}

/-- A token breaks no rule exactly when no row has its key or its digest. -/
theorem Reachable.conflicts_eq_false_iff (h : store.Reachable) {token : NewToken} :
    store.conflicts token = false ↔ ∀ row ∈ store.rows.values,
      row.key ≠ (token.owner, token.name) ∧ row.digest ≠ token.digest := by
  obtain ⟨table, hsound, rfl⟩ := h.exists_table
  rw [TokenTable.conflicts_indexed, TokenTable.values_indexed]
  exact TokenTable.any_clashes_eq_false_iff

/-- A row that is added comes into all maps. -/
theorem Reachable.inserted_add (h : store.Reachable) {token : NewToken}
    (hfree : store.conflicts token = false) (createdAt : Timestamp) :
    Inserted store (store.add createdAt token).1
      (.ofNew (store.lastId + 1) createdAt token) := by
  have hunique := h.conflicts_eq_false_iff.mp hfree
  have hinsert : (store.insert createdAt token).1 = (store.add createdAt token).1 := by
    simp [TokenStore.insert, hfree]
  obtain ⟨-, hvalues, -⟩ := h.insert_of_free hunique createdAt
  rw [hinsert] at hvalues
  refine ⟨rfl, ?_, hvalues, rfl, rfl, rfl, rfl⟩
  intro other hother
  refine ⟨?_, hunique other hother⟩
  have hle := h.id_le_lastId hother
  have hid : (Token.ofNew (store.lastId + 1) createdAt token).id = store.lastId + 1 := rfl
  omega

/-- The row of an owner and a name is deleted by its number. -/
theorem Reachable.delete_of_found (h : store.Reachable) {owner : Int} {name : String}
    {row : Token} (hfound : store.findByOwnerAndName owner name = some row) :
    store.delete row.id = (store.remove row.id row, true) := by
  have hrow := (h.findByOwnerAndName_eq_some_iff.mp hfound).1
  have hget := h.get?_eq_some_iff.mpr ⟨hrow, rfl⟩
  simp only [TokenStore.delete, hget]

/-- No row is stored twice. -/
theorem Reachable.values_nodup (h : store.Reachable) : store.rows.values.Nodup := by
  obtain ⟨table, hsound, rfl⟩ := h.exists_table
  rw [TokenTable.values_indexed]
  exact hsound.ids_nodup.of_map

/-- The rows without the number of a row are the rows without this row. -/
theorem Reachable.filter_id_ne (h : store.Reachable) {row : Token}
    (hrow : row ∈ store.rows.values) :
    store.rows.values.filter (fun other => other.id ≠ row.id) = store.rows.values.erase row := by
  rw [h.values_nodup.erase_eq_filter]
  refine List.filter_congr ?_
  intro other hother
  rw [Bool.eq_iff_iff, decide_eq_true_iff, bne_iff_ne]
  constructor
  · intro hid heq
    exact hid (congrArg Token.id heq)
  · intro hne hid
    exact hne (h.eq_of_id_eq hother hrow hid)

/-- The row of an owner and a name goes out of all maps. -/
theorem Reachable.removed_of_found (h : store.Reachable) {owner : Int} {name : String}
    {row : Token} (hfound : store.findByOwnerAndName owner name = some row) :
    Removed store (store.remove row.id row) row := by
  have hrow := (h.findByOwnerAndName_eq_some_iff.mp hfound).1
  have hvalues := h.values_delete row.id
  rw [h.delete_of_found hfound] at hvalues
  exact ⟨hrow, hvalues.trans (h.filter_id_ne hrow), rfl, rfl, rfl, rfl⟩

/-- No row is left with the key of a row that was removed. -/
theorem Removed.key_free {before after : TokenStore} {row : Token}
    (h : Removed before after row) (hstore : before.Reachable) :
    ∀ other ∈ after.rows.values, other.key ≠ row.key := by
  intro other hother hkey
  rw [h.values, hstore.values_nodup.mem_erase_iff] at hother
  exact hother.1 (hstore.eq_of_key_eq hother.2 h.stored hkey)

/-- A row that is removed is gone. -/
theorem Removed.not_mem {before after : TokenStore} {row : Token}
    (h : Removed before after row) (hstore : before.Reachable) : row ∉ after.rows.values := by
  intro hrow
  exact h.key_free hstore row hrow rfl

/-- Only one row is removed at a time. -/
theorem Removed.eq {before after : TokenStore} {row other : Token}
    (h : Removed before after row) (hother : Removed before after other)
    (hstore : before.Reachable) : row = other := by
  by_contra hne
  have hkept : row ∈ after.rows.values := by
    rw [hother.values]
    exact (List.mem_erase_of_ne hne).mpr h.stored
  exact h.not_mem hstore hkept

end TokenStore

/-! ## Changes and their reports -/

/-- Whether an answer is of the kind that a call is given. -/
def ServiceAnswer.Fits : ServiceAnswer → ServiceCall → Prop
  | .issued _, .issue _ _ _ _ => True
  | .revoked _, .revoke _ _ => True
  | .found _, .find _ _ => True
  | .found _, .resolve _ => True
  | .listed _, .list _ => True
  | _, _ => False

namespace ServiceCall

/-- What a call may have made of the store of a backend, with the answer that tells it. -/
inductive Transition (before : Backend) : TokenStore → ServiceCall → ServiceAnswer → Prop where
  /-- Nothing has happened, and the answer says so. -/
  | unchanged {call : ServiceCall} {answer : ServiceAnswer} :
    answer.Fits call → answer.isChange = false → Transition before before.store call answer
  /-- A token that breaks no rule was added with the digest of the secret. -/
  | issued {owner : Int} {name : String} {description : Option String} {expiresAt : Int}
    (block : Block) :
    Lifecycle.refusal? owner name description = none →
    before.store.conflicts
      ⟨owner, name, description, (Secret.ofBlock block).digest, expiresAt⟩ = false →
    Transition before
      (before.store.add before.creationTime
        ⟨owner, name, description, (Secret.ofBlock block).digest, expiresAt⟩).1
      (.issue owner name description expiresAt) (.issued (.ok (.ofBlock block)))
  /-- The row of the owner and the name was removed. -/
  | revoked {owner : Int} {name : String} (row : Token) :
    before.store.findByOwnerAndName owner name = some row →
    Transition before (before.store.remove row.id row) (.revoke owner name) (.revoked (.ok ()))

/-- What a call may have made of the store of a backend when it is cut off. -/
def Interrupted (before : Backend) (call : ServiceCall) (after : Backend) : Prop :=
  ∃ answer, Transition before after.store call answer

/-- A call may be cut off before it has done anything. -/
theorem interrupted_unchanged {before after : Backend} (h : after.store = before.store)
    (call : ServiceCall) : Interrupted before call after := by
  unfold Interrupted
  rw [h]
  cases call with
  | issue => exact ⟨.issued (.error (.entropy "")), .unchanged trivial rfl⟩
  | revoke => exact ⟨.revoked (.error (.entropy "")), .unchanged trivial rfl⟩
  | find => exact ⟨.found (.ok none), .unchanged trivial rfl⟩
  | list => exact ⟨.listed (.ok []), .unchanged trivial rfl⟩
  | resolve => exact ⟨.found (.ok none), .unchanged trivial rfl⟩

/-- A transition has the effect of its call on the rows. -/
theorem Transition.effect {before : Backend} {after : TokenStore} {call : ServiceCall}
    {answer : ServiceAnswer} (h : Transition before after call answer)
    (hstore : before.store.Reachable) : Effect before.store after call answer := by
  cases h with
  | unchanged _ hanswer => exact .unchanged rfl hanswer
  | issued block hrefusal hfree =>
    have hinserted := hstore.inserted_add hfree before.creationTime
    refine .issued _ before.creationTime rfl hrefusal ?_ hinserted.values
    intro other hother
    exact (hinserted.fresh other hother).2
  | revoked row hfound =>
    obtain ⟨hrow, hkey⟩ := hstore.findByOwnerAndName_eq_some_iff.mp hfound
    have hvalues := hstore.values_delete row.id
    rw [hstore.delete_of_found hfound] at hvalues
    exact .revoked row hrow hkey hvalues

/-! ## Calls with faults -/

variable {backend : Backend}

/-- An insertion that is not spoilt fails without effect, or adds a row that breaks no rule. -/
theorem answer_insert_cases (backend : Backend) (token : NewToken) :
    (∃ error, backend.answer (.insert token) = (.error error, backend)) ∨
      ∃ row, backend.store.conflicts token = false ∧ backend.answer (.insert token) =
        (.ok row, { backend with store := (backend.store.add backend.creationTime token).1 }) := by
  simp only [Backend.answer]
  split
  · next outage _ => exact .inl ⟨outage, rfl⟩
  · unfold TokenStore.insert
    cases hconflicts : backend.store.conflicts token with
    | true => exact .inl ⟨.conflict, rfl⟩
    | false => exact .inr ⟨_, rfl, rfl⟩

/-- A deletion that is not spoilt fails without effect, or removes the row that was found. -/
theorem answer_delete_cases (backend : Backend) (hstore : backend.store.Reachable) {owner : Int}
    {name : String} {row : Token}
    (hfound : backend.store.findByOwnerAndName owner name = some row) :
    (∃ error, backend.answer (.delete row.id) = (.error error, backend)) ∨
      backend.answer (.delete row.id) =
        (.ok true, { backend with store := backend.store.remove row.id row }) := by
  simp only [Backend.answer]
  split
  · next outage _ => exact .inl ⟨outage, rfl⟩
  · rw [hstore.delete_of_found hfound]
    exact .inr rfl

/-- An issue that the store refused reports no change. -/
theorem isChange_issued_error (owner : Int) (name : String) (secret : Secret)
    (error : StoreError) :
    (ServiceAnswer.issued (Lifecycle.issued owner name secret (.error error))).isChange =
      false := by
  cases error <;> rfl

/-- What follows the draw of a secret issues the token or leaves the store alone. -/
theorem ensures_issueDrawn (backend : Backend) {owner : Int} {name : String}
    {description : Option String} {expiresAt : Int}
    (hrefusal : Lifecycle.refusal? owner name description = none) (entropy : EntropySource)
    (faults : FaultPlan) (drawn : Except String Block) :
    let call := issue owner name description expiresAt
    ((issueDrawn owner name description expiresAt drawn).run Backend.environment).Ensures
      { backend with entropy := entropy, faults := faults } (Interrupted backend call)
      fun answer after => Transition backend after.store call answer := by
  intro call
  cases drawn with
  | error reason => exact .done (.unchanged trivial rfl)
  | ok block =>
    apply Backend.ensures_ask
    · intro plan
      exact interrupted_unchanged rfl call
    · intro plan after
      obtain ⟨error, hanswer⟩ | ⟨row, hconflicts, hanswer⟩ := answer_insert_cases
        { backend with entropy := entropy, faults := plan }
        ⟨owner, name, description, (Secret.ofBlock block).digest, expiresAt⟩
      · simp only [after, hanswer]
        refine ⟨interrupted_unchanged rfl call, .done ?_⟩
        exact .unchanged trivial (isChange_issued_error owner name _ error)
      · simp only [after, hanswer]
        have hissued : Transition backend _ call _ := .issued block hrefusal hconflicts
        exact ⟨⟨_, hissued⟩, .done hissued⟩
    · intro plan answer hspoilt
      obtain ⟨error, hanswer⟩ | hmissed := hspoilt
      · cases hanswer
        exact .done (.unchanged trivial (isChange_issued_error owner name _ error))
      · cases hmissed

/-- What follows the look-up of its name issues the token or leaves the store alone. -/
theorem ensures_issueNamed (backend : Backend) {owner : Int} {name : String}
    {description : Option String} {expiresAt : Int}
    (hrefusal : Lifecycle.refusal? owner name description = none) (faults : FaultPlan)
    (found : Except StoreError (Option Token)) :
    let call := issue owner name description expiresAt
    ((issueNamed owner name description expiresAt found).run Backend.environment).Ensures
      { backend with faults := faults } (Interrupted backend call)
      fun answer after => Transition backend after.store call answer := by
  intro call
  match found with
  | .error cause => exact .done (.unchanged trivial rfl)
  | .ok (some _) => exact .done (.unchanged trivial rfl)
  | .ok none =>
    rw [issueNamed, issueFree_eq]
    apply Backend.ensures_ask
    · intro plan
      exact interrupted_unchanged rfl call
    · intro plan after
      exact ⟨interrupted_unchanged rfl call, ensures_issueDrawn backend hrefusal _ plan _⟩
    · intro plan answer hspoilt
      exact absurd hspoilt (Backend.not_spoilt_of_method? rfl answer)

/-- What follows the look-up of a token revokes it or leaves the store alone. -/
theorem ensures_revokeFound (hstore : backend.store.Reachable) {owner : Int} {name : String}
    (faults : FaultPlan) {found : Except StoreError (Option Token)}
    (hfound : ∀ row, found = .ok (some row) →
      backend.store.findByOwnerAndName owner name = some row) :
    let call := revoke owner name
    ((revokeFound name found).run Backend.environment).Ensures
      { backend with faults := faults } (Interrupted backend call)
      fun answer after => Transition backend after.store call answer := by
  intro call
  match found with
  | .error cause => exact .done (.unchanged trivial rfl)
  | .ok none => exact .done (.unchanged trivial rfl)
  | .ok (some row) =>
    have hrow := hfound row rfl
    apply Backend.ensures_ask
    · intro plan
      exact interrupted_unchanged rfl call
    · intro plan after
      obtain ⟨error, hanswer⟩ | hanswer := answer_delete_cases
        { backend with faults := plan } hstore hrow
      · simp only [after, hanswer]
        exact ⟨interrupted_unchanged rfl call, .done (.unchanged trivial rfl)⟩
      · simp only [after, hanswer]
        have hrevoked : Transition backend _ call _ := .revoked row hrow
        exact ⟨⟨_, hrevoked⟩, .done hrevoked⟩
    · intro plan answer hspoilt
      obtain ⟨error, hanswer⟩ | hmissed := hspoilt
      · cases hanswer
        exact .done (.unchanged trivial rfl)
      · cases hmissed
        exact .done (.unchanged trivial rfl)

/-- A call that only reads leaves the store alone. -/
theorem ensures_read {call : ServiceCall} {asked : Call}
    {answer : asked.Answer → ServiceAnswer} (hfits : ∀ value, (answer value).Fits call)
    (hreads : ∀ value, (answer value).isChange = false)
    (hasked : ∀ before : Backend, (before.answer asked).2 = before) :
    ((Procedure.ask asked fun value => .done (answer value)).run Backend.environment).Ensures
      backend (Interrupted backend call)
      fun answer after => Transition backend after.store call answer := by
  apply Backend.ensures_ask
  · intro plan
    exact interrupted_unchanged rfl call
  · intro plan after
    have hafter : after.2 = { backend with faults := plan } := hasked _
    rw [hafter]
    exact ⟨interrupted_unchanged rfl call, .done (.unchanged (hfits _) (hreads _))⟩
  · intro plan value _
    exact .done (.unchanged (hfits value) (hreads value))

/-- With any faults and under any limits, a call makes its one change or none. -/
theorem ensures_transition (backend : Backend) (hstore : backend.store.Reachable)
    (call : ServiceCall) :
    (call.procedure.run Backend.environment).Ensures backend (Interrupted backend call)
      fun answer after => Transition backend after.store call answer := by
  cases call with
  | issue owner name description expiresAt =>
    cases hrefusal : Lifecycle.refusal? owner name description with
    | some refusal =>
      rw [procedure_issue_of_refusal hrefusal]
      exact .done (.unchanged trivial rfl)
    | none =>
      rw [procedure_issue hrefusal]
      apply Backend.ensures_ask
      · intro plan
        exact interrupted_unchanged rfl _
      · intro plan after
        exact ⟨interrupted_unchanged rfl _, ensures_issueNamed backend hrefusal plan _⟩
      · intro plan answer _
        exact ensures_issueNamed backend hrefusal plan answer
  | revoke owner name =>
    rw [procedure_revoke]
    apply Backend.ensures_ask
    · intro plan
      exact interrupted_unchanged rfl _
    · intro plan after
      refine ⟨interrupted_unchanged rfl _, ensures_revokeFound hstore plan ?_⟩
      intro row hrow
      obtain ⟨error, hfailed⟩ | hfound := Backend.inService_cases { backend with faults := plan }
        (backend.store.findByOwnerAndName owner name)
      · cases hrow.symm.trans hfailed
      · exact Except.ok.inj (hfound.symm.trans hrow)
    · intro plan answer hspoilt
      refine ensures_revokeFound hstore plan ?_
      rintro row rfl
      obtain ⟨error, hfailed⟩ | hmissed := hspoilt
      · cases hfailed
      · cases hmissed
  | find owner name => exact ensures_read (fun _ => trivial) (fun _ => rfl) fun _ => rfl
  | list owner => exact ensures_read (fun _ => trivial) (fun _ => rfl) fun _ => rfl
  | resolve secret => exact ensures_read (fun _ => trivial) (fun _ => rfl) fun _ => rfl

/-- Without faults a call makes its one change or none. -/
theorem eval_transition (h : backend.FaultFree) (hstore : backend.store.Reachable)
    (call : ServiceCall) :
    let result := call.procedure.eval Backend.answer backend
    Transition backend result.2.store call result.1 :=
  (ensures_transition backend hstore call).of_prompt (call.procedure.run_prompt h)

/-- Without faults a call leaves the store alone, appends a row, or drops one. -/
theorem eval_effect (h : backend.FaultFree) (hstore : backend.store.Reachable)
    (call : ServiceCall) :
    let result := call.procedure.eval Backend.answer backend
    Effect backend.store result.2.store call result.1 :=
  (eval_transition h hstore call).effect hstore

end ServiceCall
end BearerTokens
