import BearerTokens.Proofs.Lifecycle.OwnerView

/-!
# The ledger of a store

The rows of all owners in order, without their numbers, are the ledger of a store.  What a
call answers, up to numbers, and what it makes of the ledger, follows from the ledger alone,
the time and the next random block.

Main results:

- Definition {lit}`TokenStore.ledger`: all rows in order, without their numbers.
- Definition {lit}`ServiceCall.entered`: what a call comes to by the ledger.
- Theorem {lit}`ServiceCall.eval_entered`: without faults it comes to no more and no less.
-/

namespace BearerTokens

@[simp]
theorem Token.key_unnumbered (row : Token) : row.unnumbered.key = row.key :=
  rfl

@[simp]
theorem Token.digest_unnumbered (row : Token) : row.unnumbered.digest = row.digest :=
  rfl

/-! ## All rows without their numbers -/

namespace TokenStore

/-- All rows in order, without their numbers. -/
def ledger (store : TokenStore) : List Token :=
  store.rows.values.map Token.unnumbered

variable {store before after : TokenStore} {row : Token}

/-- A look-up by owner and name finds what the ledger has under this key. -/
theorem Reachable.find_ledger (h : store.Reachable) (owner : Int) (name : String) :
    (store.findByOwnerAndName owner name).map Token.unnumbered =
      store.ledger.find? fun row => row.key = (owner, name) := by
  obtain ⟨table, hsound, rfl⟩ := h.exists_table
  rw [TokenTable.indexed_findByOwnerAndName hsound, TokenTable.findByOwnerAndName_eq, ledger,
    TokenTable.values_indexed, List.find?_map]
  rfl

/-- A look-up by digest finds what the ledger has with it. -/
theorem Reachable.resolve_ledger (h : store.Reachable) (digest : Digest) :
    (store.findBySecretDigest digest).map Token.unnumbered =
      store.ledger.find? fun row => row.digest = digest := by
  obtain ⟨table, hsound, rfl⟩ := h.exists_table
  rw [TokenTable.indexed_findBySecretDigest hsound, TokenTable.findBySecretDigest, ledger,
    TokenTable.values_indexed, List.find?_map]
  rfl

/-- The rows of an owner are those that the ledger has of it. -/
theorem list_ledger (store : TokenStore) (owner : Int) :
    (store.listByOwner owner).map Token.unnumbered =
      store.ledger.filter fun row => row.owner = owner := by
  rw [ledger, listByOwner, List.filter_map]
  rfl

/-- A digest is in the ledger when some row has it. -/
theorem any_ledger (store : TokenStore) (digest : Digest) :
    (store.ledger.any fun row => row.digest = digest) =
      store.rows.values.any fun row => row.digest = digest := by
  rw [ledger, List.any_map]
  rfl

/-- The keys of the index by name are those of the ledger, in its order. -/
theorem Reachable.keys_byName (h : store.Reachable) :
    store.byName.keys = store.ledger.map Token.key := by
  obtain ⟨table, -, rfl⟩ := h.exists_table
  simp [ledger, TokenTable.indexed]

/-- The keys of the index by digest are those of the ledger, in its order. -/
theorem Reachable.keys_byDigest (h : store.Reachable) :
    store.byDigest.keys = store.ledger.map Token.digest := by
  obtain ⟨table, -, rfl⟩ := h.exists_table
  simp [ledger, TokenTable.indexed]

/-- A new row comes last. -/
theorem Inserted.ledger (h : Inserted before after row) :
    after.ledger = before.ledger ++ [row.unnumbered] := by
  simp [TokenStore.ledger, h.values]

/-- A removed row leaves the rows of other keys. -/
theorem Removed.ledger (h : Removed before after row) (hstore : before.Reachable) :
    after.ledger = before.ledger.filter fun other => other.key ≠ row.key := by
  rw [TokenStore.ledger, TokenStore.ledger, h.values, hstore.values_nodup.erase_eq_filter,
    List.filter_map]
  congr 1
  refine List.filter_congr ?_
  intro other hother
  rw [Bool.eq_iff_iff, bne_iff_ne, Function.comp_apply, decide_eq_true_iff,
    Token.key_unnumbered]
  constructor
  · intro hne hkey
    exact hne (hstore.eq_of_key_eq hother h.stored hkey)
  · rintro hkey rfl
    exact hkey rfl

end TokenStore

/-! ## Calls by the ledger -/

namespace ServiceCall

/--
What a call comes to by the ledger, with the time at which a row is created now and the next
random block: the answer, and the ledger then.
-/
def entered (rows : List Token) (createdAt : Timestamp) (drawn : Except String Block) :
    ServiceCall → ServiceAnswer × List Token
  | .issue owner name description expiresAt =>
    match Lifecycle.refusal? owner name description,
      rows.find? (fun row => row.key = (owner, name)), drawn with
    | some refusal, _, _ => (.issued (.error refusal), rows)
    | none, some _, _ => (.issued (.error (.duplicate name)), rows)
    | none, none, .error reason => (.issued (.error (.entropy reason)), rows)
    | none, none, .ok block =>
      let digest := (Secret.ofBlock block).digest
      if rows.any fun row => row.digest = digest then (.issued (.error (.duplicate name)), rows)
      else
        (.issued (.ok (.ofBlock block)),
          rows ++ [.ofNew 0 createdAt ⟨owner, name, description, digest, expiresAt⟩])
  | .revoke owner name =>
    match rows.find? fun row => row.key = (owner, name) with
    | none => (.revoked (.error (.notFound name)), rows)
    | some _ => (.revoked (.ok ()), rows.filter fun row => row.key ≠ (owner, name))
  | .find owner name => (.found (.ok (rows.find? fun row => row.key = (owner, name))), rows)
  | .list owner => (.listed (.ok (rows.filter fun row => row.owner = owner)), rows)
  | .resolve secret =>
    (.found (.ok (rows.find? fun row => row.digest = Secret.digestOf secret)), rows)

variable {backend : Backend} {owner : Int} {name : String} {description : Option String}

/-- What the insertion of a token that a row stands in the way of is answered without faults. -/
theorem answer_insert_of_clash (h : backend.FaultFree) (hstore : backend.store.Reachable)
    {token : NewToken} {row : Token} (hrow : row ∈ backend.store.rows.values)
    (hclash : row.key = (token.owner, token.name) ∨ row.digest = token.digest) :
    backend.answer (.insert token) = (.error .conflict, backend) := by
  simp only [Backend.answer, hstore.insert_of_clash hrow hclash]
  split
  · next outage houtage =>
    rw [h.storeOutage] at houtage
    cases houtage
  · rfl

/-- An issue whose digest a row has already is told that its name is taken. -/
theorem eval_issue_of_clash (h : backend.FaultFree) (hstore : backend.store.Reachable)
    (hrefusal : Lifecycle.refusal? owner name description = none)
    (hfree : backend.store.findByOwnerAndName owner name = none) {block : Block}
    (hdrawn : backend.entropy.draw.1 = .ok block) {row : Token}
    (hrow : row ∈ backend.store.rows.values)
    (hdigest : row.digest = (Secret.ofBlock block).digest) (expiresAt : Int) :
    (issue owner name description expiresAt).procedure.eval Backend.answer backend =
      (.issued (.error (.duplicate name)), { backend with entropy := backend.entropy.draw.2 }) := by
  let drawing : Backend := { backend with entropy := backend.entropy.draw.2 }
  have hdrawing : drawing.FaultFree := ⟨h.storeOutage, h.directoryOutage, h.faults⟩
  let token : NewToken := ⟨owner, name, description, (Secret.ofBlock block).digest, expiresAt⟩
  have hrefused : drawing.answer (.insert token) = (.error .conflict, drawing) :=
    answer_insert_of_clash hdrawing hstore hrow (.inr hdigest)
  rw [eval_issue h hrefusal hfree, hdrawn, issueDrawn, Procedure.eval_ask, hrefused]
  rfl

/-- An issue that draws a block adds a row, unless the ledger has its digest already. -/
theorem eval_issue_drawn_entered (h : backend.FaultFree) (hstore : backend.store.Reachable)
    (hrefusal : Lifecycle.refusal? owner name description = none)
    (hfree : backend.store.findByOwnerAndName owner name = none) {block : Block}
    (hdrawn : backend.entropy.draw.1 = .ok block) (expiresAt : Int) :
    let result :=
      (issue owner name description expiresAt).procedure.eval Backend.answer backend
    let digest := (Secret.ofBlock block).digest
    (result.1.unnumbered, result.2.store.ledger) =
      if backend.store.ledger.any fun row => row.digest = digest then
        (.issued (.error (.duplicate name)), backend.store.ledger)
      else
        (.issued (.ok (.ofBlock block)), backend.store.ledger ++
          [.ofNew 0 backend.creationTime ⟨owner, name, description, digest, expiresAt⟩]) := by
  intro result digest
  rw [TokenStore.any_ledger]
  cases hany : backend.store.rows.values.any fun row => row.digest = digest with
  | true =>
    obtain ⟨row, hrow, hsame⟩ := List.any_eq_true.mp hany
    have hdigest : row.digest = digest := of_decide_eq_true hsame
    simp only [result, eval_issue_of_clash h hstore hrefusal hfree hdrawn hrow hdigest]
    rfl
  | false =>
    have hfresh : ∀ row ∈ backend.store.rows.values, row.digest ≠ digest :=
      fun row hrow hdigest => List.any_eq_false.mp hany row hrow (decide_eq_true hdigest)
    rcases eval_issue_of_free h hstore hrefusal hfree hdrawn hfresh expiresAt with
      ⟨hconflicts, hissued⟩
    have hinserted := hstore.inserted_add hconflicts backend.creationTime
    simp only [result, hissued]
    exact Prod.ext rfl hinserted.ledger

/-- The issue of a token comes to what the ledger says. -/
theorem eval_issue_entered (h : backend.FaultFree) (hstore : backend.store.Reachable)
    (owner : Int) (name : String) (description : Option String) (expiresAt : Int) :
    let call := issue owner name description expiresAt
    let result := call.procedure.eval Backend.answer backend
    (result.1.unnumbered, result.2.store.ledger) =
      call.entered backend.store.ledger backend.creationTime backend.entropy.draw.1 := by
  intro call result
  cases hrefusal : Lifecycle.refusal? owner name description with
  | some refusal =>
    simp only [result, call, eval_issue_of_refusal hrefusal, entered, hrefusal]
    rfl
  | none =>
    have hledger := hstore.find_ledger owner name
    cases hfind : backend.store.findByOwnerAndName owner name with
    | some row =>
      rw [hfind] at hledger
      simp only [result, call, eval_issue_of_found h hrefusal hfind, entered, hrefusal, ← hledger]
      rfl
    | none =>
      rw [hfind] at hledger
      simp only [entered, call, hrefusal, ← hledger]
      cases hdraw : backend.entropy.draw.1 with
      | error reason =>
        simp only [result, call, eval_issue h hrefusal hfind, hdraw]
        rfl
      | ok block => exact eval_issue_drawn_entered h hstore hrefusal hfind hdraw expiresAt

/-- The revocation of a token comes to what the ledger says. -/
theorem eval_revoke_entered (h : backend.FaultFree) (hstore : backend.store.Reachable)
    (owner : Int) (name : String) :
    let call := revoke owner name
    let result := call.procedure.eval Backend.answer backend
    (result.1.unnumbered, result.2.store.ledger) =
      call.entered backend.store.ledger backend.creationTime backend.entropy.draw.1 := by
  intro call result
  have hledger := hstore.find_ledger owner name
  cases hfind : backend.store.findByOwnerAndName owner name with
  | none =>
    rw [hfind] at hledger
    simp only [result, call, eval_revoke_of_free h hfind, entered, ← hledger]
    rfl
  | some row =>
    have hremoved := hstore.removed_of_found hfind
    have hkey := (hstore.findByOwnerAndName_eq_some_iff.mp hfind).2
    rw [hfind] at hledger
    simp only [result, call, eval_revoke_of_found h hstore hfind, entered, ← hledger]
    rw [← hkey]
    exact Prod.ext rfl (hremoved.ledger hstore)

/-- A call comes to what the ledger says. -/
theorem eval_entered (h : backend.FaultFree) (hstore : backend.store.Reachable)
    (call : ServiceCall) :
    let result := call.procedure.eval Backend.answer backend
    (result.1.unnumbered, result.2.store.ledger) =
      call.entered backend.store.ledger backend.creationTime backend.entropy.draw.1 := by
  cases call with
  | issue owner name description expiresAt =>
    exact eval_issue_entered h hstore owner name description expiresAt
  | revoke owner name => exact eval_revoke_entered h hstore owner name
  | find owner name =>
    simp only [eval_find h, entered, ← hstore.find_ledger]
    rfl
  | list owner =>
    simp only [procedure, Lifecycle.list, Procedure.map, Procedure.bind, Procedure.eval_ask,
      Procedure.eval_done, Backend.answer, Backend.inService, h.storeOutage, entered,
      ← backend.store.list_ledger]
    rfl
  | resolve secret =>
    simp only [procedure, Lifecycle.resolve, Procedure.map, Procedure.bind, Procedure.eval_ask,
      Procedure.eval_done, Backend.answer, Backend.inService, h.storeOutage, entered,
      ← hstore.resolve_ledger]
    rfl

end ServiceCall
end BearerTokens
