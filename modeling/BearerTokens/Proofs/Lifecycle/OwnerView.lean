import BearerTokens.Proofs.Lifecycle.Evaluation

/-!
# What an owner sees

An owner sees its own rows in order, without their numbers.  What a call about its
tokens answers, and what it makes of these rows, follows from them alone, and the rows
of everybody else stay as they are.

Main results:

- Definitions {lit}`TokenStore.view` and {lit}`TokenStore.others`: the rows of an owner,
  and all other rows.
- Definition {lit}`ServiceCall.seen`: what a call comes to in the eyes of its owner.
- Theorem {lit}`ServiceCall.eval_seen`: a call comes to no more and no less.
- Theorem {lit}`ServiceCall.Transition.others`: a call leaves the rows of others alone.
-/

namespace BearerTokens

/-- A row without its number. -/
def Token.unnumbered (row : Token) : Token :=
  { row with id := 0 }

/-! ## Rows of an owner -/

namespace TokenStore

/-- The rows of an owner in order, without their numbers. -/
def view (store : TokenStore) (owner : Int) : List Token :=
  (store.listByOwner owner).map Token.unnumbered

/-- The rows of everybody but an owner in order. -/
def others (store : TokenStore) (owner : Int) : List Token :=
  store.rows.values.filter fun row => row.owner ≠ owner

variable {store before after : TokenStore} {row : Token}

/-- A look-up by owner and name finds what the owner sees under this name. -/
theorem Reachable.find_view (h : store.Reachable) (owner : Int) (name : String) :
    (store.findByOwnerAndName owner name).map Token.unnumbered =
      (store.view owner).find? fun row => row.name = name := by
  obtain ⟨table, hsound, rfl⟩ := h.exists_table
  rw [TokenTable.indexed_findByOwnerAndName hsound, TokenTable.findByOwnerAndName_eq, view,
    listByOwner, TokenTable.values_indexed, List.find?_map, List.find?_filter]
  congr 2
  funext row
  rw [Bool.eq_iff_iff]
  simp only [Function.comp_apply, decide_eq_true_iff, Token.key, Prod.mk.injEq]
  exact Iff.rfl

/-- The owner of a new row sees it last. -/
theorem Inserted.view (h : Inserted before after row) :
    after.view row.owner = before.view row.owner ++ [row.unnumbered] := by
  simp [TokenStore.view, listByOwner, h.values, List.filter_append]

/-- Nobody else sees a new row. -/
theorem Inserted.others (h : Inserted before after row) :
    after.others row.owner = before.others row.owner := by
  simp [TokenStore.others, h.values, List.filter_append]

/-- The owner of a removed row sees its other names. -/
theorem Removed.view (h : Removed before after row) (hstore : before.Reachable) :
    after.view row.owner = (before.view row.owner).filter fun other => other.name ≠ row.name := by
  rw [TokenStore.view, TokenStore.view, listByOwner, listByOwner, h.values,
    hstore.values_nodup.erase_eq_filter, List.filter_map, List.filter_filter, List.filter_filter]
  congr 1
  refine List.filter_congr ?_
  intro other hother
  rw [Bool.eq_iff_iff, Bool.and_eq_true, Bool.and_eq_true]
  simp only [Function.comp_apply, decide_eq_true_eq, bne_iff_ne]
  constructor
  · rintro ⟨howner, hne⟩
    refine ⟨fun hname => hne ?_, howner⟩
    exact hstore.eq_of_key_eq hother h.stored (Prod.ext howner hname)
  · rintro ⟨hname, howner⟩
    refine ⟨howner, ?_⟩
    rintro rfl
    exact hname rfl

/-- Nobody else misses a removed row. -/
theorem Removed.others (h : Removed before after row) (hstore : before.Reachable) :
    after.others row.owner = before.others row.owner := by
  rw [TokenStore.others, TokenStore.others, h.values, hstore.values_nodup.erase_eq_filter,
    List.filter_filter]
  refine List.filter_congr ?_
  intro other _
  rw [Bool.eq_iff_iff, Bool.and_eq_true, decide_eq_true_eq, bne_iff_ne]
  constructor
  · intro hboth
    exact hboth.1
  · intro howner
    exact ⟨howner, fun heq => howner (congrArg Token.owner heq)⟩

end TokenStore

/-! ## Calls about the tokens of an owner -/

/-- An answer with its rows unnumbered. -/
def ServiceAnswer.unnumbered : ServiceAnswer → ServiceAnswer
  | .found result => .found (result.map (·.map Token.unnumbered))
  | .listed result => .listed (result.map (·.map Token.unnumbered))
  | answer => answer

namespace ServiceCall

/-- The owner whose tokens a call is about. -/
def owner? : ServiceCall → Option Int
  | .issue owner _ _ _ => some owner
  | .revoke owner _ => some owner
  | .find owner _ => some owner
  | .list owner => some owner
  | .resolve _ => none

/-- The row with a name among those that an owner sees. -/
def named? (name : String) (rows : List Token) : Option Token :=
  rows.find? fun row => row.name = name

/--
What a call comes to for an owner who sees the given rows, with the time at which a row
is created now and the next random block: the answer, and the rows that are seen then.
-/
def seen (rows : List Token) (createdAt : Timestamp) (drawn : Except String Block) :
    ServiceCall → ServiceAnswer × List Token
  | .issue owner name description expiresAt =>
    match Lifecycle.refusal? owner name description, named? name rows, drawn with
    | some refusal, _, _ => (.issued (.error refusal), rows)
    | none, some _, _ => (.issued (.error (.duplicate name)), rows)
    | none, none, .error reason => (.issued (.error (.entropy reason)), rows)
    | none, none, .ok block =>
      (.issued (.ok (.ofBlock block)),
        rows ++ [.ofNew 0 createdAt
          ⟨owner, name, description, (Secret.ofBlock block).digest, expiresAt⟩])
  | .revoke _ name =>
    match named? name rows with
    | none => (.revoked (.error (.notFound name)), rows)
    | some _ => (.revoked (.ok ()), rows.filter fun row => row.name ≠ name)
  | .find _ name => (.found (.ok (named? name rows)), rows)
  | .list _ => (.listed (.ok rows), rows)
  | .resolve secret =>
    (.found (.ok (rows.find? fun row => row.digest = Secret.digestOf secret)), rows)

/-- Without faults a call about the tokens of an owner leaves the rows of others alone. -/
theorem Transition.others {before : Backend} {after : TokenStore} {call : ServiceCall}
    {answer : ServiceAnswer} {owner : Int} (h : Transition before after call answer)
    (hstore : before.store.Reachable) (howner : call.owner? = some owner) :
    after.others owner = before.store.others owner := by
  cases h with
  | unchanged _ _ => rfl
  | issued block _ hfree =>
    cases howner
    exact (hstore.inserted_add hfree before.creationTime).others
  | revoked row hfound =>
    cases howner
    obtain ⟨hrow, hkey⟩ := hstore.findByOwnerAndName_eq_some_iff.mp hfound
    cases hkey
    exact (hstore.removed_of_found hfound).others hstore

end ServiceCall

/-- The next random block is none of which a digest is stored. -/
def Backend.DrawsFresh (backend : Backend) : Prop :=
  ∀ block, backend.entropy.draw.1 = .ok block →
    ∀ row ∈ backend.store.rows.values, row.digest ≠ (Secret.ofBlock block).digest

/-- The digest of a block that is known to be next may be looked for. -/
theorem Backend.DrawsFresh.of_draw {backend : Backend} {block : Block}
    (hdrawn : backend.entropy.draw.1 = .ok block)
    (h : ∀ row ∈ backend.store.rows.values, row.digest ≠ (Secret.ofBlock block).digest) :
    backend.DrawsFresh := by
  intro other hother
  rwa [← Except.ok.inj (hdrawn.symm.trans hother)]

namespace ServiceCall

variable {backend : Backend}

/-- The issue of a token is answered by what its owner sees. -/
theorem eval_issue_seen (h : backend.FaultFree) (hstore : backend.store.Reachable)
    (hfresh : backend.DrawsFresh) (owner : Int) (name : String) (description : Option String)
    (expiresAt : Int) :
    let call := issue owner name description expiresAt
    let result := call.procedure.eval Backend.answer backend
    (result.1.unnumbered, result.2.store.view owner) =
      call.seen (backend.store.view owner) backend.creationTime backend.entropy.draw.1 := by
  intro call result
  cases hrefusal : Lifecycle.refusal? owner name description with
  | some refusal =>
    simp only [result, call, eval_issue_of_refusal hrefusal, seen, hrefusal]
    rfl
  | none =>
    have hview := hstore.find_view owner name
    cases hfind : backend.store.findByOwnerAndName owner name with
    | some row =>
      rw [hfind] at hview
      simp only [result, call, eval_issue_of_found h hrefusal hfind, seen, named?, hrefusal,
        ← hview]
      rfl
    | none =>
      rw [hfind] at hview
      simp only [seen, call, named?, hrefusal, ← hview]
      cases hdraw : backend.entropy.draw.1 with
      | error reason =>
        simp only [result, call, eval_issue h hrefusal hfind, hdraw]
        rfl
      | ok block =>
        rcases eval_issue_of_free h hstore hrefusal hfind hdraw
          (hfresh block hdraw) expiresAt with ⟨hconflicts, hissued⟩
        have hinserted := hstore.inserted_add hconflicts backend.creationTime
        simp only [result, call, hissued]
        exact Prod.ext rfl hinserted.view

/-- The revocation of a token is answered by what its owner sees. -/
theorem eval_revoke_seen (h : backend.FaultFree) (hstore : backend.store.Reachable) (owner : Int)
    (name : String) :
    let call := revoke owner name
    let result := call.procedure.eval Backend.answer backend
    (result.1.unnumbered, result.2.store.view owner) =
      call.seen (backend.store.view owner) backend.creationTime backend.entropy.draw.1 := by
  intro call result
  have hview := hstore.find_view owner name
  cases hfind : backend.store.findByOwnerAndName owner name with
  | none =>
    rw [hfind] at hview
    simp only [result, call, eval_revoke_of_free h hfind, seen, named?, ← hview]
    rfl
  | some row =>
    have hremoved := hstore.removed_of_found hfind
    have hkey := (hstore.findByOwnerAndName_eq_some_iff.mp hfind).2
    rw [hfind] at hview
    simp only [result, call, eval_revoke_of_found h hstore hfind, seen, named?, ← hview]
    cases hkey
    exact Prod.ext rfl (hremoved.view hstore)

/-- A call about the tokens of an owner is answered by what the owner sees. -/
theorem eval_seen (h : backend.FaultFree) (hstore : backend.store.Reachable)
    (hfresh : backend.DrawsFresh) {call : ServiceCall} {owner : Int}
    (howner : call.owner? = some owner) :
    let result := call.procedure.eval Backend.answer backend
    (result.1.unnumbered, result.2.store.view owner) =
      call.seen (backend.store.view owner) backend.creationTime backend.entropy.draw.1 := by
  cases call with
  | issue other name description expiresAt =>
    cases howner
    exact eval_issue_seen h hstore hfresh owner name description expiresAt
  | revoke other name =>
    cases howner
    exact eval_revoke_seen h hstore owner name
  | find other name =>
    cases howner
    have hview := hstore.find_view owner name
    simp only [eval_find h, seen, named?, ← hview]
    rfl
  | list other =>
    cases howner
    simp only [procedure, Lifecycle.list, Procedure.map, Procedure.bind, Procedure.eval_ask,
      Procedure.eval_done, Backend.answer, Backend.inService, h.storeOutage, seen]
    rfl
  | resolve secret => cases howner

end ServiceCall
end BearerTokens
