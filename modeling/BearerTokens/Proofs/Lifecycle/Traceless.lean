import BearerTokens.Proofs.Lifecycle.Conduct
import BearerTokens.Proofs.Lifecycle.Ledger
import BearerTokens.Proofs.Lifecycle.Linearization

/-!
# Tokens that leave no trace

A token is issued and later revoked.  What happens in between comes to the same as if it had
never been issued, as long as it does not concern this very token: one ledger has a row more
than the other, and every other call treats both alike.

Main results:

- Definition {lit}`Beside`: a ledger with one row more than another.
- Theorem {lit}`Beside.entered`: a call that does not change this row keeps it so.
- Theorem {lit}`Beside.serveInOrder`: so do any number of calls.
- Theorem {lit}`TokenStore.Reachable.remove_add`: a row that is removed at once.
- Theorem {lit}`revoked_without_trace`: from the issue to the revocation.
-/

namespace BearerTokens

/-! ## Ledgers beside each other -/

/-- A ledger has one row more than another: the only one of its key, with its digest. -/
structure Beside (key : Int × String) (digest : Digest) (rows rest : List Token) : Prop where
  rest_eq : rows.filter (fun row => row.key ≠ key) = rest
  single : (rows.filter fun row => row.key = key).map Token.digest = [digest]

namespace ServiceCall

/-- Whether a call may change a row of a key. -/
def Changes (key : Int × String) : ServiceCall → Prop
  | .issue owner name _ _ => (owner, name) = key
  | .revoke owner name => (owner, name) = key
  | _ => False

/--
Whether a call may tell about a row of a key and a digest.  The secret of the row is
resolved by its digest alone, so any text with this digest tells about the row.
-/
def Sees (key : Int × String) (digest : Digest) : ServiceCall → Prop
  | .find owner name => (owner, name) = key
  | .list owner => owner = key.1
  | .resolve secret => Secret.digestOf secret = digest
  | _ => False

/-- Whether a call comes to draw a block by a ledger. -/
def Draws (rows : List Token) : ServiceCall → Prop
  | .issue owner name description _ =>
    Lifecycle.refusal? owner name description = none ∧
      (rows.find? fun row => row.key = (owner, name)) = none
  | _ => False

end ServiceCall

namespace Beside

variable {key : Int × String} {digest : Digest} {rows rest : List Token}

/-- The row of the key has the digest. -/
theorem digest_eq (h : Beside key digest rows rest) {row : Token} (hrow : row ∈ rows)
    (hkey : row.key = key) : row.digest = digest := by
  have hmem : row.digest ∈ (rows.filter fun row => row.key = key).map Token.digest :=
    List.mem_map_of_mem (List.mem_filter.mpr ⟨hrow, decide_eq_true hkey⟩)
  rw [h.single] at hmem
  exact List.mem_singleton.mp hmem

/-- There is a row of the key. -/
theorem exists_row (h : Beside key digest rows rest) : ∃ row ∈ rows, row.key = key := by
  cases hfilter : rows.filter fun row => row.key = key with
  | nil =>
    have hsingle := h.single
    rw [hfilter] at hsingle
    cases hsingle
  | cons row others =>
    have hmem : row ∈ rows.filter fun row => row.key = key := by
      rw [hfilter]
      exact List.mem_cons_self
    rcases List.mem_filter.mp hmem with ⟨hrow, hkey⟩
    exact ⟨row, hrow, of_decide_eq_true hkey⟩

/-- Of the rows that do not include the one more, both ledgers have the same. -/
theorem filter_eq (h : Beside key digest rows rest) {p : Token → Bool}
    (hp : ∀ row : Token, row.key = key → row.digest = digest → p row = false) :
    rows.filter p = rest.filter p := by
  rw [← h.rest_eq, List.filter_filter]
  refine List.filter_congr ?_
  intro row hrow
  by_cases hkey : row.key = key
  · simp [hp row hkey (h.digest_eq hrow hkey)]
  · simp [hkey]

/-- The other ledger has no row of the key. -/
theorem key_ne (h : Beside key digest rows rest) {row : Token} (hrow : row ∈ rest) :
    row.key ≠ key := by
  rw [← h.rest_eq] at hrow
  exact of_decide_eq_true (List.mem_filter.mp hrow).2

/-- What is not the one row more, is found in both or in neither. -/
theorem find?_eq (h : Beside key digest rows rest) {p : Token → Bool}
    (hp : ∀ row : Token, row.key = key → row.digest = digest → p row = false) :
    rows.find? p = rest.find? p := by
  rw [← List.head?_filter, ← List.head?_filter, h.filter_eq hp]

/-- A row of another key that comes last in both leaves them so. -/
theorem concat (h : Beside key digest rows rest) {row : Token} (hkey : row.key ≠ key) :
    Beside key digest (rows ++ [row]) (rest ++ [row]) where
  rest_eq := by simp [List.filter_append, hkey, ← h.rest_eq]
  single := by simp [List.filter_append, hkey, ← h.single]

/-- Dropping another key from both leaves them so. -/
theorem drop (h : Beside key digest rows rest) {other : Int × String} (hother : other ≠ key) :
    Beside key digest (rows.filter fun row => row.key ≠ other)
      (rest.filter fun row => row.key ≠ other) where
  rest_eq := by
    rw [← h.rest_eq, List.filter_filter, List.filter_filter]
    simp only [Bool.and_comm]
  single := by
    rw [List.filter_filter, ← h.single]
    congr 1
    refine List.filter_congr ?_
    intro row _
    by_cases hkey : row.key = key
    · simp [hkey, Ne.symm hother]
    · simp [hkey]

/-- Whether there is a row that is not the one more, both tell alike. -/
theorem any_eq (h : Beside key digest rows rest) {p : Token → Bool}
    (hp : ∀ row : Token, row.key = key → row.digest = digest → p row = false) :
    rows.any p = rest.any p := by
  rw [← List.isSome_find?, ← List.isSome_find?, h.find?_eq hp]

/-- The first row of another key is the same in both. -/
theorem find?_key_eq (h : Beside key digest rows rest) {other : Int × String}
    (hother : other ≠ key) :
    (rows.find? fun row => row.key = other) = rest.find? fun row => row.key = other := by
  refine h.find?_eq ?_
  rintro row rfl _
  exact decide_eq_false (Ne.symm hother)

/-! ## One call -/

variable {owner : Int} {name : String}

/-- An issue under another name is answered alike, and leaves the ledgers beside each other. -/
theorem entered_issue (h : Beside key digest rows rest) (hkey : (owner, name) ≠ key)
    (description : Option String) (expiresAt : Int) (createdAt : Timestamp)
    {drawn : Except String Block}
    (hdrawn : (ServiceCall.issue owner name description expiresAt).Draws rows →
      ∀ block, drawn = .ok block → (Secret.ofBlock block).digest ≠ digest) :
    let call := ServiceCall.issue owner name description expiresAt
    let one := call.entered rows createdAt drawn
    let other := call.entered rest createdAt drawn
    one.1 = other.1 ∧ Beside key digest one.2 other.2 := by
  have hfind := h.find?_key_eq hkey
  simp only [ServiceCall.Draws] at hdrawn
  simp only [ServiceCall.entered]
  cases hrefusal : Lifecycle.refusal? owner name description with
  | some refusal => exact ⟨rfl, h⟩
  | none =>
    cases hrest : rest.find? fun row => row.key = (owner, name) with
    | some row =>
      rw [hfind, hrest]
      exact ⟨rfl, h⟩
    | none =>
      rw [hrest] at hfind
      rw [hfind]
      cases drawn with
      | error reason => exact ⟨rfl, h⟩
      | ok block =>
        have hnew := hdrawn ⟨hrefusal, hfind⟩ block rfl
        have hany := h.any_eq (p := fun row => row.digest = (Secret.ofBlock block).digest)
          fun row _ hrow => decide_eq_false fun hsame => hnew (hsame.symm.trans hrow)
        simp only [hany]
        split
        · exact ⟨rfl, h⟩
        · exact ⟨rfl, h.concat hkey⟩

/-- A revocation of another name is answered alike, and leaves the ledgers beside each other. -/
theorem entered_revoke (h : Beside key digest rows rest) (hkey : (owner, name) ≠ key)
    (createdAt : Timestamp) (drawn : Except String Block) :
    let call := ServiceCall.revoke owner name
    let one := call.entered rows createdAt drawn
    let other := call.entered rest createdAt drawn
    one.1 = other.1 ∧ Beside key digest one.2 other.2 := by
  simp only [ServiceCall.entered, h.find?_key_eq hkey]
  split
  · exact ⟨rfl, h⟩
  · exact ⟨rfl, h.drop hkey⟩

/--
A call that does not change the row more leaves the ledgers beside each other, and is
answered alike if it does not see the row.
-/
theorem entered (h : Beside key digest rows rest) {call : ServiceCall}
    (hchanges : ¬ call.Changes key) (createdAt : Timestamp) {drawn : Except String Block}
    (hdrawn : call.Draws rows →
      ∀ block, drawn = .ok block → (Secret.ofBlock block).digest ≠ digest) :
    let one := call.entered rows createdAt drawn
    let other := call.entered rest createdAt drawn
    (¬ call.Sees key digest → one.1 = other.1) ∧ Beside key digest one.2 other.2 := by
  cases call with
  | issue owner name description expiresAt =>
    obtain ⟨hanswer, hbeside⟩ :=
      h.entered_issue hchanges description expiresAt createdAt hdrawn
    exact ⟨fun _ => hanswer, hbeside⟩
  | revoke owner name =>
    obtain ⟨hanswer, hbeside⟩ := h.entered_revoke hchanges createdAt drawn
    exact ⟨fun _ => hanswer, hbeside⟩
  | find owner name =>
    refine ⟨fun hsees => ?_, h⟩
    simp only [ServiceCall.entered, h.find?_key_eq hsees]
  | list owner =>
    refine ⟨fun hsees => ?_, h⟩
    have hfilter := h.filter_eq (p := fun row => row.owner = owner) fun row hrow _ =>
      decide_eq_false fun howner => hsees (howner.symm.trans (congrArg Prod.fst hrow))
    simp only [ServiceCall.entered, hfilter]
  | resolve secret =>
    refine ⟨fun hsees => ?_, h⟩
    have hfind := h.find?_eq (p := fun row => row.digest = Secret.digestOf secret) fun row _ hrow =>
      decide_eq_false fun hsame => hsees (hsame.symm.trans hrow)
    simp only [ServiceCall.entered, hfind]

/-- The revocation of the row more leaves nothing but the other ledger. -/
theorem entered_revocation {rows rest : List Token} (h : Beside (owner, name) digest rows rest)
    (createdAt : Timestamp) (drawn : Except String Block) :
    (ServiceCall.revoke owner name).entered rows createdAt drawn = (.revoked (.ok ()), rest) := by
  obtain ⟨row, hrow, hkey⟩ := h.exists_row
  cases hfind : rows.find? fun row => row.key = (owner, name) with
  | none => exact absurd (decide_eq_true hkey) (List.find?_eq_none.mp hfind row hrow)
  | some found => simp only [ServiceCall.entered, hfind, h.rest_eq]

end Beside

/-! ## One task after another -/

/-- The digest of the secret that a task draws on a store, if it draws one. -/
def Task.drawn? (task : Task) (store : TokenStore) : Option Digest :=
  match task.entropy.draw.1 with
  | .error _ => none
  | .ok block =>
    let run := task.call.procedure.run Backend.environment none (task.backend store task.entropy)
    if .entropy ∈ run.calls then some (Secret.ofBlock block).digest else none

/-- The digests of the secrets that tasks draw when they are served one after another. -/
def drawnDigests (store : TokenStore) : List Task → List Digest
  | [] => []
  | task :: tasks => (task.drawn? store).toList ++ drawnDigests (task.serve store).2 tasks

variable {store other : TokenStore}

/-- A task that nobody interrupts comes to what the ledger says. -/
theorem Task.serve_entered (task : Task) (hstore : store.Reachable) :
    ((task.serve store).1.unnumbered, (task.serve store).2.ledger) =
      task.call.entered store.ledger task.creationTime task.entropy.draw.1 :=
  @ServiceCall.eval_entered (task.backend store task.entropy) ⟨rfl, rfl, rfl⟩ hstore task.call

/-- A task that comes to draw a block by the ledger draws it. -/
theorem Task.drawn?_of_draws {task : Task} (hstore : store.Reachable)
    (h : task.call.Draws store.ledger) {block : Block} (hdrawn : task.entropy.draw.1 = .ok block) :
    task.drawn? store = some (Secret.ofBlock block).digest := by
  have hfaults : (task.backend store task.entropy).FaultFree := ⟨rfl, rfl, rfl⟩
  cases hcall : task.call with
  | issue owner name description expiresAt =>
    rw [hcall] at h
    obtain ⟨hrefusal, hfree⟩ := h
    rw [← hstore.find_ledger, Option.map_eq_none_iff] at hfree
    have hlookup : (Backend.environment (task.backend store task.entropy)
        (.findByOwnerAndName owner name)).answer = .ok none := by
      rw [Backend.environment_of_faultFree hfaults, ServiceCall.answer_find hfaults]
      exact congrArg Except.ok hfree
    simp [drawn?, hdrawn, hcall, ServiceCall.procedure_issue hrefusal,
      Procedure.run_ask_unlimited, hlookup, ServiceCall.issueNamed, ServiceCall.issueFree_eq]
  | revoke | find | list | resolve =>
    rw [hcall] at h
    exact h.elim

/-- A task that revokes the row more leaves the other ledger. -/
theorem Beside.serve_revocation {owner : Int} {name : String} {digest : Digest} {rest : List Token}
    (h : Beside (owner, name) digest store.ledger rest) (hstore : store.Reachable) {task : Task}
    (hcall : task.call = .revoke owner name) :
    (task.serve store).1 = .revoked (.ok ()) ∧ (task.serve store).2.ledger = rest := by
  have hentered := task.serve_entered hstore
  rw [hcall, h.entered_revocation, Prod.mk.injEq] at hentered
  obtain ⟨hanswer, hledger⟩ := hentered
  refine ⟨?_, hledger⟩
  generalize (task.serve store).1 = answer at hanswer
  cases answer with
  | revoked result => exact hanswer
  | issued | found | listed => cases hanswer

/-- Tasks served one after another leave a reachable store. -/
theorem serveInOrder_reachable (tasks : List Task) (hstore : store.Reachable) :
    (serveInOrder store tasks).2.Reachable := by
  induction tasks generalizing store with
  | nil => exact hstore
  | cons task tasks ih => exact ih (task.serve_reachable hstore)

/--
Tasks that do not change the row more leave the stores beside each other, and each of them
that does not see the row is answered alike.
-/
theorem Beside.serveInOrder {key : Int × String} {digest : Digest}
    (h : Beside key digest store.ledger other.ledger) (hstore : store.Reachable)
    (hother : other.Reachable) {tasks : List Task}
    (hchanges : ∀ task ∈ tasks, ¬ task.call.Changes key)
    (hdrawn : digest ∉ drawnDigests store tasks) :
    let one := BearerTokens.serveInOrder store tasks
    let without := BearerTokens.serveInOrder other tasks
    (∀ (i : Nat) (task : Task), tasks[i]? = some task → ¬ task.call.Sees key digest →
      one.1[i]?.map ServiceAnswer.unnumbered = without.1[i]?.map ServiceAnswer.unnumbered) ∧
    Beside key digest one.2.ledger without.2.ledger := by
  induction tasks generalizing store other with
  | nil => exact ⟨fun i task hi => by simp at hi, h⟩
  | cons task tasks ih =>
    simp only [drawnDigests, List.mem_append, Option.mem_toList, not_or] at hdrawn
    obtain ⟨hnow, hlater⟩ := hdrawn
    have hnew : task.call.Draws store.ledger → ∀ block, task.entropy.draw.1 = .ok block →
        (Secret.ofBlock block).digest ≠ digest := by
      rintro hdraws block hblock rfl
      exact hnow (Task.drawn?_of_draws hstore hdraws hblock)
    obtain ⟨hanswer, hbeside⟩ := h.entered (hchanges task List.mem_cons_self)
      task.creationTime hnew
    rw [← task.serve_entered hstore, ← task.serve_entered hother] at hanswer hbeside
    obtain ⟨hanswers, hrest⟩ := ih hbeside (task.serve_reachable hstore)
      (task.serve_reachable hother)
      (fun later hmem => hchanges later (List.mem_cons_of_mem task hmem)) hlater
    refine ⟨?_, hrest⟩
    intro i asked hi hsees
    cases i with
    | zero =>
      cases hi
      exact congrArg some (hanswer hsees)
    | succ i => exact hanswers i asked hi hsees

/-! ## From the issue to the revocation -/

namespace TokenStore

/-- A row that is removed at once leaves nothing behind but its number. -/
theorem Reachable.remove_add (h : store.Reachable) {token : NewToken}
    (hfree : store.conflicts token = false) (createdAt : Timestamp) :
    let added := store.add createdAt token
    added.1.remove added.2.id added.2 = { store with lastId := store.lastId + 1 } := by
  have hrows : store.rows.get? (store.lastId + 1) = none := by
    refine Option.eq_none_iff_forall_ne_some.mpr ?_
    intro row hrow
    obtain ⟨hmem, hid⟩ := h.get?_eq_some_iff.mp hrow
    have hle := h.id_le_lastId hmem
    omega
  simp only [conflicts, Bool.or_eq_false_iff, Index.contains, Option.isSome_eq_false_iff,
    Option.isNone_iff_eq_none] at hfree
  obtain ⟨hname, hdigest⟩ := hfree
  simp only [add, remove, Token.ofNew, Index.erase_insert _ hrows, Index.erase_insert _ hname,
    Index.erase_insert _ hdigest]

end TokenStore

section

variable {task : Task} {owner : Int} {name : String} {description : Option String}
  {expiresAt : Int} {secret : Secret} {issued : TokenStore}

/-- A task that has issued a token has added its row under a free name. -/
theorem Task.serve_issued (hstore : store.Reachable)
    (hcall : task.call = .issue owner name description expiresAt)
    (hissued : task.serve store = (.issued (.ok secret), issued)) :
    let token : NewToken := ⟨owner, name, description, secret.digest, expiresAt⟩
    Lifecycle.refusal? owner name description = none ∧ store.conflicts token = false ∧
      issued = (store.add task.creationTime token).1 := by
  have htransition := @ServiceCall.eval_transition (task.backend store task.entropy)
    ⟨rfl, rfl, rfl⟩ hstore task.call
  change ServiceCall.Transition _ (task.serve store).2 task.call (task.serve store).1 at htransition
  rw [hissued, hcall] at htransition
  cases htransition with
  | unchanged _ hchange => cases hchange
  | issued block hrefusal hfree => exact ⟨hrefusal, hfree, rfl⟩

/-- A revocation right after the issue restores all maps. -/
theorem Task.serve_revoke_of_added (hstore : store.Reachable) {token : NewToken}
    (hfree : store.conflicts token = false) (createdAt : Timestamp)
    (hadded : (store.add createdAt token).1.Reachable) {revocation : Task}
    (hrevocation : revocation.call = .revoke token.owner token.name) :
    (revocation.serve (store.add createdAt token).1).2 =
      { store with lastId := store.lastId + 1 } := by
  have hinserted := hstore.inserted_add hfree createdAt
  have hfound : (store.add createdAt token).1.findByOwnerAndName token.owner token.name =
      some (.ofNew (store.lastId + 1) createdAt token) := by
    refine hadded.findByOwnerAndName_eq_some_iff.mpr ⟨?_, rfl⟩
    rw [hinserted.values]
    exact List.mem_append_right _ (List.mem_singleton_self _)
  rw [revocation.serve_revoke _ hrevocation, hfound]
  simp only [hadded.delete_of_found hfound]
  exact hstore.remove_add hfree createdAt

/-- A token under a new name puts the ledger beside what it was. -/
theorem TokenStore.Inserted.beside {row : Token} (h : store.Inserted issued row) :
    Beside row.key row.digest issued.ledger store.ledger := by
  have hfresh : ∀ other ∈ store.ledger, other.key ≠ row.key := by
    intro other hother
    obtain ⟨stored, hstored, rfl⟩ := List.mem_map.mp hother
    exact (h.fresh stored hstored).2.1
  constructor
  · simpa [h.ledger, List.filter_append] using hfresh
  · have hnone : (store.ledger.filter fun other => other.key = row.key) = [] := by
      simpa [List.filter_eq_nil_iff] using hfresh
    simp [h.ledger, List.filter_append, hnone]

/-- A token whose key no row of the ledger has is issued with a new secret. -/
theorem Task.serve_issue_of_absent (hstore : store.Reachable)
    (hcall : task.call = .issue owner name description expiresAt)
    (hrefusal : Lifecycle.refusal? owner name description = none)
    (habsent : ∀ row ∈ store.ledger, row.key ≠ (owner, name)) {block : Block}
    (hdrawn : task.entropy.draw.1 = .ok block)
    (hfresh : ∀ row ∈ store.rows.values, row.digest ≠ (Secret.ofBlock block).digest) :
    (task.serve store).1 = .issued (.ok (.ofBlock block)) := by
  have hfree : store.findByOwnerAndName owner name = none := by
    refine hstore.findByOwnerAndName_eq_none_iff.mpr ?_
    intro row hrow
    exact habsent row.unnumbered (List.mem_map_of_mem hrow)
  have hissue := @ServiceCall.eval_issue_of_free (task.backend store task.entropy) owner name
    description ⟨rfl, rfl, rfl⟩ hstore hrefusal hfree block hdrawn hfresh expiresAt
  simp only [serve, hcall, hissue.2]

/--
A token is issued to an owner under a name and later revoked.  In between come any tasks
that neither issue nor revoke a token of this owner and name, and that draw no block with
the digest of its secret.  The revocation succeeds, and leaves the rows, without their
numbers, and the keys of both indexes that there would be without the issue.  Each task in
between is answered as it would be without the issue, unless it looks for this owner and
name, lists the tokens of this owner, or resolves the secret.  When nothing comes in
between, all maps are what they were before the issue.  And a token can be issued under the
name again.
-/
theorem revoked_without_trace (hstore : store.Reachable)
    (hcall : task.call = .issue owner name description expiresAt)
    (hissued : task.serve store = (.issued (.ok secret), issued)) {between : List Task}
    (hbetween : ∀ other ∈ between, ¬ other.call.Changes (owner, name))
    (hdrawn : secret.digest ∉ drawnDigests issued between) {revocation : Task}
    (hrevocation : revocation.call = .revoke owner name) :
    let run := serveInOrder issued between
    let without := serveInOrder store between
    let final := revocation.serve run.2
    final.1 = .revoked (.ok ()) ∧
    (∀ (i : Nat) (other : Task), between[i]? = some other →
      ¬ other.call.Sees (owner, name) secret.digest →
        run.1[i]?.map ServiceAnswer.unnumbered = without.1[i]?.map ServiceAnswer.unnumbered) ∧
    final.2.rows.values.map Token.unnumbered = without.2.rows.values.map Token.unnumbered ∧
    final.2.byName.keys = without.2.byName.keys ∧
    final.2.byDigest.keys = without.2.byDigest.keys ∧
    (between = [] → final.2 = { store with lastId := store.lastId + 1 }) ∧
    ∀ (again : Task) (text : Option String) (expiry : Int) (block : Block),
      again.call = .issue owner name text expiry →
      (∀ words, text = some words → words.length ≤ 512) →
      again.entropy.draw.1 = .ok block →
      (∀ row ∈ final.2.rows.values, row.digest ≠ (Secret.ofBlock block).digest) →
        (again.serve final.2).1 = .issued (.ok (.ofBlock block)) := by
  intro run without final
  obtain ⟨hrefusal, hfree, rfl⟩ := task.serve_issued hstore hcall hissued
  have hadded := task.serve_reachable hstore
  rw [hissued] at hadded
  have hinserted := hstore.inserted_add hfree task.creationTime
  obtain ⟨hanswers, hbeside⟩ := hinserted.beside.serveInOrder hadded hstore hbetween hdrawn
  have hrun : run.2.Reachable := serveInOrder_reachable between hadded
  have hwithout : without.2.Reachable := serveInOrder_reachable between hstore
  have hfinal : final.2.Reachable := revocation.serve_reachable hrun
  obtain ⟨hrevoked, hledger⟩ := hbeside.serve_revocation hrun hrevocation
  refine ⟨hrevoked, hanswers, hledger, ?_, ?_, ?_, ?_⟩
  · rw [hfinal.keys_byName, hwithout.keys_byName]
    exact congrArg _ hledger
  · rw [hfinal.keys_byDigest, hwithout.keys_byDigest]
    exact congrArg _ hledger
  · rintro rfl
    exact revocation.serve_revoke_of_added hstore hfree task.creationTime hadded hrevocation
  · intro again text expiry block hagain htext hblock hfresh
    obtain ⟨howner, hname, -⟩ := Lifecycle.refusal?_eq_none_iff.mp hrefusal
    refine again.serve_issue_of_absent hfinal hagain ?_ ?_ hblock hfresh
    · exact Lifecycle.refusal?_eq_none_iff.mpr ⟨howner, hname, htext⟩
    · intro row hrow
      rw [hledger] at hrow
      exact hbeside.key_ne hrow

end

/-- The issue of a token that does not stay. -/
def passingIssue : Task := ⟨.issue 7 "once" none 2000, 5, .empty⟩

/-- What happens while the token is there. -/
def meanwhile : List Task :=
  [⟨.issue 7 "daily" none 3000, 6, ⟨[], 1⟩⟩, ⟨.list 7, 7, .empty⟩, ⟨.find 7 "daily", 8, .empty⟩]

/-- The revocation of the token. -/
def passingRevocation : Task := ⟨.revoke 7 "once", 9, .empty⟩

/-- The token that stays is found as if it were the only one. -/
theorem revoked_without_trace_meanwhile :
    let run := serveInOrder (passingIssue.serve .empty).2 meanwhile
    let without := serveInOrder .empty meanwhile
    run.1[2]?.map ServiceAnswer.unnumbered = without.1[2]?.map ServiceAnswer.unnumbered ∧
      (passingRevocation.serve run.2).2.byName.keys = [(7, "daily")] := by
  have hissued : passingIssue.serve .empty =
      (.issued (.ok (.ofBlock (EntropySource.blockOf EntropySource.increment))),
        (passingIssue.serve .empty).2) := rfl
  have hbetween : ∀ other ∈ meanwhile, ¬ other.call.Changes (7, "once") := by
    simp [meanwhile, ServiceCall.Changes]
  have hdrawn : (Secret.ofBlock (EntropySource.blockOf EntropySource.increment)).digest ∉
      drawnDigests (passingIssue.serve .empty).2 meanwhile := by
    decide +kernel
  have hrevocation : passingRevocation.call = .revoke 7 "once" := rfl
  obtain ⟨-, hanswers, -, hnames, -⟩ :=
    revoked_without_trace .empty rfl hissued hbetween hdrawn hrevocation
  refine ⟨hanswers 2 _ rfl (by simp [ServiceCall.Sees]), ?_⟩
  rw [hnames]
  rfl

end BearerTokens
