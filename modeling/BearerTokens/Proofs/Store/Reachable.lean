import Mathlib.Data.List.Sort
import BearerTokens.Proofs.Store.Indexing

/-!
# Stores that insertions and deletions reach

The store in memory starts empty and changes by insertions and deletions only.
Every store so reached holds the rows of a sound table, so that its look-ups and
changes are described by its rows alone.

Main results:

- Definition {lit}`TokenStore.Reachable`: what insertions and deletions reach.
- Theorem {lit}`Reachable.values_ascending`: rows stand in the order of their
  numbers.
- Theorem {lit}`Reachable.eq_listByOwner_iff`: a list shows the rows of an owner
  in that order, and nothing else of how the store keeps them.
- Theorems {lit}`Reachable.findByOwnerAndName_eq_some_iff` and
  {lit}`Reachable.findBySecretDigest_eq_some_iff`: a look-up finds exactly the
  row with the key or the digest.
- Theorems {lit}`Reachable.insert_of_free` and {lit}`Reachable.values_delete`:
  what an insertion and a deletion do to the rows.
- Theorems {lit}`Change.absent` and {lit}`Change.key_free`: a number that is gone
  stays gone, and a row that goes frees its key.
-/

namespace BearerTokens
namespace TokenStore

/-- The stores that insertions and deletions reach from the empty one. -/
inductive Reachable : TokenStore → Prop where
  | empty : Reachable .empty
  | insert {store : TokenStore} (createdAt : Timestamp) (token : NewToken) :
    Reachable store → Reachable (store.insert createdAt token).1
  | delete {store : TokenStore} (id : Int) : Reachable store → Reachable (store.delete id).1

/-- A reachable store holds the rows of a sound table. -/
theorem Reachable.exists_table {store : TokenStore} (h : store.Reachable) :
    ∃ table : TokenTable, table.Sound ∧ store = table.indexed := by
  induction h with
  | empty => exact ⟨.empty, .empty, rfl⟩
  | insert createdAt token _ ih =>
    obtain ⟨table, hsound, rfl⟩ := ih
    refine ⟨(table.insert createdAt token).1, hsound.insert createdAt token, ?_⟩
    rw [TokenTable.indexed_insert hsound]
  | delete id _ ih =>
    obtain ⟨table, hsound, rfl⟩ := ih
    refine ⟨(table.delete id).1, hsound.delete id, ?_⟩
    rw [TokenTable.indexed_delete hsound]

namespace Reachable

variable {store : TokenStore}

/-! ## Rows -/

/-- What no two rows of a sound table share, no two rows of a reachable store share. -/
theorem eq_of_eq {β : Type} {f : Token → β}
    (hf : ∀ {table : TokenTable}, table.Sound → (table.rows.map f).Nodup) (h : store.Reachable)
    {row other : Token} (hrow : row ∈ store.rows.values) (hother : other ∈ store.rows.values)
    (heq : f row = f other) : row = other := by
  obtain ⟨table, hsound, rfl⟩ := h.exists_table
  rw [TokenTable.values_indexed] at hrow hother
  exact List.inj_on_of_nodup_map (hf hsound) hrow hother heq

/-- No two rows have the same number. -/
theorem eq_of_id_eq (h : store.Reachable) {row other : Token} (hrow : row ∈ store.rows.values)
    (hother : other ∈ store.rows.values) (heq : row.id = other.id) : row = other :=
  eq_of_eq TokenTable.Sound.ids_nodup h hrow hother heq

/-- No two rows have the same owner and name. -/
theorem eq_of_key_eq (h : store.Reachable) {row other : Token} (hrow : row ∈ store.rows.values)
    (hother : other ∈ store.rows.values) (heq : row.key = other.key) : row = other :=
  eq_of_eq TokenTable.Sound.keys_nodup h hrow hother heq

/-- No two rows have the same digest. -/
theorem eq_of_digest_eq (h : store.Reachable) {row other : Token}
    (hrow : row ∈ store.rows.values) (hother : other ∈ store.rows.values)
    (heq : row.digest = other.digest) : row = other :=
  eq_of_eq TokenTable.Sound.digests_nodup h hrow hother heq

/-- No row has a number beyond the last given. -/
theorem id_le_lastId (h : store.Reachable) {row : Token} (hrow : row ∈ store.rows.values) :
    row.id ≤ store.lastId := by
  obtain ⟨table, hsound, rfl⟩ := h.exists_table
  rw [TokenTable.values_indexed] at hrow
  exact hsound.id_le_inserted row hrow

/-- The owners and names of the rows are different. -/
theorem keys_nodup (h : store.Reachable) : (store.rows.values.map Token.key).Nodup := by
  obtain ⟨table, hsound, rfl⟩ := h.exists_table
  rw [TokenTable.values_indexed]
  exact hsound.keys_nodup

/-- At most one row has an owner and a name. -/
theorem countP_key_le_one (h : store.Reachable) (key : Int × String) :
    store.rows.values.countP (fun row => row.key = key) ≤ 1 := by
  have hcount := List.nodup_iff_count_le_one.mp h.keys_nodup key
  rw [List.count_eq_countP, List.countP_map] at hcount
  simpa only [Function.comp_def, beq_eq_decide] using hcount

/-- A row is the only one of its owner and name. -/
theorem filter_key_eq (h : store.Reachable) {row : Token} (hrow : row ∈ store.rows.values) :
    store.rows.values.filter (fun other => other.key = row.key) = [row] := by
  have hlength := h.countP_key_le_one row.key
  have hmem : row ∈ store.rows.values.filter fun other => other.key = row.key :=
    List.mem_filter.mpr ⟨hrow, by simp⟩
  rw [List.countP_eq_length_filter] at hlength
  generalize store.rows.values.filter (fun other => other.key = row.key) = rows at hlength hmem
  match rows with
  | [] => cases hmem
  | [other] => rw [List.mem_singleton.mp hmem]
  | other :: next :: rest => simp at hlength

/-! ## Order -/

/-- Rows stand in the order of their numbers, whichever rows have been deleted. -/
theorem values_ascending (h : store.Reachable) :
    store.rows.values.Pairwise fun row other => row.id < other.id := by
  obtain ⟨table, hsound, rfl⟩ := h.exists_table
  rw [TokenTable.values_indexed]
  exact List.pairwise_map.mp hsound.ids_ascending

/-- The list of an owner holds exactly the rows of this owner, in the order of their
numbers, and no other list does.  So a map ordered by number lists the same. -/
theorem eq_listByOwner_iff (h : store.Reachable) {owner : Int} {rows : List Token} :
    rows = store.listByOwner owner ↔
      (rows.Pairwise fun row other => row.id < other.id) ∧
        ∀ row, row ∈ rows ↔ row ∈ store.rows.values ∧ row.owner = owner := by
  have hlisted : (store.listByOwner owner).Pairwise fun row other => row.id < other.id :=
    h.values_ascending.filter _
  have hmem (row : Token) :
      row ∈ store.listByOwner owner ↔ row ∈ store.rows.values ∧ row.owner = owner := by
    rw [listByOwner, List.mem_filter, decide_eq_true_eq]
  constructor
  · rintro rfl
    exact ⟨hlisted, hmem⟩
  · rintro ⟨hrows, hsame⟩
    have : Std.Asymm fun row other : Token => row.id < other.id := InvImage.asymm Token.id
    exact hrows.eq_of_mem_iff hlisted fun row => (hsame row).trans (hmem row).symm

/-! ## Look-ups -/

/-- A look-up by owner and name finds exactly the row with both. -/
theorem findByOwnerAndName_eq_some_iff (h : store.Reachable) {owner : Int} {name : String}
    {row : Token} :
    store.findByOwnerAndName owner name = some row ↔
      row ∈ store.rows.values ∧ row.key = (owner, name) := by
  obtain ⟨table, hsound, rfl⟩ := h.exists_table
  rw [TokenTable.indexed_findByOwnerAndName hsound, TokenTable.findByOwnerAndName_eq,
    TokenTable.values_indexed]
  exact TokenTable.find?_eq_some_iff_of_nodup hsound.keys_nodup

/-- A look-up by owner and name misses exactly when no row has both. -/
theorem findByOwnerAndName_eq_none_iff (h : store.Reachable) {owner : Int} {name : String} :
    store.findByOwnerAndName owner name = none ↔
      ∀ row ∈ store.rows.values, row.key ≠ (owner, name) := by
  rw [Option.eq_none_iff_forall_ne_some]
  constructor
  · intro hnone row hrow hkey
    exact hnone row (h.findByOwnerAndName_eq_some_iff.mpr ⟨hrow, hkey⟩)
  · intro hfree row hsome
    obtain ⟨hrow, hkey⟩ := h.findByOwnerAndName_eq_some_iff.mp hsome
    exact hfree row hrow hkey

/-- A look-up by digest finds exactly the row with it. -/
theorem findBySecretDigest_eq_some_iff (h : store.Reachable) {digest : Digest} {row : Token} :
    store.findBySecretDigest digest = some row ↔
      row ∈ store.rows.values ∧ row.digest = digest := by
  obtain ⟨table, hsound, rfl⟩ := h.exists_table
  rw [TokenTable.indexed_findBySecretDigest hsound, TokenTable.findBySecretDigest,
    TokenTable.values_indexed]
  exact TokenTable.find?_eq_some_iff_of_nodup hsound.digests_nodup

/-- A look-up by digest misses exactly when no row has it. -/
theorem findBySecretDigest_eq_none_iff (h : store.Reachable) {digest : Digest} :
    store.findBySecretDigest digest = none ↔
      ∀ row ∈ store.rows.values, row.digest ≠ digest := by
  rw [Option.eq_none_iff_forall_ne_some]
  constructor
  · intro hnone row hrow hdigest
    exact hnone row (h.findBySecretDigest_eq_some_iff.mpr ⟨hrow, hdigest⟩)
  · intro hfree row hsome
    obtain ⟨hrow, hdigest⟩ := h.findBySecretDigest_eq_some_iff.mp hsome
    exact hfree row hrow hdigest

/-! ## Insertions -/

/-- An insertion that a row stands in the way of changes nothing. -/
theorem insert_of_clash (h : store.Reachable) {token : NewToken} {row : Token}
    (hrow : row ∈ store.rows.values)
    (hclash : row.key = (token.owner, token.name) ∨ row.digest = token.digest)
    (createdAt : Timestamp) :
    store.insert createdAt token = (store, .error .conflict) := by
  obtain ⟨table, hsound, rfl⟩ := h.exists_table
  rw [TokenTable.values_indexed] at hrow
  have hany : table.rows.any (TokenTable.clashes token) = true :=
    List.any_eq_true.mpr ⟨row, hrow, TokenTable.clashes_iff.mpr hclash⟩
  rw [TokenTable.indexed_insert hsound, TokenTable.insert_of_clash hany]

/-- Any other insertion appends a row with the next number. -/
theorem insert_of_free (h : store.Reachable) {token : NewToken}
    (hfree : ∀ row ∈ store.rows.values,
      row.key ≠ (token.owner, token.name) ∧ row.digest ≠ token.digest)
    (createdAt : Timestamp) :
    let row := Token.ofNew (store.lastId + 1) createdAt token
    (store.insert createdAt token).2 = .ok row ∧
      (store.insert createdAt token).1.rows.values = store.rows.values ++ [row] ∧
      (store.insert createdAt token).1.lastId = store.lastId + 1 := by
  obtain ⟨table, hsound, rfl⟩ := h.exists_table
  rw [TokenTable.values_indexed] at hfree
  have hany := TokenTable.any_clashes_eq_false_iff.mpr hfree
  rw [TokenTable.indexed_insert hsound, TokenTable.insert_of_no_clash hany]
  simp [TokenTable.indexed]

/-! ## Deletions -/

/-- A deletion leaves the rows with other numbers. -/
theorem values_delete (h : store.Reachable) (id : Int) :
    (store.delete id).1.rows.values = store.rows.values.filter fun row => row.id ≠ id := by
  obtain ⟨table, hsound, rfl⟩ := h.exists_table
  simp only [TokenTable.indexed_delete hsound, TokenTable.delete_eq, TokenTable.values_indexed]

/-- A deletion gives no number back. -/
theorem lastId_delete (h : store.Reachable) (id : Int) :
    (store.delete id).1.lastId = store.lastId := by
  obtain ⟨table, hsound, rfl⟩ := h.exists_table
  simp only [TokenTable.indexed_delete hsound, TokenTable.delete_eq, TokenTable.lastId_indexed]

/-- A deletion of a row that is there says so. -/
theorem delete_of_mem (h : store.Reachable) {row : Token} (hrow : row ∈ store.rows.values) :
    (store.delete row.id).2 = true := by
  obtain ⟨table, hsound, rfl⟩ := h.exists_table
  rw [TokenTable.values_indexed] at hrow
  simp only [TokenTable.indexed_delete hsound, TokenTable.delete_eq]
  exact List.any_eq_true.mpr ⟨row, hrow, by simp⟩

/-- A deletion of a number that no row has changes nothing. -/
theorem delete_of_absent (h : store.Reachable) {id : Int}
    (habsent : ∀ row ∈ store.rows.values, row.id ≠ id) : store.delete id = (store, false) := by
  obtain ⟨table, hsound, rfl⟩ := h.exists_table
  rw [TokenTable.values_indexed] at habsent
  rw [TokenTable.indexed_delete hsound, TokenTable.delete_of_absent habsent]

/-! ## Single changes -/

/-- An insertion either changes nothing or appends a row with the next number. -/
theorem insert_cases (h : store.Reachable) (createdAt : Timestamp) (token : NewToken) :
    (store.insert createdAt token).1 = store ∨
      (store.insert createdAt token).1.rows.values =
          store.rows.values ++ [Token.ofNew (store.lastId + 1) createdAt token] ∧
        (store.insert createdAt token).1.lastId = store.lastId + 1 := by
  by_cases hclash : ∃ row ∈ store.rows.values,
      row.key = (token.owner, token.name) ∨ row.digest = token.digest
  · obtain ⟨row, hrow, hclash⟩ := hclash
    rw [h.insert_of_clash hrow hclash]
    exact .inl rfl
  · right
    refine (h.insert_of_free ?_ createdAt).2
    intro row hrow
    constructor
    · intro hkey
      exact hclash ⟨row, hrow, .inl hkey⟩
    · intro hdigest
      exact hclash ⟨row, hrow, .inr hdigest⟩

/-- An insertion leaves every row. -/
theorem mem_insert (h : store.Reachable) {row : Token} (hrow : row ∈ store.rows.values)
    (createdAt : Timestamp) (token : NewToken) :
    row ∈ (store.insert createdAt token).1.rows.values := by
  rcases h.insert_cases createdAt token with hsame | ⟨hrows, -⟩
  · rwa [hsame]
  · rw [hrows]
    exact List.mem_append_left _ hrow

/-- A deletion leaves every row with another number. -/
theorem mem_delete (h : store.Reachable) {row : Token} (hrow : row ∈ store.rows.values)
    {id : Int} (hne : row.id ≠ id) : row ∈ (store.delete id).1.rows.values := by
  rw [h.values_delete]
  exact List.mem_filter.mpr ⟨hrow, by simpa using hne⟩

end Reachable

/-- The stores that one call of a store may leave. -/
inductive Change (before : TokenStore) : TokenStore → Prop where
  | same : Change before before
  | insert (createdAt : Timestamp) (token : NewToken) :
    Change before (before.insert createdAt token).1
  | delete (id : Int) : Change before (before.delete id).1

namespace Change

variable {before after : TokenStore}

/-- A change keeps a store reachable. -/
theorem reachable (hc : Change before after) (h : before.Reachable) : after.Reachable := by
  cases hc with
  | same => exact h
  | insert createdAt token => exact h.insert createdAt token
  | delete id => exact h.delete id

/-- A number that was given and that no row has is never a row's number again. -/
theorem absent (hc : Change before after) (h : before.Reachable) {id : Int}
    (habsent : ∀ row ∈ before.rows.values, row.id ≠ id) (hgiven : id ≤ before.lastId) :
    (∀ row ∈ after.rows.values, row.id ≠ id) ∧ id ≤ after.lastId := by
  cases hc with
  | same => exact ⟨habsent, hgiven⟩
  | insert createdAt token =>
    rcases h.insert_cases createdAt token with hsame | ⟨hrows, hlast⟩
    · rw [hsame]
      exact ⟨habsent, hgiven⟩
    · rw [hrows, hlast]
      refine ⟨?_, by omega⟩
      intro row hrow
      rcases List.mem_append.mp hrow with hold | hnew
      · exact habsent row hold
      · have hid : row.id = before.lastId + 1 := by rw [List.mem_singleton.mp hnew]; rfl
        omega
  | delete other =>
    rw [h.values_delete, h.lastId_delete]
    exact ⟨fun row hrow => habsent row (List.mem_filter.mp hrow).1, hgiven⟩

/-- A change takes back no number. -/
theorem lastId_le (hc : Change before after) (h : before.Reachable) :
    before.lastId ≤ after.lastId := by
  cases hc with
  | same => exact Int.le_refl _
  | insert createdAt token =>
    rcases h.insert_cases createdAt token with hsame | ⟨-, hlast⟩
    · exact Int.le_of_eq (congrArg lastId hsame).symm
    · omega
  | delete id => exact Int.le_of_eq (h.lastId_delete id).symm

/-- A number keeps its row as long as any row has it. -/
theorem mem_of_id_eq (hc : Change before after) (h : before.Reachable) {row other : Token}
    (hrow : row ∈ before.rows.values) (hother : other ∈ after.rows.values)
    (heq : other.id = row.id) : row ∈ after.rows.values := by
  cases hc with
  | same => exact hrow
  | insert createdAt token => exact h.mem_insert hrow createdAt token
  | delete id =>
    have hmem := hother
    rw [h.values_delete] at hmem
    rwa [← h.eq_of_id_eq (List.mem_filter.mp hmem).1 hrow heq]

/-- When a row goes, no row is left with its owner and name. -/
theorem key_free (hc : Change before after) (h : before.Reachable) {row : Token}
    (hrow : row ∈ before.rows.values) (hgone : row ∉ after.rows.values) :
    ∀ other ∈ after.rows.values, other.key ≠ row.key := by
  cases hc with
  | same => exact absurd hrow hgone
  | insert createdAt token => exact absurd (h.mem_insert hrow createdAt token) hgone
  | delete id =>
    rw [h.values_delete] at hgone ⊢
    intro other hother heq
    have hmem := (List.mem_filter.mp hother).1
    rw [h.eq_of_key_eq hmem hrow heq] at hother
    exact hgone hother

end Change
end TokenStore
end BearerTokens
