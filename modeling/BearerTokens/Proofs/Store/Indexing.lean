import Mathlib.Data.List.Nodup
import BearerTokens.Store.Memory
import BearerTokens.Store.Table

/-!
# Tables and their indexes

A table of rows determines the store in memory that holds them: one map by
number, and one index for each of the two unique constraints.  On a table whose
constraints hold, every operation of that store does what the same operation of
the table does.

Main results:

- Definition {lit}`TokenTable.indexed`: the store that holds the rows of a table.
- Definition {lit}`TokenTable.Sound`: the numbers ascend and both constraints hold.
- Theorems {lit}`indexed_insert` and {lit}`indexed_delete`: changes of the store
  are changes of the table.
-/

namespace BearerTokens

/-! ## Indexes made from rows -/

namespace Index

variable {α κ ν : Type} [DecidableEq κ]

/-- The index of rows that takes a key and a value from each. -/
def ofRows (key : α → κ) (value : α → ν) (rows : List α) : Index κ ν :=
  ⟨rows.map fun row => (key row, value row)⟩

omit [DecidableEq κ] in
@[simp]
theorem values_ofRows (key : α → κ) (value : α → ν) (rows : List α) :
    (ofRows key value rows).values = rows.map value := by
  simp [ofRows, values]

/-- A look-up finds the first row with the key. -/
theorem get?_ofRows (key : α → κ) (value : α → ν) (rows : List α) (k : κ) :
    (ofRows key value rows).get? k = (rows.find? fun row => key row = k).map value := by
  simp only [ofRows, get?]
  induction rows with
  | nil => rfl
  | cons row rows ih =>
    by_cases hk : key row = k
    · simp [lookup, hk]
    · simp [lookup, hk, ih]

/-- A key is there when some row has it. -/
theorem contains_ofRows (key : α → κ) (value : α → ν) (rows : List α) (k : κ) :
    (ofRows key value rows).contains k = rows.any fun row => key row = k := by
  rw [contains, get?_ofRows, Option.isSome_map, List.isSome_find?]

/-- A row with a fresh key comes last. -/
theorem insert_ofRows (key : α → κ) (value : α → ν) (new : α) {rows : List α}
    (h : ∀ row ∈ rows, key row ≠ key new) :
    (ofRows key value rows).insert (key new) (value new) = ofRows key value (rows ++ [new]) := by
  simp only [ofRows, insert, Index.mk.injEq]
  induction rows with
  | nil => rfl
  | cons row rows ih =>
    have hrow : key row ≠ key new := h row List.mem_cons_self
    have hrest : ∀ other ∈ rows, key other ≠ key new := fun other ho =>
      h other (List.mem_cons_of_mem row ho)
    simpa [put, hrow] using ih hrest

/-- Erasing a key leaves the rows without it. -/
theorem erase_ofRows (key : α → κ) (value : α → ν) (rows : List α) (k : κ) :
    (ofRows key value rows).erase k = ofRows key value (rows.filter fun row => key row ≠ k) := by
  simp only [ofRows, erase, Index.mk.injEq]
  induction rows with
  | nil => rfl
  | cons row rows ih =>
    by_cases hk : key row = k
    · simpa [without, hk] using ih
    · simpa [without, hk] using ih

end Index

/-! ## Tables -/

/-- The two parts by which an owner knows a token. -/
def Token.key (row : Token) : Int × String := (row.owner, row.name)

namespace TokenTable

/-- The store that holds the rows of a table. -/
def indexed (table : TokenTable) : TokenStore where
  rows := .ofRows Token.id id table.rows
  byName := .ofRows Token.key Token.id table.rows
  byDigest := .ofRows Token.digest Token.id table.rows
  lastId := table.inserted

@[simp]
theorem values_indexed (table : TokenTable) : table.indexed.rows.values = table.rows := by
  simp [indexed]

@[simp]
theorem lastId_indexed (table : TokenTable) : table.indexed.lastId = table.inserted :=
  rfl

/-- The numbers of a table ascend from one to the last given, and both constraints hold. -/
structure Sound (table : TokenTable) : Prop where
  ids_ascending : (table.rows.map Token.id).Pairwise (· < ·)
  one_le_id : ∀ row ∈ table.rows, 1 ≤ row.id
  id_le_inserted : ∀ row ∈ table.rows, row.id ≤ table.inserted
  keys_nodup : (table.rows.map Token.key).Nodup
  digests_nodup : (table.rows.map Token.digest).Nodup

/-- No two rows have the same number. -/
theorem Sound.ids_nodup {table : TokenTable} (h : table.Sound) :
    (table.rows.map Token.id).Nodup :=
  h.ids_ascending.imp fun hlt => Int.ne_of_lt hlt

/-- The table without rows is sound. -/
theorem Sound.empty : TokenTable.empty.Sound := by
  constructor <;> simp [TokenTable.empty]

/-- A row stands in the way of a new token when it has its key or its digest. -/
theorem clashes_iff {token : NewToken} {row : Token} :
    clashes token row = true ↔ row.key = (token.owner, token.name) ∨ row.digest = token.digest := by
  simp [clashes, Token.key]

/-- No row stands in the way when none has the key or the digest. -/
theorem any_clashes_eq_false_iff {rows : List Token} {token : NewToken} :
    rows.any (clashes token) = false ↔
      ∀ row ∈ rows, row.key ≠ (token.owner, token.name) ∧ row.digest ≠ token.digest := by
  simp only [List.any_eq_false, clashes_iff, not_or, ne_eq]

/-- An insertion with a clash changes nothing. -/
theorem insert_of_clash {table : TokenTable} {token : NewToken}
    (h : table.rows.any (clashes token) = true) (createdAt : Timestamp) :
    table.insert createdAt token = (table, .error .conflict) := by
  simp [insert, h]

/-- An insertion without a clash appends a row. -/
theorem insert_of_no_clash {table : TokenTable} {token : NewToken}
    (h : table.rows.any (clashes token) = false) (createdAt : Timestamp) :
    table.insert createdAt token =
      (⟨table.rows ++ [Token.ofNew (table.inserted + 1) createdAt token], table.inserted + 1⟩,
        .ok (Token.ofNew (table.inserted + 1) createdAt token)) := by
  simp [insert, h]

/-- An insertion keeps a table sound. -/
theorem Sound.insert {table : TokenTable} (h : table.Sound) (createdAt : Timestamp)
    (token : NewToken) : (table.insert createdAt token).1.Sound := by
  cases hclash : table.rows.any (clashes token) with
  | true =>
    rw [insert_of_clash hclash]
    exact h
  | false =>
    rw [insert_of_no_clash hclash]
    have hfree := any_clashes_eq_false_iff.mp hclash
    constructor
    · simp only [List.map_append, List.map_cons, List.map_nil, List.pairwise_append]
      refine ⟨h.ids_ascending, List.pairwise_singleton _ _, ?_⟩
      intro id hid new hnew
      obtain ⟨row, hrow, rfl⟩ := List.mem_map.mp hid
      have hle := h.id_le_inserted row hrow
      have heq : new = table.inserted + 1 := by simpa [Token.ofNew] using hnew
      omega
    · intro row hrow
      rcases List.mem_append.mp hrow with hold | hnew
      · exact h.one_le_id row hold
      · have heq : row.id = table.inserted + 1 := by rw [List.mem_singleton.mp hnew]; rfl
        omega
    · intro row hrow
      rcases List.mem_append.mp hrow with hold | hnew
      · have hle := h.id_le_inserted row hold
        push_cast
        omega
      · have heq : row.id = table.inserted + 1 := by rw [List.mem_singleton.mp hnew]; rfl
        push_cast
        omega
    · rw [List.map_append, List.nodup_append]
      refine ⟨h.keys_nodup, List.nodup_singleton _, ?_⟩
      intro key hkey new hnew
      obtain ⟨row, hrow, rfl⟩ := List.mem_map.mp hkey
      rw [List.mem_singleton.mp hnew]
      exact (hfree row hrow).1
    · rw [List.map_append, List.nodup_append]
      refine ⟨h.digests_nodup, List.nodup_singleton _, ?_⟩
      intro digest hdigest new hnew
      obtain ⟨row, hrow, rfl⟩ := List.mem_map.mp hdigest
      rw [List.mem_singleton.mp hnew]
      exact (hfree row hrow).2

/-- A deletion of a number that no row has changes nothing. -/
theorem delete_of_absent {table : TokenTable} {id : Int}
    (h : ∀ row ∈ table.rows, row.id ≠ id) : table.delete id = (table, false) := by
  have hany : (table.rows.any fun row => row.id = id) = false := by
    simpa using h
  simp only [delete, hany, Bool.false_eq_true, if_false]

/-- A deletion drops the row of the number, if there is one. -/
theorem delete_eq (table : TokenTable) (id : Int) :
    table.delete id =
      (⟨table.rows.filter fun row => row.id ≠ id, table.inserted⟩,
        table.rows.any fun row => row.id = id) := by
  cases hany : table.rows.any fun row => row.id = id with
  | true => simp [delete, hany]
  | false =>
    have hkeep : (table.rows.filter fun row => row.id ≠ id) = table.rows := by
      rw [List.filter_eq_self]
      intro row hrow
      simpa using List.any_eq_false.mp hany row hrow
    simp only [delete, hany, hkeep]
    rfl

/-- Dropping rows keeps a table sound. -/
theorem Sound.filter {table : TokenTable} (h : table.Sound) (p : Token → Bool) :
    Sound ⟨table.rows.filter p, table.inserted⟩ where
  ids_ascending := h.ids_ascending.sublist (List.filter_sublist.map _)
  one_le_id row hrow := h.one_le_id row (List.mem_filter.mp hrow).1
  id_le_inserted row hrow := h.id_le_inserted row (List.mem_filter.mp hrow).1
  keys_nodup := h.keys_nodup.sublist (List.filter_sublist.map _)
  digests_nodup := h.digests_nodup.sublist (List.filter_sublist.map _)

/-- A deletion keeps a table sound. -/
theorem Sound.delete {table : TokenTable} (h : table.Sound) (id : Int) :
    (table.delete id).1.Sound := by
  rw [delete_eq]
  exact h.filter _

/-! ## Rows of a sound table -/

/-- The first row with a value that no two rows share is the only one. -/
theorem find?_eq_some_of_nodup {β : Type} [DecidableEq β] {rows : List Token} {f : Token → β}
    (h : (rows.map f).Nodup) {row : Token} (hrow : row ∈ rows) :
    (rows.find? fun other => f other = f row) = some row := by
  cases hfind : rows.find? fun other => f other = f row with
  | none => simpa using List.find?_eq_none.mp hfind row hrow
  | some other =>
    have hmem := List.mem_of_find?_eq_some hfind
    have heq : f other = f row := by simpa using List.find?_some hfind
    rw [List.inj_on_of_nodup_map h hmem hrow heq]

/-- What a look-up by such a value finds. -/
theorem find?_eq_some_iff_of_nodup {β : Type} [DecidableEq β] {rows : List Token} {f : Token → β}
    (h : (rows.map f).Nodup) {b : β} {row : Token} :
    (rows.find? fun other => f other = b) = some row ↔ row ∈ rows ∧ f row = b := by
  constructor
  · intro hfind
    exact ⟨List.mem_of_find?_eq_some hfind, by simpa using List.find?_some hfind⟩
  · rintro ⟨hrow, rfl⟩
    exact find?_eq_some_of_nodup h hrow

/-- The row behind the number that an index gave. -/
theorem row?_indexed {table : TokenTable} (h : table.Sound) {p : Token → Bool} :
    table.indexed.row? ((table.rows.find? p).map Token.id) = table.rows.find? p := by
  cases hfind : table.rows.find? p with
  | none => rfl
  | some row =>
    have hrow := List.mem_of_find?_eq_some hfind
    simp only [TokenStore.row?, indexed, Option.map_some, Option.bind_some, Index.get?_ofRows]
    rw [find?_eq_some_of_nodup h.ids_nodup hrow]
    rfl

/-! ## The operations of the store -/

/-- The empty store holds the rows of the empty table. -/
theorem indexed_empty : empty.indexed = TokenStore.empty :=
  rfl

/-- Both indexes together find the rows that stand in the way. -/
theorem conflicts_indexed (table : TokenTable) (token : NewToken) :
    table.indexed.conflicts token = table.rows.any (clashes token) := by
  simp only [TokenStore.conflicts, indexed, Index.contains_ofRows]
  induction table.rows with
  | nil => rfl
  | cons row rows ih =>
    have hrow : clashes token row =
        (decide (row.key = (token.owner, token.name)) || decide (row.digest = token.digest)) := by
      rw [Bool.eq_iff_iff, clashes_iff]
      simp
    simp only [List.any_cons, ← ih, hrow]
    ac_rfl

/-- An insertion into the store is an insertion into the table. -/
theorem indexed_insert {table : TokenTable} (h : table.Sound) (createdAt : Timestamp)
    (token : NewToken) :
    table.indexed.insert createdAt token =
      ((table.insert createdAt token).1.indexed, (table.insert createdAt token).2) := by
  cases hclash : table.rows.any (clashes token) with
  | true =>
    rw [insert_of_clash hclash, TokenStore.insert, conflicts_indexed, hclash]
    rfl
  | false =>
    rw [insert_of_no_clash hclash, TokenStore.insert, conflicts_indexed, hclash]
    have hfree := any_clashes_eq_false_iff.mp hclash
    let row := Token.ofNew (table.inserted + 1) createdAt token
    -- All three keys are new, so that each map takes the new row as its last entry.
    have hrows : table.indexed.rows.insert (table.inserted + 1) row =
        .ofRows Token.id id (table.rows ++ [row]) :=
      Index.insert_ofRows Token.id id row fun other ho => by
        have hle := h.id_le_inserted other ho
        change other.id ≠ (table.inserted : Int) + 1
        omega
    have hnames : table.indexed.byName.insert (token.owner, token.name) (table.inserted + 1) =
        .ofRows Token.key Token.id (table.rows ++ [row]) :=
      Index.insert_ofRows Token.key Token.id row fun other ho =>
        (hfree other ho).1
    have hdigests : table.indexed.byDigest.insert token.digest (table.inserted + 1) =
        .ofRows Token.digest Token.id (table.rows ++ [row]) :=
      Index.insert_ofRows Token.digest Token.id row fun other ho =>
        (hfree other ho).2
    simp only [Bool.false_eq_true, if_false, TokenStore.add, indexed]
    simp only [indexed] at hrows hnames hdigests
    rw [hrows, hnames, hdigests]
    rfl

/-- A look-up by owner and name is one by the key of a row. -/
theorem findByOwnerAndName_eq (table : TokenTable) (owner : Int) (name : String) :
    table.findByOwnerAndName owner name =
      table.rows.find? fun row => row.key = (owner, name) := by
  have hkey : (fun row : Token => decide (row.owner = owner) && decide (row.name = name)) =
      fun row => decide (row.key = (owner, name)) := by
    funext row
    simp [Token.key]
  rw [findByOwnerAndName, hkey]

/-- A look-up by owner and name in the store is one in the table. -/
theorem indexed_findByOwnerAndName {table : TokenTable} (h : table.Sound) (owner : Int)
    (name : String) :
    table.indexed.findByOwnerAndName owner name = table.findByOwnerAndName owner name := by
  rw [TokenStore.findByOwnerAndName, findByOwnerAndName_eq, ← row?_indexed h]
  simp only [indexed, Index.get?_ofRows]

/-- A look-up by digest in the store is one in the table. -/
theorem indexed_findBySecretDigest {table : TokenTable} (h : table.Sound) (digest : Digest) :
    table.indexed.findBySecretDigest digest = table.findBySecretDigest digest := by
  rw [TokenStore.findBySecretDigest, findBySecretDigest, ← row?_indexed h]
  simp only [indexed, Index.get?_ofRows]

/-- The store lists the rows of an owner as the table does. -/
theorem indexed_listByOwner (table : TokenTable) (owner : Int) :
    table.indexed.listByOwner owner = table.listByOwner owner := by
  rw [TokenStore.listByOwner, listByOwner, values_indexed]

/-- In a sound table, the rows without a row's number are those without its other values. -/
theorem filter_ne_eq_of_nodup {β : Type} [DecidableEq β] {table : TokenTable} (h : table.Sound)
    {f : Token → β} (hf : (table.rows.map f).Nodup) {row : Token} (hrow : row ∈ table.rows) :
    (table.rows.filter fun other => f other ≠ f row) =
      table.rows.filter fun other => other.id ≠ row.id := by
  apply List.filter_congr
  intro other ho
  have hiff : f other = f row ↔ other.id = row.id := by
    constructor
    · intro heq
      rw [List.inj_on_of_nodup_map hf ho hrow heq]
    · intro heq
      rw [List.inj_on_of_nodup_map h.ids_nodup ho hrow heq]
  simp [hiff]

/-- A deletion from the store is a deletion from the table. -/
theorem indexed_delete {table : TokenTable} (h : table.Sound) (id : Int) :
    table.indexed.delete id = ((table.delete id).1.indexed, (table.delete id).2) := by
  rw [TokenStore.delete]
  simp only [indexed, Index.get?_ofRows, Option.map_id_fun, id_eq]
  cases hfind : table.rows.find? fun row => row.id = id with
  | none =>
    have habsent : ∀ row ∈ table.rows, row.id ≠ id := fun row hrow => by
      simpa using List.find?_eq_none.mp hfind row hrow
    rw [delete_of_absent habsent]
  | some row =>
    obtain ⟨hrow, rfl⟩ := (find?_eq_some_iff_of_nodup h.ids_nodup).mp hfind
    have hany : (table.rows.any fun other => other.id = row.id) = true := by
      simpa using ⟨row, hrow, rfl⟩
    have hnames : ((row.owner, row.name) : Int × String) = row.key := rfl
    simp only [TokenStore.remove, hnames, Index.erase_ofRows, delete_eq, hany,
      filter_ne_eq_of_nodup h h.keys_nodup hrow, filter_ne_eq_of_nodup h h.digests_nodup hrow]

end TokenTable
end BearerTokens
