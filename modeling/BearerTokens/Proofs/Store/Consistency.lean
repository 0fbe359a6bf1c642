import BearerTokens.Proofs.Store.Reachable
import BearerTokens.Proofs.Store.Refinement

/-!
# Consistency of the store in memory

The three maps of the store describe the same rows.  Each row is kept under its
own number, the two indexes have exactly one entry for each row, and no entry
leads anywhere else.  Along a run the numbers are given upwards from one, so that
a number names one row for ever, even after that row was deleted.

Main results:

- Definition {lit}`TokenStore.Consistent`: the maps fit together.
- Theorem {lit}`TokenStore.Reachable.consistent`: they do after all insertions and
  deletions.
- Theorem {lit}`assignedIds_serveAll`: the numbers given along a run.
- Theorem {lit}`serveAll_consistent`: consistency and numbering over every run.
-/

namespace BearerTokens

/-! ## Entries of an index -/

namespace Index

variable {α κ ν : Type}

/-- The keys in the order of their entries. -/
def keys (index : Index κ ν) : List κ :=
  index.entries.map Prod.fst

/-- The number of entries. -/
def size (index : Index κ ν) : Nat :=
  index.entries.length

@[simp]
theorem keys_ofRows (key : α → κ) (value : α → ν) (rows : List α) :
    (ofRows key value rows).keys = rows.map key := by
  simp [ofRows, keys]

@[simp]
theorem size_ofRows (key : α → κ) (value : α → ν) (rows : List α) :
    (ofRows key value rows).size = rows.length := by
  simp [ofRows, size]

/-- When no two rows share a key, the entries are those of the rows. -/
theorem get?_ofRows_eq_some_iff [DecidableEq κ] {key : Token → κ} {value : Token → ν}
    {rows : List Token} (h : (rows.map key).Nodup) {k : κ} {v : ν} :
    (ofRows key value rows).get? k = some v ↔ ∃ row ∈ rows, key row = k ∧ value row = v := by
  rw [get?_ofRows, Option.map_eq_some_iff]
  constructor
  · rintro ⟨row, hfind, hvalue⟩
    obtain ⟨hrow, hkey⟩ := (TokenTable.find?_eq_some_iff_of_nodup h).mp hfind
    exact ⟨row, hrow, hkey, hvalue⟩
  · rintro ⟨row, hrow, hkey, hvalue⟩
    exact ⟨row, (TokenTable.find?_eq_some_iff_of_nodup h).mpr ⟨hrow, hkey⟩, hvalue⟩

end Index

/-! ## Consistent stores -/

namespace TokenStore

/--
Each row stands under its own number, between one and the last number given.  Both
indexes have an entry for every row and no other entries, and no key of the three
maps occurs twice.
-/
structure Consistent (store : TokenStore) : Prop where
  id_eq : ∀ id row, store.rows.get? id = some row → row.id = id
  byName_iff : ∀ key id, store.byName.get? key = some id ↔
    ∃ row, store.rows.get? id = some row ∧ row.key = key
  byDigest_iff : ∀ digest id, store.byDigest.get? digest = some id ↔
    ∃ row, store.rows.get? id = some row ∧ row.digest = digest
  keys_nodup : store.rows.keys.Nodup ∧ store.byName.keys.Nodup ∧ store.byDigest.keys.Nodup
  size_byName : store.byName.size = store.rows.size
  size_byDigest : store.byDigest.size = store.rows.size
  key_unique : ∀ id other row row', store.rows.get? id = some row →
    store.rows.get? other = some row' → row.key = row'.key → id = other
  digest_unique : ∀ id other row row', store.rows.get? id = some row →
    store.rows.get? other = some row' → row.digest = row'.digest → id = other
  id_range : ∀ id row, store.rows.get? id = some row → 1 ≤ id ∧ id ≤ store.lastId

end TokenStore

namespace TokenTable

variable {table : TokenTable}

/-- The rows of the store that holds a sound table are those of the table. -/
theorem Sound.get?_rows (h : table.Sound) {id : Int} {row : Token} :
    table.indexed.rows.get? id = some row ↔ row ∈ table.rows ∧ row.id = id := by
  rw [indexed, Index.get?_ofRows_eq_some_iff h.ids_nodup]
  constructor
  · rintro ⟨found, hfound, hid, rfl⟩
    exact ⟨hfound, hid⟩
  · rintro ⟨hrow, hid⟩
    exact ⟨row, hrow, hid, rfl⟩

/-- An index by a value that no two rows share has exactly the entries of the rows. -/
theorem Sound.get?_ofRows_iff {β : Type} [DecidableEq β] (h : table.Sound) {f : Token → β}
    (hf : (table.rows.map f).Nodup) (b : β) (id : Int) :
    (Index.ofRows f Token.id table.rows).get? b = some id ↔
      ∃ row, table.indexed.rows.get? id = some row ∧ f row = b := by
  rw [Index.get?_ofRows_eq_some_iff hf]
  constructor
  · rintro ⟨row, hrow, hb, hid⟩
    exact ⟨row, h.get?_rows.mpr ⟨hrow, hid⟩, hb⟩
  · rintro ⟨row, hget, hb⟩
    obtain ⟨hrow, hid⟩ := h.get?_rows.mp hget
    exact ⟨row, hrow, hb, hid⟩

/-- Two rows that agree on a value that no two rows share have the same number. -/
theorem Sound.id_eq_of_eq {β : Type} (h : table.Sound) {f : Token → β}
    (hf : (table.rows.map f).Nodup) {id other : Int} {row row' : Token}
    (hrow : table.indexed.rows.get? id = some row)
    (hrow' : table.indexed.rows.get? other = some row') (heq : f row = f row') : id = other := by
  obtain ⟨hmem, hid⟩ := h.get?_rows.mp hrow
  obtain ⟨hmem', hid'⟩ := h.get?_rows.mp hrow'
  have hsame : row = row' := List.inj_on_of_nodup_map hf hmem hmem' heq
  rw [← hid, ← hid', hsame]

/-- The store that holds a sound table is consistent. -/
theorem Sound.consistent (h : table.Sound) : table.indexed.Consistent where
  id_eq := by
    intro id row hrow
    exact (h.get?_rows.mp hrow).2
  byName_iff := h.get?_ofRows_iff h.keys_nodup
  byDigest_iff := h.get?_ofRows_iff h.digests_nodup
  keys_nodup := by
    simp only [indexed, Index.keys_ofRows]
    exact ⟨h.ids_nodup, h.keys_nodup, h.digests_nodup⟩
  size_byName := by simp only [indexed, Index.size_ofRows]
  size_byDigest := by simp only [indexed, Index.size_ofRows]
  key_unique := by
    intro id other row row' hrow hrow' hkey
    exact h.id_eq_of_eq h.keys_nodup hrow hrow' hkey
  digest_unique := by
    intro id other row row' hrow hrow' hdigest
    exact h.id_eq_of_eq h.digests_nodup hrow hrow' hdigest
  id_range := by
    intro id row hrow
    obtain ⟨hmem, rfl⟩ := h.get?_rows.mp hrow
    exact ⟨h.one_le_id row hmem, h.id_le_inserted row hmem⟩

end TokenTable

namespace TokenStore

variable {store : TokenStore}

/-- Insertions and deletions keep a store consistent. -/
theorem Reachable.consistent (h : store.Reachable) : store.Consistent := by
  obtain ⟨table, hsound, rfl⟩ := h.exists_table
  exact hsound.consistent

/-- A row under a number is one of the rows, with this number. -/
theorem Reachable.get?_eq_some_iff (h : store.Reachable) {id : Int} {row : Token} :
    store.rows.get? id = some row ↔ row ∈ store.rows.values ∧ row.id = id := by
  obtain ⟨table, hsound, rfl⟩ := h.exists_table
  rw [hsound.get?_rows, TokenTable.values_indexed]

/-! ## Rows along a run -/

/-- A call of a store makes at most one change. -/
theorem serve_change (store : TokenStore) (call : StoreCall) :
    Change store (store.serve call).1 := by
  cases call with
  | insert createdAt token => exact .insert createdAt token
  | delete id => exact .delete id
  | findByOwnerAndName owner name => exact .same
  | findBySecretDigest digest => exact .same
  | listByOwner owner => exact .same

/-- A run keeps a store reachable. -/
theorem Reachable.serveAll (h : store.Reachable) (calls : List StoreCall) :
    (BearerTokens.serveAll TokenStore.serve store calls).1.Reachable := by
  induction calls generalizing store with
  | nil => exact h
  | cons call calls ih => exact ih ((store.serve_change call).reachable h)

/-- A run takes back no number. -/
theorem lastId_le_serveAll (h : store.Reachable) (calls : List StoreCall) :
    store.lastId ≤ (serveAll TokenStore.serve store calls).1.lastId := by
  induction calls generalizing store with
  | nil => exact Int.le_refl _
  | cons call calls ih =>
    have hchange := store.serve_change call
    exact Int.le_trans (hchange.lastId_le h) (ih (hchange.reachable h))

/-- A number that was given and that no row has stays without a row along a run. -/
theorem absent_serveAll (h : store.Reachable) {id : Int}
    (habsent : ∀ row ∈ store.rows.values, row.id ≠ id) (hgiven : id ≤ store.lastId)
    (calls : List StoreCall) :
    ∀ row ∈ (serveAll TokenStore.serve store calls).1.rows.values, row.id ≠ id := by
  induction calls generalizing store with
  | nil => exact habsent
  | cons call calls ih =>
    have hchange := store.serve_change call
    obtain ⟨habsent, hgiven⟩ := hchange.absent h habsent hgiven
    exact ih (hchange.reachable h) habsent hgiven

/-- The row of a number is the same wherever along a run the number has a row. -/
theorem eq_of_id_eq_serveAll (h : store.Reachable) {row other : Token}
    (hrow : row ∈ store.rows.values) (calls : List StoreCall)
    (hother : other ∈ (serveAll TokenStore.serve store calls).1.rows.values)
    (heq : other.id = row.id) : other = row := by
  induction calls generalizing store with
  | nil => exact h.eq_of_id_eq hother hrow heq
  | cons call calls ih =>
    have hchange := store.serve_change call
    have hafter := hchange.reachable h
    -- Either the row outlives the first call, or its number is gone for good.
    by_cases hgone : ∀ found ∈ (store.serve call).1.rows.values, found.id ≠ row.id
    · have hgiven := Int.le_trans (h.id_le_lastId hrow) (hchange.lastId_le h)
      exact absurd heq (absent_serveAll hafter hgone hgiven calls other hother)
    · push Not at hgone
      obtain ⟨found, hfound, hid⟩ := hgone
      exact ih hafter (hchange.mem_of_id_eq h hrow hfound hid) hother

end TokenStore

/-! ## Numbers along a run -/

/-- The number of the new row that an answer reports. -/
def StoreAnswer.assignedId? : StoreAnswer → Option Int
  | .inserted (.ok row) => some row.id
  | _ => none

/-- The numbers of the new rows that answers report, in order. -/
def assignedIds (answers : List StoreAnswer) : List Int :=
  answers.filterMap StoreAnswer.assignedId?

/-- An insertion into a table gives the number after the last. -/
theorem TokenTable.assignedId?_serve (table : TokenTable) (call : StoreCall) :
    (table.serve call).2.assignedId? =
      if (table.serve call).2.isInsertion then some ((table.inserted + 1 : Nat) : Int)
      else none := by
  cases call with
  | insert createdAt token =>
    cases hclash : table.rows.any (clashes token) with
    | true =>
      simp [TokenTable.serve, insert_of_clash hclash, StoreAnswer.isInsertion,
        StoreAnswer.assignedId?]
    | false =>
      simp [TokenTable.serve, insert_of_no_clash hclash, StoreAnswer.isInsertion,
        StoreAnswer.assignedId?, Token.ofNew]
  | delete id => rfl
  | findByOwnerAndName owner name => rfl
  | findBySecretDigest digest => rfl
  | listByOwner owner => rfl

/-- The numbers given along a run of a table go on upwards from the last, without gaps. -/
theorem TokenTable.assignedIds_serveAll (table : TokenTable) (calls : List StoreCall) :
    let answers := (serveAll TokenTable.serve table calls).2
    assignedIds answers =
      (List.range' (table.inserted + 1) (answers.countP StoreAnswer.isInsertion)).map
        Int.ofNat := by
  induction calls generalizing table with
  | nil => rfl
  | cons call calls ih =>
    have hid := table.assignedId?_serve call
    have hcount := table.inserted_serve call
    have hrest := ih (table.serve call).1
    simp only [assignedIds] at hrest
    simp only [serveAll, assignedIds, List.filterMap_cons, List.countP_cons]
    cases hinsertion : (table.serve call).2.isInsertion with
    | true =>
      simp only [hinsertion, if_true] at hid hcount ⊢
      rw [hid, hrest, hcount, List.range'_succ]
      rfl
    | false =>
      simp only [hinsertion, Bool.false_eq_true, if_false] at hid hcount ⊢
      rw [hid, hrest, hcount]
      rfl

/-- Calls in a row are served one part after the other. -/
theorem serveAll_append {σ : Type} (serve : σ → StoreCall → σ × StoreAnswer) (s : σ)
    (calls later : List StoreCall) :
    serveAll serve s (calls ++ later) =
      let run := serveAll serve s calls
      let further := serveAll serve run.1 later
      (further.1, run.2 ++ further.2) := by
  induction calls generalizing s with
  | nil => rfl
  | cons call calls ih =>
    simp only [List.cons_append, serveAll, ih]

/-- The numbers given along a run are one, two, three and so on. -/
theorem assignedIds_serveAll (calls : List StoreCall) :
    let answers := (serveAll TokenStore.serve .empty calls).2
    assignedIds answers =
      (List.range' 1 (answers.countP StoreAnswer.isInsertion)).map Int.ofNat := by
  have hanswers := (serveAll_indexed_of_sound TokenTable.Sound.empty calls).1
  rw [TokenTable.indexed_empty] at hanswers
  rw [hanswers]
  exact TokenTable.empty.assignedIds_serveAll calls

/-- No number is given twice along a run. -/
theorem nodup_assignedIds (calls : List StoreCall) :
    (assignedIds (serveAll TokenStore.serve .empty calls).2).Nodup := by
  rw [assignedIds_serveAll]
  refine List.Nodup.map ?_ List.nodup_range'
  intro m n heq
  exact Int.ofNat.inj heq

/-- The last number given is the number of successful insertions. -/
theorem lastId_serveAll (calls : List StoreCall) :
    let run := serveAll TokenStore.serve .empty calls
    run.1.lastId = run.2.countP StoreAnswer.isInsertion := by
  obtain ⟨hrun, -, hcount⟩ := serveAll_indexed_of_sound TokenTable.Sound.empty calls
  rw [TokenTable.indexed_empty] at hrun
  have hinserted : (serveAll TokenTable.serve .empty calls).1.inserted =
      (serveAll TokenTable.serve .empty calls).2.countP StoreAnswer.isInsertion :=
    hcount.trans (Nat.zero_add _)
  simp only [hrun, TokenTable.lastId_indexed, hinserted]

/--
Every run from the empty store leaves a consistent store, whose last number given is
the number of successful insertions.  If the run goes on, no number is given a second
time, the last number given does not fall, and a number that has a row before and after
has the same row.
-/
theorem serveAll_consistent (calls later : List StoreCall) :
    let run := serveAll TokenStore.serve .empty calls
    let further := serveAll TokenStore.serve run.1 later
    run.1.Consistent ∧ run.1.lastId = run.2.countP StoreAnswer.isInsertion ∧
      (assignedIds (run.2 ++ further.2)).Nodup ∧ run.1.lastId ≤ further.1.lastId ∧
      ∀ id row other, run.1.rows.get? id = some row → further.1.rows.get? id = some other →
        other = row := by
  intro run further
  have hrun : run.1.Reachable := TokenStore.Reachable.empty.serveAll calls
  have hfurther : further.1.Reachable := hrun.serveAll later
  refine ⟨hrun.consistent, lastId_serveAll calls, ?_, ?_, ?_⟩
  · have hnodup := nodup_assignedIds (calls ++ later)
    rwa [serveAll_append] at hnodup
  · exact TokenStore.lastId_le_serveAll hrun later
  · intro id row other hrow hother
    obtain ⟨hrow, hid⟩ := hrun.get?_eq_some_iff.mp hrow
    obtain ⟨hother, hotherId⟩ := hfurther.get?_eq_some_iff.mp hother
    exact TokenStore.eq_of_id_eq_serveAll hrun hrow later hother (hotherId.trans hid.symm)

end BearerTokens
