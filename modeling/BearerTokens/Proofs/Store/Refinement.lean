import BearerTokens.Proofs.Store.Indexing

/-!
# The store in memory refines a plain table

A client of a store sees the answers to its calls and nothing else.  Over every
sequence of calls, the store with its three maps gives the answers of one list
of rows in insertion order with two unique constraints.

Main results:

- Theorem {lit}`serve_indexed`: one call of the store is one call of the table.
- Theorem {lit}`serveAll_refines_table`: so is every sequence of calls from the empty
  store.
-/

namespace BearerTokens

/-! ## Calls and answers of a store -/

/-- A call of a store with its arguments; an insertion brings the time of the creation. -/
inductive StoreCall where
  | insert (createdAt : Timestamp) (token : NewToken)
  | findByOwnerAndName (owner : Int) (name : String)
  | findBySecretDigest (digest : Digest)
  | listByOwner (owner : Int)
  | delete (id : Int)
  deriving DecidableEq, Repr

/-- What a store answers to a call. -/
inductive StoreAnswer where
  | inserted (result : Except StoreError Token)
  | found (row : Option Token)
  | listed (rows : List Token)
  | deleted (present : Bool)

/-- Whether an answer reports a new row. -/
def StoreAnswer.isInsertion : StoreAnswer → Bool
  | .inserted (.ok _) => true
  | _ => false

/-- One call of the store in memory. -/
def TokenStore.serve (store : TokenStore) : StoreCall → TokenStore × StoreAnswer
  | .insert createdAt token =>
    let (store, result) := store.insert createdAt token
    (store, .inserted result)
  | .findByOwnerAndName owner name => (store, .found (store.findByOwnerAndName owner name))
  | .findBySecretDigest digest => (store, .found (store.findBySecretDigest digest))
  | .listByOwner owner => (store, .listed (store.listByOwner owner))
  | .delete id =>
    let (store, present) := store.delete id
    (store, .deleted present)

/-- One call of the plain table. -/
def TokenTable.serve (table : TokenTable) : StoreCall → TokenTable × StoreAnswer
  | .insert createdAt token =>
    let (table, result) := table.insert createdAt token
    (table, .inserted result)
  | .findByOwnerAndName owner name => (table, .found (table.findByOwnerAndName owner name))
  | .findBySecretDigest digest => (table, .found (table.findBySecretDigest digest))
  | .listByOwner owner => (table, .listed (table.listByOwner owner))
  | .delete id =>
    let (table, present) := table.delete id
    (table, .deleted present)

/-- Calls in order, with their answers and the state that they leave. -/
def serveAll {σ : Type} (serve : σ → StoreCall → σ × StoreAnswer) (s : σ) :
    List StoreCall → σ × List StoreAnswer
  | [] => (s, [])
  | call :: calls =>
    let one := serve s call
    let rest := serveAll serve one.1 calls
    (rest.1, one.2 :: rest.2)

/-! ## One call -/

/-- A call keeps a table sound. -/
theorem TokenTable.Sound.serve {table : TokenTable} (h : table.Sound) (call : StoreCall) :
    (table.serve call).1.Sound := by
  cases call with
  | insert createdAt token => exact h.insert createdAt token
  | delete id => exact h.delete id
  | findByOwnerAndName owner name => exact h
  | findBySecretDigest digest => exact h
  | listByOwner owner => exact h

/-- One call of the store that holds a table is one call of the table. -/
theorem TokenTable.serve_indexed {table : TokenTable} (h : table.Sound) (call : StoreCall) :
    table.indexed.serve call = ((table.serve call).1.indexed, (table.serve call).2) := by
  cases call with
  | insert createdAt token =>
    simp only [TokenStore.serve, TokenTable.serve, indexed_insert h]
  | delete id =>
    simp only [TokenStore.serve, TokenTable.serve, indexed_delete h]
  | findByOwnerAndName owner name =>
    simp only [TokenStore.serve, TokenTable.serve, indexed_findByOwnerAndName h]
  | findBySecretDigest digest =>
    simp only [TokenStore.serve, TokenTable.serve, indexed_findBySecretDigest h]
  | listByOwner owner =>
    simp only [TokenStore.serve, TokenTable.serve, indexed_listByOwner]

/-- The number of insertions grows by one with a new row and not otherwise. -/
theorem TokenTable.inserted_serve (table : TokenTable) (call : StoreCall) :
    (table.serve call).1.inserted =
      table.inserted + if (table.serve call).2.isInsertion then 1 else 0 := by
  cases call with
  | insert createdAt token =>
    cases hclash : table.rows.any (clashes token) with
    | true => simp [TokenTable.serve, insert_of_clash hclash, StoreAnswer.isInsertion]
    | false => simp [TokenTable.serve, insert_of_no_clash hclash, StoreAnswer.isInsertion]
  | delete id => simp [TokenTable.serve, delete_eq, StoreAnswer.isInsertion]
  | findByOwnerAndName owner name => rfl
  | findBySecretDigest digest => rfl
  | listByOwner owner => rfl

/-! ## Sequences of calls -/

/-- From a sound table on, the store that holds it and the table stay in step. -/
theorem serveAll_indexed_of_sound {table : TokenTable} (h : table.Sound)
    (calls : List StoreCall) :
    let plain := serveAll TokenTable.serve table calls
    serveAll TokenStore.serve table.indexed calls = (plain.1.indexed, plain.2) ∧
      plain.1.Sound ∧
      plain.1.inserted = table.inserted + plain.2.countP StoreAnswer.isInsertion := by
  induction calls generalizing table with
  | nil => exact ⟨rfl, h, rfl⟩
  | cons call calls ih =>
    obtain ⟨hrun, hsound, hcount⟩ := ih (h.serve call)
    refine ⟨?_, hsound, ?_⟩
    · simp only [serveAll, TokenTable.serve_indexed h, hrun]
    · simp only [serveAll, hcount, table.inserted_serve call, List.countP_cons]
      omega

/--
Over every sequence of calls from the empty store, the answers are those of a
plain table.  The store then holds exactly the rows of the table, whose numbers
ascend in insertion order and which break neither constraint, and a new row gets
the number after that of all successful insertions before it.
-/
theorem serveAll_refines_table (calls : List StoreCall) :
    let run := serveAll TokenStore.serve .empty calls
    let plain := serveAll TokenTable.serve .empty calls
    run.2 = plain.2 ∧ run.1 = plain.1.indexed ∧ run.1.rows.values = plain.1.rows ∧
      plain.1.Sound ∧ plain.1.inserted = plain.2.countP StoreAnswer.isInsertion := by
  obtain ⟨hrun, hsound, hcount⟩ := serveAll_indexed_of_sound TokenTable.Sound.empty calls
  rw [TokenTable.indexed_empty] at hrun
  refine ⟨by rw [hrun], by rw [hrun], ?_, hsound, ?_⟩
  · rw [hrun, TokenTable.values_indexed]
  · rw [hcount]
    exact Nat.zero_add _

end BearerTokens
