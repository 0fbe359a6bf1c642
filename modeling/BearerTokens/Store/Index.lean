/-!
# Finite maps in insertion order

An index maps each of its keys to one value and remembers the order in which
the keys came.  Erasing a key that came last restores the index before it.

Main results:

- Theorem {lit}`get?_insert`: what a look-up finds after an insertion.
- Theorem {lit}`erase_insert`: erasing a fresh key restores the index.
-/

namespace BearerTokens

/-- A finite map; every key occurs once when it is built by the operations below. -/
structure Index (κ ν : Type) where
  entries : List (κ × ν)
  deriving DecidableEq, Repr

namespace Index

variable {κ ν : Type} [DecidableEq κ]

/-! ## Entries -/

/-- The value of the first entry with a key. -/
def lookup (key : κ) : List (κ × ν) → Option ν
  | [] => none
  | (k, v) :: rest => if k = key then some v else lookup key rest

/-- Entries with a new value for a key; a key that is there keeps its place. -/
def put (key : κ) (value : ν) : List (κ × ν) → List (κ × ν)
  | [] => [(key, value)]
  | (k, v) :: rest => if k = key then (key, value) :: rest else (k, v) :: put key value rest

/-- Entries without a key. -/
def without (key : κ) : List (κ × ν) → List (κ × ν)
  | [] => []
  | (k, v) :: rest => if k = key then without key rest else (k, v) :: without key rest

/-! ## The map -/

/-- The index without keys. -/
def empty : Index κ ν := ⟨[]⟩

/-- The value of a key. -/
def get? (index : Index κ ν) (key : κ) : Option ν :=
  lookup key index.entries

/-- Whether a key has a value. -/
def contains (index : Index κ ν) (key : κ) : Bool :=
  (index.get? key).isSome

/-- Give a key a value; a new key comes last. -/
def insert (index : Index κ ν) (key : κ) (value : ν) : Index κ ν :=
  ⟨put key value index.entries⟩

/-- Take a key out. -/
def erase (index : Index κ ν) (key : κ) : Index κ ν :=
  ⟨without key index.entries⟩

/-- The values in the order of their keys. -/
def values (index : Index κ ν) : List ν :=
  index.entries.map Prod.snd

/-! ## What a look-up finds -/

/-- Nothing is found in the empty index. -/
@[simp]
theorem get?_empty (key : κ) : (empty : Index κ ν).get? key = none := rfl

/-- After an insertion the new value is found under its key and all else as before. -/
theorem get?_insert (index : Index κ ν) (key other : κ) (value : ν) :
    (index.insert key value).get? other = if key = other then some value else index.get? other := by
  obtain ⟨entries⟩ := index
  simp only [insert, get?]
  induction entries with
  | nil => simp [put, lookup]
  | cons entry rest ih =>
    obtain ⟨k, v⟩ := entry
    by_cases hk : k = key
    · subst hk
      by_cases ho : k = other <;> simp [put, lookup, ho]
    · by_cases ho : k = other
      · subst ho
        simp [put, lookup, hk, Ne.symm hk]
      · simp [put, lookup, hk, ho, ih]

/-- Erasing a key that was not there before its insertion restores the index. -/
theorem erase_insert {index : Index κ ν} {key : κ} (value : ν) (h : index.get? key = none) :
    (index.insert key value).erase key = index := by
  obtain ⟨entries⟩ := index
  simp only [get?] at h
  simp only [insert, erase, Index.mk.injEq]
  induction entries with
  | nil => simp [put, without]
  | cons entry rest ih =>
    obtain ⟨k, v⟩ := entry
    by_cases hk : k = key
    · simp [lookup, hk] at h
    · simp only [lookup, hk, if_false] at h
      simp [put, without, hk, ih h]

end Index
end BearerTokens
