import BearerTokens.Proofs.Number.Numeral
import BearerTokens.Proofs.Text.Pieces
import BearerTokens.Settings.Entries
import Mathlib.Data.List.Forall2

/-!
# Lists in the settings

The grammar that the lists of users and of tokens share.  The entries of a list
are its pieces between commas, without the blanks around them and without those
of which nothing is left then.  A list says some values when each of its
entries says one of them, in order.

Main results:

- Theorem {lit}`Entries.entries_eq_iff`: the entries of a list.
- Theorem {lit}`Entries.mapM_entries_eq_some_iff`: a list is read exactly when every
  entry says what is read of it.
- Theorem {lit}`Entries.positive?_eq_some_iff`: the numbers in an entry.
-/

namespace BearerTokens
namespace Entries

/-! ## The entries of a list -/

/-- The entries of a list: its pieces between commas, trimmed, as far as anything is
left of them. -/
def Lists (raw : List Char) (entries : List (List Char)) : Prop :=
  ∃ pieces cores, Text.Separates ',' raw pieces ∧ List.Forall₂ Text.Trims pieces cores ∧
    entries = cores.filter fun core => core ≠ []

/-- A list says values when its entries do, one each and in order. -/
def ListOf {α : Type} (meaning : List Char → α → Prop) (raw : String) (values : List α) : Prop :=
  ∃ entries, Lists raw.toList entries ∧ List.Forall₂ meaning entries values

/-- The cores of some pieces are the pieces trimmed. -/
theorem forall₂_trims_iff {pieces cores : List (List Char)} :
    List.Forall₂ Text.Trims pieces cores ↔ pieces.map Text.trim = cores := by
  rw [← List.forall₂_eq_eq_eq, List.forall₂_map_left_iff]
  simp only [Text.trim_eq_iff]

/-- The entries that are read of a list are its entries. -/
theorem entries_eq_iff {raw : String} {found : List (List Char)} :
    entries raw = found ↔ Lists raw.toList found := by
  have hfilter : ∀ cores : List (List Char),
      (cores.filter fun core => !core.isEmpty) = cores.filter fun core => core ≠ [] := by
    intro cores
    apply List.filter_congr
    intro core _
    cases core <;> rfl
  unfold entries Lists
  constructor
  · rintro rfl
    exact ⟨_, _, Text.split_eq_iff.mp rfl, forall₂_trims_iff.mpr rfl, hfilter _⟩
  · rintro ⟨pieces, cores, hpieces, hcores, rfl⟩
    rw [Text.split_eq_iff.mpr hpieces, forall₂_trims_iff.mp hcores, hfilter]

/-- A list has only one list of entries. -/
theorem Lists.unique {raw : String} {some others : List (List Char)} (h : Lists raw.toList some)
    (hother : Lists raw.toList others) : some = others :=
  (entries_eq_iff.mpr h).symm.trans (entries_eq_iff.mpr hother)

/-! ## The values of a list -/

section

variable {α β : Type} {read : α → Option β} {meaning : α → β → Prop}

/-- Values are read one by one exactly when each is what its own text says. -/
theorem mapM_eq_some_iff (hread : ∀ x value, read x = some value ↔ meaning x value)
    {xs : List α} {values : List β} :
    xs.mapM read = some values ↔ List.Forall₂ meaning xs values := by
  induction xs generalizing values with
  | nil =>
    rw [List.forall₂_nil_left_iff, List.mapM_nil]
    exact ⟨fun h => (Option.some.inj h).symm, fun h => congrArg some h.symm⟩
  | cons x rest ih =>
    rw [List.mapM_cons]
    constructor
    · intro h
      rcases Option.bind_eq_some_iff.mp h with ⟨value, hvalue, hrest⟩
      rcases Option.bind_eq_some_iff.mp hrest with ⟨others, hothers, hall⟩
      cases hall
      exact .cons ((hread x value).mp hvalue) (ih.mp hothers)
    · intro h
      cases h with
      | cons hvalue hrest =>
        rw [(hread _ _).mpr hvalue, ih.mpr hrest]
        rfl

end

section

variable {α : Type} {read : List Char → Option α} {meaning : List Char → α → Prop}

/-- A list is read exactly when it says what is read of it. -/
theorem mapM_entries_eq_some_iff
    (hread : ∀ entry value, read entry = some value ↔ meaning entry value)
    {raw : String} {values : List α} :
    (entries raw).mapM read = some values ↔ ListOf meaning raw values := by
  rw [mapM_eq_some_iff hread]
  constructor
  · intro h
    exact ⟨entries raw, entries_eq_iff.mp rfl, h⟩
  · rintro ⟨found, hfound, hvalues⟩
    rw [entries_eq_iff.mpr hfound]
    exact hvalues

end

/-- A list without entries says no values, and no other list does. -/
theorem listOf_nil_iff {α : Type} {meaning : List Char → α → Prop} {raw : String} :
    ListOf meaning raw [] ↔ Lists raw.toList [] := by
  constructor
  · rintro ⟨entries, hentries, hnil⟩
    rw [List.forall₂_nil_right_iff] at hnil
    rw [← hnil]
    exact hentries
  · intro h
    exact ⟨[], h, .nil⟩

/-- Every value of a list is one that an entry says. -/
theorem ListOf.exists_entry {α : Type} {meaning : List Char → α → Prop} {raw : String}
    {values : List α} (h : ListOf meaning raw values) {value : α} (hvalue : value ∈ values) :
    ∃ entry, meaning entry value := by
  rcases h with ⟨entries, -, hvalues⟩
  rcases List.mem_iff_getElem.mp hvalue with ⟨i, hi, rfl⟩
  exact ⟨_, hvalues.get (hvalues.length_eq ▸ hi) hi⟩

/-! ## The parts of an entry -/

/-- A part denotes a number above zero that fits a signed word of 64 bits. -/
structure Positive (part : List Char) (n : Int) : Prop where
  signed : Decimal.Signed part n
  pos : 0 < n
  le : n ≤ Number.maxSigned64

/-- A part is read as a number exactly when it denotes the number. -/
theorem positive?_eq_some_iff {part : List Char} {n : Int} :
    positive? part = some n ↔ Positive part n := by
  rw [positive?, Option.filter_eq_some_iff, Decimal.signed64?_eq_some_iff, decide_eq_true_eq]
  constructor
  · rintro ⟨⟨hsigned, -, hle⟩, hpos⟩
    exact ⟨hsigned, hpos, hle⟩
  · rintro ⟨hsigned, hpos, hle⟩
    refine ⟨⟨hsigned, ?_, hle⟩, hpos⟩
    simp only [Number.minSigned64]
    omega

/-- A part is read as a name exactly when it is the name and not empty. -/
theorem name?_eq_some_iff {part : List Char} {name : String} :
    name? part = some name ↔ name.toList = part ∧ name ≠ "" := by
  cases part with
  | nil =>
    simp only [name?, List.isEmpty_nil, if_true, reduceCtorEq, false_iff, not_and, not_not]
    exact fun h => String.toList_eq_nil_iff.mp h
  | cons c rest =>
    simp only [name?, List.isEmpty_cons, Bool.false_eq_true, if_false, Option.some.injEq]
    constructor
    · rintro rfl
      refine ⟨String.toList_ofList, ?_⟩
      intro h
      have htoList := congrArg String.toList h
      simp at htoList
    · rintro ⟨h, -⟩
      rw [← h, String.ofList_toList]

end Entries
end BearerTokens
