import BearerTokens.Proofs.Settings.UserList

/-!
# The list of tokens to be seeded

An entry of the list of tokens is an owner, a name and a lifetime in hours, and
nothing else.  A list of tokens can be written in many ways, with blanks around
its entries and with blank entries between them, and all of them are read back
as the list, except in production, where only a list without entries is read.

Main results:

- Theorem {lit}`Entries.seed?_eq_some_iff`: the entries that are read.
- Theorem {lit}`Entries.listOf_render`: a list says the tokens that it was written for.
- Theorem {lit}`Entries.seeds_read_back`: the lists that are read, and reading back.
-/

namespace BearerTokens
namespace Entries

/-! ## Entries -/

/-- An entry says a token: its owner, its name as it stands there, and its lifetime. -/
structure SeedEntry (entry : List Char) (seed : Seed) : Prop where
  parts : ∃ owner hours, Text.Separates ':' entry [owner, seed.name.toList, hours] ∧
    Positive owner seed.owner ∧ Positive hours seed.hours
  name_ne : seed.name ≠ ""

section

variable {entry : List Char} {seed : Seed}

/-- An entry is read exactly when it says the token that is read. -/
theorem seed?_eq_some_iff : seed? entry = some seed ↔ SeedEntry entry seed := by
  constructor
  · intro h
    unfold seed? at h
    split at h
    · next owner name hours hparts =>
      split at h
      · next n s m howner hname hhours =>
        cases h
        rcases name?_eq_some_iff.mp hname with ⟨rfl, hne⟩
        exact ⟨⟨owner, hours, Text.split_eq_iff.mp hparts, positive?_eq_some_iff.mp howner,
          positive?_eq_some_iff.mp hhours⟩, hne⟩
      · cases h
    · cases h
  · rintro ⟨⟨owner, hours, hparts, howner, hhours⟩, hne⟩
    have hname : name? seed.name.toList = some seed.name := name?_eq_some_iff.mpr ⟨rfl, hne⟩
    rw [seed?, Entries.parts, Text.split_eq_iff.mpr hparts]
    simp only [positive?_eq_some_iff.mpr howner, hname, positive?_eq_some_iff.mpr hhours]

end

/-! ## Lists -/

/-- The tokens of a list may be seeded: in production there are no entries. -/
def SeedsOf (production : Prop) (raw : String) (seeds : List Seed) : Prop :=
  ListOf SeedEntry raw seeds ∧ (production → Lists raw.toList [])

/-- A list is read exactly when its entries say the tokens that are read, and these
may be seeded. -/
theorem seeds?_eq_some_iff {raw : String} {production : Bool} {seeds : List Seed} :
    seeds? raw production = some seeds ↔ SeedsOf (production = true) raw seeds := by
  have hentries : ∀ found, (entries raw).mapM seed? = some found ↔ ListOf SeedEntry raw found :=
    fun found => mapM_entries_eq_some_iff fun _ _ => seed?_eq_some_iff
  have hempty : ListOf SeedEntry raw seeds → (Lists raw.toList [] ↔ seeds = []) := by
    intro hlist
    constructor
    · intro hnone
      rcases hlist with ⟨found, hfound, hvalues⟩
      rw [hfound.unique hnone, List.forall₂_nil_left_iff] at hvalues
      exact hvalues
    · rintro rfl
      exact listOf_nil_iff.mp hlist
  unfold seeds? SeedsOf
  constructor
  · intro h
    split at h
    · cases h
    · next found hfound =>
      split at h
      · cases h
      · next hallowed =>
        cases h
        have hlist := (hentries seeds).mp hfound
        refine ⟨hlist, fun hproduction => (hempty hlist).mpr ?_⟩
        simpa [hproduction] using hallowed
  · rintro ⟨hlist, hallowed⟩
    have hnone : production = true → seeds = [] := fun hproduction =>
      (hempty hlist).mp (hallowed hproduction)
    rw [(hentries seeds).mpr hlist]
    cases production with
    | false => rfl
    | true =>
      rw [hnone rfl]
      rfl

/-! ## Writing a list -/

end Entries

/-- The entry of a token: owner, name and hours, with colons between them. -/
def Seed.entry (seed : Seed) : List Char :=
  Text.join ':' [Decimal.digits seed.owner, seed.name.toList, Decimal.digits seed.hours]

/-- The entry of a token, seen from its owner. -/
theorem Seed.entry_eq (seed : Seed) :
    seed.entry = Decimal.digits seed.owner ++
      ':' :: (seed.name.toList ++ ':' :: Decimal.digits seed.hours) := rfl

/-- The entry of a token, seen from its hours. -/
theorem Seed.entry_eq_append (seed : Seed) :
    seed.entry = (Decimal.digits seed.owner ++ ':' :: (seed.name.toList ++ [':'])) ++
      Decimal.digits seed.hours := by
  simp [entry_eq]

/-- A token that an entry can say: positive words, and a name without separators. -/
structure Seed.Renderable (seed : Seed) : Prop where
  owner_pos : 0 < seed.owner
  owner_le : seed.owner ≤ Number.maxSigned64
  hours_pos : 0 < seed.hours
  hours_le : seed.hours ≤ Number.maxSigned64
  name_ne : seed.name ≠ ""
  comma : ',' ∉ seed.name.toList
  colon : ':' ∉ seed.name.toList

namespace Entries

/-- A place of a list: blanks, and between them a token or nothing. -/
structure Place where
  before : List Char
  seed : Option Seed
  after : List Char

/-- What stands between the blanks of a place. -/
def Place.core (place : Place) : List Char :=
  place.seed.elim [] Seed.entry

/-- The text of a place. -/
def Place.text (place : Place) : List Char :=
  place.before ++ place.core ++ place.after

/-- A place has blanks around a token that an entry can say, if it has one. -/
structure Place.Renderable (place : Place) : Prop where
  before : Text.Blanks place.before
  after : Text.Blanks place.after
  seed : ∀ seed ∈ place.seed, seed.Renderable

/-- A list written place by place, with commas between them. -/
def render (places : List Place) : String :=
  String.ofList (Text.join ',' (places.map Place.text))

/-! ## Characters of an entry -/

/-- The digits of a positive number that fits denote it. -/
theorem positive_digits {n : Int} (hpos : 0 < n) (hle : n ≤ Number.maxSigned64) :
    Positive (Decimal.digits n) n := by
  refine ⟨?_, hpos, hle⟩
  cases n with
  | ofNat m => exact .unsigned (.plain (Decimal.digits_naturalDigits m))
  | negSucc m => exact absurd hpos (by omega)

/-- A positive number is written in digits. -/
theorem isDigit_of_mem_digits {n : Int} (hpos : 0 < n) {c : Char} (hc : c ∈ Decimal.digits n) :
    c.isDigit = true := by
  cases n with
  | ofNat m => exact (Decimal.digits_naturalDigits m).digit c hc
  | negSucc m => exact absurd hpos (by omega)

/-- A number is written in at least one character. -/
theorem digits_ne_nil (n : Int) : Decimal.digits n ≠ [] := by
  cases n with
  | ofNat m => exact (Decimal.digits_naturalDigits m).ne_nil
  | negSucc m => exact List.cons_ne_nil _ _

/-- A digit is no separator and not blank. -/
theorem not_special_of_isDigit {c : Char} (h : c.isDigit = true) :
    c ≠ ',' ∧ c ≠ ':' ∧ Text.isBlank c = false := by
  refine ⟨?_, ?_, ?_⟩
  · rintro rfl
    exact absurd h (by decide)
  · rintro rfl
    exact absurd h (by decide)
  · have hlow : 48 ≤ c.toNat := (Char.isDigit_iff_toNat.mp h).1
    have hhigh : c.toNat ≤ 57 := (Char.isDigit_iff_toNat.mp h).2
    exact Text.isBlank_eq_false_of_visible (by omega) (by omega)

section

variable {seed : Seed} (h : seed.Renderable)

include h

/-- The entry of a token consists of its three parts. -/
theorem separates_entry :
    Text.Separates ':' seed.entry
      [Decimal.digits seed.owner, seed.name.toList, Decimal.digits seed.hours] := by
  refine ⟨List.cons_ne_nil _ _, ?_, rfl⟩
  have hdigits : ∀ n : Int, 0 < n → ':' ∉ Decimal.digits n := fun n hpos hmem =>
    (not_special_of_isDigit (isDigit_of_mem_digits hpos hmem)).2.1 rfl
  intro part hpart
  simp only [List.mem_cons, List.not_mem_nil, or_false] at hpart
  rcases hpart with rfl | rfl | rfl
  · exact hdigits _ h.owner_pos
  · exact h.colon
  · exact hdigits _ h.hours_pos

/-- The entry of a token says it. -/
theorem seedEntry_entry : SeedEntry seed.entry seed :=
  ⟨⟨_, _, separates_entry h, positive_digits h.owner_pos h.owner_le,
    positive_digits h.hours_pos h.hours_le⟩, h.name_ne⟩

/-- The entry of a token contains no comma. -/
theorem comma_not_mem_entry : ',' ∉ seed.entry := by
  have hdigits : ∀ n : Int, 0 < n → ',' ∉ Decimal.digits n := fun n hpos hmem =>
    (not_special_of_isDigit (isDigit_of_mem_digits hpos hmem)).1 rfl
  have howner := hdigits _ h.owner_pos
  have hhours := hdigits _ h.hours_pos
  simp [Seed.entry, Text.join, howner, h.comma, hhours]

/-- The entry of a token begins and ends with a digit, so that nothing of it is trimmed. -/
theorem trims_entry : Text.Trims seed.entry seed.entry := by
  have hblank : ∀ n : Int, 0 < n → ∀ c ∈ Decimal.digits n, Text.isBlank c = false :=
    fun n hpos c hc => (not_special_of_isDigit (isDigit_of_mem_digits hpos hc)).2.2
  apply Text.Trims.self
  · intro c hc
    rw [seed.entry_eq, List.head?_append_of_ne_nil _ (digits_ne_nil seed.owner)] at hc
    exact hblank _ h.owner_pos c (List.mem_of_mem_head? hc)
  · intro c hc
    rw [seed.entry_eq_append, List.getLast?_append_of_ne_nil _ (digits_ne_nil seed.hours)] at hc
    exact hblank _ h.hours_pos c (List.mem_of_mem_getLast? hc)

end

/-! ## Reading back -/

section

variable {place : Place}

/-- A place is trimmed to what stands between its blanks. -/
theorem Place.Renderable.trims (h : place.Renderable) : Text.Trims place.text place.core := by
  have hcore : Text.Trims place.core place.core := by
    rw [Place.core]
    cases hseed : place.seed with
    | none => exact Text.trim_eq_iff.mp rfl
    | some seed => exact trims_entry (h.seed seed hseed)
  exact hcore.pad h.before h.after

/-- A place contains no comma. -/
theorem Place.Renderable.comma (h : place.Renderable) : ',' ∉ place.text := by
  have hblanks : ∀ cs, Text.Blanks cs → ',' ∉ cs := fun cs hcs hmem =>
    absurd (hcs ',' hmem) (by decide)
  have hcore : ',' ∉ place.core := by
    rw [Place.core]
    cases hseed : place.seed with
    | none => exact List.not_mem_nil
    | some seed => exact comma_not_mem_entry (h.seed seed hseed)
  simp [Place.text, hblanks _ h.before, hcore, hblanks _ h.after]

end

section

variable {places : List Place} (h : ∀ place ∈ places, place.Renderable)

include h

/-- The entries of a written list are those of its tokens. -/
theorem lists_render :
    Lists (render places).toList ((places.filterMap Place.seed).map Seed.entry) := by
  have hfilter : ((places.map Place.core).filter fun core => core ≠ []) =
      (places.filterMap Place.seed).map Seed.entry := by
    clear h
    induction places with
    | nil => rfl
    | cons place rest ih =>
      rw [List.map_cons, List.filterMap_cons, Place.core]
      cases place.seed with
      | none => exact ih
      | some seed =>
        have hne : seed.entry ≠ [] := by simp [seed.entry_eq]
        rw [Option.elim_some, List.filter_cons_of_pos (by simp [hne]), ih]
        rfl
  rw [render, String.toList_ofList]
  cases hplaces : places with
  | nil =>
    -- The list without places is the empty text, which has one piece all the same.
    exact ⟨[[]], [[]], Text.split_eq_iff.mp rfl, .cons (Text.trim_eq_iff.mp rfl) .nil, rfl⟩
  | cons place rest =>
    rw [← hplaces]
    refine ⟨places.map Place.text, places.map Place.core, ⟨?_, ?_, rfl⟩, ?_, hfilter.symm⟩
    · simp [hplaces]
    · intro part hpart
      rcases List.mem_map.mp hpart with ⟨other, hother, rfl⟩
      exact (h other hother).comma
    · rw [List.forall₂_map_left_iff, List.forall₂_map_right_iff, List.forall₂_same]
      exact fun other hother => (h other hother).trims

/-- A written list says the tokens that it was written for. -/
theorem listOf_render : ListOf SeedEntry (render places) (places.filterMap Place.seed) := by
  refine ⟨_, lists_render h, ?_⟩
  rw [List.forall₂_map_left_iff, List.forall₂_same]
  intro seed hseed
  rcases List.mem_filterMap.mp hseed with ⟨place, hplace, hsome⟩
  exact seedEntry_entry ((h place hplace).seed seed hsome)

end

/--
A list is read as tokens exactly when its entries, in order, say them, and when it has no
entries at all in production; a list that cannot be read stops the reading of the settings at
its variable.  However a list of tokens is written, with blanks around the entries and with
blank entries, it is read back as the list, and is refused in production unless it is empty.
-/
theorem seeds_read_back :
    (∀ raw production seeds,
        seeds? raw production = some seeds ↔
          ListOf SeedEntry raw seeds ∧ (production = true → Lists raw.toList [])) ∧
      (∀ raw production, ∀ vars : Variables,
        Settings.readSeeds (vars.set "DEV_TOKENS" (Utf8.encode raw)) production =
            .error (.invalid .devTokens) ↔
          ∀ seeds, ¬ SeedsOf (production = true) raw seeds) ∧
      ∀ places : List Place, (∀ place ∈ places, place.Renderable) →
        seeds? (render places) false = some (places.filterMap Place.seed) ∧
        seeds? (render places) true =
          if places.filterMap Place.seed = [] then some [] else none := by
  refine ⟨fun _ _ _ => seeds?_eq_some_iff, ?_, ?_⟩
  · intro raw production vars
    have hset : (vars.set "DEV_TOKENS" (Utf8.encode raw)).get? Variable.devTokens.name = some raw :=
      vars.get?_set "DEV_TOKENS" raw
    have hnone : seeds? raw production = none ↔
        ∀ seeds, ¬ SeedsOf (production = true) raw seeds := by
      simp only [Option.eq_none_iff_forall_ne_some, ne_eq, seeds?_eq_some_iff]
    rw [Settings.readSeeds, hset, Option.getD_some, ← hnone]
    cases seeds? raw production with
    | none => exact iff_of_true rfl rfl
    | some seeds => exact iff_of_false (fun h => by cases h) (fun h => by cases h)
  · intro places h
    have hlist := listOf_render h
    refine ⟨seeds?_eq_some_iff.mpr ⟨hlist, fun hfalse => by cases hfalse⟩, ?_⟩
    split
    · next hempty =>
      rw [hempty] at hlist
      exact seeds?_eq_some_iff.mpr ⟨hlist, fun _ => listOf_nil_iff.mp hlist⟩
    · next hsome =>
      rw [Option.eq_none_iff_forall_ne_some]
      intro seeds hread
      have hallowed := (seeds?_eq_some_iff.mp hread).2 rfl
      have hentries := (lists_render h).unique hallowed
      exact hsome (List.map_eq_nil_iff.mp hentries)

/-- Places with blanks of several kinds, blanks in a name, a word as large as it can
be and no token. -/
def paddedPlaces : List Place :=
  [⟨[' '], some ⟨1, " a b ", 24⟩, ['\t']⟩, ⟨[], none, []⟩,
    ⟨[Char.ofNat 0x3000], some ⟨9223372036854775807, "日", 1⟩, []⟩, ⟨['\n'], none, [' ']⟩]

/-- The tokens of these places are read back of their text, and refused in production. -/
theorem seeds_read_back_paddedPlaces :
    (∀ place ∈ paddedPlaces, place.Renderable) ∧
      seeds? " 1: a b :24\t,,\u30009223372036854775807:日:1,\n " false =
        some [⟨1, " a b ", 24⟩, ⟨9223372036854775807, "日", 1⟩] ∧
      seeds? " 1: a b :24\t,,\u30009223372036854775807:日:1,\n " true = none := by
  have hblanks : ∀ place ∈ paddedPlaces,
      (place.before ++ place.after).all Text.isBlank = true := by decide
  have hseeds : ∀ place ∈ paddedPlaces, ∀ seed ∈ place.seed, seed.Renderable := by
    intro place hplace seed hseed
    simp only [paddedPlaces, List.mem_cons, List.not_mem_nil, or_false] at hplace
    rcases hplace with rfl | rfl | rfl | rfl
    · cases hseed
      constructor <;> decide
    · cases hseed
    · cases hseed
      constructor <;> decide
    · cases hseed
  have hplaces : ∀ place ∈ paddedPlaces, place.Renderable := by
    intro place hplace
    have hall := List.all_eq_true.mp (hblanks place hplace)
    exact ⟨fun c hc => hall c (List.mem_append_left _ hc),
      fun c hc => hall c (List.mem_append_right _ hc), hseeds place hplace⟩
  have htext : render paddedPlaces =
      " 1: a b :24\t,,\u30009223372036854775807:日:1,\n " := by decide +kernel
  have hread := seeds_read_back.2.2 paddedPlaces hplaces
  rw [htext] at hread
  exact ⟨hplaces, hread.1, hread.2⟩

end Entries
end BearerTokens
