import BearerTokens.Settings.Basic

/-!
# What the settings say

Settings that can be read hold, for each group of variables, what its own reader makes of
it, and in particular one user and one seed for each entry of their lists, in order.  In
the directory of these users the last entry about a number counts.

Main results:

- Theorem {lit}`Settings.read_eq_ok_iff`: the settings, group by group.
- Theorems {lit}`Settings.Reads.map_seed?` and {lit}`Settings.Reads.map_user?`: a seed or a
  user for each entry.
- Theorem {lit}`Entries.get?_ofList`: the directory of a list of entries.
-/

namespace BearerTokens

namespace Settings

/-! ## Groups of variables -/

/-- The settings hold what the readers make of the variables. -/
structure Reads (vars : Variables) (settings : Settings) : Prop where
  port : readNumber vars .port Number.maxUnsigned16 3000 = .ok settings.port
  production : settings.production = isProduction (vars.get? Variable.environment.name)
  store : readStore vars = .ok settings.store
  authEnabled : readAuthEnabled vars = .ok settings.authEnabled
  lookupTimeout : readPositive vars .lookupTimeout Number.maxUnsigned64 2000 =
    .ok settings.lookupTimeout
  requestTimeout : readPositive vars .requestTimeout Number.maxUnsigned64 30 =
    .ok settings.requestTimeout
  seeds : readSeeds vars settings.production = .ok settings.seeds

/-- A step of a reading that succeeds has a result, with which the reading goes on. -/
theorem bind_eq_ok_iff {ε α β : Type} {first : Except ε α} {next : α → Except ε β} {value : β} :
    (first >>= next) = .ok value ↔ ∃ result, first = .ok result ∧ next result = .ok value := by
  cases first with
  | error cause =>
    constructor
    · intro h
      cases h
    · rintro ⟨result, h, -⟩
      cases h
  | ok result =>
    constructor
    · intro h
      exact ⟨result, rfl, h⟩
    · rintro ⟨_, ⟨⟩, h⟩
      exact h

/-- The settings are read exactly when every group of variables can be read. -/
theorem read_eq_ok_iff {vars : Variables} {settings : Settings} :
    read vars = .ok settings ↔ Reads vars settings := by
  unfold read
  simp only [bind_eq_ok_iff]
  constructor
  · rintro ⟨port, hport, store, hstore, authEnabled, hauth, lookup, hlookup, request, hrequest,
      seeds, hseeds, hread⟩
    cases hread
    exact ⟨hport, rfl, hstore, hauth, hlookup, hrequest, hseeds⟩
  · intro h
    refine ⟨_, h.port, _, h.store, _, h.authEnabled, _, h.lookupTimeout, _, h.requestTimeout,
      settings.seeds, ?_, ?_⟩
    · rw [← h.production]
      exact h.seeds
    · rw [← h.production]
      rfl

/-- The filter is switched off exactly when its variable says so. -/
theorem Reads.authEnabled_eq_false_iff {vars : Variables} {settings : Settings}
    (h : Reads vars settings) :
    settings.authEnabled = false ↔
      (vars.get? Variable.authEnabled.name).bind readSwitch = some false := by
  have hread := h.authEnabled
  unfold readAuthEnabled at hread
  cases hraw : vars.get? Variable.authEnabled.name with
  | none =>
    rw [hraw] at hread
    rw [← Except.ok.inj hread]
    simp
  | some raw =>
    rw [hraw] at hread
    rw [Option.bind_some]
    cases hswitch : readSwitch raw with
    | none =>
      simp only [hswitch] at hread
      cases hread
    | some enabled =>
      simp only [hswitch] at hread
      rw [← Except.ok.inj hread, Option.some.injEq]

end Settings

/-! ## Entries -/

/-- The entries of the list of users. -/
def Variables.userEntries (vars : Variables) : List (List Char) :=
  Entries.entries ((vars.get? Variable.devUsers.name).getD "")

/-- The entries of the list of tokens to be seeded. -/
def Variables.tokenEntries (vars : Variables) : List (List Char) :=
  Entries.entries ((vars.get? Variable.devTokens.name).getD "")

/-- The owner and the name of a seed. -/
def Seed.key (seed : Seed) : Int × String := (seed.owner, seed.name)

namespace Entries

/-- The owner and the name that an entry is about, if it is that of a token. -/
def key? (entry : List Char) : Option (Int × String) :=
  (seed? entry).map Seed.key

/-- The number that an entry is about, if it is that of a user. -/
def id? (entry : List Char) : Option Int :=
  (user? entry).map User.id

/-- The last entry about a number. -/
def lastAbout? (id : Int) (entries : List (List Char)) : Option (List Char) :=
  entries.reverse.find? fun entry => id? entry = some id

/-- An entry says that its user may not sign in. -/
def Disabled (entry : List Char) : Prop :=
  (parts entry)[2]? = some "disabled".toList

/-- Values that are all there are those of the entries in order. -/
theorem map_of_mapM {α β : Type} {f : α → Option β} {xs : List α} {values : List β}
    (h : xs.mapM f = some values) : xs.map f = values.map some := by
  induction xs generalizing values with
  | nil =>
    cases h
    rfl
  | cons x rest ih =>
    rw [List.mapM_cons] at h
    rcases Option.bind_eq_some_iff.mp h with ⟨value, hvalue, hrest⟩
    rcases Option.bind_eq_some_iff.mp hrest with ⟨others, hothers, hall⟩
    cases hall
    rw [List.map_cons, List.map_cons, hvalue, ih hothers]

/-- The owners and names of the entries are those of their seeds. -/
theorem filterMap_key? {entries : List (List Char)} {seeds : List Seed}
    (h : entries.map seed? = seeds.map some) : entries.filterMap key? = seeds.map Seed.key := by
  have hkeys := congrArg (List.filterMap fun seed => seed.map Seed.key) h
  rw [List.filterMap_map, List.filterMap_map] at hkeys
  exact hkeys.trans (congrFun List.filterMap_eq_map seeds)

/-- The first entry about an owner and a name is that of the first seed with them. -/
theorem findIdx?_key? {entries : List (List Char)} {seeds : List Seed}
    (h : entries.map seed? = seeds.map some) (key : Int × String) :
    (entries.findIdx? fun entry => key? entry = some key) =
      seeds.findIdx? fun seed => seed.key = key := by
  have hindex := congrArg (List.findIdx? fun seed => seed.map Seed.key = some key) h
  simpa [key?, Function.comp_def] using hindex

/-- The seed of the entry at a place is the seed at this place. -/
theorem getElem?_bind_seed? {entries : List (List Char)} {seeds : List Seed}
    (h : entries.map seed? = seeds.map some) (i : Nat) : entries[i]?.bind seed? = seeds[i]? := by
  have hplace := congrArg (fun found => found[i]?) h
  simp only [List.getElem?_map] at hplace
  cases hentry : entries[i]? with
  | none =>
    rw [hentry] at hplace
    exact (Option.map_eq_none_iff.mp hplace.symm).symm
  | some entry =>
    rw [hentry] at hplace
    rcases Option.map_eq_some_iff.mp hplace.symm with ⟨seed, hseed, hread⟩
    rw [hseed]
    exact hread.symm

/-- A user may sign in unless its entry says otherwise. -/
theorem enabled_eq_false_iff {entry : List Char} {user : User} (h : user? entry = some user) :
    user.enabled = false ↔ Disabled entry := by
  unfold user? at h
  unfold Disabled
  split at h
  · next id name rest hparts =>
    rw [hparts]
    split at h
    · next number word enabled _ _ henabled =>
      rw [← Option.some.inj h]
      change enabled = false ↔ _
      cases rest with
      | nil =>
        rw [← Option.some.inj henabled]
        simp
      | cons part others =>
        simp only [enabled?] at henabled
        split at henabled
        · next hpart =>
          rw [← Option.some.inj henabled, hpart]
          simp
        · cases henabled
    · cases h
  · cases h

end Entries

namespace Settings

variable {vars : Variables} {settings : Settings}

/-- There is a seed for each entry of a token, in order. -/
theorem Reads.map_seed? (h : Reads vars settings) :
    vars.tokenEntries.map Entries.seed? = settings.seeds.map some := by
  have hseeds := h.seeds
  unfold readSeeds at hseeds
  split at hseeds
  · cases hseeds
  · next seeds hread =>
    cases hseeds
    unfold Entries.seeds? at hread
    split at hread
    · cases hread
    · next read hmapM =>
      split at hread
      · cases hread
      · rw [← Option.some.inj hread]
        exact Entries.map_of_mapM hmapM

/-- A database has no list of users. -/
theorem readPostgres_ne_memory (vars : Variables) (users : List User) :
    readPostgres vars ≠ .ok (.memory users) := by
  intro h
  unfold readPostgres at h
  split at h
  · cases h
  · split at h
    · cases h
    · cases h

/-- There is a user for each entry of a user, in order. -/
theorem Reads.map_user? (h : Reads vars settings) {users : List User}
    (hmemory : settings.store = .memory users) :
    vars.userEntries.map Entries.user? = users.map some := by
  have hstore := h.store
  rw [hmemory, readStore] at hstore
  split at hstore
  · exact absurd hstore (readPostgres_ne_memory vars users)
  · split at hstore
    · unfold readMemory at hstore
      split at hstore
      · cases hstore
      · next read hmapM =>
        cases hstore
        exact Entries.map_of_mapM hmapM
    · cases hstore

end Settings

/-! ## The directory -/

namespace UserDirectory

/-- Of users that are added in order, the last of a number is found. -/
theorem get?_foldl_insert (users : List User) (directory : UserDirectory) (id : Int) :
    (users.foldl insert directory).users.get? id =
      (users.reverse.find? fun user => user.id = id).or (directory.users.get? id) := by
  induction users generalizing directory with
  | nil => rfl
  | cons user rest ih =>
    rw [List.foldl_cons, ih, List.reverse_cons, List.find?_append, Option.or_assoc]
    congr 1
    rw [insert, Index.get?_insert]
    by_cases hid : user.id = id
    · simp [hid]
    · simp [hid]

/-- In the directory of a list, the last user of a number is found. -/
theorem get?_ofList (users : List User) (id : Int) :
    (ofList users).users.get? id = users.reverse.find? fun user => user.id = id := by
  rw [ofList, get?_foldl_insert, Index.get?_empty, Option.or_none]

end UserDirectory

/-- The last entry about a number is that of the last user with it. -/
theorem Entries.map_lastAbout? {entries : List (List Char)} {users : List User}
    (h : entries.map user? = users.map some) (id : Int) :
    (lastAbout? id entries).map user? =
      (users.reverse.find? fun user => user.id = id).map some := by
  have hfind := congrArg
    (fun found => found.reverse.find? fun user => user.map User.id = some id) h
  simp only [← List.map_reverse, List.find?_map] at hfind
  simpa [lastAbout?, id?, Function.comp_def] using hfind

/-- The directory of a list of entries finds the user of the last entry about a number. -/
theorem Entries.get?_ofList {entries : List (List Char)} {users : List User}
    (h : entries.map user? = users.map some) (id : Int) :
    (UserDirectory.ofList users).users.get? id = (lastAbout? id entries).bind user? := by
  have hlast := map_lastAbout? h id
  rw [UserDirectory.get?_ofList]
  cases hfound : lastAbout? id entries with
  | none =>
    rw [hfound] at hlast
    exact Option.map_eq_none_iff.mp hlast.symm
  | some entry =>
    rw [hfound, Option.map_some] at hlast
    rcases Option.map_eq_some_iff.mp hlast.symm with ⟨user, huser, hentry⟩
    rw [huser, Option.bind_some, hentry]

end BearerTokens
