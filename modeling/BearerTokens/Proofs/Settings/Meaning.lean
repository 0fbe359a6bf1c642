import BearerTokens.Proofs.Settings.Reading
import BearerTokens.Proofs.Settings.TokenList

/-!
# What the variables mean

The texts of the variables, each with the values that it means, said without the
functions that read them.  A variable that is not set means its default.  The
reading of the settings consists of readings of single variables: each of these
gives the value that its variable means, and blames the variable when it means
none.

Main results:

- Theorems {lit}`Settings.decides_readNumber`, {lit}`Settings.decides_readPositive`,
  {lit}`Settings.decides_readKind`, {lit}`Settings.decides_readUrl`,
  {lit}`Settings.decides_readUsers`, {lit}`Settings.decides_readAuthEnabled` and
  {lit}`Settings.decides_readSeeds`: the readings of single variables.
- Theorem {lit}`Settings.readStore_eq`: the reading of a store consists of such readings.
- Theorem {lit}`Settings.read_eq_ok_iff_conforms`: the settings that are read are those
  that the texts of the variables mean.
- Theorem {lit}`Settings.Conforms.sound`: what holds of all settings that are read.
-/

namespace BearerTokens

/-- What kind of store keeps the tokens. -/
inductive StoreKind where
  | postgres
  | memory

/-- The word for a kind of store. -/
def StoreKind.word : StoreKind → String
  | .postgres => "postgres"
  | .memory => "memory"

/-- The kind of a store. -/
def StoreSettings.kind : StoreSettings → StoreKind
  | .postgres _ _ => .postgres
  | .memory _ => .memory

/-- The texts of the variables that are set. -/
abbrev Texts := Variable → Option String

/-- The texts of variables; what is not text counts as not set. -/
def Variables.texts (vars : Variables) : Texts :=
  fun key => vars.get? key.name

/-- A variable has a text exactly when it is set to the bytes of the text. -/
theorem Variables.texts_eq_some_iff {vars : Variables} {key : Variable} {text : String} :
    vars.texts key = some text ↔ vars.values.get? key.name = some (Utf8.encode text) := by
  rw [texts, get?, Option.bind_eq_some_iff]
  simp only [Utf8.decode?_eq_some_iff]
  constructor
  · rintro ⟨bytes, hbytes, rfl⟩
    exact hbytes
  · intro h
    exact ⟨_, h, rfl⟩

namespace Settings

/-! ## Words and numbers -/

/-- A text is a word in any letter case, with blanks around it. -/
def IsWord (word text : String) : Prop :=
  ∃ core, Text.Trims text.toList core ∧ String.ofList (core.map Char.toLower) = word

/-- A text is a number up to a bound, with blanks around it. -/
def NumberUpTo (bound : Nat) (text : String) (n : Nat) : Prop :=
  ∃ core, Text.Trims text.toList core ∧ Decimal.Unsigned core n ∧ n ≤ bound

/-- A text is a number above zero and up to a bound, with blanks around it. -/
def PositiveUpTo (bound : Nat) (text : String) (n : Nat) : Prop :=
  NumberUpTo bound text n ∧ 0 < n

/-- The words for a switch that is on or off. -/
def switchWords : Bool → List String
  | true => ["true", "1", "yes", "on"]
  | false => ["false", "0", "no", "off"]

/-- A text is a word for a switch. -/
def Switch (text : String) (enabled : Bool) : Prop :=
  ∃ word ∈ switchWords enabled, IsWord word text

/-- A text is the word for a kind of store, in any letter case, and nothing else. -/
def Spells (text : String) (kind : StoreKind) : Prop :=
  lowerCase text = kind.word

/-- A text is a word for production, in any letter case, and nothing else. -/
def SpellsProduction (text : String) : Prop :=
  lowerCase text = "production" ∨ lowerCase text = "prod"

/-- A text is a word exactly when the word is left of it, trimmed and in lower case. -/
theorem isWord_iff {word text : String} :
    IsWord word text ↔ String.ofList ((Text.trim text.toList).map Char.toLower) = word := by
  constructor
  · rintro ⟨core, hcore, rfl⟩
    rw [Text.trim_eq_iff.mpr hcore]
  · intro h
    exact ⟨_, Text.trims_trim text.toList, h⟩

/-- A text is read as a switch exactly when it is a word for it. -/
theorem readSwitch_eq_some_iff {text : String} {enabled : Bool} :
    readSwitch text = some enabled ↔ Switch text enabled := by
  have hwords : Switch text enabled ↔
      String.ofList ((Text.trim text.toList).map Char.toLower) ∈ switchWords enabled := by
    simp only [Switch, isWord_iff, exists_eq_right']
  rw [hwords, readSwitch]
  generalize String.ofList ((Text.trim text.toList).map Char.toLower) = word
  constructor
  · intro h
    split at h
    · next hon =>
      cases h
      simpa [switchWords] using hon
    · split at h
      · next hoff =>
        cases h
        simpa [switchWords] using hoff
      · cases h
  · intro h
    cases enabled with
    | true =>
      rw [if_pos (by simpa [switchWords] using h)]
    | false =>
      simp only [switchWords, List.mem_cons, List.not_mem_nil, or_false] at h
      rw [if_neg, if_pos h]
      rcases h with rfl | rfl | rfl | rfl <;> decide

/-- A text is read as a number exactly when it is one. -/
theorem bounded?_trim_eq_some_iff {bound n : Nat} {text : String} :
    Decimal.bounded? bound (Text.trim text.toList) = some n ↔ NumberUpTo bound text n := by
  rw [Decimal.bounded?_eq_some_iff]
  constructor
  · intro h
    exact ⟨_, Text.trims_trim text.toList, h⟩
  · rintro ⟨core, hcore, h⟩
    rw [Text.trim_eq_iff.mpr hcore]
    exact h

/-! ## Values of variables -/

/-- The value of a variable is one that its text means, or the default if it is not set. -/
def Taken {α : Type} (meaning : String → α → Prop) (default : α) (raw : Option String)
    (value : α) : Prop :=
  match raw with
  | none => value = default
  | some text => meaning text value

/-- A variable that is not set may have a text that means its default instead. -/
theorem taken_iff_getD {α : Type} {meaning : String → α → Prop} {default value : α}
    {fallback : String} (hfallback : meaning fallback value ↔ value = default)
    (raw : Option String) :
    Taken meaning default raw value ↔ meaning (raw.getD fallback) value := by
  cases raw with
  | none => exact hfallback.symm
  | some text => exact Iff.rfl

/-- The empty text is a list without values. -/
theorem listOf_empty_iff {α : Type} {meaning : List Char → α → Prop} {values : List α} :
    Entries.ListOf meaning "" values ↔ values = [] := by
  have hnone : Entries.Lists "".toList [] := Entries.entries_eq_iff.mp rfl
  constructor
  · rintro ⟨entries, hentries, hvalues⟩
    rw [hentries.unique hnone, List.forall₂_nil_left_iff] at hvalues
    exact hvalues
  · rintro rfl
    exact Entries.listOf_nil_iff.mpr hnone

/-- The empty text is a list without tokens, which may always be seeded. -/
theorem seedsOf_empty_iff {production : Prop} {seeds : List Seed} :
    Entries.SeedsOf production "" seeds ↔ seeds = [] := by
  constructor
  · intro h
    exact listOf_empty_iff.mp h.1
  · intro h
    exact ⟨listOf_empty_iff.mpr h, fun _ => Entries.entries_eq_iff.mp rfl⟩

/-! ## Reading one variable -/

/-- A reading gives the values that are meant, and blames one cause when there are none. -/
structure Decides {α : Type} (meant : α → Prop) (cause : SettingsError)
    (result : Except SettingsError α) : Prop where
  ok_iff : ∀ value, result = .ok value ↔ meant value
  error_eq : ∀ other, result = .error other → other = cause

section

variable {α : Type} {meant : α → Prop} {cause : SettingsError} {result : Except SettingsError α}

/-- A reading fails exactly when no value is meant. -/
theorem Decides.error_iff (h : Decides meant cause result) (other : SettingsError) :
    result = .error other ↔ (∀ value, ¬ meant value) ∧ other = cause := by
  constructor
  · intro herror
    refine ⟨fun value hvalue => ?_, h.error_eq other herror⟩
    rw [(h.ok_iff value).mpr hvalue] at herror
    cases herror
  · rintro ⟨hnone, rfl⟩
    cases hresult : result with
    | ok value => exact absurd ((h.ok_iff value).mp hresult) (hnone value)
    | error found => rw [h.error_eq found hresult]

/-- A reading of one value. -/
theorem Decides.of_ok {value : α} (hmeant : ∀ other, meant other ↔ other = value) :
    Decides meant cause (.ok value) := by
  constructor
  · intro other
    rw [hmeant, Except.ok.injEq, eq_comm]
  · intro other h
    cases h

/-- A reading where there is no value. -/
theorem Decides.of_error (hmeant : ∀ other, ¬ meant other) :
    Decides meant cause (.error cause) := by
  constructor
  · intro other
    exact iff_of_false (fun h => by cases h) (hmeant other)
  · intro other h
    exact (Except.error.inj h).symm

/-- An optional value, with a cause to blame if there is none. -/
theorem Decides.of_option (found : Option α) (hmeant : ∀ value, found = some value ↔ meant value)
    (hnone : found = none → result = .error cause)
    (hsome : ∀ value, found = some value → result = .ok value) : Decides meant cause result := by
  cases hfound : found with
  | none =>
    rw [hnone hfound]
    refine .of_error fun other h => ?_
    rw [(hmeant other).mpr h] at hfound
    cases hfound
  | some value =>
    rw [hsome value hfound]
    refine .of_ok fun other => ?_
    rw [← hmeant other, hfound, Option.some.injEq, eq_comm]

end

/-- The reading of a number. -/
theorem decides_readNumber (vars : Variables) (key : Variable) (bound default : Nat) :
    Decides (Taken (NumberUpTo bound) default (vars.texts key)) (.invalid key)
      (readNumber vars key bound default) := by
  unfold readNumber Variables.texts
  cases vars.get? key.name with
  | none => exact .of_ok fun other => Iff.rfl
  | some raw =>
    apply Decides.of_option _ fun value => bounded?_trim_eq_some_iff
    · intro hnone
      simp only [hnone]
    · intro value hvalue
      simp only [hvalue]

/-- A number that is taken is above zero exactly when it is taken of the numbers above zero. -/
theorem taken_positive_iff {bound default n : Nat} (hdefault : 0 < default) (raw : Option String) :
    Taken (PositiveUpTo bound) default raw n ↔ Taken (NumberUpTo bound) default raw n ∧ 0 < n := by
  cases raw with
  | none =>
    refine ⟨?_, And.left⟩
    rintro rfl
    exact ⟨rfl, hdefault⟩
  | some text => exact Iff.rfl

/-- The reading of a number above zero. -/
theorem decides_readPositive (vars : Variables) (key : Variable) (bound default : Nat)
    (hdefault : 0 < default) :
    Decides (Taken (PositiveUpTo bound) default (vars.texts key)) (.invalid key)
      (readPositive vars key bound default) := by
  have hnumber := decides_readNumber vars key bound default
  unfold readPositive
  cases hread : readNumber vars key bound default with
  | error cause =>
    rcases (hnumber.error_iff cause).mp hread with ⟨hnone, rfl⟩
    refine .of_error fun n h => hnone n ((taken_positive_iff hdefault _).mp h).1
  | ok n =>
    have honly : ∀ other, Taken (NumberUpTo bound) default (vars.texts key) other ↔ other = n := by
      intro other
      rw [← hnumber.ok_iff other, hread, Except.ok.injEq, eq_comm]
    dsimp only
    split
    · next hzero =>
      refine .of_error fun other h => ?_
      have hother := (taken_positive_iff hdefault _).mp h
      exact absurd ((honly other).mp hother.1) (by omega)
    · next hpos =>
      refine .of_ok fun other => ?_
      rw [taken_positive_iff hdefault, honly]
      omega

/-- The reading of the switch. -/
theorem decides_readAuthEnabled (vars : Variables) :
    Decides (Taken Switch true (vars.texts .authEnabled)) (.invalid .authEnabled)
      (readAuthEnabled vars) := by
  unfold readAuthEnabled Variables.texts
  cases vars.get? Variable.authEnabled.name with
  | none => exact .of_ok fun other => Iff.rfl
  | some raw =>
    apply Decides.of_option _ fun value => readSwitch_eq_some_iff
    · intro hnone
      simp only [hnone]
    · intro value hvalue
      simp only [hvalue]

/-- The reading of the tokens to be seeded. -/
theorem decides_readSeeds (vars : Variables) (production : Bool) :
    Decides (Taken (Entries.SeedsOf (production = true)) [] (vars.texts .devTokens))
      (.invalid .devTokens) (readSeeds vars production) := by
  unfold readSeeds
  apply Decides.of_option (Entries.seeds? ((vars.texts .devTokens).getD "") production)
  · intro seeds
    rw [taken_iff_getD seedsOf_empty_iff, Entries.seeds?_eq_some_iff]
  · intro hnone
    simp only [Variables.texts] at hnone
    simp only [hnone]
  · intro seeds hseeds
    simp only [Variables.texts] at hseeds
    simp only [hseeds]

/-! ## Reading the store -/

/-- The kind of store that a word is for. -/
def kind? (word : String) : Option StoreKind :=
  [StoreKind.postgres, StoreKind.memory].find? fun kind => word = kind.word

/-- Read the kind of store. -/
def readKind (vars : Variables) : Except SettingsError StoreKind :=
  match kind? (lowerCase ((vars.texts .tokenStore).getD "postgres")) with
  | none => .error (.invalid .tokenStore)
  | some kind => .ok kind

/-- Read the address of the database. -/
def readUrl (vars : Variables) : Except SettingsError String :=
  match vars.texts .databaseUrl with
  | none => .error (.missing .databaseUrl)
  | some url => .ok url

/-- Read the list of users. -/
def readUsers (vars : Variables) : Except SettingsError (List User) :=
  match Entries.users? ((vars.texts .devUsers).getD "") with
  | none => .error (.invalid .devUsers)
  | some users => .ok users

/-- Read the settings of a kind of store. -/
def readStoreOf (vars : Variables) : StoreKind → Except SettingsError StoreSettings
  | .postgres => do
    let url ← readUrl vars
    let connections ← readPositive vars .databaseMaxConnections Number.maxUnsigned32 10
    return .postgres url connections
  | .memory => do
    let users ← readUsers vars
    return .memory users

/-- A kind is found exactly for its own word. -/
theorem kind?_eq_some_iff {word : String} {kind : StoreKind} :
    kind? word = some kind ↔ word = kind.word := by
  unfold kind?
  by_cases hpostgres : word = "postgres"
  · subst hpostgres
    cases kind <;> simp [StoreKind.word]
  · by_cases hmemory : word = "memory"
    · subst hmemory
      cases kind <;> simp [StoreKind.word]
    · cases kind <;> simp [StoreKind.word, hpostgres, hmemory]

/-- The reading of the kind of store. -/
theorem decides_readKind (vars : Variables) :
    Decides (Taken Spells .postgres (vars.texts .tokenStore)) (.invalid .tokenStore)
      (readKind vars) := by
  have hdefault : ∀ kind, Spells "postgres" kind ↔ kind = .postgres := by
    intro kind
    have hword : lowerCase "postgres" = StoreKind.postgres.word := by decide
    rw [Spells, hword]
    cases kind <;> simp [StoreKind.word]
  unfold readKind
  apply Decides.of_option (kind? (lowerCase ((vars.texts .tokenStore).getD "postgres")))
  · intro kind
    rw [kind?_eq_some_iff, taken_iff_getD (hdefault kind), Spells]
  · intro hnone
    simp only [hnone]
  · intro kind hkind
    simp only [hkind]

/-- The reading of the address of the database. -/
theorem decides_readUrl (vars : Variables) :
    Decides (fun url => vars.texts .databaseUrl = some url) (.missing .databaseUrl)
      (readUrl vars) := by
  unfold readUrl
  apply Decides.of_option _ fun url => Iff.rfl
  · intro hnone
    simp only [hnone]
  · intro url hurl
    simp only [hurl]

/-- The reading of the list of users. -/
theorem decides_readUsers (vars : Variables) :
    Decides (Taken (Entries.ListOf Entries.AdmittedUser) [] (vars.texts .devUsers))
      (.invalid .devUsers) (readUsers vars) := by
  unfold readUsers
  apply Decides.of_option (Entries.users? ((vars.texts .devUsers).getD ""))
  · intro users
    rw [taken_iff_getD listOf_empty_iff, Entries.users?_eq_some_iff]
  · intro hnone
    simp only [hnone]
  · intro users husers
    simp only [husers]

/-- The settings of a database are read one after the other. -/
theorem readPostgres_eq (vars : Variables) :
    readPostgres vars = readStoreOf vars .postgres := by
  unfold readPostgres readStoreOf readUrl Variables.texts
  cases vars.get? Variable.databaseUrl.name with
  | none => rfl
  | some url =>
    dsimp only
    cases readPositive vars .databaseMaxConnections Number.maxUnsigned32 10 with
    | error cause => rfl
    | ok connections => rfl

/-- The settings of a store in memory are the list of users. -/
theorem readMemory_eq (vars : Variables) : readMemory vars = readStoreOf vars .memory := by
  unfold readMemory readStoreOf readUsers Variables.texts
  cases Entries.users? ((vars.get? Variable.devUsers.name).getD "") with
  | none => rfl
  | some users => rfl

/-- The reading of a store is that of its kind, and then that of the settings of this kind. -/
theorem readStore_eq (vars : Variables) : readStore vars = readKind vars >>= readStoreOf vars := by
  unfold readStore readKind Variables.texts
  generalize lowerCase ((vars.get? Variable.tokenStore.name).getD "postgres") = word
  cases hkind : kind? word with
  | none =>
    have hword : ∀ kind : StoreKind, word ≠ kind.word := by
      intro kind h
      rw [kind?_eq_some_iff.mpr h] at hkind
      cases hkind
    have hpostgres : word ≠ "postgres" := hword .postgres
    have hmemory : word ≠ "memory" := hword .memory
    dsimp only
    rw [if_neg hpostgres, if_neg hmemory]
    rfl
  | some kind =>
    rw [kind?_eq_some_iff.mp hkind]
    cases kind with
    | postgres => exact readPostgres_eq vars
    | memory => exact readMemory_eq vars

/-! ## The settings that are meant -/

/-- The variable of the environment is a word for production. -/
def Production (texts : Texts) : Prop :=
  ∃ text, texts .environment = some text ∧ SpellsProduction text

/-- The settings of a store are those that its variables mean. -/
inductive StoreMeant (texts : Texts) : StoreSettings → Prop where
  | postgres {url : String} {connections : Nat} :
    Taken Spells .postgres (texts .tokenStore) .postgres → texts .databaseUrl = some url →
    Taken (PositiveUpTo Number.maxUnsigned32) 10 (texts .databaseMaxConnections) connections →
    StoreMeant texts (.postgres url connections)
  | memory {users : List User} :
    Taken Spells .postgres (texts .tokenStore) .memory →
    Taken (Entries.ListOf Entries.AdmittedUser) [] (texts .devUsers) users →
    StoreMeant texts (.memory users)

/-- The settings are those that the texts of the variables mean. -/
structure Conforms (texts : Texts) (settings : Settings) : Prop where
  port : Taken (NumberUpTo Number.maxUnsigned16) 3000 (texts .port) settings.port
  production : settings.production = true ↔ Production texts
  store : StoreMeant texts settings.store
  authEnabled : Taken Switch true (texts .authEnabled) settings.authEnabled
  lookupTimeout : Taken (PositiveUpTo Number.maxUnsigned64) 2000 (texts .lookupTimeout)
    settings.lookupTimeout
  requestTimeout : Taken (PositiveUpTo Number.maxUnsigned64) 30 (texts .requestTimeout)
    settings.requestTimeout
  seeds : Taken (Entries.SeedsOf (Production texts)) [] (texts .devTokens) settings.seeds

/-- The environment is read as production exactly when its variable is a word for it. -/
theorem isProduction_eq_true_iff (vars : Variables) :
    isProduction (vars.get? Variable.environment.name) = true ↔ Production vars.texts := by
  unfold Production Variables.texts
  cases vars.get? Variable.environment.name with
  | none => simp [isProduction]
  | some text => simp [isProduction, SpellsProduction]

/-- A store is read exactly when its variables mean it. -/
theorem readStore_eq_ok_iff {vars : Variables} {store : StoreSettings} :
    readStore vars = .ok store ↔ StoreMeant vars.texts store := by
  have hconnections := (decides_readPositive vars .databaseMaxConnections Number.maxUnsigned32
    10 (by decide)).ok_iff
  rw [readStore_eq, bind_eq_ok_iff]
  constructor
  · rintro ⟨kind, hkind, hstore⟩
    have hkind := ((decides_readKind vars).ok_iff kind).mp hkind
    cases kind with
    | postgres =>
      rcases bind_eq_ok_iff.mp hstore with ⟨url, hurl, hrest⟩
      rcases bind_eq_ok_iff.mp hrest with ⟨connections, hread, hstore⟩
      cases hstore
      exact .postgres hkind (((decides_readUrl vars).ok_iff url).mp hurl)
        ((hconnections connections).mp hread)
    | memory =>
      rcases bind_eq_ok_iff.mp hstore with ⟨users, husers, hstore⟩
      cases hstore
      exact .memory hkind (((decides_readUsers vars).ok_iff users).mp husers)
  · intro h
    cases h with
    | @postgres url connections hkind hurl hread =>
      exact ⟨.postgres, ((decides_readKind vars).ok_iff _).mpr hkind, bind_eq_ok_iff.mpr
        ⟨url, ((decides_readUrl vars).ok_iff url).mpr hurl, bind_eq_ok_iff.mpr
          ⟨connections, (hconnections connections).mpr hread, rfl⟩⟩⟩
    | @memory users hkind husers =>
      exact ⟨.memory, ((decides_readKind vars).ok_iff _).mpr hkind, bind_eq_ok_iff.mpr
        ⟨users, ((decides_readUsers vars).ok_iff users).mpr husers, rfl⟩⟩

/-- The settings are read exactly when the texts of the variables mean them. -/
theorem read_eq_ok_iff_conforms {vars : Variables} {settings : Settings} :
    read vars = .ok settings ↔ Conforms vars.texts settings := by
  have hport := (decides_readNumber vars .port Number.maxUnsigned16 3000).ok_iff settings.port
  have hlookup := (decides_readPositive vars .lookupTimeout Number.maxUnsigned64
    2000 (by decide)).ok_iff settings.lookupTimeout
  have hrequest := (decides_readPositive vars .requestTimeout Number.maxUnsigned64
    30 (by decide)).ok_iff settings.requestTimeout
  have hauth := (decides_readAuthEnabled vars).ok_iff settings.authEnabled
  have hseeds := (decides_readSeeds vars settings.production).ok_iff settings.seeds
  have hproduction := isProduction_eq_true_iff vars
  rw [read_eq_ok_iff]
  constructor
  · intro h
    have hmeant : settings.production = true ↔ Production vars.texts := by
      rw [h.production]
      exact hproduction
    refine ⟨hport.mp h.port, hmeant, readStore_eq_ok_iff.mp h.store, hauth.mp h.authEnabled,
      hlookup.mp h.lookupTimeout, hrequest.mp h.requestTimeout, ?_⟩
    rw [← hmeant]
    exact hseeds.mp h.seeds
  · intro h
    refine ⟨hport.mpr h.port, ?_, readStore_eq_ok_iff.mpr h.store, hauth.mpr h.authEnabled,
      hlookup.mpr h.lookupTimeout, hrequest.mpr h.requestTimeout, hseeds.mpr ?_⟩
    · rw [Bool.eq_iff_iff, hproduction]
      exact h.production
    · rw [h.production]
      exact h.seeds

/-! ## What holds of all settings -/

/-- What holds of all settings that are read, whatever the variables are. -/
structure Sound (settings : Settings) : Prop where
  connections_pos : ∀ {url connections}, settings.store = .postgres url connections →
    0 < connections
  users : ∀ {users}, settings.store = .memory users →
    ∀ user ∈ users, 0 < user.id ∧ user.name ≠ ""
  lookupTimeout_pos : 0 < settings.lookupTimeout
  requestTimeout_pos : 0 < settings.requestTimeout
  seeds : ∀ seed ∈ settings.seeds, 0 < seed.owner ∧ seed.name ≠ "" ∧ 0 < seed.hours
  unseeded : settings.production = true → settings.seeds = []

/-- A value that is taken is the default or meant by a text. -/
theorem Taken.default_or_meant {α : Type} {meaning : String → α → Prop} {default value : α}
    {raw : Option String} (h : Taken meaning default raw value) :
    value = default ∨ ∃ text, meaning text value := by
  cases raw with
  | none => exact .inl h
  | some text => exact .inr ⟨text, h⟩

/-- A number that is taken of those above zero is above zero. -/
theorem taken_positive_pos {bound default n : Nat} (hdefault : 0 < default) {raw : Option String}
    (h : Taken (PositiveUpTo bound) default raw n) : 0 < n :=
  ((taken_positive_iff hdefault raw).mp h).2

/-- Settings that are meant are sound. -/
theorem Conforms.sound {texts : Texts} {settings : Settings} (h : Conforms texts settings) :
    Sound settings := by
  constructor
  · intro url connections hstore
    have hmeant := h.store
    rw [hstore] at hmeant
    cases hmeant with
    | postgres _ _ hconnections => exact taken_positive_pos (by decide) hconnections
  · intro users hstore user huser
    have hmeant := h.store
    rw [hstore] at hmeant
    cases hmeant with
    | memory _ husers =>
      rcases husers.default_or_meant with rfl | ⟨text, hlist⟩
      · exact absurd huser List.not_mem_nil
      · rcases hlist.exists_entry huser with ⟨entry, hadmitted⟩
        exact hadmitted.named
  · exact taken_positive_pos (by decide) h.lookupTimeout
  · exact taken_positive_pos (by decide) h.requestTimeout
  · intro seed hseed
    rcases h.seeds.default_or_meant with hnone | ⟨text, hlist⟩
    · rw [hnone] at hseed
      exact absurd hseed List.not_mem_nil
    · rcases hlist.1.exists_entry hseed with ⟨entry, ⟨owner, hours, -, howner, hhours⟩, hne⟩
      exact ⟨howner.pos, hne, hhours.pos⟩
  · intro hproduction
    rcases h.seeds.default_or_meant with hnone | ⟨text, hlist⟩
    · exact hnone
    · rcases hlist.1 with ⟨entries, hentries, hvalues⟩
      have hempty := hentries.unique (hlist.2 (h.production.mp hproduction))
      rw [hempty, List.forall₂_nil_left_iff] at hvalues
      exact hvalues

end Settings
end BearerTokens
