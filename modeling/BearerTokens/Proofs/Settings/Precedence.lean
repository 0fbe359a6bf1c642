import BearerTokens.Proofs.Settings.Meaning

/-!
# The variable that stops the reading

The variables are looked at in one order, in which those of a store stand behind
the variable that chooses its kind.  The first variable without a value stops
the reading, and a reading that is not stopped gives the settings that the
variables mean.  No other variable matters than the environment and those in the
order, so that those of a store that is not chosen do not.

Main results:

- Theorem {lit}`Settings.Blames.bind`: what a sequence of two readings blames.
- Theorem {lit}`Settings.blames_read`: what the reading of the settings blames.
- Theorem {lit}`Settings.read_congr`: the variables that matter.
- Theorem {lit}`Settings.read_in_order`: the reading of variables that are all text.
-/

namespace BearerTokens

/-- The error that blames a variable.  Only the address of the database is ever missing. -/
def Variable.failure : Variable → SettingsError
  | .databaseUrl => .missing .databaseUrl
  | key => .invalid key

/-- The variables with the settings of a kind of store, in the order in which they are read. -/
def StoreKind.variables : StoreKind → List Variable
  | .postgres => [.databaseUrl, .databaseMaxConnections]
  | .memory => [.devUsers]

namespace Settings

/-! ## The order of reading -/

/-- The variables with the settings of the kind of store that is chosen, if any is. -/
def storeVariables (texts : Texts) : List Variable :=
  (kind? (lowerCase ((texts .tokenStore).getD "postgres"))).elim [] StoreKind.variables

/-- When a kind of store is read, its variables are those that are read next. -/
theorem storeVariables_eq {vars : Variables} {kind : StoreKind}
    (h : readKind vars = .ok kind) :
    storeVariables vars.texts = kind.variables := by
  unfold readKind at h
  unfold storeVariables
  split at h
  · cases h
  · next found hfound =>
    cases h
    rw [hfound, Option.elim_some]

/-- The variables that can stop the reading, in the order in which they are read. -/
def readingOrder (texts : Texts) : List Variable :=
  .port :: ((.tokenStore :: storeVariables texts) ++
    [.authEnabled, .lookupTimeout, .requestTimeout, .devTokens])

/-- A variable stops the reading: it has no value.  That of the environment always has one. -/
def Fails (texts : Texts) : Variable → Prop
  | .port => ∀ n, ¬ Taken (NumberUpTo Number.maxUnsigned16) 3000 (texts .port) n
  | .environment => False
  | .tokenStore => ∀ kind, ¬ Taken Spells .postgres (texts .tokenStore) kind
  | .databaseUrl => ∀ url, texts .databaseUrl ≠ some url
  | .databaseMaxConnections => ∀ n,
    ¬ Taken (PositiveUpTo Number.maxUnsigned32) 10 (texts .databaseMaxConnections) n
  | .devUsers => ∀ users,
    ¬ Taken (Entries.ListOf Entries.AdmittedUser) [] (texts .devUsers) users
  | .authEnabled => ∀ enabled, ¬ Taken Switch true (texts .authEnabled) enabled
  | .lookupTimeout => ∀ n,
    ¬ Taken (PositiveUpTo Number.maxUnsigned64) 2000 (texts .lookupTimeout) n
  | .requestTimeout => ∀ n,
    ¬ Taken (PositiveUpTo Number.maxUnsigned64) 30 (texts .requestTimeout) n
  | .devTokens => ∀ seeds,
    ¬ Taken (Entries.SeedsOf (Production texts)) [] (texts .devTokens) seeds

/-- The first variable of a list that fails. -/
inductive First (fails : Variable → Prop) : List Variable → Variable → Prop where
  | here {key : Variable} {rest : List Variable} : fails key → First fails (key :: rest) key
  | later {key found : Variable} {rest : List Variable} :
    ¬ fails key → First fails rest found → First fails (key :: rest) found

section

variable {fails : Variable → Prop} {keys more : List Variable}

/-- The first variable that fails is one that does. -/
theorem First.mem_and_fails {found : Variable} (h : First fails keys found) :
    found ∈ keys ∧ fails found := by
  induction h with
  | here hfails => exact ⟨List.mem_cons_self, hfails⟩
  | later _ _ ih => exact ⟨List.mem_cons_of_mem _ ih.1, ih.2⟩

/-- Some variable is the first that fails exactly when any does. -/
theorem exists_first_iff : (∃ found, First fails keys found) ↔ ∃ key ∈ keys, fails key := by
  constructor
  · rintro ⟨found, hfirst⟩
    exact ⟨found, hfirst.mem_and_fails⟩
  · induction keys with
    | nil =>
      rintro ⟨key, hmem, -⟩
      exact absurd hmem List.not_mem_nil
    | cons key rest ih =>
      rintro ⟨other, hmem, hfails⟩
      by_cases hkey : fails key
      · exact ⟨key, .here hkey⟩
      · rcases List.mem_cons.mp hmem with rfl | hrest
        · exact absurd hfails hkey
        · rcases ih ⟨other, hrest, hfails⟩ with ⟨found, hfirst⟩
          exact ⟨found, .later hkey hfirst⟩

/-- Variables behind others do not matter when one of the others fails. -/
theorem First.append {found : Variable} (h : First fails keys found) :
    First fails (keys ++ more) found := by
  induction h with
  | here hfails => exact .here hfails
  | later hkey _ ih => exact .later hkey ih

/-- The first variable of two lists that fails is found in the second if the first has none. -/
theorem first_append_iff {found : Variable} (hnone : ∀ key ∈ keys, ¬ fails key) :
    First fails (keys ++ more) found ↔ First fails more found := by
  induction keys with
  | nil => exact Iff.rfl
  | cons key rest ih =>
    have hkey : ¬ fails key := hnone key List.mem_cons_self
    have hrest := ih fun other hother => hnone other (List.mem_cons_of_mem _ hother)
    rw [List.cons_append, ← hrest]
    constructor
    · intro h
      cases h with
      | here hfails => exact absurd hfails hkey
      | later _ h => exact h
    · exact First.later hkey

/-- There is only one first variable that fails. -/
theorem First.unique {found other : Variable} (h : First fails keys found)
    (hother : First fails keys other) : found = other := by
  induction h with
  | here hfails =>
    cases hother with
    | here _ => rfl
    | later hkey _ => exact absurd hfails hkey
  | later hkey _ ih =>
    cases hother with
    | here hfails => exact absurd hfails hkey
    | later _ hrest => exact ih hrest

end

/-! ## What a reading blames -/

/-- A reading is stopped by the first of some variables that fails, and only by it. -/
def Blames {α : Type} (fails : Variable → Prop) (keys : List Variable)
    (result : Except SettingsError α) : Prop :=
  ∀ cause, result = .error cause ↔ ∃ key, First fails keys key ∧ cause = key.failure

section

variable {α β : Type} {fails : Variable → Prop} {keys more : List Variable}
  {result : Except SettingsError α}

/-- A reading succeeds exactly when none of the variables fails. -/
theorem Blames.ok_iff (h : Blames fails keys result) :
    (∃ value, result = .ok value) ↔ ∀ key ∈ keys, ¬ fails key := by
  cases hresult : result with
  | ok value =>
    refine iff_of_true ⟨value, rfl⟩ fun key hmem hfails => ?_
    rcases exists_first_iff.mpr ⟨key, hmem, hfails⟩ with ⟨found, hfirst⟩
    have herror := (h found.failure).mpr ⟨found, hfirst, rfl⟩
    rw [hresult] at herror
    cases herror
  | error cause =>
    refine iff_of_false ?_ fun hnone => ?_
    · rintro ⟨value, hvalue⟩
      cases hvalue
    · rcases (h cause).mp hresult with ⟨key, hfirst, -⟩
      exact hnone key hfirst.mem_and_fails.1 hfirst.mem_and_fails.2

/-- A value blames nothing. -/
theorem Blames.pure (value : α) : Blames fails [] (.ok value) := by
  intro cause
  refine iff_of_false (fun h => by cases h) ?_
  rintro ⟨key, hfirst, -⟩
  cases hfirst

/-- The reading of one variable blames it. -/
theorem Decides.blames {meant : α → Prop} {key : Variable}
    (h : Decides meant key.failure result) (hfails : fails key ↔ ∀ value, ¬ meant value) :
    Blames fails [key] result := by
  intro cause
  rw [h.error_iff, ← hfails]
  constructor
  · rintro ⟨hkey, rfl⟩
    exact ⟨key, .here hkey, rfl⟩
  · rintro ⟨found, hfirst, rfl⟩
    rcases hfirst.mem_and_fails with ⟨hmem, hfound⟩
    rw [← List.mem_singleton.mp hmem]
    exact ⟨hfound, rfl⟩

/-- Two readings in a row blame the variables of the first before those of the second. -/
theorem Blames.bind {next : α → Except SettingsError β} (h : Blames fails keys result)
    (hnext : ∀ value, result = .ok value → Blames fails more (next value)) :
    Blames fails (keys ++ more) (result >>= next) := by
  intro cause
  cases hresult : result with
  | ok value =>
    have hnone := h.ok_iff.mp ⟨value, hresult⟩
    simp only [first_append_iff hnone]
    exact hnext value hresult cause
  | error found =>
    rcases (h found).mp hresult with ⟨key, hfirst, rfl⟩
    change Except.error key.failure = Except.error cause ↔ _
    rw [Except.error.injEq]
    constructor
    · rintro rfl
      exact ⟨key, hfirst.append, rfl⟩
    · rintro ⟨other, hother, rfl⟩
      rw [hfirst.append.unique hother]

end

/-! ## The reading of the settings -/

section

variable (vars : Variables)

/-- The reading of the settings of a kind of store blames its variables. -/
theorem blames_readStoreOf (kind : StoreKind) :
    Blames (Fails vars.texts) kind.variables (readStoreOf vars kind) := by
  cases kind with
  | postgres =>
    have hurl : Blames (Fails vars.texts) [.databaseUrl] (readUrl vars) :=
      (decides_readUrl vars).blames Iff.rfl
    have hconnections : Blames (Fails vars.texts) [.databaseMaxConnections]
        (readPositive vars .databaseMaxConnections Number.maxUnsigned32 10) :=
      (decides_readPositive vars _ _ 10 (by decide)).blames Iff.rfl
    exact hurl.bind fun url _ => hconnections.bind fun connections _ => .pure _
  | memory =>
    have husers : Blames (Fails vars.texts) [.devUsers] (readUsers vars) :=
      (decides_readUsers vars).blames Iff.rfl
    exact husers.bind fun users _ => .pure _

/-- The reading of a store blames the variable of its kind, and then those of the kind. -/
theorem blames_readStore :
    Blames (Fails vars.texts) (.tokenStore :: storeVariables vars.texts) (readStore vars) := by
  have hkind : Blames (Fails vars.texts) [.tokenStore] (readKind vars) :=
    (decides_readKind vars).blames Iff.rfl
  have hstore : ∀ kind, readKind vars = .ok kind →
      Blames (Fails vars.texts) (storeVariables vars.texts) (readStoreOf vars kind) := by
    intro kind hread
    rw [storeVariables_eq hread]
    exact blames_readStoreOf vars kind
  rw [readStore_eq]
  exact hkind.bind hstore

/-- The reading of the settings blames the first variable in the order of reading that fails. -/
theorem blames_read : Blames (Fails vars.texts) (readingOrder vars.texts) (read vars) := by
  have hport : Blames (Fails vars.texts) [.port]
      (readNumber vars .port Number.maxUnsigned16 3000) :=
    (decides_readNumber vars _ _ _).blames Iff.rfl
  have hauth : Blames (Fails vars.texts) [.authEnabled] (readAuthEnabled vars) :=
    (decides_readAuthEnabled vars).blames Iff.rfl
  have hlookup : Blames (Fails vars.texts) [.lookupTimeout]
      (readPositive vars .lookupTimeout Number.maxUnsigned64 2000) :=
    (decides_readPositive vars _ _ 2000 (by decide)).blames Iff.rfl
  have hrequest : Blames (Fails vars.texts) [.requestTimeout]
      (readPositive vars .requestTimeout Number.maxUnsigned64 30) :=
    (decides_readPositive vars _ _ 30 (by decide)).blames Iff.rfl
  have hseeds : Blames (Fails vars.texts) [.devTokens]
      (readSeeds vars (isProduction (vars.get? Variable.environment.name))) := by
    apply (decides_readSeeds vars _).blames
    rw [isProduction_eq_true_iff]
    exact Iff.rfl
  exact hport.bind fun port _ => (blames_readStore vars).bind fun store _ =>
    hauth.bind fun authEnabled _ => hlookup.bind fun lookup _ => hrequest.bind fun request _ =>
      hseeds.bind fun seeds _ => .pure _

end

/-! ## The variables that matter -/

section

variable {vars others : Variables}

/-- A number is read of its own variable. -/
theorem readNumber_congr {key : Variable} (h : others.texts key = vars.texts key)
    (bound default : Nat) :
    readNumber others key bound default = readNumber vars key bound default := by
  unfold Variables.texts at h
  rw [readNumber, readNumber, h]

/-- A number above zero is read of its own variable. -/
theorem readPositive_congr {key : Variable} (h : others.texts key = vars.texts key)
    (bound default : Nat) :
    readPositive others key bound default = readPositive vars key bound default := by
  rw [readPositive, readPositive, readNumber_congr h]

/-- The settings of a kind of store are read of its variables. -/
theorem readStoreOf_congr {kind : StoreKind}
    (h : ∀ key ∈ kind.variables, others.texts key = vars.texts key) :
    readStoreOf others kind = readStoreOf vars kind := by
  cases kind with
  | postgres =>
    have hurl := h .databaseUrl (by decide)
    have hconnections := readPositive_congr (h .databaseMaxConnections (by decide))
    simp only [readStoreOf, readUrl, hurl, hconnections]
  | memory =>
    have husers := h .devUsers (by decide)
    simp only [readStoreOf, readUsers, husers]

/-- A store is read of the variable of its kind and of those of the kind. -/
theorem readStore_congr
    (h : ∀ key ∈ Variable.tokenStore :: storeVariables vars.texts,
      others.texts key = vars.texts key) :
    readStore others = readStore vars := by
  have hkind : readKind others = readKind vars := by
    rw [readKind, readKind, h .tokenStore List.mem_cons_self]
  rw [readStore_eq, readStore_eq, hkind]
  cases hread : readKind vars with
  | error cause => rfl
  | ok kind =>
    apply readStoreOf_congr
    rw [← storeVariables_eq hread]
    exact fun key hmem => h key (List.mem_cons_of_mem _ hmem)

/-- The settings are read of the environment and of the variables in the order of reading. -/
theorem read_congr
    (h : ∀ key ∈ Variable.environment :: readingOrder vars.texts,
      others.texts key = vars.texts key) :
    read others = read vars := by
  have horder : ∀ key ∈ readingOrder vars.texts, others.texts key = vars.texts key :=
    fun key hmem => h key (List.mem_cons_of_mem _ hmem)
  have hlast : ∀ key ∈ [Variable.authEnabled, .lookupTimeout, .requestTimeout, .devTokens],
      others.texts key = vars.texts key := fun key hmem =>
    horder key (List.mem_cons_of_mem _ (List.mem_append_right _ hmem))
  have hport := horder .port List.mem_cons_self
  have hstore : readStore others = readStore vars := readStore_congr fun key hmem =>
    horder key (List.mem_cons_of_mem _ (List.mem_append_left _ hmem))
  have henvironment := h .environment List.mem_cons_self
  have hauth := hlast .authEnabled (by decide)
  have hseeds := hlast .devTokens (by decide)
  unfold Variables.texts at henvironment hauth hseeds
  unfold read readAuthEnabled readSeeds
  rw [readNumber_congr hport, hstore, henvironment, hauth, hseeds,
    readPositive_congr (hlast .lookupTimeout (by decide)),
    readPositive_congr (hlast .requestTimeout (by decide))]

end

/-! ## Variables that are all text -/

/-- The variables are set to the texts that are given for them, and not set where none is given. -/
def Hold (vars : Variables) (texts : Texts) : Prop :=
  ∀ key : Variable, vars.values.get? key.name = (texts key).map Utf8.encode

/-- The texts of variables that are all text are read. -/
theorem Hold.texts_eq {vars : Variables} {texts : Texts} (h : Hold vars texts) :
    vars.texts = texts := by
  funext key
  rw [Variables.texts, Variables.get?, h key]
  cases texts key with
  | none => rfl
  | some text => exact Utf8.decode?_encode text

/--
Where all variables are text, the reading is stopped by the first variable in the order of
reading that has no value, and succeeds when there is none.  It gives the settings that the
texts mean, which are sound.  Two environments with the same variable of the environment and
the same variables in the order of reading are read alike.
-/
theorem read_in_order (vars : Variables) (texts : Texts) (h : Hold vars texts) :
    (∀ cause, read vars = .error cause ↔
        ∃ key, First (Fails texts) (readingOrder texts) key ∧ cause = key.failure) ∧
      ((∃ settings, read vars = .ok settings) ↔
        ∀ key ∈ readingOrder texts, ¬ Fails texts key) ∧
      (∀ settings, read vars = .ok settings ↔ Conforms texts settings) ∧
      (∀ settings, read vars = .ok settings → Sound settings) ∧
      ∀ others : Variables,
        (∀ key ∈ Variable.environment :: readingOrder texts,
          others.values.get? key.name = vars.values.get? key.name) →
        read others = read vars := by
  have hblames := blames_read vars
  have hconforms : ∀ settings, read vars = .ok settings ↔ Conforms texts settings := by
    intro settings
    rw [read_eq_ok_iff_conforms, h.texts_eq]
  rw [h.texts_eq] at hblames
  refine ⟨hblames, hblames.ok_iff, hconforms,
    fun settings hread => ((hconforms settings).mp hread).sound, fun others hothers => ?_⟩
  apply read_congr
  intro key hmem
  rw [h.texts_eq] at hmem
  rw [Variables.texts, Variables.texts, Variables.get?, Variables.get?, hothers key hmem]

/--
A store in memory behind a variable in capitals, with a variable of a database that has no
value, and two variables without a value behind it.
-/
def stoppedTexts : Texts
  | .port => some " +8080 "
  | .tokenStore => some "MEMORY"
  | .databaseMaxConnections => some "none"
  | .devUsers => some "1:alice, 2:bob:disabled"
  | .lookupTimeout => some "0"
  | .devTokens => some "1:bootstrap"
  | _ => none

/-- The variables with these texts. -/
def stoppedVariables : Variables :=
  .ofList [("PORT", Utf8.encode " +8080 "), ("TOKEN_STORE", Utf8.encode "MEMORY"),
    ("DATABASE_MAX_CONNECTIONS", Utf8.encode "none"),
    ("DEV_USERS", Utf8.encode "1:alice, 2:bob:disabled"),
    ("AUTH_LOOKUP_TIMEOUT_MS", Utf8.encode "0"), ("DEV_TOKENS", Utf8.encode "1:bootstrap")]

/-- The first of the two stops the reading, and the variable of a database does not. -/
theorem read_in_order_stoppedVariables :
    Hold stoppedVariables stoppedTexts ∧
      First (Fails stoppedTexts) (readingOrder stoppedTexts) .lookupTimeout := by
  have hhold : Hold stoppedVariables stoppedTexts := by
    intro key
    cases key <;> decide +kernel
  have hread : read stoppedVariables = .error (.invalid .lookupTimeout) := by decide +kernel
  rcases ((read_in_order stoppedVariables stoppedTexts hhold).1 _).mp hread with
    ⟨key, hfirst, hcause⟩
  refine ⟨hhold, ?_⟩
  cases key <;> cases hcause
  exact hfirst

end Settings
end BearerTokens
