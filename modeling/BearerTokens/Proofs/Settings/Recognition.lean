import BearerTokens.Proofs.Settings.Precedence

/-!
# Variables that are set without being recognised

A variable that is set has been recognised when its bytes are a text that means
what the settings hold.  Not every variable is: bytes that are not text count as
not set, a word that is not known stands for development, as does a word for
production with blanks around it, and the parts behind the mark of a user are
not looked at.  In all other cases a variable that is set is recognised.

Main results:

- Theorem {lit}`Settings.setToText_congr`: only the text of a variable matters.
- Theorem {lit}`Settings.recognised_iff_plain`: when all variables that are set have been
  recognised.
-/

namespace BearerTokens
namespace Settings

/-! ## Words for the environment -/

/-- The words for an environment that is production or not. -/
def environmentWords : Bool → List String
  | true => ["production", "prod"]
  | false => ["development"]

/-- A text is a word for an environment. -/
def Environment (text : String) (production : Bool) : Prop :=
  ∃ word ∈ environmentWords production, IsWord word text

/-- A text has only one word. -/
theorem IsWord.unique {word other text : String} (h : IsWord word text)
    (hother : IsWord other text) : word = other :=
  (isWord_iff.mp h).symm.trans (isWord_iff.mp hother)

/-- A text that spells a word without blanks at its ends has none itself. -/
theorem trims_of_lowerCase {word text : String} (h : lowerCase text = word)
    (hword : Text.Trims word.toList word.toList) : Text.Trims text.toList text.toList := by
  apply Text.Trims.of_toLower
  have hlist : text.toList.map Char.toLower = word.toList := by
    rw [← h, lowerCase, String.toList_ofList]
  rw [hlist]
  exact hword

/-- A text spells a word exactly when it is the word and has no blanks around it. -/
theorem lowerCase_eq_iff {word text : String} (hword : Text.Trims word.toList word.toList) :
    lowerCase text = word ↔ IsWord word text ∧ Text.Trims text.toList text.toList := by
  constructor
  · intro h
    have htrims := trims_of_lowerCase h hword
    exact ⟨⟨text.toList, htrims, h⟩, htrims⟩
  · rintro ⟨⟨core, hcore, h⟩, htrims⟩
    rw [lowerCase, htrims.unique hcore]
    exact h

/-- A text spells production exactly when it is a word for it and has no blanks around it. -/
theorem spellsProduction_iff {text : String} :
    SpellsProduction text ↔ Environment text true ∧ Text.Trims text.toList text.toList := by
  have hproduction : Text.Trims "production".toList "production".toList :=
    Text.trim_eq_iff.mp (by decide)
  have hprod : Text.Trims "prod".toList "prod".toList := Text.trim_eq_iff.mp (by decide)
  rw [SpellsProduction, lowerCase_eq_iff hproduction, lowerCase_eq_iff hprod, ← or_and_right]
  simp [Environment, environmentWords]

/-- A text that spells the word for a kind of store is the word. -/
theorem Spells.isWord {text : String} {kind : StoreKind} (h : Spells text kind) :
    IsWord kind.word text := by
  have hword : Text.Trims kind.word.toList kind.word.toList := by
    apply Text.trim_eq_iff.mp
    cases kind <;> decide
  exact ((lowerCase_eq_iff hword).mp h).1

/-! ## Variables that are set -/

/-- A variable is set to the bytes of a text with a property, if it is set at all. -/
def SetToText (vars : Variables) (key : Variable) (property : String → Prop) : Prop :=
  ∀ bytes, vars.values.get? key.name = some bytes →
    ∃ text, Utf8.encode text = bytes ∧ property text

/-- Only the text of a variable matters for its properties. -/
theorem setToText_congr {vars : Variables} {key : Variable} {property other : String → Prop}
    (h : ∀ text, vars.texts key = some text → (property text ↔ other text)) :
    SetToText vars key property ↔ SetToText vars key other := by
  unfold SetToText
  refine forall_congr' fun bytes => imp_congr_right fun hbytes => exists_congr fun text =>
    and_congr_right ?_
  rintro rfl
  exact h text (Variables.texts_eq_some_iff.mpr hbytes)

/-- Variables that are all text are set to texts with the properties of these. -/
theorem Hold.setToText {vars : Variables} {texts : Texts} (h : Hold vars texts) {key : Variable}
    {property : String → Prop} (hproperty : ∀ text, texts key = some text → property text) :
    SetToText vars key property := by
  intro bytes hbytes
  rw [h key, Option.map_eq_some_iff] at hbytes
  rcases hbytes with ⟨text, htext, hencode⟩
  exact ⟨text, hencode, hproperty text htext⟩

/-- A variable of which a value is taken is recognised exactly when it is text. -/
theorem Taken.setToText_iff {α : Type} {vars : Variables} {key : Variable}
    {meaning : String → α → Prop} {default value : α}
    (h : Taken meaning default (vars.texts key) value) :
    (SetToText vars key fun text => meaning text value) ↔ SetToText vars key fun _ => True := by
  apply setToText_congr
  intro text htext
  rw [htext] at h
  exact iff_true_intro h

/-- All variables that are set were recognised: the settings hold what their bytes mean. -/
structure Recognised (vars : Variables) (settings : Settings) : Prop where
  port : SetToText vars .port fun text => NumberUpTo Number.maxUnsigned16 text settings.port
  environment : SetToText vars .environment fun text => Environment text settings.production
  tokenStore : SetToText vars .tokenStore fun text => IsWord settings.store.kind.word text
  connections : ∀ url connections, settings.store = .postgres url connections →
    SetToText vars .databaseMaxConnections fun text =>
      PositiveUpTo Number.maxUnsigned32 text connections
  users : ∀ users, settings.store = .memory users →
    SetToText vars .devUsers fun text => Entries.ListOf Entries.DescribedUser text users
  authEnabled : SetToText vars .authEnabled fun text => Switch text settings.authEnabled
  lookupTimeout : SetToText vars .lookupTimeout fun text =>
    PositiveUpTo Number.maxUnsigned64 text settings.lookupTimeout
  requestTimeout : SetToText vars .requestTimeout fun text =>
    PositiveUpTo Number.maxUnsigned64 text settings.requestTimeout
  seeds : SetToText vars .devTokens fun text =>
    Entries.ListOf Entries.SeedEntry text settings.seeds

/--
The variables that are set are text, that of the environment is a known word, without blanks
around it if it is one for production, and no entry of the users has parts behind its mark.
-/
structure Plain (vars : Variables) (kind : StoreKind) : Prop where
  texts : ∀ key ∈ [Variable.port, .tokenStore, .authEnabled, .lookupTimeout, .requestTimeout,
    .devTokens], SetToText vars key fun _ => True
  environment : SetToText vars .environment fun text =>
    Environment text false ∨ SpellsProduction text
  connections : kind = .postgres → SetToText vars .databaseMaxConnections fun _ => True
  users : kind = .memory → SetToText vars .devUsers fun text => ¬ Entries.HasSurplus text

section

variable {vars : Variables} {settings : Settings} {store : StoreSettings}

/-- The kind of a store that is meant is meant by its own variable. -/
theorem StoreMeant.kind {texts : Texts} (h : StoreMeant texts store) :
    Taken Spells .postgres (texts .tokenStore) store.kind := by
  cases h with
  | postgres hkind _ _ => exact hkind
  | memory hkind _ => exact hkind

/-- The variable of the kind of store is recognised exactly when it is text. -/
theorem StoreMeant.tokenStore_iff (h : StoreMeant vars.texts store) :
    (SetToText vars .tokenStore fun text => IsWord store.kind.word text) ↔
      SetToText vars .tokenStore fun _ => True := by
  have hkind := h.kind
  apply setToText_congr
  intro text htext
  rw [htext] at hkind
  exact iff_true_intro (Spells.isWord hkind)

/-- The number of connections is recognised exactly when it is text. -/
theorem StoreMeant.connections_iff (h : StoreMeant vars.texts store) :
    (∀ url connections, store = .postgres url connections →
        SetToText vars .databaseMaxConnections fun text =>
          PositiveUpTo Number.maxUnsigned32 text connections) ↔
      (store.kind = .postgres → SetToText vars .databaseMaxConnections fun _ => True) := by
  cases h with
  | @postgres url connections _ _ hconnections =>
    rw [← hconnections.setToText_iff]
    constructor
    · intro hall _
      exact hall url connections rfl
    · rintro htext _ _ ⟨⟩
      exact htext rfl
  | memory _ _ =>
    refine iff_of_true ?_ StoreKind.noConfusion
    rintro _ _ ⟨⟩

/-- The list of users is recognised exactly when it is text without surplus parts. -/
theorem StoreMeant.users_iff (h : StoreMeant vars.texts store) :
    (∀ users, store = .memory users →
        SetToText vars .devUsers fun text => Entries.ListOf Entries.DescribedUser text users) ↔
      (store.kind = .memory → SetToText vars .devUsers fun text => ¬ Entries.HasSurplus text) := by
  cases h with
  | postgres _ _ _ =>
    refine iff_of_true ?_ StoreKind.noConfusion
    rintro _ ⟨⟩
  | @memory users _ husers =>
    have hlist : (SetToText vars .devUsers fun text =>
        Entries.ListOf Entries.DescribedUser text users) ↔
          SetToText vars .devUsers fun text => ¬ Entries.HasSurplus text := by
      apply setToText_congr
      intro text htext
      rw [htext] at husers
      exact Entries.listOf_described_iff husers
    rw [← hlist]
    constructor
    · intro hall _
      exact hall users rfl
    · rintro htext _ ⟨⟩
      exact htext rfl

/-- The environment that is read is production exactly when its text spells it. -/
theorem Conforms.production_iff_spells (h : Conforms vars.texts settings) {text : String}
    (htext : vars.texts .environment = some text) :
    settings.production = true ↔ SpellsProduction text := by
  rw [h.production, Production, htext]
  simp only [Option.some.injEq, exists_eq_left']

/-- The environment is recognised exactly when its text is one that is known and plain. -/
theorem Conforms.environment_iff (h : Conforms vars.texts settings) :
    (SetToText vars .environment fun text => Environment text settings.production) ↔
      SetToText vars .environment fun text => Environment text false ∨ SpellsProduction text := by
  apply setToText_congr
  intro text htext
  have hspells := h.production_iff_spells htext
  cases hproduction : settings.production with
  | false =>
    rw [hproduction] at hspells
    have hnot : ¬ SpellsProduction text := fun hspell => Bool.noConfusion (hspells.mpr hspell)
    rw [or_iff_left hnot]
  | true =>
    have hspell : SpellsProduction text := hspells.mp hproduction
    exact iff_of_true (spellsProduction_iff.mp hspell).1 (.inr hspell)

/-- Settings that are meant come of variables that were all recognised when these are plain. -/
theorem Conforms.recognised_iff (h : Conforms vars.texts settings) :
    Recognised vars settings ↔ Plain vars settings.store.kind := by
  have hseeds : (SetToText vars .devTokens fun text =>
      Entries.ListOf Entries.SeedEntry text settings.seeds) ↔
        SetToText vars .devTokens fun _ => True := by
    have htaken := h.seeds
    apply setToText_congr
    intro text htext
    rw [htext] at htaken
    exact iff_true_intro htaken.1
  constructor
  · intro hrec
    refine ⟨?_, h.environment_iff.mp hrec.environment, h.store.connections_iff.mp hrec.connections,
      h.store.users_iff.mp hrec.users⟩
    simp only [List.forall_mem_cons, List.not_mem_nil, false_imp_iff, implies_true, and_true]
    exact ⟨h.port.setToText_iff.mp hrec.port, h.store.tokenStore_iff.mp hrec.tokenStore,
      h.authEnabled.setToText_iff.mp hrec.authEnabled,
      h.lookupTimeout.setToText_iff.mp hrec.lookupTimeout,
      h.requestTimeout.setToText_iff.mp hrec.requestTimeout, hseeds.mp hrec.seeds⟩
  · rintro ⟨htexts, henvironment, hconnections, husers⟩
    exact {
      port := h.port.setToText_iff.mpr (htexts .port (by decide))
      environment := h.environment_iff.mpr henvironment
      tokenStore := h.store.tokenStore_iff.mpr (htexts .tokenStore (by decide))
      connections := h.store.connections_iff.mpr hconnections
      users := h.store.users_iff.mpr husers
      authEnabled := h.authEnabled.setToText_iff.mpr (htexts .authEnabled (by decide))
      lookupTimeout := h.lookupTimeout.setToText_iff.mpr (htexts .lookupTimeout (by decide))
      requestTimeout := h.requestTimeout.setToText_iff.mpr (htexts .requestTimeout (by decide))
      seeds := hseeds.mpr (htexts .devTokens (by decide)) }

end

/--
Settings that are read are those that the texts of the variables mean.  They hold what the
bytes of all the variables that are set mean exactly when these are plain.  A word for
production makes the settings those of production, without tokens to be seeded, exactly when
there are no blanks around it.
-/
theorem recognised_iff_plain (vars : Variables) (settings : Settings)
    (h : read vars = .ok settings) :
    Conforms vars.texts settings ∧
      (Recognised vars settings ↔ Plain vars settings.store.kind) ∧
      ∀ text, vars.values.get? Variable.environment.name = some (Utf8.encode text) →
        Environment text true →
        (settings.production = true ∧ settings.seeds = [] ↔
          Text.Trims text.toList text.toList) := by
  have hconforms := read_eq_ok_iff_conforms.mp h
  refine ⟨hconforms, hconforms.recognised_iff, fun text hset hword => ?_⟩
  have htext : vars.texts .environment = some text := Variables.texts_eq_some_iff.mpr hset
  rw [and_iff_left_of_imp hconforms.sound.unseeded, hconforms.production_iff_spells htext,
    spellsProduction_iff, and_iff_right hword]

/-- Variables that are all plain, in several letter cases and with blanks around a number. -/
def plainTexts : Texts
  | .environment => some "PROD"
  | .tokenStore => some "Postgres"
  | .databaseUrl => some "postgres://localhost/tokens"
  | .databaseMaxConnections => some " 5 "
  | .authEnabled => some "off"
  | _ => none

/-- The variables with these texts. -/
def plainVariables : Variables :=
  .ofList [("APP_ENV", Utf8.encode "PROD"), ("TOKEN_STORE", Utf8.encode "Postgres"),
    ("DATABASE_URL", Utf8.encode "postgres://localhost/tokens"),
    ("DATABASE_MAX_CONNECTIONS", Utf8.encode " 5 "), ("AUTH_ENABLED", Utf8.encode "off")]

/-- What is read of these variables. -/
def plainSettings : Settings :=
  { port := 3000, production := true, store := .postgres "postgres://localhost/tokens" 5,
    authEnabled := false, lookupTimeout := 2000, requestTimeout := 30, seeds := [] }

/-- All of these variables are recognised. -/
theorem recognised_plainVariables :
    read plainVariables = .ok plainSettings ∧ Recognised plainVariables plainSettings := by
  have hread : read plainVariables = .ok plainSettings := by decide +kernel
  have hhold : Hold plainVariables plainTexts := by
    intro key
    cases key <;> decide +kernel
  refine ⟨hread, (recognised_iff_plain plainVariables plainSettings hread).2.1.mpr ?_⟩
  refine ⟨fun key _ => hhold.setToText fun _ _ => trivial, hhold.setToText ?_,
    fun _ => hhold.setToText fun _ _ => trivial, StoreKind.noConfusion⟩
  rintro text ⟨⟩
  exact .inr (.inr (by decide))

/-- A word for production with a blank behind it, and a token to be seeded. -/
def trailingBlank : Variables :=
  .ofList [("APP_ENV", Utf8.encode "production "), ("TOKEN_STORE", Utf8.encode "memory"),
    ("DEV_TOKENS", Utf8.encode "1:bootstrap:24")]

/-- A port whose bytes are not text. -/
def unreadablePort : Variables :=
  .ofList [("PORT", [0xFF]), ("TOKEN_STORE", Utf8.encode "memory")]

/-- The settings of development with a store in memory and with the given tokens. -/
def developmentSettings (seeds : List Seed) : Settings :=
  { port := 3000, production := false, store := .memory [], authEnabled := true,
    lookupTimeout := 2000, requestTimeout := 30, seeds }

/--
The settings of the one are not those of production, although its word means production; the
settings of the other hold the default port, although a port is set.
-/
theorem not_recognised_trailingBlank :
    (read trailingBlank = .ok (developmentSettings [⟨1, "bootstrap", 24⟩]) ∧
        Environment "production " true ∧
        ¬ Recognised trailingBlank (developmentSettings [⟨1, "bootstrap", 24⟩])) ∧
      read unreadablePort = .ok (developmentSettings []) ∧
        ¬ Recognised unreadablePort (developmentSettings []) := by
  have hword : IsWord "production" "production " := isWord_iff.mpr (by decide)
  refine ⟨⟨by decide +kernel, ⟨_, List.mem_cons_self, hword⟩, fun hrec => ?_⟩,
    by decide +kernel, fun hrec => ?_⟩
  · have hset : trailingBlank.values.get? Variable.environment.name =
        some (Utf8.encode "production ") := by decide +kernel
    rcases hrec.environment _ hset with ⟨text, htext, other, hother, hmeans⟩
    rw [Utf8.encode_injective htext] at hmeans
    rw [List.mem_singleton.mp hother] at hmeans
    exact absurd (hword.unique hmeans) (by decide)
  · have hset : unreadablePort.values.get? Variable.port.name = some [0xFF] := by decide +kernel
    have hnone : Utf8.decode? [0xFF] = none := by decide +kernel
    rcases hrec.port _ hset with ⟨text, htext, -⟩
    rw [← Utf8.decode?_eq_some_iff, hnone] at htext
    cases htext

end Settings
end BearerTokens
