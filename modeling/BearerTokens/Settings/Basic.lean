import BearerTokens.Settings.Entries
import BearerTokens.Settings.Variables

/-!
# Settings

The settings are read from environment variables in a fixed order, and the
first variable that cannot be read decides.  A variable that is not set has a
default, except for the address of the database.
-/

namespace BearerTokens

/-- The variables that the settings are read from. -/
inductive Variable where
  | port
  | environment
  | tokenStore
  | databaseUrl
  | databaseMaxConnections
  | devUsers
  | authEnabled
  | lookupTimeout
  | requestTimeout
  | devTokens
  deriving DecidableEq, Repr

/-- The name of a variable. -/
def Variable.name : Variable → String
  | .port => "PORT"
  | .environment => "APP_ENV"
  | .tokenStore => "TOKEN_STORE"
  | .databaseUrl => "DATABASE_URL"
  | .databaseMaxConnections => "DATABASE_MAX_CONNECTIONS"
  | .devUsers => "DEV_USERS"
  | .authEnabled => "AUTH_ENABLED"
  | .lookupTimeout => "AUTH_LOOKUP_TIMEOUT_MS"
  | .requestTimeout => "REQUEST_TIMEOUT_SECONDS"
  | .devTokens => "DEV_TOKENS"

/-- Why the settings could not be read. -/
inductive SettingsError where
  | missing (key : Variable)
  | invalid (key : Variable)
  deriving DecidableEq, Repr

/-- The text of an error. -/
def SettingsError.message : SettingsError → String
  | .missing key => "missing configuration: " ++ key.name
  | .invalid key => "invalid configuration: " ++ key.name

/-- Where tokens and users are kept. -/
inductive StoreSettings where
  | postgres (url : String) (maxConnections : Nat)
  /-- In memory, with the given users; nothing survives a restart. -/
  | memory (users : List User)
  deriving DecidableEq, Repr

/-- The settings of the program. -/
structure Settings where
  port : Nat
  production : Bool
  store : StoreSettings
  authEnabled : Bool
  /-- In milliseconds. -/
  lookupTimeout : Nat
  /-- In seconds. -/
  requestTimeout : Nat
  seeds : List Seed
  deriving DecidableEq, Repr

namespace Settings

/-! ## Values -/

/-- A text in lower case, as far as it is ASCII. -/
def lowerCase (s : String) : String :=
  String.ofList (s.toList.map Char.toLower)

/-- A switch in one of its spellings, with blanks around it. -/
def readSwitch (raw : String) : Option Bool :=
  let word := String.ofList ((Text.trim raw.toList).map Char.toLower)
  if word = "true" ∨ word = "1" ∨ word = "yes" ∨ word = "on" then some true
  else if word = "false" ∨ word = "0" ∨ word = "no" ∨ word = "off" then some false
  else none

/-- Whether the word for an environment means production. -/
def isProduction (raw : Option String) : Bool :=
  match raw with
  | none => false
  | some word => lowerCase word = "production" ∨ lowerCase word = "prod"

/-- A number up to a bound, with blanks around it, or its default if the variable is not set. -/
def readNumber (vars : Variables) (key : Variable) (bound default : Nat) :
    Except SettingsError Nat :=
  match vars.get? key.name with
  | none => .ok default
  | some raw =>
    match Decimal.bounded? bound (Text.trim raw.toList) with
    | none => .error (.invalid key)
    | some n => .ok n

/-- A number above zero. -/
def readPositive (vars : Variables) (key : Variable) (bound default : Nat) :
    Except SettingsError Nat :=
  match readNumber vars key bound default with
  | .error cause => .error cause
  | .ok n => if n = 0 then .error (.invalid key) else .ok n

/-! ## Groups of variables -/

/-- The settings of a database. -/
def readPostgres (vars : Variables) : Except SettingsError StoreSettings :=
  match vars.get? Variable.databaseUrl.name with
  | none => .error (.missing .databaseUrl)
  | some url =>
    match readPositive vars .databaseMaxConnections Number.maxUnsigned32 10 with
    | .error cause => .error cause
    | .ok connections => .ok (.postgres url connections)

/-- The settings of a store in memory. -/
def readMemory (vars : Variables) : Except SettingsError StoreSettings :=
  match Entries.users? ((vars.get? Variable.devUsers.name).getD "") with
  | none => .error (.invalid .devUsers)
  | some users => .ok (.memory users)

/-- Where tokens and users are kept. -/
def readStore (vars : Variables) : Except SettingsError StoreSettings :=
  let kind := lowerCase ((vars.get? Variable.tokenStore.name).getD "postgres")
  if kind = "postgres" then readPostgres vars
  else if kind = "memory" then readMemory vars
  else .error (.invalid .tokenStore)

/-- Whether requests are authenticated. -/
def readAuthEnabled (vars : Variables) : Except SettingsError Bool :=
  match vars.get? Variable.authEnabled.name with
  | none => .ok true
  | some raw =>
    match readSwitch raw with
    | none => .error (.invalid .authEnabled)
    | some enabled => .ok enabled

/-- The tokens to be seeded. -/
def readSeeds (vars : Variables) (production : Bool) : Except SettingsError (List Seed) :=
  match Entries.seeds? ((vars.get? Variable.devTokens.name).getD "") production with
  | none => .error (.invalid .devTokens)
  | some seeds => .ok seeds

/-- Read the settings. -/
def read (vars : Variables) : Except SettingsError Settings := do
  let port ← readNumber vars .port Number.maxUnsigned16 3000
  let production := isProduction (vars.get? Variable.environment.name)
  let store ← readStore vars
  let authEnabled ← readAuthEnabled vars
  let lookupTimeout ← readPositive vars .lookupTimeout Number.maxUnsigned64 2000
  let requestTimeout ← readPositive vars .requestTimeout Number.maxUnsigned64 30
  let seeds ← readSeeds vars production
  return { port, production, store, authEnabled, lookupTimeout, requestTimeout, seeds }

/-- The address on which the program listens. -/
def address (settings : Settings) : String :=
  "0.0.0.0:" ++ Decimal.text settings.port

end Settings
end BearerTokens
