import BearerTokens.Deployment.Backend
import BearerTokens.Seeding
import BearerTokens.Service
import BearerTokens.Settings.Basic

/-!
# Start-up

The settings decide which store and directory the service works with.  A store
in memory starts empty and is seeded before the first request.  Seeding takes a
while, so that the clock may show another time whenever it is read.
-/

namespace BearerTokens

/-- Why the service did not start. -/
inductive StartupError where
  | noDatabase
  | seeding (cause : SeedError)
  deriving DecidableEq, Repr

/-- The text of an error, without its cause. -/
def StartupError.message : StartupError → String
  | .noDatabase => "failed to connect to postgres"
  | .seeding cause => cause.message

/-- The error of the token lifecycle behind an error. -/
def StartupError.cause? : StartupError → Option TokenError
  | .noDatabase => none
  | .seeding cause => cause.cause?

/-! ## A clock that moves -/

/-- A backend whose clock moves on between its readings. -/
structure Ticking where
  backend : Backend
  /-- The number of readings so far. -/
  read : Nat
  deriving DecidableEq, Repr

/-- The answer to a call without faults, given what each reading of the clock shows. -/
def Ticking.answer (readings : Nat → Int) (ticking : Ticking) :
    (call : Call) → call.Answer × Ticking
  | .now =>
    let now := readings ticking.read
    (now, ⟨{ ticking.backend with clock := now }, ticking.read + 1⟩)
  | call =>
    let (answer, backend) := ticking.backend.answer call
    (answer, { ticking with backend := backend })

/-! ## The start -/

namespace Settings

/-- The service of the settings. -/
def service (settings : Settings) : Service where
  filter := ⟨settings.authEnabled, settings.lookupTimeout⟩
  requestTimeout := 1000 * settings.requestTimeout

/-- A service that has started. -/
structure Started where
  service : Service
  backend : Backend
  /-- The secrets of the seeded tokens. -/
  secrets : List Secret
  deriving DecidableEq, Repr

/--
Start the service with a source of random blocks, given what each reading of the
clock shows until then.
-/
def startAt (settings : Settings) (readings : Nat → Int) (entropy : EntropySource) :
    Except StartupError Started :=
  match settings.store with
  | .postgres _ _ => .error .noDatabase
  | .memory users =>
    let backend := { Backend.ofUsers users (readings 0) with entropy := entropy }
    match (Seed.issueAll settings.seeds).eval (Ticking.answer readings) ⟨backend, 0⟩ with
    | (.error cause, _) => .error (.seeding cause)
    | (.ok secrets, ticking) => .ok ⟨settings.service, ticking.backend, secrets⟩

/-- Start the service at a point of time with a source of random blocks. -/
def start (settings : Settings) (clock : Int) (entropy : EntropySource) :
    Except StartupError Started :=
  settings.startAt (fun _ => clock) entropy

end Settings
end BearerTokens
