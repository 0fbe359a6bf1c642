import BearerTokens.Activity
import BearerTokens.Deployment.Entropy
import BearerTokens.Store.Memory

/-!
# Collaborators in one place

A backend holds a token store and a user directory in memory, a clock that is
set from outside, and a source of random blocks.  The store or the directory
may be out of service, and single calls may be given a fault: a delay, an
error, or an answer as if nothing were there.

Main results:

- Definition {lit}`Backend.environment`: the collaborators with their faults.
- Definition {lit}`Backend.answer`: the same without faults and delays.
-/

namespace BearerTokens

/-! ## Faults -/

/-- What goes wrong with one call. -/
structure Fault where
  error : Option StoreError
  /-- Answer that nothing was found or deleted, where the call has such an answer. -/
  miss : Bool
  /-- The delay before the effect, in milliseconds. -/
  before : Nat
  /-- The delay after an effect that did not fail, in milliseconds. -/
  after : Nat
  deriving DecidableEq, Repr

/-- Nothing goes wrong. -/
def Fault.none : Fault := ⟨.none, false, 0, 0⟩

/-- Faults in the order in which they were planned, each for one method. -/
abbrev FaultPlan := List (Method × Fault)

/-- The first fault planned for a method, and the plan without it. -/
def FaultPlan.take (method : Method) : FaultPlan → Fault × FaultPlan
  | [] => (.none, [])
  | (planned, fault) :: rest =>
    if planned = method then (fault, rest)
    else
      let (found, left) := FaultPlan.take method rest
      (found, (planned, fault) :: left)

/-! ## The backend -/

/-- The collaborators of the service. -/
structure Backend where
  store : TokenStore
  /-- The error of every call of a store that is out of service. -/
  storeOutage : Option StoreError
  directory : UserDirectory
  /-- The error of every call of a directory that is out of service. -/
  directoryOutage : Option StoreError
  clock : Int
  entropy : EntropySource
  faults : FaultPlan
  deriving DecidableEq, Repr

namespace Backend

/-- A backend with users and a clock, in service and without tokens and faults. -/
def ofUsers (users : List User) (clock : Int) : Backend where
  store := .empty
  storeOutage := none
  directory := .ofList users
  directoryOutage := none
  clock := clock
  entropy := .empty
  faults := []

/-- The time at which a row is created now; the epoch if the calendar ends before. -/
def creationTime (backend : Backend) : Timestamp :=
  (Timestamp.ofMillis? backend.clock).getD .epoch

/-- The answer of a store in service, or its outage. -/
def inService {α : Type} (backend : Backend) (value : α) : Except StoreError α :=
  match backend.storeOutage with
  | some outage => .error outage
  | none => .ok value

/-- The answer to a call without faults, and what it leaves behind. -/
def answer (backend : Backend) : (call : Call) → call.Answer × Backend
  | .insert token =>
    match backend.storeOutage with
    | some outage => (Except.error outage, backend)
    | none =>
      let (store, row) := backend.store.insert backend.creationTime token
      (row, { backend with store := store })
  | .findByOwnerAndName owner name =>
    (backend.inService (backend.store.findByOwnerAndName owner name), backend)
  | .findBySecretDigest digest =>
    (backend.inService (backend.store.findBySecretDigest digest), backend)
  | .listByOwner owner => (backend.inService (backend.store.listByOwner owner), backend)
  | .delete id =>
    match backend.storeOutage with
    | some outage => (Except.error outage, backend)
    | none =>
      let (store, deleted) := backend.store.delete id
      (Except.ok deleted, { backend with store := store })
  | .load user =>
    match backend.directoryOutage with
    | some outage => (Except.error (.backend outage), backend)
    | none => (backend.directory.load user, backend)
  | .now => (backend.clock, backend)
  | .entropy =>
    let (block, entropy) := backend.entropy.draw
    (block, { backend with entropy := entropy })

/-! ## Calls with faults -/

/-- The answer to a call that is given an error. -/
def failed (error : StoreError) : (call : Call) → Option call.Answer
  | .insert _ => some (Except.error error)
  | .findByOwnerAndName _ _ => some (Except.error error)
  | .findBySecretDigest _ => some (Except.error error)
  | .listByOwner _ => some (Except.error error)
  | .delete _ => some (Except.error error)
  | .load _ => some (Except.error (.backend error))
  | .now => none
  | .entropy => none

/-- The answer to a call as if nothing were there, where it has one. -/
def missed : (call : Call) → Option call.Answer
  | .findByOwnerAndName _ _ => some (Except.ok none)
  | .findBySecretDigest _ => some (Except.ok none)
  | .delete _ => some (Except.ok false)
  | .insert _ => none
  | .listByOwner _ => none
  | .load _ => none
  | .now => none
  | .entropy => none

/-- Whether an answer is an error. -/
def isError {ε α : Type} : Except ε α → Bool
  | .error _ => true
  | .ok _ => false

/-- Whether a call failed. -/
def hasFailed : (call : Call) → call.Answer → Bool
  | .insert _, answer => isError (ε := StoreError) (α := Token) answer
  | .findByOwnerAndName _ _, answer => isError (ε := StoreError) (α := Option Token) answer
  | .findBySecretDigest _, answer => isError (ε := StoreError) (α := Option Token) answer
  | .listByOwner _, answer => isError (ε := StoreError) (α := List Token) answer
  | .delete _, answer => isError (ε := StoreError) (α := Bool) answer
  | .load _, answer => isError (ε := DirectoryError) (α := User) answer
  | .now, _ => false
  | .entropy, answer => isError (ε := String) (α := Block) answer

/-- The answer that a fault puts in place of a call, if it does. -/
def injected (fault : Fault) (call : Call) : Option call.Answer :=
  match fault.error with
  | some error => failed error call
  | none => if fault.miss then missed call else none

/-- A call with a fault. -/
def faulty (backend : Backend) (fault : Fault) (call : Call) : Reply Backend call :=
  match injected fault call with
  | some value => ⟨fault.before, backend, value, 0, backend⟩
  | none =>
    let (value, after) := backend.answer call
    ⟨fault.before, backend, value, if hasFailed call value then 0 else fault.after, after⟩

/-- The collaborators with their faults; the clock and the random source have none. -/
def environment : Environment Backend := fun backend call =>
  match call.method? with
  | none => backend.faulty .none call
  | some method =>
    let (fault, faults) := FaultPlan.take method backend.faults
    { backend with faults := faults }.faulty fault call

end Backend
end BearerTokens
