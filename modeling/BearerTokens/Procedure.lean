import BearerTokens.Directory
import BearerTokens.Token

/-!
# Procedures and their collaborators

What the service does is written as procedures: finite programs that call
collaborators one at a time and go on with the answers.  The collaborators are
the token store, the user directory, the clock and the source of randomness.
A procedure fixes neither how they answer nor how long they take.

Main results:

- Definition {lit}`Procedure.eval`: a procedure over collaborators that answer
  at once.
- Theorem {lit}`Procedure.eval_bind`: evaluation follows the order of calls.
-/

namespace BearerTokens

/-! ## Calls -/

/-- A call of a collaborator with its arguments. -/
inductive Call where
  | insert (token : NewToken)
  | findByOwnerAndName (owner : Int) (name : String)
  | findBySecretDigest (digest : Digest)
  | listByOwner (owner : Int)
  | delete (id : Int)
  | load (user : Int)
  | now
  | entropy
  deriving DecidableEq, Repr

/-- What a collaborator may answer to a call. -/
@[reducible]
def Call.Answer : Call → Type
  | .insert _ => Except StoreError Token
  | .findByOwnerAndName _ _ => Except StoreError (Option Token)
  | .findBySecretDigest _ => Except StoreError (Option Token)
  | .listByOwner _ => Except StoreError (List Token)
  | .delete _ => Except StoreError Bool
  | .load _ => Except DirectoryError User
  | .now => Int
  | .entropy => Except String Block

/-- The methods of the store and the directory. -/
inductive Method where
  | insert
  | findByOwnerAndName
  | findBySecretDigest
  | listByOwner
  | delete
  | load
  deriving DecidableEq, Repr

/-- The name under which a method is reported. -/
def Method.name : Method → String
  | .insert => "insert"
  | .findByOwnerAndName => "find_by_owner_and_name"
  | .findBySecretDigest => "find_by_secret_digest"
  | .listByOwner => "list_by_owner"
  | .delete => "delete"
  | .load => "load"

/-- The method of a call; the clock and the source of randomness have none. -/
def Call.method? : Call → Option Method
  | .insert _ => some .insert
  | .findByOwnerAndName _ _ => some .findByOwnerAndName
  | .findBySecretDigest _ => some .findBySecretDigest
  | .listByOwner _ => some .listByOwner
  | .delete _ => some .delete
  | .load _ => some .load
  | .now => none
  | .entropy => none

/-! ## Procedures -/

/-- A finite program over calls. -/
inductive Procedure (α : Type) where
  | done (value : α)
  | ask (call : Call) (next : call.Answer → Procedure α)

namespace Procedure

variable {α β σ : Type}

/-- Go on with the result of a procedure. -/
def bind : Procedure α → (α → Procedure β) → Procedure β
  | .done value, f => f value
  | .ask call next, f => .ask call fun answer => (next answer).bind f

instance : Monad Procedure where
  pure := .done
  bind := bind

/-- One call as a procedure. -/
def call (c : Call) : Procedure c.Answer :=
  .ask c .done

/-- Change the result of a procedure. -/
def map (f : α → β) (p : Procedure α) : Procedure β :=
  p.bind fun value => .done (f value)

/-- The result and the final state over collaborators that answer at once. -/
def eval (answer : σ → (c : Call) → c.Answer × σ) : Procedure α → σ → α × σ
  | .done value, s => (value, s)
  | .ask c next, s =>
    let reply := answer s c
    (next reply.1).eval answer reply.2

@[simp]
theorem eval_done (answer : σ → (c : Call) → c.Answer × σ) (value : α) (s : σ) :
    (done value).eval answer s = (value, s) :=
  rfl

@[simp]
theorem eval_ask (answer : σ → (c : Call) → c.Answer × σ) (c : Call)
    (next : c.Answer → Procedure α) (s : σ) :
    (ask c next).eval answer s = (next (answer s c).1).eval answer (answer s c).2 :=
  rfl

/-- Evaluation follows the order of calls. -/
theorem eval_bind (answer : σ → (c : Call) → c.Answer × σ) (p : Procedure α)
    (f : α → Procedure β) (s : σ) :
    (p.bind f).eval answer s = (f (p.eval answer s).1).eval answer (p.eval answer s).2 := by
  induction p generalizing s with
  | done value => rfl
  | ask c next ih => exact ih _ _

end Procedure
end BearerTokens
