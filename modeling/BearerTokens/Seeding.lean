import BearerTokens.Lifecycle.Basic
import BearerTokens.Settings.Entries

/-!
# Seeding tokens at start-up

The first token of an owner cannot be issued by request, so the settings may
name tokens to be issued at start-up, in order.  One that is there already is
skipped; the first that cannot be issued ends the start-up, and those before it
stay.
-/

namespace BearerTokens

/-- Why seeding failed. -/
inductive SeedError where
  | lifetimeTooLarge (name : String)
  | refused (name : String) (cause : TokenError)
  deriving DecidableEq, Repr

/-- The text of an error, without its cause. -/
def SeedError.message : SeedError → String
  | .lifetimeTooLarge name => "lifetime of seed token '" ++ name ++ "' is too large"
  | .refused name _ => "failed to seed access token '" ++ name ++ "'"

/-- The error of the token lifecycle behind an error. -/
def SeedError.cause? : SeedError → Option TokenError
  | .lifetimeTooLarge _ => none
  | .refused _ cause => some cause

namespace Seed

/-- What the issue of a token comes to; one that is there already is no error. -/
def outcome (name : String) : Except TokenError Secret → Except SeedError (Option Secret)
  | .ok secret => .ok (some secret)
  | .error (.duplicate _) => .ok none
  | .error cause => .error (.refused name cause)

/-- Issue one token; the result is {lit}`none` if it is there already. -/
def issue (seed : Seed) : Procedure (Except SeedError (Option Secret)) :=
  .ask .now fun now =>
    match hoursAfter now seed.hours with
    | none => .done (.error (.lifetimeTooLarge seed.name))
    | some expiresAt =>
      (Lifecycle.issue seed.owner seed.name none expiresAt).map (outcome seed.name)

/-- Issue tokens in order, given the secrets issued so far, the last first. -/
def issueFrom (issued : List Secret) : List Seed → Procedure (Except SeedError (List Secret))
  | [] => .done (.ok issued.reverse)
  | seed :: rest =>
    seed.issue.bind fun result =>
      match result with
      | .error cause => .done (.error cause)
      | .ok secret => issueFrom (secret.toList ++ issued) rest

/-- Issue tokens in order and give the secrets of those that are new. -/
def issueAll (seeds : List Seed) : Procedure (Except SeedError (List Secret)) :=
  issueFrom [] seeds

end Seed
end BearerTokens
