import BearerTokens.Proofs.Lifecycle.Transition
import BearerTokens.Proofs.Service.Handling

/-!
# What answers tell

An error that names a token names the one that the call is about.  Rows that a reading
call answers with are those of the store at that moment, whatever faults there are: a
fault may hide a row or fail a call, but it makes no rows up.

Main results:

- Definition {lit}`Procedure.Yields`: what holds of every result that a procedure may have.
- Definition {lit}`ServiceCall.Told`: what an answer tells about its call and the store.
- Theorem {lit}`ServiceCall.ensures_told`: every answer tells the truth.
-/

namespace BearerTokens

/-! ## Results of procedures -/

namespace Procedure

variable {α β : Type}

/-- Whatever the answers to its calls are, the result of a procedure satisfies a condition. -/
def Yields (P : α → Prop) : Procedure α → Prop
  | .done value => P value
  | .ask _ next => ∀ answer, (next answer).Yields P

/-- A change of the result carries the condition over. -/
theorem Yields.map {P : β → Prop} {f : α → β} {p : Procedure α} (h : p.Yields fun a => P (f a)) :
    (p.map f).Yields P := by
  induction p with
  | done value => exact h
  | ask call next ih =>
    intro answer
    exact ih answer (h answer)

/-- A weaker condition is yielded as well. -/
theorem Yields.imp {P Q : α → Prop} {p : Procedure α} (h : p.Yields P)
    (himp : ∀ value, P value → Q value) : p.Yields Q := by
  induction p with
  | done value => exact himp value h
  | ask call next ih =>
    intro answer
    exact ih answer (h answer)

/-- A condition that every value satisfies is yielded. -/
theorem yields_of_forall {P : α → Prop} (h : ∀ value, P value) (p : Procedure α) :
    p.Yields P := by
  induction p with
  | done value => exact h value
  | ask call next ih => exact ih

/-- In every environment, what a procedure yields it ensures. -/
theorem Yields.ensures {σ : Type} {P : α → Prop} {p : Procedure α} (h : p.Yields P)
    (environment : Environment σ) (s : σ) :
    (p.run environment).Ensures s (fun _ => True) fun value _ => P value := by
  induction p generalizing s with
  | done value => exact .done h
  | ask call next ih => exact ensures_ask trivial trivial (ih _ (h _) _)

end Procedure

/-! ## Names in errors -/

/-- The name of the token that an error is about, if it is about one. -/
def TokenError.name? : TokenError → Option String
  | .duplicate name => some name
  | .notFound name => some name
  | _ => none

/-- An error, if it is about a token at all, is about the one of a name. -/
def TokenError.About (name : String) (cause : TokenError) : Prop :=
  ∀ other, cause.name? = some other → other = name

/-- The error that an answer reports, if it reports one. -/
def ServiceAnswer.error? : ServiceAnswer → Option TokenError
  | .issued (.error cause) => some cause
  | .revoked (.error cause) => some cause
  | .found (.error cause) => some cause
  | .listed (.error cause) => some cause
  | _ => none

namespace Lifecycle

/-- A rule that a new token breaks is not about another token. -/
theorem about_refusal {owner : Int} {name : String} {description : Option String}
    {refusal : TokenError} (h : refusal? owner name description = some refusal) :
    refusal.About name := by
  intro other hother
  unfold refusal? at h
  split at h
  · rw [← Option.some.inj h] at hother
    cases hother
  · split at h
    · rw [← Option.some.inj h] at hother
      cases hother
    · split at h
      · rw [← Option.some.inj h] at hother
        cases hother
      · cases h

/-- The error of an issue that the store refuses is about the name of the issue. -/
theorem about_issued {owner : Int} {name : String} {secret : Secret}
    {answer : Except StoreError Token} {cause : TokenError}
    (h : issued owner name secret answer = .error cause) : cause.About name := by
  intro other hother
  match answer with
  | .ok row => cases h
  | .error .conflict =>
    rw [← Except.error.inj h] at hother
    exact (Option.some.inj hother).symm
  | .error .unknownOwner =>
    rw [← Except.error.inj h] at hother
    cases hother
  | .error (.database reason) =>
    rw [← Except.error.inj h] at hother
    cases hother

/-- A failure of a collaborator is about no token. -/
theorem about_store (name : String) (cause : StoreError) : (TokenError.store cause).About name := by
  intro other hother
  cases hother

/-- A failure of the random source is about no token. -/
theorem about_entropy (name : String) (reason : String) :
    (TokenError.entropy reason).About name := by
  intro other hother
  cases hother

/-- An error that names a token is about that name. -/
theorem about_of_name? {name : String} {cause : TokenError} (h : cause.name? = some name) :
    cause.About name := by
  intro other hother
  rw [h] at hother
  exact (Option.some.inj hother).symm

/-- Every error of an issue is about its name. -/
theorem issue_yields (owner : Int) (name : String) (description : Option String)
    (expiresAt : Int) :
    (issue owner name description expiresAt).Yields fun result =>
      ∀ cause, result = .error cause → cause.About name := by
  unfold issue
  cases hrefusal : refusal? owner name description with
  | some refusal =>
    rintro cause ⟨⟩
    exact about_refusal hrefusal
  | none =>
    intro found
    match found with
    | .error cause =>
      rintro _ ⟨⟩
      exact about_store name cause
    | .ok (some row) =>
      rintro _ ⟨⟩
      exact about_of_name? rfl
    | .ok none =>
      intro drawn
      match drawn with
      | .error reason =>
        rintro _ ⟨⟩
        exact about_entropy name reason
      | .ok block =>
        intro answer cause hcause
        exact about_issued hcause

/-- Every error of a revocation is about its name. -/
theorem revoke_yields (owner : Int) (name : String) :
    (revoke owner name).Yields fun result => ∀ cause, result = .error cause → cause.About name := by
  intro found
  match found with
  | .error cause =>
    rintro _ ⟨⟩
    exact about_store name cause
  | .ok none =>
    rintro _ ⟨⟩
    exact about_of_name? rfl
  | .ok (some row) =>
    intro answer
    match answer with
    | .error cause =>
      rintro _ ⟨⟩
      exact about_store name cause
    | .ok true =>
      rintro _ ⟨⟩
    | .ok false =>
      rintro _ ⟨⟩
      exact about_of_name? rfl

end Lifecycle

namespace ServiceCall

/-- The name of the token that a call is about, if it is about one. -/
def name? : ServiceCall → Option String
  | .issue _ name _ _ => some name
  | .revoke _ name => some name
  | .find _ name => some name
  | .list _ => none
  | .resolve _ => none

/-- An error, if it is about a token at all, is about that of a call. -/
def Blames (call : ServiceCall) (cause : TokenError) : Prop :=
  ∀ name, cause.name? = some name → call.name? = some name

/-- A failure of the store is about no token. -/
theorem blames_store (call : ServiceCall) (failure : StoreError) :
    call.Blames (.store failure) := by
  intro name hname
  cases hname

/-- An error about the name of a call is about its token. -/
theorem blames_of_about {call : ServiceCall} {name : String} {cause : TokenError}
    (hcall : call.name? = some name) (h : cause.About name) : call.Blames cause := by
  intro other hother
  rw [h other hother]
  exact hcall

/-- The rows of an answer are those of a store. -/
def ReadsFrom (store : TokenStore) : ServiceCall → ServiceAnswer → Prop
  | .list owner, .listed (.ok rows) => rows = store.listByOwner owner
  | .find owner name, .found (.ok (some row)) => store.findByOwnerAndName owner name = some row
  | _, _ => True

/-- What an answer tells about its call and a store. -/
structure Told (store : TokenStore) (call : ServiceCall) (answer : ServiceAnswer) : Prop where
  /-- An error is about the token of the call. -/
  error : ∀ cause, answer.error? = some cause → call.Blames cause
  rows : ReadsFrom store call answer

/-- Every error is about the token of its call. -/
theorem procedure_yields (call : ServiceCall) :
    call.procedure.Yields fun answer =>
      ∀ cause, answer.error? = some cause → call.Blames cause := by
  cases call with
  | issue owner name description expiresAt =>
    have hyields := Lifecycle.issue_yields owner name description expiresAt
    refine (hyields.imp fun result habout => ?_).map
    intro cause hcause
    cases result with
    | ok secret => cases hcause
    | error failure =>
      exact blames_of_about rfl (habout cause (congrArg Except.error (Option.some.inj hcause)))
  | revoke owner name =>
    have hyields := Lifecycle.revoke_yields owner name
    refine (hyields.imp fun result habout => ?_).map
    intro cause hcause
    cases result with
    | ok done => cases hcause
    | error failure =>
      exact blames_of_about rfl (habout cause (congrArg Except.error (Option.some.inj hcause)))
  | find owner name =>
    intro found cause hcause
    cases found with
    | ok row => cases hcause
    | error failure =>
      cases hcause
      exact blames_store _ failure
  | list owner =>
    intro rows cause hcause
    cases rows with
    | ok rows => cases hcause
    | error failure =>
      cases hcause
      exact blames_store _ failure
  | resolve secret =>
    intro found cause hcause
    cases found with
    | ok row => cases hcause
    | error failure =>
      cases hcause
      exact blames_store _ failure

/-! ## Rows that are read -/

/-- A store in service answers with the value and nothing else. -/
theorem eq_of_inService {α : Type} {backend : Backend} {value told : α}
    (h : backend.inService value = .ok told) : told = value := by
  rcases backend.inService_cases value with ⟨error, hfailed⟩ | hvalue
  · rw [hfailed] at h
    cases h
  · rw [hvalue] at h
    exact (Except.ok.inj h).symm

/-- With any faults, the rows of an answer are those of the store. -/
theorem ensures_readsFrom (backend : Backend) (call : ServiceCall) :
    (call.procedure.run Backend.environment).Ensures backend (fun _ => True)
      fun answer _ => ReadsFrom backend.store call answer := by
  -- Only two calls answer with rows of their owner.
  have hother : (∀ answer, ReadsFrom backend.store call answer) →
      (call.procedure.run Backend.environment).Ensures backend (fun _ => True)
        fun answer _ => ReadsFrom backend.store call answer :=
    fun h => (Procedure.yields_of_forall h call.procedure).ensures Backend.environment backend
  cases call with
  | list owner =>
    apply Backend.ensures_ask
    · exact fun plan => trivial
    · intro plan after
      refine ⟨trivial, .done ?_⟩
      cases hanswer : after.1 with
      | error failure => trivial
      | ok rows => exact eq_of_inService hanswer
    · intro plan answer hspoilt
      refine .done ?_
      cases answer with
      | error failure => trivial
      | ok rows =>
        rcases hspoilt with ⟨error, hfailed⟩ | hmissed
        · cases hfailed
        · cases hmissed
  | find owner name =>
    apply Backend.ensures_ask
    · exact fun plan => trivial
    · intro plan after
      refine ⟨trivial, .done ?_⟩
      cases hanswer : after.1 with
      | error failure => trivial
      | ok found =>
        cases found with
        | none => trivial
        | some row => exact (eq_of_inService hanswer).symm
    · intro plan answer hspoilt
      refine .done ?_
      match answer with
      | .error failure => trivial
      | .ok none => trivial
      | .ok (some row) =>
        rcases hspoilt with ⟨error, hfailed⟩ | hmissed
        · cases hfailed
        · cases hmissed
  | issue owner name description expiresAt => exact hother fun answer => trivial
  | revoke owner name => exact hother fun answer => trivial
  | resolve secret => exact hother fun answer => trivial

/-- With any faults and under any limits, an answer tells the truth. -/
theorem ensures_told (backend : Backend) (call : ServiceCall) :
    (call.procedure.run Backend.environment).Ensures backend (fun _ => True)
      fun answer _ => Told backend.store call answer := by
  have herror := call.procedure_yields.ensures Backend.environment backend
  refine (herror.and (ensures_readsFrom backend call)).imp (fun _ _ => trivial) ?_
  rintro answer after ⟨habout, hrows⟩
  exact ⟨habout, hrows⟩

end ServiceCall
end BearerTokens
