import BearerTokens.Proofs.Service.Atomicity

/-!
# Rows keep the rules

The store is changed by calls of the token service only, and these add no row that breaks a
rule.  So every row of every attainable store has a positive owner, a name and a
description that are not too long, whatever faults there have been.

Main results:

- Theorem {lit}`Backend.Attainable.transition_invariant`: what no call of the token service
  breaks holds of every attainable store.
- Theorem {lit}`Backend.Attainable.rows_invariant`: what every row satisfies when it is added.
- Theorem {lit}`Backend.Attainable.rules`: every stored row keeps the rules.
-/

namespace BearerTokens

/-- What no call of the token service breaks, no handling breaks. -/
theorem Handling.Result.invariant {P : TokenStore → Prop} {before : Backend} {handling : Handling}
    {response : Http.Response} {after : TokenStore}
    (htransition : ∀ (after : TokenStore) (call : ServiceCall) (answer : ServiceAnswer),
      ServiceCall.Transition before after call answer → P after)
    (hbefore : P before.store) (h : handling.Result before response after) : P after := by
  cases handling with
  | respond said =>
    rcases h with ⟨-, rfl⟩
    exact hbefore
  | serve call =>
    rcases h with ⟨answer, -, hchange⟩
    exact htransition after call answer hchange

namespace Backend.Attainable

variable {backend : Backend}

/-- What holds of the empty store, and what no call of the token service breaks. -/
theorem transition_invariant {P : TokenStore → Prop} (hempty : P .empty)
    (htransition : ∀ (before : Backend) (after : TokenStore) (call : ServiceCall)
      (answer : ServiceAnswer), before.store.Reachable → P before.store →
      ServiceCall.Transition before after call answer → P after)
    (h : backend.Attainable) : P backend.store := by
  induction h with
  | ofUsers users clock => exact hempty
  | @step before service step hbefore ih =>
    have hstore := hbefore.regular.store
    have hcalls : ∀ after call answer,
        ServiceCall.Transition before after call answer → P after :=
      fun after call answer hchange => htransition before after call answer hstore ih hchange
    cases step with
    | call call =>
      have hensures := ServiceCall.ensures_transition before hstore call
      refine Activity.Ensures.state (P := fun b : Backend => P b.store) (hensures.imp ?_ ?_) none
      · rintro after ⟨answer, hchange⟩
        exact hcalls _ _ _ hchange
      · intro answer after hchange
        exact hcalls _ _ _ hchange
    | request ids request =>
      have hconcluded := Service.respond_result hstore service ids request
      simp only [Service.step]
      generalize service.respond Backend.environment ids request before = exchange at hconcluded ⊢
      generalize exchange.response = response, exchange.state.store = after at hconcluded ⊢
      cases hconcluded with
      | tooLong => exact ih
      | late hdecides =>
        rcases hdecides with ⟨outcome, -, said, hresult⟩
        exact hresult.invariant hcalls ih
      | answered hdecides =>
        rcases hdecides with ⟨outcome, -, hresult⟩
        exact hresult.invariant hcalls ih
    | setClock clock => exact ih
    | putUser user => exact ih
    | supply blocks => exact ih
  | plan faults _ ih => exact ih
  | outage store directory _ ih => exact ih

/-- What holds of every row that is added by the rules holds of every stored row. -/
theorem rows_invariant {Q : Token → Prop}
    (hadded : ∀ (before : Backend) (token : NewToken),
      Lifecycle.refusal? token.owner token.name token.description = none →
      Q (.ofNew (before.store.lastId + 1) before.creationTime token))
    (h : backend.Attainable) : ∀ row ∈ backend.store.rows.values, Q row := by
  refine h.transition_invariant (P := fun store => ∀ row ∈ store.rows.values, Q row) ?_ ?_
  · intro row hrow
    cases hrow
  · intro before after call answer hstore hrows hchange
    cases hchange with
    | unchanged _ _ => exact hrows
    | issued block hrefusal hfree =>
      intro row hrow
      rw [(hstore.inserted_add hfree before.creationTime).values] at hrow
      rcases List.mem_append.mp hrow with hold | hnew
      · exact hrows row hold
      · rw [List.mem_singleton.mp hnew]
        exact hadded before _ hrefusal
    | revoked gone hfound =>
      intro row hrow
      rw [(hstore.removed_of_found hfound).values] at hrow
      exact hrows row (List.mem_of_mem_erase hrow)

/-- Every stored row keeps the rules for a new token. -/
theorem rules (h : backend.Attainable) : ∀ row ∈ backend.store.rows.values,
    Lifecycle.refusal? row.owner row.name row.description = none :=
  h.rows_invariant fun _ _ hrefusal => hrefusal

end Backend.Attainable
end BearerTokens
