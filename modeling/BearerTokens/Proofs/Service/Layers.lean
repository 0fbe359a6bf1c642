import BearerTokens.Proofs.Service.Atomicity

/-!
# What the outermost layers leave of a response

The layers around a handler add an identifier and, where a route has no operation for
the method, the methods that it has.  All other fields pass through unchanged, and so
does the body of a response to anything but a HEAD.

Main results:

- Theorems {lit}`Service.values_finish` and {lit}`Service.values_identify`: the fields.
- Theorem {lit}`Service.body_finish`: the body.
- Theorem {lit}`Service.respond_of_done`: the response to a request that the filter leads
  to one at once.
-/

namespace BearerTokens

/-! ## Fields -/

namespace Http.Response

/-- One more field adds its value to those of its name. -/
theorem values_withField (response : Response) (field : Field) (name : String) :
    (response.withField field).values name =
      response.values name ++ if field.name = name then [field.value] else [] := by
  unfold Response.values Http.values withField
  rw [List.filter_append, List.map_append]
  by_cases hname : field.name = name
  · simp [hname]
  · simp [hname]

/-- A field of another name adds no value. -/
theorem values_withField_of_ne (response : Response) {field : Field} {name : String}
    (h : field.name ≠ name) : (response.withField field).values name = response.values name := by
  rw [values_withField, if_neg h, List.append_nil]

end Http.Response

/-- A problem asks for credentials exactly when they are missing or were refused. -/
theorem Problem.challenges_response (problem : Problem) :
    problem.response.values "www-authenticate" =
      if problem.status = 401 then [Ascii.bytes challenge] else [] := by
  cases problem <;> rfl

namespace Service

/-- The outermost layer adds no fields but the methods of a route. -/
theorem values_finish (path : Http.Path) (method : String) (response : Http.Response)
    {name : String} (h : "allow" ≠ name) :
    (finish path method response).values name = response.values name := by
  refine finish_keeps (f := fun response => response.values name) path ?_ ?_ response
  · intro response
    unfold forHead
    split <;> rfl
  · intro route response
    unfold nameAllowed
    split
    · rfl
    · exact response.values_withField_of_ne h

/-- The body of a response stays, unless the request is a HEAD. -/
theorem body_finish (path : Http.Path) {method : String} (h : method ≠ "HEAD")
    (response : Http.Response) : (finish path method response).body = response.body := by
  refine finish_keeps path ?_ ?_ response
  · intro response
    rw [forHead, if_neg h]
  · intro route response
    unfold nameAllowed
    split <;> rfl

/-- Only the identifier is added to a response that is identified. -/
theorem values_identify (request : Http.Request) (drawn : String) (response : Http.Response)
    {name : String} (h : identifierField ≠ name) :
    (identify request drawn response).values name = response.values name :=
  response.values_withField_of_ne h

/-! ## Requests that are answered at once -/

section

variable {σ : Type} {service : Service} {environment : Environment σ} {s : σ}
  {request : Http.Request}

/-- A request whose body is declared too long is answered at once. -/
theorem respond_of_tooLong (ids : Identifiers)
    (h : (declaredLength? request).any (maxBodyLength < ·) = true) :
    service.respond environment ids request s =
      ⟨finish request.path request.method (identify request ids.request tooLong), s, []⟩ := by
  simp only [respond, respondInside, h, if_true]

/-- A request that runs out of time within the filter is told so, by a bare answer. -/
theorem respond_of_late (ids : Identifiers)
    (hlength : (declaredLength? request).any (maxBodyLength < ·) = false)
    (h : (service.filter.authenticate environment request.authorization
      (some service.requestTimeout) s).result = none) :
    let run := service.filter.authenticate environment request.authorization
      (some service.requestTimeout) s
    service.respond environment ids request s =
      ⟨finish request.path request.method (.bare 408), run.state, run.calls⟩ := by
  intro run
  simp only [respond, respondInside, hlength, Bool.false_eq_true, if_false, timed, filtered,
    Activity.within, exceeds, Activity.bind_of_none h, Option.join_some, run]

/-- A request that the filter leads to a response at once gets this response. -/
theorem respond_of_done (ids : Identifiers)
    (hlength : (declaredLength? request).any (maxBodyLength < ·) = false)
    {outcome : Outcome} {response : Http.Response}
    (h : (service.filter.authenticate environment request.authorization
      (some service.requestTimeout) s).result = some outcome)
    (hdone : ∀ bodyLimit, afterFilter ids.session none
      (fun caller => service.dispatch caller request bodyLimit) outcome = .done response) :
    let run := service.filter.authenticate environment request.authorization
      (some service.requestTimeout) s
    service.respond environment ids request s =
      ⟨finish request.path request.method (identify request ids.request response), run.state,
        run.calls⟩ := by
  intro run
  simp only [respond, respondInside, hlength, Bool.false_eq_true, if_false, timed, filtered,
    Activity.within, exceeds, Activity.bind_of_some h, hdone, Procedure.run, Activity.done,
    Option.join_some, List.append_nil, run]

end

end Service
end BearerTokens
