import BearerTokens.Proofs.Service.Admission
import BearerTokens.Proofs.Service.Documents

/-!
# Created tokens can be addressed

A token may be created with any name that is not too long and not blank, and each such
token is found and revoked by the path with its name in any percent-encoding.  The name
comes in as a string of a document and comes back as a segment of a path; both ways lead to
the same text, and no encoding leads to a token of another name.

Main results:

- Definition {lit}`Service.Addressable`: what requests to the path of a token come to.
- Definition {lit}`Service.ActsOn`: the row that a request tells of or removes.
- Theorem {lit}`Service.created_addressable`: every token that is created is addressable.
-/

namespace BearerTokens

/-! ## Callers that stay authentic -/

/-- A request stays that of a user while the row presented and the directory stay. -/
theorem Filter.Authentic.of_stored {backend after : Backend} {authorization : List (List UInt8)}
    {row : Token} {user : User} (h : Authentic backend authorization row user)
    (hclock : after.clock = backend.clock) (hdirectory : after.directory = backend.directory)
    (hstored : row ∈ after.store.rows.values) : Authentic after authorization row user where
  presented := h.presented
  stored := hstored
  unexpired := by
    rw [hclock]
    exact h.unexpired
  owner := by
    rw [hdirectory]
    exact h.owner
  enabled := h.enabled

namespace Service

variable {service : Service} {backend : Backend} {request : Http.Request} {owner : Int}

/-- The clock and the directory stay as they are during a request without faults. -/
theorem respond_frame (h : backend.FaultFree) (service : Service) (ids : Identifiers)
    (request : Http.Request) :
    let after := (service.respond Backend.environment ids request backend).state
    after.clock = backend.clock ∧ after.directory = backend.directory := by
  intro after
  have hstate : after = _ := (respond_eq h service ids request).2
  rw [hstate, Procedure.eval_frame]
  exact ⟨rfl, rfl⟩

/-! ## Tokens that can be addressed -/

/-- What requests to the path of a token come to, for its owner and whoever created it. -/
structure Addressable (service : Service) (backend : Backend) (row : Token)
    (authorization : List (List UInt8)) : Prop where
  /-- The token has a path, and a target with any encoding of its name is admitted. -/
  target : (∃ segment, Percent.Encodes (Utf8.encode row.name) segment) ∧
    ∀ segment, Percent.Encodes (Utf8.encode row.name) segment →
      Http.targetPath? (String.ofList (Route.itemPath segment)) = some (Route.itemPath segment)
  /-- Whoever created the token acts for its owner. -/
  caller : ∀ request, request.authorization = authorization → ActsFor backend request row.owner
  /-- A GET tells of the token and changes nothing. -/
  found : ∀ ids request, Addresses request "GET" row.name → ActsFor backend request row.owner →
    let exchange := service.respond Backend.environment ids request backend
    exchange.response.status = 200 ∧ exchange.response.body = row.json.text ∧
      exchange.state = backend
  /-- A DELETE removes the token and nothing else, and a GET no longer finds it then. -/
  revoked : ∀ ids request, Addresses request "DELETE" row.name →
    ActsFor backend request row.owner →
    let exchange := service.respond Backend.environment ids request backend
    exchange.response.status = 200 ∧ backend.store.Removed exchange.state.store row ∧
      (∀ again, again.authorization = authorization →
        ActsFor exchange.state again row.owner) ∧
      ∀ ids again, Addresses again "GET" row.name → ActsFor exchange.state again row.owner →
        let exchange' := service.respond Backend.environment ids again exchange.state
        exchange'.response.status = 404 ∧ exchange'.state = exchange.state

/-- Whether the response to a GET tells of a row, or a DELETE removes it. -/
def ActsOn (service : Service) (backend : Backend) (ids : Identifiers) (request : Http.Request)
    (row : Token) : Prop :=
  let exchange := service.respond Backend.environment ids request backend
  (request.method = "GET" ∧ exchange.response.status = 200 ∧
      exchange.response.body = row.json.text) ∨
    (request.method = "DELETE" ∧ backend.store.Removed exchange.state.store row)

/-- A stored row is found by its owner and its name. -/
theorem find_of_mem (h : backend.Sound) {row : Token} (hrow : row ∈ backend.store.rows.values) :
    backend.store.findByOwnerAndName row.owner row.name = some row :=
  h.store.findByOwnerAndName_eq_some_iff.mpr ⟨hrow, rfl⟩

/-- A stored row with a name that is allowed is addressable, also for another caller that stays. -/
theorem addressable_of_mem (h : backend.Sound) (henabled : service.filter.enabled = true)
    {row presented : Token} {user : User} {authorization : List (List UInt8)}
    (hrow : row ∈ backend.store.rows.values) (hname : Nameable row.name)
    (hcreator : Filter.Authentic backend authorization presented user)
    (howner : presented.owner = row.owner) (hother : presented ≠ row) :
    Addressable service backend row authorization := by
  have hfound := find_of_mem h hrow
  have huser : user.id = row.owner := (id_eq_owner h hcreator).trans howner
  refine ⟨⟨⟨_, Percent.encodes_encode .upper _⟩, ?_⟩, ?_, ?_, ?_⟩
  · intro segment hencodes
    exact Route.targetPath?_itemPath hname.1 hencodes
  · rintro request rfl
    exact ⟨presented, user, hcreator, howner, huser⟩
  · intro ids request hrequest hcaller
    rcases respond_get h henabled hname.ne_empty hrequest hcaller ids with ⟨hstate, htold, -⟩
    rcases htold row hfound with ⟨hstatus, hbody⟩
    exact ⟨hstatus, hbody, hstate⟩
  · intro ids request hrequest hcaller exchange
    rcases (respond_delete h henabled hname.ne_empty hrequest hcaller ids).1 row hfound with
      ⟨hstatus, hstate⟩
    have hafter : exchange.state.Sound := service.step_sound h (.request ids request)
    have hremoved : backend.store.Removed exchange.state.store row := by
      rw [hstate]
      exact h.store.removed_of_found hfound
    have hgone : exchange.state.store.findByOwnerAndName row.owner row.name = none :=
      hafter.store.findByOwnerAndName_eq_none_iff.mpr (hremoved.key_free h.store)
    have hkept : presented ∈ exchange.state.store.rows.values := by
      rw [hremoved.values]
      exact (List.mem_erase_of_ne hother).mpr hcreator.stored
    rcases respond_frame h.faultFree service ids request with ⟨hclock, hdirectory⟩
    have hstays := hcreator.of_stored hclock hdirectory hkept
    refine ⟨hstatus, hremoved, ?_, ?_⟩
    · rintro again rfl
      exact ⟨presented, user, hstays, howner, huser⟩
    · intro ids again hagain hacts
      rcases respond_get hafter henabled hname.ne_empty hagain hacts ids with ⟨hsame, -, hmissed⟩
      exact ⟨hmissed hgone, hsame⟩

/-! ## Tokens of other names -/

/-- The empty name has no path, so a request there comes to nothing. -/
theorem respond_of_empty (h : backend.Sound) (henabled : service.filter.enabled = true)
    {method : String} (hrequest : Addresses request method "")
    (hcaller : ActsFor backend request owner) (ids : Identifiers) :
    let exchange := service.respond Backend.environment ids request backend
    exchange.response.status = 404 ∧ exchange.state = backend := by
  rcases hrequest with ⟨-, ⟨segment, hencodes, hpath⟩, hlength⟩
  have hempty : segment = [] := by
    cases hencodes with
    | nil => rfl
  have hroute : Route.ofPath? request.path = none := by
    rw [hpath, hempty]
    decide +kernel
  rcases exists_routing h henabled hcaller hlength ids.session with ⟨who, -, hrouting⟩
  rcases respond_eq h.faultFree service ids request with ⟨hresponse, hstate⟩
  simp only [hrouting, routing, hroute] at hresponse hstate
  intro exchange
  refine ⟨?_, hstate⟩
  rw [hresponse, status_finish]
  rfl

/-- A request to the path of a name acts on rows of this name only. -/
theorem name_of_actsOn (h : backend.Sound) (henabled : service.filter.enabled = true)
    {method name : String} (hrequest : Addresses request method name)
    (hcaller : ActsFor backend request owner) {ids : Identifiers} {row : Token}
    (hacts : ActsOn service backend ids request row) : row.name = name := by
  by_cases hname : name = ""
  · subst hname
    rcases respond_of_empty h henabled hrequest hcaller ids with ⟨hmissed, hsame⟩
    rcases hacts with ⟨-, hstatus, -⟩ | ⟨-, hremoved⟩
    · rw [hmissed] at hstatus
      cases hstatus
    · rw [hsame] at hremoved
      exact absurd hremoved.stored (hremoved.not_mem h.store)
  rcases hacts with ⟨hmethod, hstatus, hbody⟩ | ⟨hmethod, hremoved⟩
  · have hget : Addresses request "GET" name := ⟨hmethod, hrequest.path, hrequest.length⟩
    rcases respond_get h henabled hname hget hcaller ids with ⟨-, htold, hmissed⟩
    cases hfind : backend.store.findByOwnerAndName owner name with
    | none =>
      rw [hmissed hfind] at hstatus
      cases hstatus
    | some found =>
      have hfoundName : found.name = name :=
        congrArg Prod.snd (h.store.findByOwnerAndName_eq_some_iff.mp hfind).2
      rw [(htold found hfind).2] at hbody
      rw [← hfoundName, (Token.members_of_json_text hbody).1]
  · have hdelete : Addresses request "DELETE" name := ⟨hmethod, hrequest.path, hrequest.length⟩
    rcases respond_delete h henabled hname hdelete hcaller ids with ⟨hrevoked, hmissed⟩
    cases hfind : backend.store.findByOwnerAndName owner name with
    | none =>
      rw [(hmissed hfind).2] at hremoved
      exact absurd hremoved.stored (hremoved.not_mem h.store)
    | some found =>
      have hfoundName : found.name = name :=
        congrArg Prod.snd (h.store.findByOwnerAndName_eq_some_iff.mp hfind).2
      rw [(hrevoked found hfind).2] at hremoved
      rw [hremoved.eq (h.store.removed_of_found hfind) h.store, hfoundName]

/-! ## Creations -/

/-- An authentic caller has a positive number. -/
theorem pos_of_actsFor (h : backend.Attainable) (hcaller : ActsFor backend request owner) :
    0 < owner := by
  rcases hcaller with ⟨presented, user, hauthentic, rfl, -⟩
  have hrules := h.rules presented hauthentic.stored
  exact (Lifecycle.refusal?_eq_none_iff.mp hrules).1

/-- A request that only its name can make fail creates a token exactly if the name is allowed. -/
theorem created_iff_nameable (h : backend.Attainable) (hfree : backend.FaultFree)
    (henabled : service.filter.enabled = true) {wanted : CreateRequest}
    (hasks : Asks backend request owner wanted) (ids : Identifiers) :
    (service.respond Backend.environment ids request backend).response.status = 201 ↔
      Nameable wanted.name := by
  constructor
  · intro hstatus
    rcases exists_created h.regular service ids request hstatus with
      ⟨row, secret, hcreates, hname, -⟩
    rcases hcreates.wanted with ⟨found, hfound, hrow, -⟩
    have hdecode := CreateRequest.decode_of_ofBody hasks.body
    rw [hfound, Except.ok.injEq] at hdecode
    rw [← hdecode, ← hrow]
    exact hname
  · intro hname
    exact created_of_nameable (h.sound hfree) (pos_of_actsFor h hasks.caller) henabled hasks hname
      ids

/-- A token that was just created is addressable, also for the caller who created it. -/
theorem addressable_of_created (h : backend.Attainable) (hfree : backend.FaultFree)
    (henabled : service.filter.enabled = true) (ids : Identifiers) (request : Http.Request) :
    let exchange := service.respond Backend.environment ids request backend
    exchange.response.status = 201 →
      ∃ row secret, CreatesRow backend request exchange.state.store row ∧ Nameable row.name ∧
        row.digest = secret.digest ∧
        exchange.response.body = (createdDocument row secret).text ∧
        Addressable service exchange.state row request.authorization := by
  intro exchange hstatus
  rcases exists_created h.regular service ids request hstatus with
    ⟨row, secret, hcreates, hname, hdigest, hbody⟩
  refine ⟨row, secret, hcreates, hname, hdigest, hbody, ?_⟩
  have hafter : exchange.state.Sound := service.step_sound (h.sound hfree) (.request ids request)
  have hstored : row ∈ exchange.state.store.rows.values := by
    rw [hcreates.inserted.values]
    exact List.mem_append_right _ (List.mem_singleton_self row)
  -- The token that the caller presented was stored before, so it is another one and stays.
  rcases hcreates.caller with ⟨presented, user, hauthentic, howner, -⟩
  have hkept : presented ∈ exchange.state.store.rows.values := by
    rw [hcreates.inserted.values]
    exact List.mem_append_left _ hauthentic.stored
  have hother : presented ≠ row := by
    rintro rfl
    exact (hcreates.inserted.fresh presented hauthentic.stored).1 rfl
  rcases respond_frame hfree service ids request with ⟨hclock, hdirectory⟩
  have hstays := hauthentic.of_stored hclock hdirectory hkept
  exact addressable_of_mem hafter henabled hstored hname hstays howner hother

/--
In every attainable backend without faults, with a filter: a request to create a token
that only its name can make fail is answered with a creation exactly when the name is
not too long and not blank, and every such name is read from some body.  Every response
that reports a creation tells of the one row that was created, and requests to the path of
its name, in any encoding, find this row and revoke it.  Requests to paths of different
names never act on the same row.
-/
theorem created_addressable (h : backend.Attainable) (hfree : backend.FaultFree)
    (henabled : service.filter.enabled = true) :
    (∀ ids request owner wanted, Asks backend request owner wanted →
      ((service.respond Backend.environment ids request backend).response.status = 201 ↔
        Nameable wanted.name)) ∧
    (∀ name request, Nameable name → declaresJson request = true →
      request.body = CreateRequest.bodyFor name →
      (∀ length, declaredLength? request = some length → length = request.body.length) →
      CreateRequest.ofBody request (bodyLimit request) = .ok (.named name)) ∧
    (∀ ids request,
      let exchange := service.respond Backend.environment ids request backend
      exchange.response.status = 201 →
      ∃ row secret, CreatesRow backend request exchange.state.store row ∧ Nameable row.name ∧
        row.digest = secret.digest ∧
        exchange.response.body = (createdDocument row secret).text ∧
        Addressable service exchange.state row request.authorization) ∧
    ∀ (other : Backend), other.Attainable → other.FaultFree →
      ∀ ids ids' request request' method method' name name' owner owner' row,
        Addresses request method name → ActsFor backend request owner →
        Addresses request' method' name' → ActsFor other request' owner' →
        ActsOn service backend ids request row → ActsOn service other ids' request' row →
        name = name' := by
  have hsound := h.sound hfree
  refine ⟨?_, ?_, ?_, ?_⟩
  · intro ids request owner wanted hasks
    exact created_iff_nameable h hfree henabled hasks ids
  · intro name request hname hjson hbody hlength
    exact ofBody_bodyFor hname hjson hbody hlength
  · intro ids request exchange hstatus
    exact addressable_of_created h hfree henabled ids request hstatus
  · intro other hattainable hfaultless ids ids' request request' method method' name name' owner
      owner' row hrequest hcaller hrequest' hcaller' hacts hacts'
    have hname := name_of_actsOn hsound henabled hrequest hcaller hacts
    have hname' :=
      name_of_actsOn (hattainable.sound hfaultless) henabled hrequest' hcaller' hacts'
    exact hname.symm.trans hname'

/-- A name with dots, separators, an escape, a quote, blanks and characters beyond ASCII. -/
def awkwardName : String := "../a%2F b?#\"\\\n\x00é😀"

/-- A request to create a token with this name. -/
def awkwardCreation : Http.Request :=
  ⟨"POST", "/api/v1/access_tokens".toList,
    issuedRequest.fields ++ [⟨"content-type", Ascii.bytes "application/json"⟩],
    CreateRequest.bodyFor awkwardName⟩

/-- The path of the token with this name. -/
def awkwardPath : Http.Path :=
  Route.itemPath (Percent.encode .lower (Utf8.encode awkwardName))

/-- Only the name of this request can make it fail. -/
theorem asks_awkwardCreation : Asks issuedBackend awkwardCreation 7 (.named awkwardName) where
  method := rfl
  path := rfl
  caller :=
    ⟨.ofNew 1 issuedBackend.creationTime
        ⟨7, "ci", none, (Secret.ofBlock issuedBlock).digest, 2000⟩,
      .ordinary 7 "alice" true,
      { presented := ⟨_, [], _, rfl, bearerCredential_ofBlock issuedBlock, rfl⟩
        stored := List.mem_singleton.mpr rfl
        unexpired := by decide
        owner := rfl
        enabled := rfl }, rfl, rfl⟩
  length := rfl
  body := by
    have hundeclared : declaredLength? awkwardCreation = none := rfl
    refine ofBody_bodyFor (by decide +kernel) (by decide +kernel) rfl ?_
    intro length hdeclared
    rw [hundeclared] at hdeclared
    cases hdeclared
  hours := by decide
  expires := ⟨3601000, by decide +kernel⟩
  description := by simp [CreateRequest.named]
  free := by decide +kernel
  drawn := ⟨EntropySource.blockOf (EntropySource.increment * 2), by decide +kernel,
    by decide +kernel⟩

/-- A token with such a name is created, found and revoked. -/
theorem created_addressable_awkwardName :
    let created := guarded.respond Backend.environment ⟨"r", "s"⟩ awkwardCreation issuedBackend
    let found := guarded.respond Backend.environment ⟨"r", "s"⟩
      { issuedRequest with path := awkwardPath } created.state
    let revoked := guarded.respond Backend.environment ⟨"r", "s"⟩
      { issuedRequest with method := "DELETE", path := awkwardPath } created.state
    created.response.status = 201 ∧ found.response.status = 200 ∧
      revoked.response.status = 200 := by
  intro created found revoked
  have hattainable : issuedBackend.Attainable := .run (.ofUsers _ _) guarded _
  have hfree : issuedBackend.FaultFree := (run_sound (.ofUsers _ _) _).faultFree
  have hguarded : guarded.filter.enabled = true := rfl
  rcases created_addressable hattainable hfree hguarded with ⟨hcreated, -, haddresses, -⟩
  have hnameable : Nameable awkwardName := by decide +kernel
  have hstatus : created.response.status = 201 :=
    (hcreated ⟨"r", "s"⟩ awkwardCreation 7 _ asks_awkwardCreation).mpr hnameable
  rcases haddresses ⟨"r", "s"⟩ awkwardCreation hstatus with
    ⟨row, secret, hcreates, -, -, -, haddressable⟩
  have hname : row.name = awkwardName := by
    rcases hcreates.wanted with ⟨wanted, hdecode, hrow, -⟩
    have hbody := CreateRequest.decode_bodyFor awkwardName
    have hsame : wanted = .named awkwardName := Except.ok.inj (hdecode.symm.trans hbody)
    rw [hrow, hsame]
    rfl
  have hauthorization : issuedRequest.authorization = awkwardCreation.authorization := by
    decide +kernel
  have hencodes := Percent.encodes_encode .lower (Utf8.encode awkwardName)
  rw [← hname] at hencodes
  refine ⟨hstatus, ?_, ?_⟩
  · refine (haddressable.found _ _ ⟨rfl, ⟨_, hencodes, ?_⟩, rfl⟩ ?_).1
    · rw [hname]
      rfl
    · exact haddressable.caller _ hauthorization
  · refine (haddressable.revoked _ _ ⟨rfl, ⟨_, hencodes, ?_⟩, rfl⟩ ?_).1
    · rw [hname]
      rfl
    · exact haddressable.caller _ hauthorization

end Service
end BearerTokens
