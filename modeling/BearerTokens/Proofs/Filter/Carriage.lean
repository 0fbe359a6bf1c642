import BearerTokens.Proofs.Filter.Classification
import BearerTokens.Proofs.Lifecycle.Draws
import BearerTokens.Proofs.Lifecycle.Transition

/-!
# Secrets on the wire

A secret that was drawn is handed out as text, sent back in a header, and looked up by its
digest.  On this way nothing of it is lost: the text tells its block, a header value with
the scheme in any letter case is legal and brings the text back as it is, and the filter
looks up the very digest under which the issue had the row inserted.

Main results:

- Definition {lit}`Secret.CarriedBy`: the header values that carry a secret.
- Theorem {lit}`BearerForm.credential`: a visible value of the form presents its secret.
- Theorem {lit}`Secret.carried_without_loss`: what becomes of every secret that is issued.
-/

namespace BearerTokens

/-! ## Visible bytes -/

/-- A visible byte may stand in a field value. -/
theorem isValueByte_of_isVisible {byte : UInt8} (h : IsVisible byte) :
    Http.isValueByte byte = true := by
  have hall : ∀ byte, IsVisible byte → Http.isValueByte byte = true :=
    forall_byte (by unfold IsVisible; decide +kernel)
  exact hall byte h

/-- A byte whose lower case is visible is visible itself. -/
theorem isVisible_of_lower {byte : UInt8} (h : IsVisible (Ascii.lower byte)) :
    IsVisible byte := by
  have hall : ∀ byte, IsVisible (Ascii.lower byte) → IsVisible byte :=
    forall_byte (by unfold IsVisible; decide +kernel)
  exact hall byte h

/-- Bytes with the letters of visible ones are visible. -/
theorem Ascii.SameLetters.visible {bytes others : List UInt8} (h : SameLetters bytes others)
    (hothers : ∀ byte ∈ others.map lower, IsVisible byte) : ∀ byte ∈ bytes, IsVisible byte := by
  intro byte hbyte
  apply isVisible_of_lower
  apply hothers
  rw [← h]
  exact List.mem_map_of_mem hbyte

/-- A text of printable characters is written in visible bytes. -/
theorem isVisible_of_printable {text : String} (h : ∀ c ∈ text.toList, IsPrintable c) :
    ∀ byte ∈ Utf8.encode text, IsVisible byte := by
  have hascii : ∀ c ∈ text.toList, c.toNat < 0x80 := fun c hc => Nat.lt_succ_of_lt (h c hc).2
  rw [Utf8.encode_eq_ofChars, Utf8.ofChars_of_ascii hascii]
  intro byte hbyte
  obtain ⟨c, hc, rfl⟩ := List.mem_map.mp hbyte
  exact isVisible_ascii (h c hc)

section

variable {value : List UInt8} {secret : String}

/-- A visible value is a legal field value. -/
theorem Http.Field.of?_of_visible (h : ∀ byte ∈ value, IsVisible byte) :
    Http.Field.of? "Authorization" value = some ⟨"authorization", value⟩ := by
  have hvalue : value.all Http.isValueByte = true :=
    List.all_eq_true.mpr fun byte hbyte => isValueByte_of_isVisible (h byte hbyte)
  have hname : (Http.isToken "Authorization" && "Authorization".length ≤ Http.maxNameLength) =
      true := by decide
  have hlower : String.ofList ("Authorization".toList.map Char.toLower) = "authorization" := by
    decide
  rw [Http.Field.of?, hname, hvalue, hlower]
  rfl

/-- A visible value of the form is the credential of its secret. -/
theorem BearerForm.credential (h : BearerForm value secret)
    (hvisible : ∀ byte ∈ value, IsVisible byte) :
    bearerSecret? (String.ofList (charsOf value)) = some secret ∧
      BearerCredential value secret := by
  have hread : bearerSecret? (String.ofList (charsOf value)) = some secret := by
    rw [bearerSecret?_eq_some_iff_form, encode_charsOf hvisible]
    exact h
  obtain ⟨scheme, hscheme, hne, hsplit⟩ := bearerSecret?_eq_some_iff.mp hread
  rw [String.toList_ofList] at hsplit
  exact ⟨hread, hvisible, hne, scheme, hscheme, hsplit⟩

end

/-! ## Header values that carry a secret -/

namespace Secret

/-- Whether a header value is the scheme in any letter case, one space, and a secret. -/
def CarriedBy (secret : Secret) (value : List UInt8) : Prop :=
  ∃ scheme, Ascii.SameLetters scheme (Ascii.bytes "bearer") ∧
    value = scheme ++ ascii ' ' :: Utf8.encode secret.text

/-- A value that carries a secret has the form of a credential with it. -/
theorem CarriedBy.form {secret : Secret} {value : List UInt8} (h : secret.CarriedBy value)
    (hne : secret.text ≠ "") : BearerForm value secret.text := by
  obtain ⟨scheme, hletters, rfl⟩ := h
  have hspace : Ascii.SameLetters (scheme ++ [ascii ' ']) schemeBytes := by
    unfold Ascii.SameLetters at hletters ⊢
    rw [List.map_append, hletters]
    decide
  exact ⟨hne, scheme ++ [ascii ' '], hspace.length, hspace, List.append_cons _ _ _⟩

/-- A value that carries the secret of a block is visible. -/
theorem CarriedBy.visible {block : Block} {value : List UInt8}
    (h : (ofBlock block).CarriedBy value) : ∀ byte ∈ value, IsVisible byte := by
  obtain ⟨scheme, hletters, rfl⟩ := h
  have hall : ((Ascii.bytes "bearer").map Ascii.lower).all
      (fun byte => (0x20 ≤ byte ∧ byte < 0x7F) ∨ byte = 0x09) = true := by decide
  have hscheme : ∀ byte ∈ (Ascii.bytes "bearer").map Ascii.lower,
      (0x20 ≤ byte ∧ byte < 0x7F) ∨ byte = 0x09 :=
    fun byte hbyte => of_decide_eq_true (List.all_eq_true.mp hall byte hbyte)
  intro byte hbyte
  rcases List.mem_append.mp hbyte with hfront | hback
  · exact hletters.visible hscheme byte hfront
  · rcases List.mem_cons.mp hback with rfl | hsecret
    · exact .inl (by decide)
    · exact isVisible_of_printable (fun _ => isPrintable_ofBlock) byte hsecret

/--
Whether a header value is a legal field, and text whose secret the filter reads as it is, also
when more Authorization values follow.
-/
structure RecoveredFrom (secret : Secret) (value : List UInt8) : Prop where
  field : Http.Field.of? "Authorization" value = some ⟨"authorization", value⟩
  text : ∃ text, Http.visibleText? value = some text ∧ Utf8.encode text = value ∧
    bearerSecret? text = some secret.text
  presented : ∀ rest, presentedSecret (value :: rest) = .ok secret.text

/-- A value that carries the secret of a block is legal, and the secret is recovered from it. -/
theorem CarriedBy.recovered {block : Block} {value : List UInt8}
    (h : (ofBlock block).CarriedBy value) : (ofBlock block).RecoveredFrom value := by
  have hvisible := h.visible
  obtain ⟨hread, hcredential⟩ := (h.form (text_ofBlock_ne_empty block)).credential hvisible
  have htext := visibleText?_eq_some_iff.mpr ⟨hvisible, rfl⟩
  exact
    { field := Http.Field.of?_of_visible hvisible
      text := ⟨_, htext, encode_charsOf hvisible, hread⟩
      presented := fun rest => presentedSecret_eq_ok_iff.mpr ⟨value, rest, rfl, hcredential⟩ }

/--
Whether every filter that is enabled looks up a digest, and no other, for a request whose first
Authorization value is the given one.
-/
def LookedUpFor (digest : Digest) (value : List UInt8) : Prop :=
  ∀ (σ : Type) (environment : Environment σ) (filter : Filter) (fields : List Http.Field)
    (allowance : Option Nat) (s : σ), filter.enabled = true →
    Http.value? "authorization" fields = some value →
      let authorization := Http.values "authorization" fields
      ∃ user more, (filter.authenticate environment authorization allowance s).calls =
        .findBySecretDigest digest :: more ∧ more <+: [.now, .load user]

/-- For a value from which a secret is recovered the digest of the secret is looked up. -/
theorem RecoveredFrom.lookedUpFor {secret : Secret} {value : List UInt8}
    (h : secret.RecoveredFrom value) : LookedUpFor secret.digest value := by
  intro σ environment filter fields allowance s henabled hfirst authorization
  obtain ⟨rest, hvalues⟩ : ∃ rest, authorization = value :: rest :=
    List.head?_eq_some_iff.mp hfirst
  have hpresented : presentedSecret authorization = .ok secret.text := by
    rw [hvalues]
    exact h.presented rest
  obtain ⟨left, hcalls⟩ :=
    Filter.calls_authenticate henabled environment hpresented allowance s
  obtain ⟨user, more, hverify, hmore⟩ := Filter.calls_verify environment secret.text left s
  exact ⟨user, more, hcalls.trans hverify, hmore⟩

end Secret

/-! ## What an issue stores -/

/-- A change of the result leaves the end of a procedure as it is. -/
theorem Procedure.run_map_of_result {σ α β : Type} {environment : Environment σ}
    {p : Procedure α} {allowance : Option Nat} {s : σ} {value : α}
    (h : (p.run environment allowance s).result = some value) (f : α → β) :
    ((p.map f).run environment allowance s).result = some (f value) ∧
      ((p.map f).run environment allowance s).state = (p.run environment allowance s).state := by
  rw [map, run_bind, Activity.bind_of_some h]
  exact ⟨rfl, rfl⟩

/-- Over a store in memory, an issue that hands out a secret has added the row of its digest. -/
theorem Lifecycle.inserted_of_result {backend : Backend} (hstore : backend.store.Reachable)
    {owner : Int} {name : String} {description : Option String} {expiresAt : Int}
    {allowance : Option Nat} {secret : Secret}
    (h : ((issue owner name description expiresAt).run Backend.environment allowance
      backend).result = some (.ok secret)) :
    backend.store.Inserted
      ((issue owner name description expiresAt).run Backend.environment allowance
        backend).state.store
      (.ofNew (backend.store.lastId + 1) backend.creationTime
        ⟨owner, name, description, secret.digest, expiresAt⟩) := by
  have htransition := ServiceCall.ensures_transition backend hstore
    (.issue owner name description expiresAt) allowance
  obtain ⟨hresult, hstate⟩ := Procedure.run_map_of_result h ServiceAnswer.issued
  unfold Run.Satisfies at htransition
  simp only [ServiceCall.procedure, hresult, hstate] at htransition
  generalize ((issue owner name description expiresAt).run Backend.environment allowance
    backend).state.store = after at htransition ⊢
  cases htransition with
  | unchanged _ hchange => cases hchange
  | issued block _ hfree => exact hstore.inserted_add hfree backend.creationTime

/-! ## Every secret that is issued -/

namespace Secret

/--
The secret of every block is 32 upper-case hexadecimal digits from which the block is read, so
that a run of issues which draws no block twice hands out no secret twice, whatever the
collaborators answer and whatever happens between the issues.  A header value of the scheme in
any letter case, one space and the secret is legal, and the filter reads the secret from it as it
is.  It looks up the digest with which the issue called for the row, and which the one new row of
a store in memory has.
-/
theorem carried_without_loss {σ : Type} (environment : Environment σ)
    (issues : List (Issuance σ)) (s : σ) :
    (∀ block, (ofBlock block).Writes block) ∧
    ((Issuance.secretsOf environment issues s).Sublist
        ((Issuance.blocksOf environment issues s).map ofBlock) ∧
      ((Issuance.blocksOf environment issues s).Nodup →
        (Issuance.secretsOf environment issues s).Nodup)) ∧
    (∀ block value, (ofBlock block).CarriedBy value → (ofBlock block).RecoveredFrom value) ∧
    (∀ owner name description expiresAt allowance s' secret,
      let run := (Lifecycle.issue owner name description expiresAt).run environment allowance s'
      run.result = some (.ok secret) →
        ∃ block digest, secret = ofBlock block ∧
          run.calls = [.findByOwnerAndName owner name, .entropy,
            .insert ⟨owner, name, description, digest, expiresAt⟩] ∧
          ∀ value, secret.CarriedBy value → LookedUpFor digest value) ∧
    ∀ (backend : Backend) owner name description expiresAt allowance secret,
      let run :=
        (Lifecycle.issue owner name description expiresAt).run Backend.environment allowance backend
      backend.store.Reachable → run.result = some (.ok secret) →
        ∃ row, backend.store.Inserted run.state.store row ∧ row.key = (owner, name) ∧
          ∀ value, secret.CarriedBy value → LookedUpFor row.digest value := by
  refine ⟨writes_ofBlock, ⟨Issuance.secretsOf_sublist environment issues s,
    Issuance.secretsOf_nodup_of_blocksOf⟩, fun _ _ h => h.recovered, ?_, ?_⟩
  · intro owner name description expiresAt allowance s' secret run hresult
    obtain ⟨block, rfl, -, -, hcalls⟩ := Lifecycle.exists_block_of_result hresult
    exact ⟨block, _, rfl, hcalls, fun _ hcarried => hcarried.recovered.lookedUpFor⟩
  · intro backend owner name description expiresAt allowance secret run hstore hresult
    obtain ⟨block, rfl, -⟩ := Lifecycle.exists_block_of_result hresult
    exact ⟨_, Lifecycle.inserted_of_result hstore hresult, rfl,
      fun _ hcarried => hcarried.recovered.lookedUpFor⟩

/-- Two issues to one owner, the second at a later time. -/
def pairOfIssues : List (Issuance Backend) :=
  [⟨7, "ci", none, 2000, some 10, id⟩,
    ⟨7, "cd", none, 9000, none, fun backend => { backend with clock := 5000 }⟩]

/-- The block that the first of them draws. -/
def firstBlock : Block := EntropySource.blockOf EntropySource.increment

/-- A header value with the scheme in mixed letter case and the secret of that block. -/
def mixedCaseValue : List UInt8 :=
  Ascii.bytes "bEaReR" ++ ascii ' ' :: Utf8.encode (ofBlock firstBlock).text

/-- Both issues succeed with secrets of their own; the first is recovered, and its row looked up. -/
theorem carried_without_loss_pairOfIssues :
    let start := Backend.ofUsers [] 1000
    let after := ((Lifecycle.issue 7 "ci" none 2000).run Backend.environment (some 10) start).state
    (∃ other, Issuance.secretsOf Backend.environment pairOfIssues start =
      [ofBlock firstBlock, other] ∧ other ≠ ofBlock firstBlock) ∧
    presentedSecret [mixedCaseValue] = .ok (ofBlock firstBlock).text ∧
    ∃ row ∈ after.store.rows.values, ∃ user more,
      ((Filter.mk true 2000).authenticate Backend.environment [mixedCaseValue] none after).calls =
        .findBySecretDigest row.digest :: more ∧ more <+: [.now, .load user] := by
  intro start after
  have hissued : ((Lifecycle.issue 7 "ci" none 2000).run Backend.environment (some 10)
      start).result = some (.ok (ofBlock firstBlock)) := rfl
  have hcarried : (ofBlock firstBlock).CarriedBy mixedCaseValue :=
    ⟨Ascii.bytes "bEaReR", by unfold Ascii.SameLetters; decide, rfl⟩
  obtain ⟨-, ⟨-, hdistinct⟩, hrecovered, -, hstored⟩ :=
    carried_without_loss Backend.environment pairOfIssues start
  refine ⟨?_, (hrecovered _ _ hcarried).presented [], ?_⟩
  · have hblocks : (Issuance.blocksOf Backend.environment pairOfIssues start).Nodup := by
      decide +kernel
    have hsecrets : Issuance.secretsOf Backend.environment pairOfIssues start =
        [ofBlock firstBlock, ofBlock (EntropySource.blockOf (EntropySource.increment * 2))] := by
      decide +kernel
    have hnodup := hdistinct hblocks
    rw [hsecrets] at hnodup ⊢
    refine ⟨_, rfl, ?_⟩
    intro heq
    rw [heq] at hnodup
    simp at hnodup
  · obtain ⟨row, hinserted, -, hlooked⟩ := hstored start 7 "ci" none 2000 (some 10) _ .empty hissued
    refine ⟨row, ?_, hlooked _ hcarried Backend Backend.environment ⟨true, 2000⟩
      [⟨"authorization", mixedCaseValue⟩] none after rfl rfl⟩
    rw [hinserted.values]
    exact List.mem_append_right _ (List.mem_singleton_self row)

end Secret
end BearerTokens
