import BearerTokens.Proofs.Management.CreationBody
import BearerTokens.Proofs.Management.Members

/-!
# The members of an object

An object is read member by member: a member with another key leaves what was read as it
was, and a known one is taken if it was not read before and its value says something that
it may hold.  Reading an object succeeds exactly if its members can be taken one after the
other, and then it ends with the object.

Main results:

- Definition {lit}`CreateRequest.Takes`: what one member adds.
- Theorem {lit}`CreateRequest.decodeKeyed_iff`: one member is read as it is taken.
- Theorem {lit}`CreateRequest.decodeMembers_iff`: all members are read as they are taken in
  order.
- Theorem {lit}`CreateRequest.decode_iff_absorbs`: the same for a whole document.
-/

namespace BearerTokens

open Json (Blanks IsText Entry EndsLiteral listing skipSpace readString skipSpace_blanks
  skipSpace_cons)

/-- A member is found by its own key only. -/
theorem Member.ofKey?_eq_some_iff {key : String} {member : Member} :
    Member.ofKey? key = some member ↔ key = member.key := by
  constructor
  · intro h
    unfold Member.ofKey? at h
    split at h
    · next hkey =>
      cases h
      exact hkey
    split at h
    · next hkey =>
      cases h
      exact hkey
    split at h
    · next hkey =>
      cases h
      exact hkey
    · cases h
  · rintro rfl
    cases member <;> decide

namespace CreateRequest

variable {members found : Members} {entry : Entry} {rest left : List UInt8}

/-! ## One member -/

/-- What is known behind one more member of an object. -/
inductive Takes (members : Members) (entry : Entry) : Members → Prop where
  | other {key : String} : entry.HasKey key → Member.ofKey? key = none →
    Takes members entry members
  | known {member : Member} {found : Members} {content : Content} :
    entry.HasKey member.key → members.content member = none →
    Means entry.value.core content → members.Gains member found content →
    Takes members entry found

/-- A member with another key changes nothing. -/
theorem takes_other_iff {key : String} (hkey : entry.HasKey key)
    (hnone : Member.ofKey? key = none) : Takes members entry found ↔ found = members := by
  constructor
  · intro h
    cases h with
    | other _ _ => rfl
    | known hknown _ _ _ =>
      rw [Member.ofKey?_eq_some_iff.mpr (hkey.unique hknown)] at hnone
      cases hnone
  · rintro rfl
    exact .other hkey hnone

/-- A known member is taken once, with what its value says. -/
theorem takes_known_iff {member : Member} (hkey : entry.HasKey member.key) :
    Takes members entry found ↔ members.content member = none ∧
      ∃ content, Means entry.value.core content ∧ members.Gains member found content := by
  constructor
  · intro h
    cases h with
    | other hother hnone =>
      rw [Member.ofKey?_eq_some_iff.mpr (hother.unique hkey)] at hnone
      cases hnone
    | @known another _ content hanother hfree hmeans hgains =>
      have hsame := Member.ofKey?_eq_some_iff.mpr (hkey.unique hanother)
      rw [Member.ofKey?_eq_some_iff.mpr rfl, Option.some.injEq] at hsame
      subst hsame
      exact ⟨hfree, content, hmeans, hgains⟩
  · rintro ⟨hfree, content, hmeans, hgains⟩
    exact .known hkey hfree hmeans hgains

/-- What is taken has a key. -/
theorem Takes.hasKey (h : Takes members entry found) : ∃ key, entry.HasKey key := by
  cases h with
  | other hkey _ => exact ⟨_, hkey⟩
  | known hkey _ _ _ => exact ⟨_, hkey⟩

/-- A colon is dropped with the blanks in front of it. -/
theorem decodeColon_blanks {blanks : List UInt8} (h : Blanks blanks) (rest : List UInt8) :
    decodeColon (blanks ++ ascii ':' :: rest) = .ok rest := by
  rw [decodeColon, skipSpace_blanks h, skipSpace_cons (by decide)]
  simp only [if_true]

/-- Behind its key, a member is read as it is taken. -/
theorem decodeEntry_iff {key : String} (hframed : entry.Framed) (htext : IsText entry.value.core)
    (hrest : EndsLiteral rest) (hkey : entry.HasKey key) :
    decodeEntry members key (entry.between ++ ascii ':' :: (entry.value.bytes ++ rest)) =
        .ok (found, left) ↔
      Takes members entry found ∧ left = entry.value.after ++ rest := by
  rw [decodeEntry]
  -- A known key that was read before is refused before its value is looked at.
  cases hmember : Member.ofKey? key with
  | none =>
    have hskip := Json.skipValue_padded hframed.value htext hrest
    simp only [decodeColon_blanks hframed.between, hskip, Except.ok.injEq, Prod.mk.injEq]
    rw [takes_other_iff hkey hmember]
    exact and_congr eq_comm eq_comm
  | some member =>
    have hknown : entry.HasKey member.key := Member.ofKey?_eq_some_iff.mp hmember ▸ hkey
    rw [takes_known_iff hknown]
    simp only [Members.has_eq, decodeColon_blanks hframed.between]
    cases members.content member with
    | some content =>
      simp only [Option.isSome_some, if_true, reduceCtorEq, false_and]
    | none =>
      simp only [Option.isSome_none, Bool.false_eq_true, if_false,
        decodeMember_iff hframed.value htext hrest, true_and]

/-- A member is read as it is taken. -/
theorem decodeKeyed_iff (hframed : entry.Framed) (htext : IsText entry.value.core)
    (hrest : EndsLiteral rest) :
    decodeKeyed members (skipSpace (entry.bytes ++ rest)) = .ok (found, left) ↔
      Takes members entry found ∧ left = entry.value.after ++ rest := by
  have hread : ∀ {key : String} {after : List UInt8},
      readString (entry.behind ++ rest) = some (key, after) ↔
        entry.HasKey key ∧ after = entry.between ++ ascii ':' :: (entry.value.bytes ++ rest) := by
    intro key after
    rw [Entry.behind]
    simp only [List.append_assoc, List.cons_append]
    exact Json.readString_body_iff hframed.key
  rw [Json.skipSpace_entry hframed, decodeKeyed, if_pos rfl]
  constructor
  · intro h
    split at h
    · cases h
    next key after hkeyed =>
    obtain ⟨hkey, rfl⟩ := hread.mp hkeyed
    exact (decodeEntry_iff hframed htext hrest hkey).mp h
  · intro h
    obtain ⟨key, hkey⟩ := h.1.hasKey
    rw [hread.mpr ⟨hkey, rfl⟩]
    exact (decodeEntry_iff hframed htext hrest hkey).mpr h

/-! ## All members -/

/-- What is known behind more members of an object, taken in their order. -/
inductive Absorbs : Members → List Entry → Members → Prop where
  | nil (members : Members) : Absorbs members [] members
  | cons {members next found : Members} {entry : Entry} {entries : List Entry} :
    Takes members entry next → Absorbs next entries found →
    Absorbs members (entry :: entries) found

/-- Blanks are dropped behind a member. -/
theorem decodeMore_blanks {blanks : List UInt8} (h : Blanks blanks) (members : Members)
    (rest : List UInt8) : decodeMore members (blanks ++ rest) = decodeMore members rest := by
  rw [decodeMore.eq_def, skipSpace_blanks h, ← decodeMore.eq_def]

/-- Behind a comma another member is read, and then those behind it. -/
theorem decodeMore_comma_iff {bytes : List UInt8} {result : Members × List UInt8} :
    decodeMore members (ascii ',' :: bytes) = .ok result ↔
      ∃ next after, decodeKeyed members (skipSpace bytes) = .ok (next, after) ∧
        decodeMore next after = .ok result := by
  constructor
  · intro h
    have hspace : skipSpace (ascii ',' :: bytes) = ascii ',' :: bytes := rfl
    have hbrace : ascii ',' ≠ ascii '\x7d' := by decide
    rw [decodeMore.eq_def, hspace] at h
    simp only [if_neg hbrace, if_true] at h
    split at h
    · cases h
    next next after hkeyed =>
    exact ⟨next, after, hkeyed, h⟩
  · rintro ⟨next, after, hkeyed, hmore⟩
    rw [decodeMore_comma members hkeyed, hmore]

/-- What ends the text of a member ends a number. -/
theorem endsLiteral_more (entries : List Entry) (rest : List UInt8) :
    EndsLiteral ((entries.map Entry.bytes).flatMap (ascii ',' :: ·) ++ ascii '\x7d' :: rest) := by
  cases entries with
  | nil => exact Json.endsLiteral_cons (by decide) (by decide) (by decide) _
  | cons entry entries => exact Json.endsLiteral_cons (by decide) (by decide) (by decide) _

/-- The bytes of more members are those of the next one and of the others. -/
theorem more_cons (entry : Entry) (entries : List Entry) (rest : List UInt8) :
    ((entry :: entries).map Entry.bytes).flatMap (ascii ',' :: ·) ++ rest =
      ascii ',' :: (entry.bytes ++
        ((entries.map Entry.bytes).flatMap (ascii ',' :: ·) ++ rest)) := by
  simp only [List.map_cons, List.flatMap_cons, List.cons_append, List.append_assoc]

/-- More members are read as they are taken one after the other, up to the closing brace. -/
theorem decodeMore_iff {entries : List Entry} (hframed : ∀ entry ∈ entries, entry.Framed)
    (htext : ∀ entry ∈ entries, IsText entry.value.core) :
    decodeMore members
        ((entries.map Entry.bytes).flatMap (ascii ',' :: ·) ++ ascii '\x7d' :: rest) =
          .ok (found, left) ↔
      Absorbs members entries found ∧ left = rest := by
  induction entries generalizing members with
  | nil =>
    rw [List.map_nil, List.flatMap_nil, List.nil_append, decodeMore_brace]
    constructor
    · intro h
      cases h
      exact ⟨.nil _, rfl⟩
    · rintro ⟨habsorbs, rfl⟩
      cases habsorbs
      rfl
  | cons entry entries ih =>
    have hfirst : entry.Framed := hframed entry List.mem_cons_self
    have hothers := fun next =>
      @ih next (fun other h => hframed other (List.mem_cons_of_mem entry h))
        (fun other h => htext other (List.mem_cons_of_mem entry h))
    rw [more_cons, decodeMore_comma_iff]
    simp only [decodeKeyed_iff hfirst (htext entry List.mem_cons_self)
      (endsLiteral_more entries rest)]
    constructor
    · rintro ⟨next, after, ⟨htakes, rfl⟩, hmore⟩
      rw [decodeMore_blanks hfirst.value.after, hothers] at hmore
      exact ⟨.cons htakes hmore.1, hmore.2⟩
    · rintro ⟨habsorbs, hleft⟩
      cases habsorbs with
      | @cons _ next _ _ _ htakes hmore =>
        refine ⟨next, _, ⟨htakes, rfl⟩, ?_⟩
        rw [decodeMore_blanks hfirst.value.after, hothers]
        exact ⟨hmore, hleft⟩

/-- The members of an object behind its opening brace. -/
def decodeMembers (bytes : List UInt8) : Reading Members :=
  match skipSpace bytes with
  | [] => .error .malformed
  | b :: rest =>
    if b = ascii '\x7d' then .ok (.empty, rest)
    else
      match decodeKeyed .empty (b :: rest) with
      | .error cause => .error cause
      | .ok (members, rest) => decodeMore members rest

/-- The request of the members that were read, in front of what follows them. -/
def requestOf : Reading Members → Reading CreateRequest
  | .error cause => .error cause
  | .ok (members, rest) =>
    match members.request with
    | .error cause => .error cause
    | .ok request => .ok (request, rest)

/-- An object is read by its members, which have to make a request. -/
theorem decodeObject_ok_iff {bytes : List UInt8} {request : CreateRequest} :
    decodeObject bytes = .ok (request, left) ↔
      ∃ members, decodeMembers bytes = .ok (members, left) ∧ members.request = .ok request := by
  have heq : decodeObject bytes = requestOf (decodeMembers bytes) := rfl
  rw [heq]
  constructor
  · intro h
    unfold requestOf at h
    split at h
    · cases h
    next members rest hmembers =>
    split at h
    · cases h
    next made hmade =>
    cases h
    exact ⟨members, hmembers, hmade⟩
  · rintro ⟨members, hmembers, hmade⟩
    simp only [hmembers, requestOf, hmade]

/-- The members of an object are read as they are taken one after the other. -/
theorem decodeMembers_iff {entries : List Entry} {inner : List UInt8}
    (h : Json.IsObject entries (ascii '\x7b' :: (inner ++ [ascii '\x7d']))) :
    decodeMembers (inner ++ ascii '\x7d' :: rest) = .ok (found, left) ↔
      Absorbs .empty entries found ∧ left = rest := by
  generalize hcore : ascii '\x7b' :: (inner ++ [ascii '\x7d']) = core at h
  cases h with
  | @empty blanks hblanks =>
    have hsame : inner = blanks := List.append_cancel_right (List.cons.inj hcore).2
    rw [decodeMembers, hsame, skipSpace_blanks hblanks, skipSpace_cons (by decide)]
    simp only [if_true, Except.ok.injEq, Prod.mk.injEq]
    constructor
    · rintro ⟨rfl, rfl⟩
      exact ⟨.nil _, rfl⟩
    · rintro ⟨habsorbs, rfl⟩
      cases habsorbs
      exact ⟨rfl, rfl⟩
  | @members first others hframed htext =>
    have hsame : inner = listing ((first :: others).map Entry.bytes) :=
      List.append_cancel_right (List.cons.inj hcore).2
    have hfirst : first.Framed := hframed first List.mem_cons_self
    have hkeyed := fun next after => @decodeKeyed_iff .empty next first _ after hfirst
      (htext first List.mem_cons_self) (endsLiteral_more others rest)
    have hothers := fun next => @decodeMore_iff next found rest left others
      (fun other h => hframed other (List.mem_cons_of_mem first h))
      (fun other h => htext other (List.mem_cons_of_mem first h))
    have hbytes : inner ++ ascii '\x7d' :: rest = first.bytes ++
        ((others.map Entry.bytes).flatMap (ascii ',' :: ·) ++ ascii '\x7d' :: rest) := by
      rw [hsame, List.map_cons, listing, List.append_assoc]
    have hquote : ascii '"' ≠ ascii '\x7d' := by decide
    simp only [Json.skipSpace_entry hfirst] at hkeyed
    rw [decodeMembers, hbytes, Json.skipSpace_entry hfirst]
    simp only [if_neg hquote]
    constructor
    · intro h
      split at h
      · cases h
      next next after hnext =>
      obtain ⟨htakes, rfl⟩ := (hkeyed next after).mp hnext
      rw [decodeMore_blanks hfirst.value.after, hothers] at h
      exact ⟨.cons htakes h.1, h.2⟩
    · rintro ⟨habsorbs, hleft⟩
      cases habsorbs with
      | @cons _ next _ _ _ htakes hmore =>
        simp only [(hkeyed next _).mpr ⟨htakes, rfl⟩]
        rw [decodeMore_blanks hfirst.value.after, hothers]
        exact ⟨hmore, hleft⟩

/-- The text of an object stands between braces. -/
theorem isObject_braces {entries : List Entry} {core : List UInt8}
    (h : Json.IsObject entries core) :
    ∃ inner, core = ascii '\x7b' :: (inner ++ [ascii '\x7d']) := by
  cases h with
  | empty _ => exact ⟨_, rfl⟩
  | members _ _ => exact ⟨_, rfl⟩

/-- A document that is an object is decoded as its members are taken one after the other. -/
theorem decode_iff_absorbs {entries : List Entry} {text : List UInt8} {request : CreateRequest}
    (h : Json.IsObjectText entries text) :
    decode text = .ok request ↔
      ∃ members, Absorbs .empty entries members ∧ members.request = .ok request := by
  obtain ⟨padded, hblank, hobject, rfl⟩ := h
  obtain ⟨inner, hcore⟩ := isObject_braces hobject
  rw [hcore] at hobject
  have hafter : skipSpace padded.after = [] := by
    have hdropped := skipSpace_blanks hblank.after []
    rw [List.append_nil] at hdropped
    exact hdropped
  have hprefix : decodePrefix padded.bytes =
      decodeObject (inner ++ ascii '\x7d' :: padded.after) := by
    rw [decodePrefix, Json.Padded.bytes, skipSpace_blanks hblank.before, hcore, List.cons_append,
      List.append_assoc, List.singleton_append, skipSpace_cons (by decide)]
    simp only [if_true]
  have hread := fun left members =>
    @decodeMembers_iff members padded.after left entries inner hobject
  rw [decode, hprefix]
  constructor
  · intro h
    split at h
    · cases h
    next made rest hmade =>
    obtain ⟨members, hmembers, hrequest⟩ := decodeObject_ok_iff.mp hmade
    obtain ⟨habsorbs, rfl⟩ := (hread rest members).mp hmembers
    simp only [hafter] at h
    cases h
    exact ⟨members, habsorbs, hrequest⟩
  · rintro ⟨members, habsorbs, hrequest⟩
    have hmembers := (hread padded.after members).mpr ⟨habsorbs, rfl⟩
    simp only [decodeObject_ok_iff.mpr ⟨members, hmembers, hrequest⟩, hafter]

end CreateRequest
end BearerTokens
