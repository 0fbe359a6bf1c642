import Mathlib.Data.List.Pairwise
import BearerTokens.Proofs.Management.KnownMembers

/-!
# Documents that ask for a token

A document that is an object is read as one request or as none, and which one it is depends
on its known members only.  The order of the members makes no difference, so no document is
read as another request once its members are put in another order, and members with other
keys may be added anywhere.  A known member that stands twice, a name or hours that are
missing, and hours that are no integer of the range make a document no request.

Main results:

- Theorem {lit}`CreateRequest.describes_perm`: the order of members makes no difference.
- Theorem {lit}`CreateRequest.describes_append_iff`: other members make no difference.
- Theorem {lit}`CreateRequest.Faulty.not_describes`: what is faulty asks for nothing.
- Theorem {lit}`CreateRequest.decoded_by_known_members`: the requests of documents.
-/

namespace BearerTokens

open Json (Entry IsText IsObjectText)

namespace CreateRequest

/-! ## Order and other members -/

variable {entries others more : List Entry} {member : Member} {content : Content}
  {request : CreateRequest}

/-- Whether a known member stands twice does not depend on the order. -/
theorem twice_perm (h : entries.Perm others) : Twice entries member ↔ Twice others member := by
  rw [← not_iff_not, not_twice_iff, not_twice_iff]
  exact h.pairwise_iff fun hneither hboth => hneither hboth.symm

/-- What a known member says does not depend on the order. -/
theorem once_perm (h : entries.Perm others) :
    Once entries member content ↔ Once others member content := by
  simp only [Once, twice_perm h, h.mem_iff]

/-- What members ask for does not depend on their order. -/
theorem describes_perm (h : entries.Perm others) :
    Describes entries request ↔ Describes others request := by
  have hforward : ∀ {entries others : List Entry}, entries.Perm others →
      Describes entries request → Describes others request := by
    intro entries others h hdescribes
    refine ⟨fun entry hentry => hdescribes.readable entry (h.mem_iff.mpr hentry),
      (once_perm h).mp hdescribes.name, ?_, (once_perm h).mp hdescribes.hours, hdescribes.lasts⟩
    rcases hdescribes.description with honce | ⟨hnone, habsent⟩
    · exact .inl ((once_perm h).mp honce)
    · exact .inr ⟨hnone, fun entry hentry => habsent entry (h.mem_iff.mpr hentry)⟩
  exact ⟨hforward h, hforward h.symm⟩

/-- Whether a member has a key that is a text, but not that of a known member. -/
def Unknown (entry : Entry) : Prop :=
  ∃ key, entry.HasKey key ∧ Member.ofKey? key = none

/-- What members ask for does not depend on members with other keys. -/
theorem describes_append_iff (h : ∀ entry ∈ more, Unknown entry) :
    Describes (entries ++ more) request ↔ Describes entries request := by
  have hother : ∀ member : Member, ∀ entry ∈ more, ¬ entry.HasKey member.key := by
    intro member entry hentry
    obtain ⟨key, hkey, hunknown⟩ := h entry hentry
    exact not_hasKey_of_unknown hkey hunknown member
  have hreadable : Readable (entries ++ more) ↔ Readable entries := by
    rw [Readable, List.forall_mem_append]
    refine and_iff_left fun entry hentry => ?_
    obtain ⟨key, hkey, -⟩ := h entry hentry
    exact ⟨key, hkey⟩
  constructor
  · rintro ⟨hkeys, hname, hdescription, hhours, hlasts⟩
    rw [once_append_iff (hother .name)] at hname
    rw [once_append_iff (hother .description), absent_append_iff (hother .description)]
      at hdescription
    rw [once_append_iff (hother .hours)] at hhours
    exact ⟨hreadable.mp hkeys, hname, hdescription, hhours, hlasts⟩
  · rintro ⟨hkeys, hname, hdescription, hhours, hlasts⟩
    rw [← once_append_iff (hother .name)] at hname
    rw [← once_append_iff (hother .description), ← absent_append_iff (hother .description)]
      at hdescription
    rw [← once_append_iff (hother .hours)] at hhours
    exact ⟨hreadable.mpr hkeys, hname, hdescription, hhours, hlasts⟩

/-! ## Requests that are refused -/

/-- What makes an object no request, whatever else is in it. -/
inductive Faulty (entries : List Entry) : Prop where
  | twice (member : Member) : Twice entries member → Faulty entries
  | noName : Absent entries .name → Faulty entries
  | noHours : Absent entries .hours → Faulty entries
  | hours {entry : Entry} : entry ∈ entries → entry.HasKey Member.hours.key →
    (∀ n, Lasts n → ¬ Means entry.value.core (.integer n)) → Faulty entries

/-- A known member that does not stand twice is the only one with its key. -/
theorem eq_of_not_twice {first second : Entry} (h : ¬ Twice entries member)
    (hfirst : first ∈ entries) (hsecond : second ∈ entries) (hkey : first.HasKey member.key)
    (hother : second.HasKey member.key) : first = second := by
  have hsymm : Std.Symm fun first second : Entry =>
      ¬ (first.HasKey member.key ∧ second.HasKey member.key) :=
    ⟨fun _ _ hneither hboth => hneither hboth.symm⟩
  by_contra hne
  exact (not_twice_iff.mp h).forall hfirst hsecond hne ⟨hkey, hother⟩

/-- What is faulty asks for nothing. -/
theorem Faulty.not_describes (h : Faulty entries) : ¬ Describes entries request := by
  intro hdescribes
  cases h with
  | twice member htwice =>
    cases member with
    | name => exact hdescribes.name.2 htwice
    | hours => exact hdescribes.hours.2 htwice
    | description =>
      rcases hdescribes.description with honce | ⟨-, habsent⟩
      · exact honce.2 htwice
      · obtain ⟨first, second, hsub, hkey, -⟩ := htwice
        exact habsent first (hsub.subset List.mem_cons_self) hkey
  | noName habsent =>
    obtain ⟨entry, hentry, hkey, -⟩ := hdescribes.name.1
    exact habsent entry hentry hkey
  | noHours habsent =>
    obtain ⟨entry, hentry, hkey, -⟩ := hdescribes.hours.1
    exact habsent entry hentry hkey
  | hours hentry hkey hnone =>
    obtain ⟨other, hother, hotherKey, hmeans⟩ := hdescribes.hours.1
    rw [eq_of_not_twice hdescribes.hours.2 hother hentry hotherKey hkey] at hmeans
    exact hnone _ hdescribes.lasts hmeans

/--
A document that is an object is decoded to a request exactly if its members ask for it.  It is
refused if a known member stands twice, if a name or hours are missing, or if the hours are
not an integer of the range; and neither the order of its members nor members with other keys
make a difference.
-/
theorem decoded_by_known_members {text : List UInt8} (h : IsObjectText entries text) :
    (∀ request, decode text = .ok request ↔ Describes entries request) ∧
      (Faulty entries → ∃ cause, decode text = .error cause) ∧
      ∀ {more others : List Entry} {other : List UInt8}, (∀ entry ∈ more, Unknown entry) →
        (entries ++ more).Perm others → IsObjectText others other →
          ∀ request, decode other = .ok request ↔ decode text = .ok request := by
  refine ⟨fun request => decode_iff_describes h, fun hfaulty => ?_, ?_⟩
  · cases hdecode : decode text with
    | error cause => exact ⟨cause, rfl⟩
    | ok request => exact absurd ((decode_iff_describes h).mp hdecode) hfaulty.not_describes
  · intro more others other hunknown hperm hother request
    rw [decode_iff_describes hother, decode_iff_describes h, ← describes_perm hperm,
      describes_append_iff hunknown]

/-- The text of an object with nothing around it. -/
def objectText (entries : List Entry) : List UInt8 :=
  ascii '\x7b' :: (Json.listing (entries.map Entry.bytes) ++ [ascii '\x7d'])

/-- The text of an object is a document. -/
theorem isObjectText_objectText {first : Entry}
    (hframed : ∀ entry ∈ first :: others, entry.Framed)
    (htext : ∀ entry ∈ first :: others, IsText entry.value.core) :
    IsObjectText (first :: others) (objectText (first :: others)) := by
  have hblank : Json.Blanks [] := by decide
  refine ⟨⟨[], objectText (first :: others), []⟩, ⟨hblank, hblank⟩, .members hframed htext, ?_⟩
  rw [Json.Padded.bytes, List.append_nil]
  rfl

/-- A name with escapes in its key and in its text, and blanks around its colon. -/
def spelledName : Entry :=
  ⟨Ascii.bytes "\n", Ascii.bytes "n\\u0061me", Ascii.bytes " ",
    ⟨Ascii.bytes "\t", Ascii.bytes "\"\\ud83d\\uDE00\"", []⟩⟩

/-- A member with another key and a nested value. -/
def nestedMember : Entry :=
  ⟨[], Ascii.bytes "x", [], ⟨[], Ascii.bytes "[\x7b\"a\":-1.5e3\x7d]", Ascii.bytes " "⟩⟩

/-- Hours in plain decimal. -/
def plainHours : Entry :=
  ⟨[], Ascii.bytes "expires_in_hours", [], ⟨[], Ascii.bytes "24", []⟩⟩

/-- The key of the spelled name is that of a name. -/
theorem spelledName_hasKey : spelledName.HasKey Member.name.key :=
  .plain (by decide) (.numbered (n := 0x61) (by decide) rfl rfl
    (Json.unescapes_plain (by decide : Json.ArePlain (Ascii.bytes "me"))))

/-- The value of the spelled name is a pair of surrogates. -/
theorem spelledName_unescapes : Json.Unescapes (Ascii.bytes "\\ud83d\\uDE00")
    (Utf8.encode (String.singleton (Char.ofNat 0x1F600))) :=
  @Json.Unescapes.pair _ _ _ _ _ _ _ _ 0xD83D 0xDE00 _ _ (by decide) rfl (by decide) rfl .nil

/-- The value of the other member is an array of an object. -/
theorem nestedMember_isText : IsText nestedMember.value.core := by
  have hkey : Json.IsBody (Ascii.bytes "a") :=
    (Json.unescapes_plain (by decide : Json.ArePlain (Ascii.bytes "a"))).isBody
  have hnumber : IsText (Ascii.bytes "-1.5e3") :=
    .number (.negative (@Json.IsUnsigned.parts [ascii '1'] (Ascii.bytes ".5") (Ascii.bytes "e3")
      (by decide) (.digits (by decide))
      (@Json.IsExponent.digits _ [] _ (by decide) (by decide) (by decide))))
  have hobject : IsText (Ascii.bytes "\x7b\"a\":-1.5e3\x7d") := by
    refine @Json.IsText.object ⟨[], Ascii.bytes "a", [], ⟨[], Ascii.bytes "-1.5e3", []⟩⟩ [] ?_ ?_
    · intro entry hentry
      cases List.mem_singleton.mp hentry
      exact ⟨by decide, hkey, by decide, by decide⟩
    · intro entry hentry
      cases List.mem_singleton.mp hentry
      exact hnumber
  refine @Json.IsText.array ⟨[], Ascii.bytes "\x7b\"a\":-1.5e3\x7d", []⟩ [] ?_ ?_
  · intro item hitem
    cases List.mem_singleton.mp hitem
    decide
  · intro item hitem
    cases List.mem_singleton.mp hitem
    exact hobject

/-- A spelled name and hours make a request, in any order and with another member between. -/
theorem decoded_by_known_members_spelled :
    decode (objectText [plainHours, spelledName]) =
        .ok ⟨String.singleton (Char.ofNat 0x1F600), none, 24⟩ ∧
      (∃ cause, decode (objectText [nestedMember, spelledName]) = .error cause) ∧
      decode (objectText [spelledName, nestedMember, plainHours]) =
        .ok ⟨String.singleton (Char.ofNat 0x1F600), none, 24⟩ := by
  have hname := spelledName_hasKey
  have hother : nestedMember.HasKey "x" :=
    Json.unescapes_plain (by decide : Json.ArePlain (Ascii.bytes "x"))
  have hhours : plainHours.HasKey Member.hours.key :=
    Json.unescapes_plain (by decide : Json.ArePlain (Ascii.bytes "expires_in_hours"))
  have hframed : ∀ entry ∈ [plainHours, spelledName, nestedMember], entry.Framed := by
    simp only [List.forall_mem_cons, List.not_mem_nil, false_implies, implies_true, and_true]
    exact ⟨⟨by decide, hhours.isBody, by decide, by decide⟩,
      ⟨by decide, hname.isBody, by decide, by decide⟩,
      ⟨by decide, hother.isBody, by decide, by decide⟩⟩
  have htext : ∀ entry ∈ [plainHours, spelledName, nestedMember], IsText entry.value.core := by
    simp only [List.forall_mem_cons, List.not_mem_nil, false_implies, implies_true, and_true]
    refine ⟨?_, .string spelledName_unescapes.isBody, nestedMember_isText⟩
    exact .number (.positive (@Json.IsUnsigned.parts (Ascii.bytes "24") [] [] (by decide)
      .none .none))
  have hdocument : ∀ first others,
      first :: others ⊆ [plainHours, spelledName, nestedMember] →
        IsObjectText (first :: others) (objectText (first :: others)) :=
    fun _ _ hsub => isObjectText_objectText (fun entry h => hframed entry (hsub h))
      fun entry h => htext entry (hsub h)
  have hlone : ∀ member, ¬ Twice [plainHours, spelledName] member := by
    intro member
    rw [not_twice_iff, List.pairwise_pair]
    rintro ⟨hfirst, hsecond⟩
    exact absurd ((hhours.unique hfirst).trans (hname.unique hsecond).symm) (by decide)
  have hdescribes : Describes [plainHours, spelledName]
      ⟨String.singleton (Char.ofNat 0x1F600), none, 24⟩ := by
    refine ⟨?_, ⟨⟨spelledName, by simp, hname, .text spelledName_unescapes⟩, hlone .name⟩,
      .inr ⟨rfl, ?_⟩, ⟨⟨plainHours, by simp, hhours, ?_⟩, hlone .hours⟩, by decide, by decide⟩
    · simp only [Readable, List.forall_mem_cons, List.not_mem_nil, false_implies, implies_true,
        and_true]
      exact ⟨⟨_, hhours⟩, ⟨_, hname⟩⟩
    · simp only [Absent, List.forall_mem_cons, List.not_mem_nil, false_implies, implies_true,
        and_true]
      exact ⟨fun h => absurd (hhours.unique h) (by decide),
        fun h => absurd (hname.unique h) (by decide)⟩
    · exact means_integer_iff.mpr (by decide +kernel)
  have hmissing : Absent [nestedMember, spelledName] .hours := by
    simp only [Absent, List.forall_mem_cons, List.not_mem_nil, false_implies, implies_true,
      and_true]
    exact ⟨fun h => absurd (hother.unique h) (by decide),
      fun h => absurd (hname.unique h) (by decide)⟩
  have hunknown : ∀ entry ∈ [nestedMember], Unknown entry := by
    intro entry hentry
    cases List.mem_singleton.mp hentry
    exact ⟨_, hother, by decide⟩
  have hperm : ([plainHours, spelledName] ++ [nestedMember]).Perm
      [spelledName, nestedMember, plainHours] :=
    @List.perm_append_comm _ [plainHours] [spelledName, nestedMember]
  have hdecoded := decoded_by_known_members (hdocument plainHours [spelledName] (by simp))
  have hrefused := decoded_by_known_members (hdocument nestedMember [spelledName] (by simp))
  have hsame := hdecoded.2.2 hunknown hperm
    (hdocument spelledName [nestedMember, plainHours] (by simp))
  have hok := (hdecoded.1 _).mpr hdescribes
  exact ⟨hok, hrefused.2.1 (.noHours hmissing), (hsame _).mpr hok⟩

end CreateRequest
end BearerTokens
