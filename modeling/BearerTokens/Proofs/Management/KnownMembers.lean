import Mathlib.Data.List.Induction
import BearerTokens.Proofs.Management.Entries

/-!
# Requests by their known members

Which request a document asks for is said by its known members alone, each of which stands
once: a name that is a text, hours that are an integer in plain decimal, and a description
that is a text, null or missing.  Spellings of keys and texts, blanks, the order of the
members and the values of all others make no difference.

Main results:

- Definition {lit}`CreateRequest.Describes`: what the members of an object ask for.
- Theorem {lit}`CreateRequest.absorbs_iff`: members are taken exactly if each known one
  stands at most once and says something that it may hold.
- Theorem {lit}`CreateRequest.decode_iff_describes`: an object is decoded to a request
  exactly if its members ask for it.
-/

namespace BearerTokens

open Json (Entry IsObjectText)

/-- Different members have different keys. -/
theorem Member.key_injective {member other : Member} (h : member.key = other.key) :
    member = other := by
  have hmember := ofKey?_eq_some_iff.mpr h
  rw [ofKey?_eq_some_iff.mpr rfl, Option.some.injEq] at hmember
  exact hmember

namespace CreateRequest

variable {entries : List Entry} {entry : Entry} {member : Member} {content : Content}

/-! ## What members of an object say -/

/-- Whether every key of an object is a text. -/
def Readable (entries : List Entry) : Prop :=
  ∀ entry ∈ entries, ∃ key, entry.HasKey key

/-- Whether no member of an object has the key of a known one. -/
def Absent (entries : List Entry) (member : Member) : Prop :=
  ∀ entry ∈ entries, ¬ entry.HasKey member.key

/-- Whether two members of an object have the key of the same known one. -/
def Twice (entries : List Entry) (member : Member) : Prop :=
  ∃ first second, [first, second].Sublist entries ∧ first.HasKey member.key ∧
    second.HasKey member.key

/-- Whether a known member stands in an object once and its value says the given content. -/
def Once (entries : List Entry) (member : Member) (content : Content) : Prop :=
  (∃ entry ∈ entries, entry.HasKey member.key ∧ Means entry.value.core content) ∧
    ¬ Twice entries member

/--
What the members of an object ask for: all keys are texts, the known members stand once, and
each of them says its part of the request.  Only the description may be missing.
-/
structure Describes (entries : List Entry) (request : CreateRequest) : Prop where
  readable : Readable entries
  name : Once entries .name (.text request.name)
  description : Once entries .description (textOrNull request.description) ∨
    request.description = none ∧ Absent entries .description
  hours : Once entries .hours (.integer request.hours)
  lasts : Lasts request.hours

/-- What is known of a member behind the members of an object. -/
def Gives (entries : List Entry) (member : Member) : Option Content → Prop
  | none => Absent entries member
  | some content => content.Fits member ∧ Once entries member content

/-- A member does not stand twice if no two members in a row have its key. -/
theorem not_twice_iff : ¬ Twice entries member ↔ entries.Pairwise fun first second =>
    ¬ (first.HasKey member.key ∧ second.HasKey member.key) := by
  rw [List.pairwise_iff_forall_sublist]
  constructor
  · intro h first second hsub hboth
    exact h ⟨first, second, hsub, hboth⟩
  · rintro h ⟨first, second, hsub, hboth⟩
    exact h hsub hboth

/-! ## More members -/

section More

variable {more : List Entry} (h : ∀ entry ∈ more, ¬ entry.HasKey member.key)

include h

/-- A member is absent if it is from those in front of members with other keys. -/
theorem absent_append_iff : Absent (entries ++ more) member ↔ Absent entries member := by
  rw [Absent, List.forall_mem_append]
  exact and_iff_left h

/-- Members with other keys do not stand twice. -/
theorem twice_append_iff : Twice (entries ++ more) member ↔ Twice entries member := by
  rw [← not_iff_not, not_twice_iff, not_twice_iff, List.pairwise_append]
  refine and_iff_left ⟨?_, fun first _ second hsecond hboth => h second hsecond hboth.2⟩
  exact List.pairwise_of_forall_mem_list fun first hfirst _ _ hboth => h first hfirst hboth.1

/-- Members with other keys say nothing. -/
theorem once_append_iff : Once (entries ++ more) member content ↔ Once entries member content := by
  rw [Once, Once, twice_append_iff h]
  refine and_congr_left fun _ => ?_
  constructor
  · rintro ⟨entry, hentry, hkey, hmeans⟩
    rcases List.mem_append.mp hentry with hfront | hmore
    · exact ⟨entry, hfront, hkey, hmeans⟩
    · exact absurd hkey (h entry hmore)
  · rintro ⟨entry, hentry, hsaid⟩
    exact ⟨entry, List.mem_append_left more hentry, hsaid⟩

/-- Members with other keys give nothing. -/
theorem gives_append_iff (given : Option Content) :
    Gives (entries ++ more) member given ↔ Gives entries member given := by
  cases given with
  | none => exact absent_append_iff h
  | some content => exact and_congr_right fun _ => once_append_iff h

end More

/-- A member that stands last does not stand twice if it is not in front. -/
theorem not_twice_snoc_iff (h : entry.HasKey member.key) :
    ¬ Twice (entries ++ [entry]) member ↔ Absent entries member := by
  rw [not_twice_iff, List.pairwise_append]
  constructor
  · rintro ⟨-, -, hlast⟩ other hother hboth
    exact hlast other hother entry List.mem_cons_self ⟨hboth, h⟩
  · intro habsent
    refine ⟨?_, List.pairwise_singleton _ _, fun other hother _ _ hboth =>
      habsent other hother hboth.1⟩
    exact List.pairwise_of_forall_mem_list fun first hfirst _ _ hboth =>
      habsent first hfirst hboth.1

/-- A known member gives what it says if there was none before. -/
theorem gives_snoc_iff (h : entry.HasKey member.key) (given : Option Content) :
    Gives (entries ++ [entry]) member given ↔ Absent entries member ∧
      ∃ content, given = some content ∧ content.Fits member ∧
        Means entry.value.core content := by
  have hmem : entry ∈ entries ++ [entry] := List.mem_append_right entries List.mem_cons_self
  cases given with
  | none =>
    constructor
    · intro habsent
      exact absurd h (habsent entry hmem)
    · rintro ⟨-, content, hnone, -⟩
      cases hnone
  | some content =>
    rw [Gives, Once, not_twice_snoc_iff h]
    constructor
    · rintro ⟨hfits, ⟨other, hother, hkey, hmeans⟩, habsent⟩
      refine ⟨habsent, content, rfl, hfits, ?_⟩
      rcases List.mem_append.mp hother with hfront | hlast
      · exact absurd hkey (habsent other hfront)
      · rw [List.mem_singleton.mp hlast] at hmeans
        exact hmeans
    · rintro ⟨habsent, said, hsaid, hfits, hmeans⟩
      cases hsaid
      exact ⟨hfits, ⟨entry, hmem, h, hmeans⟩, habsent⟩

/-! ## All members -/

/-- The last member is taken behind the others. -/
theorem absorbs_snoc_iff {members found : Members} :
    Absorbs members (entries ++ [entry]) found ↔
      ∃ between, Absorbs members entries between ∧ Takes between entry found := by
  induction entries generalizing members with
  | nil =>
    constructor
    · intro h
      cases h with
      | cons htakes hnil =>
        cases hnil
        exact ⟨members, .nil members, htakes⟩
    · rintro ⟨between, hnil, htakes⟩
      cases hnil
      exact .cons htakes (.nil found)
  | cons first entries ih =>
    constructor
    · intro h
      cases h with
      | cons htakes hmore =>
        obtain ⟨between, habsorbs, hlast⟩ := ih.mp hmore
        exact ⟨between, .cons htakes habsorbs, hlast⟩
    · rintro ⟨between, habsorbs, hlast⟩
      cases habsorbs with
      | cons htakes hmore => exact .cons htakes (ih.mpr ⟨between, hmore, hlast⟩)

/-- The members without what was read of one. -/
def Members.without (members : Members) : Member → Members
  | .name => { members with name := none }
  | .description => { members with description := none }
  | .hours => { members with hours := none }

/-- Nothing is known of the member that was left out. -/
theorem Members.content_without (members : Members) (member other : Member) :
    (members.without member).content other =
      if other = member then none else members.content other := by
  cases member <;> cases other <;> rfl

/-- A member with an unknown key is no known member. -/
theorem not_hasKey_of_unknown {key : String} (hkey : entry.HasKey key)
    (hnone : Member.ofKey? key = none) (member : Member) : ¬ entry.HasKey member.key := by
  intro hknown
  rw [Member.ofKey?_eq_some_iff.mpr (hkey.unique hknown)] at hnone
  cases hnone

/-- A known member is no other known one. -/
theorem not_hasKey_of_ne {other : Member} (hkey : entry.HasKey member.key) (hne : other ≠ member) :
    ¬ entry.HasKey other.key :=
  fun hother => hne (Member.key_injective (hother.unique hkey))

variable {between found : Members}

/-- A member with an unknown key gives nothing. -/
theorem gives_snoc_unknown {key : String} (hkey : entry.HasKey key)
    (hnone : Member.ofKey? key = none) (given : Option Content) :
    Gives (entries ++ [entry]) member given ↔ Gives entries member given := by
  apply gives_append_iff
  intro last hlast
  rw [List.mem_singleton.mp hlast]
  exact not_hasKey_of_unknown hkey hnone member

/-- A known member gives nothing for another one. -/
theorem gives_snoc_ne {other : Member} (hkey : entry.HasKey member.key) (hne : other ≠ member)
    (given : Option Content) :
    Gives (entries ++ [entry]) other given ↔ Gives entries other given := by
  apply gives_append_iff
  intro last hlast
  rw [List.mem_singleton.mp hlast]
  exact not_hasKey_of_ne hkey hne

/-- What is known before a member that is taken, and what it adds, is known behind it. -/
theorem gives_of_takes (h : ∀ member, Gives entries member (between.content member))
    (htakes : Takes between entry found) (other : Member) :
    Gives (entries ++ [entry]) other (found.content other) := by
  obtain ⟨key, hkey⟩ := htakes.hasKey
  cases hmember : Member.ofKey? key with
  | none =>
    rw [gives_snoc_unknown hkey hmember, (takes_other_iff hkey hmember).mp htakes]
    exact h other
  | some member =>
    have hknown : entry.HasKey member.key := Member.ofKey?_eq_some_iff.mp hmember ▸ hkey
    obtain ⟨hfree, content, hmeans, hgains⟩ := (takes_known_iff hknown).mp htakes
    by_cases hsame : other = member
    · have habsent := h member
      rw [hfree] at habsent
      rw [hsame, gives_snoc_iff hknown, hgains.gained]
      exact ⟨habsent, content, rfl, hgains.fits, hmeans⟩
    · rw [gives_snoc_ne hknown hsame, hgains.others other hsame]
      exact h other

/-- What is known behind a member is known before it, without what it gives itself. -/
theorem exists_takes_of_gives {key : String} (hkey : entry.HasKey key)
    (h : ∀ member, Gives (entries ++ [entry]) member (found.content member)) :
    ∃ between, (∀ member, Gives entries member (Members.content between member)) ∧
      Takes between entry found := by
  cases hmember : Member.ofKey? key with
  | none =>
    exact ⟨found, fun other => (gives_snoc_unknown hkey hmember _).mp (h other),
      .other hkey hmember⟩
  | some member =>
    have hknown : entry.HasKey member.key := Member.ofKey?_eq_some_iff.mp hmember ▸ hkey
    obtain ⟨habsent, content, hgained, hfits, hmeans⟩ := (gives_snoc_iff hknown _).mp (h member)
    have hfree : (found.without member).content member = none := by
      rw [Members.content_without, if_pos rfl]
    have hgains : (found.without member).Gains member found content := by
      refine ⟨hfits, hgained, fun other hother => ?_⟩
      rw [Members.content_without, if_neg hother]
    refine ⟨found.without member, fun other => ?_, .known hknown hfree hmeans hgains⟩
    by_cases hsame : other = member
    · rw [hsame, hfree]
      exact habsent
    · rw [Members.content_without, if_neg hsame]
      exact (gives_snoc_ne hknown hsame _).mp (h other)

/-- An object without members gives nothing. -/
theorem gives_nil_iff :
    (∀ member, Gives [] member (found.content member)) ↔ found = .empty := by
  have hempty : ∀ member, Members.empty.content member = none := by
    intro member
    cases member <;> rfl
  constructor
  · intro h
    apply Members.ext_content
    intro member
    have hmember := h member
    cases hcontent : found.content member with
    | none => rw [hempty]
    | some content =>
      rw [hcontent] at hmember
      obtain ⟨-, ⟨entry, hentry, -⟩, -⟩ := hmember
      exact absurd hentry List.not_mem_nil
  · rintro rfl member
    rw [hempty]
    exact fun entry hentry => absurd hentry List.not_mem_nil

/--
The members of an object can be taken one after the other exactly if their keys are texts and
each known one stands at most once, with a value that says something that it may hold.
-/
theorem absorbs_iff :
    Absorbs .empty entries found ↔
      Readable entries ∧ ∀ member, Gives entries member (found.content member) := by
  -- The induction takes the last member off: a step of the run is a step of what is given.
  induction entries using List.reverseRecOn generalizing found with
  | nil =>
    rw [gives_nil_iff]
    constructor
    · intro h
      cases h
      exact ⟨fun entry hentry => absurd hentry List.not_mem_nil, rfl⟩
    · rintro ⟨-, rfl⟩
      exact .nil .empty
  | append_singleton entries entry ih =>
    have hreadable : Readable (entries ++ [entry]) ↔
        Readable entries ∧ ∃ key, entry.HasKey key := by
      simp only [Readable, List.forall_mem_append, List.forall_mem_singleton]
    rw [absorbs_snoc_iff, hreadable]
    constructor
    · rintro ⟨between, habsorbs, htakes⟩
      obtain ⟨hkeys, hgives⟩ := ih.mp habsorbs
      exact ⟨⟨hkeys, htakes.hasKey⟩, gives_of_takes hgives htakes⟩
    · rintro ⟨⟨hkeys, key, hkey⟩, hgives⟩
      obtain ⟨between, hbetween, htakes⟩ := exists_takes_of_gives hkey hgives
      exact ⟨between, ih.mpr ⟨hkeys, hbetween⟩, htakes⟩

/-! ## Requests -/

/-- A description that is missing or null is none. -/
theorem join_eq_iff {description : Option (Option String)} {s : Option String} :
    description.join = s ↔ description.map textOrNull = some (textOrNull s) ∨
      s = none ∧ description.map textOrNull = none := by
  cases description with
  | none =>
    simp only [Option.join_none, Option.map_none, reduceCtorEq, false_or, and_true]
    exact eq_comm
  | some t =>
    simp only [Option.join_some, Option.map_some, Option.some.injEq, reduceCtorEq, and_false,
      or_false]
    exact ⟨congrArg textOrNull, Members.textOrNull_inj⟩

/-- Members make a request exactly if a name and hours are known, and they are those of it. -/
theorem request_iff {members : Members} {request : CreateRequest} :
    members.request = .ok request ↔
      members.content .name = some (.text request.name) ∧
        (members.content .description = some (textOrNull request.description) ∨
          request.description = none ∧ members.content .description = none) ∧
        members.content .hours = some (.integer request.hours) := by
  obtain ⟨name, description, hours⟩ := members
  obtain ⟨wanted, about, lifetime⟩ := request
  cases name with
  | none => simp only [Members.request, Members.content, Option.map_none, reduceCtorEq, false_and]
  | some name =>
    cases hours with
    | none =>
      simp only [Members.request, Members.content, Option.map_none, reduceCtorEq, and_false]
    | some hours =>
      simp only [Members.request, Members.content, Option.map_some, Except.ok.injEq,
        CreateRequest.mk.injEq, Option.some.injEq, Content.text.injEq, Content.integer.injEq,
        join_eq_iff]

/-- What a document asks for is what is known behind all of its members. -/
theorem exists_given_iff {request : CreateRequest} :
    (∃ members : Members, (∀ member, Gives entries member (members.content member)) ∧
        members.request = .ok request) ↔
      Once entries .name (.text request.name) ∧
        (Once entries .description (textOrNull request.description) ∨
          request.description = none ∧ Absent entries .description) ∧
        Once entries .hours (.integer request.hours) ∧ Lasts request.hours := by
  constructor
  · rintro ⟨members, hgives, hrequest⟩
    obtain ⟨hname, hdescription, hhours⟩ := request_iff.mp hrequest
    have hgivenName := hgives .name
    have hgivenHours := hgives .hours
    have hgivenDescription := hgives .description
    rw [hname] at hgivenName
    rw [hhours] at hgivenHours
    refine ⟨hgivenName.2, ?_, hgivenHours.2, hgivenHours.1.lasts⟩
    rcases hdescription with hsome | ⟨hnone, hmissing⟩
    · rw [hsome] at hgivenDescription
      exact .inl hgivenDescription.2
    · rw [hmissing] at hgivenDescription
      exact .inr ⟨hnone, hgivenDescription⟩
  · rintro ⟨hname, hdescription, hhours, hlasts⟩
    have hknown : ∃ description : Option (Option String),
        Gives entries .description (description.map textOrNull) ∧
          description.join = request.description := by
      rcases hdescription with honce | ⟨hnone, habsent⟩
      · exact ⟨some request.description, ⟨.description _, honce⟩, rfl⟩
      · exact ⟨none, habsent, hnone.symm⟩
    obtain ⟨description, hgives, hjoin⟩ := hknown
    refine ⟨⟨some request.name, description, some request.hours⟩, fun member => ?_, ?_⟩
    · cases member with
      | name => exact ⟨.name _, hname⟩
      | description => exact hgives
      | hours => exact ⟨.hours hlasts, hhours⟩
    · rw [Members.request, hjoin]

/-- An object is decoded to a request exactly if its members ask for it. -/
theorem decode_iff_describes {text : List UInt8} {request : CreateRequest}
    (h : IsObjectText entries text) : decode text = .ok request ↔ Describes entries request := by
  rw [decode_iff_absorbs h]
  constructor
  · rintro ⟨members, habsorbs, hrequest⟩
    obtain ⟨hreadable, hgives⟩ := absorbs_iff.mp habsorbs
    obtain ⟨hname, hdescription, hhours, hlasts⟩ :=
      exists_given_iff.mp ⟨members, hgives, hrequest⟩
    exact ⟨hreadable, hname, hdescription, hhours, hlasts⟩
  · intro hdescribes
    obtain ⟨members, hgives, hrequest⟩ := exists_given_iff.mpr
      ⟨hdescribes.name, hdescribes.description, hdescribes.hours, hdescribes.lasts⟩
    exact ⟨members, absorbs_iff.mpr ⟨hdescribes.readable, hgives⟩, hrequest⟩

end CreateRequest
end BearerTokens
