import BearerTokens.Proofs.Settings.Lists
import BearerTokens.Settings.Basic

/-!
# The list of users

An entry of the list of users is a number, a name, and a mark if the user may
not sign in.  Parts behind the mark are not looked at: such an entry is read as
if it ended with its mark, although no entry is meant to have them.  In every
other respect the lists that are read are the lists in the described form.

Main results:

- Theorem {lit}`Entries.user?_eq_some_iff`: the entries that are read.
- Theorem {lit}`Entries.users_described_unless_surplus`: the lists that are read, and
  when they are those in the described form.
-/

namespace BearerTokens

/-- A variable that has been set to a text has it. -/
theorem Variables.get?_set (vars : Variables) (name text : String) :
    (vars.set name (Utf8.encode text)).get? name = some text := by
  rw [get?, set, Index.get?_insert, if_pos rfl, Option.bind_some, Utf8.decode?_encode]

namespace Entries

/-! ## Entries -/

/-- The first two parts of an entry are the number and the name of an ordinary user. -/
structure Named (id name : List Char) (user : User) : Prop where
  id : Positive id user.id
  ne_nil : name ≠ []
  name : user.name.toList = name
  displayName : user.displayName = user.name
  authorities : user.authorities = ["ROLE_USER"]

/-- What an entry says of a user, and the parts behind it that nothing is said by. -/
inductive UserEntry (entry : List Char) (user : User) : List (List Char) → Prop where
  | enabled {id name : List Char} :
    Text.Separates ':' entry [id, name] → Named id name user → user.enabled = true →
    UserEntry entry user []
  | disabled {id name : List Char} {surplus : List (List Char)} :
    Text.Separates ':' entry (id :: name :: "disabled".toList :: surplus) → Named id name user →
    user.enabled = false → UserEntry entry user surplus

/-- The form of an entry: two parts, or three of which the third is the mark. -/
def DescribedUser (entry : List Char) (user : User) : Prop :=
  UserEntry entry user []

/-- An entry says something of a user, whether or not there are parts behind it. -/
def AdmittedUser (entry : List Char) (user : User) : Prop :=
  ∃ surplus, UserEntry entry user surplus

/-- An entry has parts behind its mark. -/
def Surplus (entry : List Char) : Prop :=
  ∃ user surplus, UserEntry entry user surplus ∧ surplus ≠ []

section

variable {entry id name : List Char} {user : User} {surplus : List (List Char)}

/-- The name of an ordinary user is not empty. -/
theorem Named.name_ne (h : Named id name user) : user.name ≠ "" := by
  intro hempty
  apply h.ne_nil
  rw [← h.name, hempty]
  rfl

/-- An ordinary user has the number and the name that are read of two parts. -/
theorem named_iff :
    Named id name user ↔ ∃ n s, positive? id = some n ∧ name? name = some s ∧
      user = .ordinary n s user.enabled := by
  constructor
  · intro h
    refine ⟨user.id, user.name, positive?_eq_some_iff.mpr h.id,
      name?_eq_some_iff.mpr ⟨h.name, h.name_ne⟩, ?_⟩
    have hdisplay := h.displayName
    have hauthorities := h.authorities
    cases user
    simp only at hdisplay hauthorities
    rw [hdisplay, hauthorities]
    rfl
  · rintro ⟨n, s, hid, hname, huser⟩
    rcases name?_eq_some_iff.mp hname with ⟨hpart, hne⟩
    rw [huser]
    refine ⟨positive?_eq_some_iff.mp hid, ?_, hpart, rfl, rfl⟩
    rintro rfl
    exact hne (String.toList_eq_nil_iff.mp hpart)

/-- A user may sign in unless the first part behind the name is the mark. -/
theorem enabled?_eq_some_iff {rest : List (List Char)} {enabled : Bool} :
    enabled? rest = some enabled ↔
      (rest = [] ∧ enabled = true) ∨
        ∃ surplus, rest = "disabled".toList :: surplus ∧ enabled = false := by
  cases rest with
  | nil => simp [enabled?, eq_comm]
  | cons part others =>
    rw [enabled?]
    split
    · next hmark => simp [hmark, eq_comm]
    · next hmark =>
      refine iff_of_false (by simp) ?_
      rintro (⟨hnil, -⟩ | ⟨surplus, hrest, -⟩)
      · cases hnil
      · exact hmark (List.cons.inj hrest).1

/-- A user of whom an entry says something has a number above zero and a name. -/
theorem AdmittedUser.named (h : AdmittedUser entry user) : 0 < user.id ∧ user.name ≠ "" := by
  rcases h with ⟨surplus, h⟩
  cases h with
  | enabled _ hnamed _ => exact ⟨hnamed.id.pos, hnamed.name_ne⟩
  | disabled _ hnamed _ => exact ⟨hnamed.id.pos, hnamed.name_ne⟩

/-- An entry is read exactly when it says something of a user. -/
theorem user?_eq_some_iff : user? entry = some user ↔ AdmittedUser entry user := by
  constructor
  · intro h
    unfold user? at h
    split at h
    · next id name rest hparts =>
      split at h
      · next n s enabled hid hname henabled =>
        cases h
        have hseparates := Text.split_eq_iff.mp hparts
        have hnamed : Named id name (.ordinary n s enabled) :=
          named_iff.mpr ⟨n, s, hid, hname, rfl⟩
        rcases enabled?_eq_some_iff.mp henabled with ⟨rfl, rfl⟩ | ⟨surplus, rfl, rfl⟩
        · exact ⟨[], .enabled hseparates hnamed rfl⟩
        · exact ⟨surplus, .disabled hseparates hnamed rfl⟩
      · cases h
    · cases h
  · rintro ⟨surplus, h⟩
    cases h with
    | enabled hseparates hnamed henabled =>
      rcases named_iff.mp hnamed with ⟨n, s, hid, hname, huser⟩
      have hmark := enabled?_eq_some_iff.mpr (.inl ⟨rfl, henabled⟩)
      rw [user?, parts, Text.split_eq_iff.mpr hseparates, huser]
      simp only [hid, hname, hmark]
    | disabled hseparates hnamed hdisabled =>
      rcases named_iff.mp hnamed with ⟨n, s, hid, hname, huser⟩
      have hmark := enabled?_eq_some_iff.mpr (.inr ⟨surplus, rfl, hdisabled⟩)
      rw [user?, parts, Text.split_eq_iff.mpr hseparates, huser]
      simp only [hid, hname, hmark]

/-- An entry has only one number of parts behind its mark. -/
theorem UserEntry.surplus_unique {other : User} {others : List (List Char)}
    (h : UserEntry entry user surplus) (hother : UserEntry entry other others) :
    surplus = others := by
  cases h with
  | enabled hseparates _ _ =>
    cases hother with
    | enabled _ _ _ => rfl
    | disabled hmarked _ _ => simpa using hseparates.unique hmarked
  | disabled hseparates _ _ =>
    cases hother with
    | enabled hplain _ _ => simpa using hseparates.unique hplain
    | disabled hmarked _ _ =>
      have hparts := hseparates.unique hmarked
      simp only [List.cons.injEq] at hparts
      exact hparts.2.2.2

/-- An entry that says something has the described form unless it has parts behind its mark. -/
theorem AdmittedUser.described_or_surplus (h : AdmittedUser entry user) :
    DescribedUser entry user ∨ Surplus entry := by
  rcases h with ⟨surplus, h⟩
  cases surplus with
  | nil => exact .inl h
  | cons part others => exact .inr ⟨user, _, h, List.cons_ne_nil part others⟩

/-- An entry in the described form has no parts behind its mark. -/
theorem DescribedUser.not_surplus (h : DescribedUser entry user) : ¬ Surplus entry := by
  rintro ⟨other, surplus, hother, hne⟩
  exact hne (hother.surplus_unique h)

end

/-! ## Lists -/

/-- Some entry of a list has parts behind its mark. -/
def HasSurplus (raw : String) : Prop :=
  ∃ entries, Lists raw.toList entries ∧ ∃ entry ∈ entries, Surplus entry

section

variable {raw : String} {users : List User}

/-- A list is read exactly when its entries say the users that are read. -/
theorem users?_eq_some_iff : users? raw = some users ↔ ListOf AdmittedUser raw users :=
  mapM_entries_eq_some_iff fun _ _ => user?_eq_some_iff

/-- A list in the described form is read. -/
theorem listOf_admitted (h : ListOf DescribedUser raw users) : ListOf AdmittedUser raw users := by
  rcases h with ⟨entries, hentries, hvalues⟩
  exact ⟨entries, hentries, hvalues.imp fun _ _ hentry => ⟨[], hentry⟩⟩

/-- A list that is read has the described form exactly when no entry has surplus parts. -/
theorem listOf_described_iff (h : ListOf AdmittedUser raw users) :
    ListOf DescribedUser raw users ↔ ¬ HasSurplus raw := by
  constructor
  · rintro ⟨entries, hentries, hvalues⟩ ⟨others, hothers, entry, hmem, hsurplus⟩
    rw [← hentries.unique hothers] at hmem
    rcases List.mem_iff_getElem.mp hmem with ⟨i, hi, rfl⟩
    have hi' : i < users.length := hvalues.length_eq ▸ hi
    exact (hvalues.get hi hi').not_surplus hsurplus
  · intro hnone
    rcases h with ⟨entries, hentries, hvalues⟩
    have hplain : ∀ entry ∈ entries, ¬ Surplus entry := fun entry hmem hsurplus =>
      hnone ⟨entries, hentries, entry, hmem, hsurplus⟩
    refine ⟨entries, hentries, ?_⟩
    clear hentries hnone
    induction hvalues with
    | nil => exact .nil
    | cons hentry _ ih =>
      refine .cons ?_ (ih fun entry hmem => hplain entry (List.mem_cons_of_mem _ hmem))
      exact hentry.described_or_surplus.resolve_right (hplain _ List.mem_cons_self)

end

/--
A list is read as users exactly when its entries, in order, say them: each is a number above
zero and a name, with the mark behind them or not.  The lists that are read are those in the
described form, unless one that is read has an entry with more parts behind its mark.  A list
that cannot be read stops the reading of the settings at its variable.
-/
theorem users_described_unless_surplus (raw : String) :
    (∀ users, users? raw = some users ↔ ListOf AdmittedUser raw users) ∧
      ((∀ users, users? raw = some users ↔ ListOf DescribedUser raw users) ↔
        ¬ (HasSurplus raw ∧ ∃ users, users? raw = some users)) ∧
      ∀ vars : Variables,
        Settings.readMemory (vars.set "DEV_USERS" (Utf8.encode raw)) =
            .error (.invalid .devUsers) ↔
          ∀ users, ¬ ListOf AdmittedUser raw users := by
  refine ⟨fun users => users?_eq_some_iff, ?_, ?_⟩
  · constructor
    · rintro hdescribed ⟨hsurplus, users, hread⟩
      have hadmitted := users?_eq_some_iff.mp hread
      exact (listOf_described_iff hadmitted).mp ((hdescribed users).mp hread) hsurplus
    · intro hnone users
      constructor
      · intro hread
        have hplain : ¬ HasSurplus raw := fun hsurplus => hnone ⟨hsurplus, users, hread⟩
        exact (listOf_described_iff (users?_eq_some_iff.mp hread)).mpr hplain
      · exact fun hdescribed => users?_eq_some_iff.mpr (listOf_admitted hdescribed)
  · intro vars
    have hset : (vars.set "DEV_USERS" (Utf8.encode raw)).get? Variable.devUsers.name = some raw :=
      vars.get?_set "DEV_USERS" raw
    have hnone : users? raw = none ↔ ∀ users, ¬ ListOf AdmittedUser raw users := by
      simp only [Option.eq_none_iff_forall_ne_some, ne_eq, users?_eq_some_iff]
    rw [Settings.readMemory, hset, Option.getD_some, ← hnone]
    cases users? raw with
    | none => exact iff_of_true rfl rfl
    | some users => exact iff_of_false (fun h => by cases h) (fun h => by cases h)

/-- A list with one entry, of four parts. -/
def surplusList : String := "1:bob:disabled:extra"

/-- The fourth part of the entry is not looked at, although no list in the described
form has one. -/
theorem users_surplusList :
    users? surplusList = some [.ordinary 1 "bob" false] ∧
      ∀ users, ¬ ListOf DescribedUser surplusList users := by
  have hread : users? surplusList = some [.ordinary 1 "bob" false] := by decide +kernel
  refine ⟨hread, ?_⟩
  rintro users ⟨entries, hentries, hvalues⟩
  have hentry : entries = [surplusList.toList] := by
    rw [← entries_eq_iff.mpr hentries]
    decide +kernel
  subst hentry
  rcases List.forall₂_cons_left_iff.mp hvalues with ⟨user, rest, hdescribed, -, -⟩
  have hsplit : Text.split ':' surplusList.toList =
      ["1".toList, "bob".toList, "disabled".toList, "extra".toList] := by decide +kernel
  cases hdescribed with
  | enabled hseparates _ _ =>
    have hparts := hsplit.symm.trans (Text.split_eq_iff.mpr hseparates)
    simp at hparts
  | disabled hseparates _ _ =>
    have hparts := hsplit.symm.trans (Text.split_eq_iff.mpr hseparates)
    simp at hparts

end Entries
end BearerTokens
