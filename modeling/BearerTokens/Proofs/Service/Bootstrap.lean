import Mathlib.Data.List.Dedup
import Mathlib.Data.List.Perm.Subperm
import BearerTokens.Proofs.Lifecycle.Evaluation
import BearerTokens.Proofs.Service.SecretLife
import BearerTokens.Proofs.Service.Seeding
import BearerTokens.Proofs.Settings.Reading

/-!
# From the settings to the first request

A service that starts on a store in memory has seeded it, with one row for each owner and
name that the settings list, that of the first entry about them, while its directory has
the users of the last entry about each number.  So the secret of a row is decided upon by
two entries: the first of the token, and the last of its owner.

Main results:

- Definition {lit}`EntropySource.Distinct`: random blocks whose secrets have different digests.
- Definition {lit}`Seeded`: what the store holds after some seeds.
- Theorem {lit}`Seeded.attempt`: one more seed.
- Theorem {lit}`Seeded.issueFrom`: all seeds.
- Theorem {lit}`Settings.bootstrap`: from the variables to what the filter decides.
-/

namespace BearerTokens

/-! ## Random blocks in order -/

namespace EntropySource

/-- The source after a number of draws. -/
def after (source : EntropySource) : Nat → EntropySource
  | 0 => source
  | n + 1 => (source.after n).draw.2

/-- What is drawn after a number of draws. -/
def nth (source : EntropySource) (n : Nat) : Except String Block :=
  (source.after n).draw.1

/-- No two of the first blocks give secrets with the same digest. -/
def Distinct (source : EntropySource) (count : Nat) : Prop :=
  ∀ i j block other, i < count → j < count →
    source.nth i = .ok block → source.nth j = .ok other →
    (Secret.ofBlock block).digest = (Secret.ofBlock other).digest → i = j

/-- Digests that are all there and different are those of a source of different digests. -/
theorem distinct_of_nodup {source : EntropySource} {count : Nat}
    (h : ((List.range count).map fun i =>
      (source.nth i).toOption.map fun block => (Secret.ofBlock block).digest).Nodup) :
    source.Distinct count := by
  intro i j block other hi hj hblock hother hdigest
  refine List.inj_on_of_nodup_map h (List.mem_range.mpr hi) (List.mem_range.mpr hj) ?_
  simp only [hblock, hother, Except.toOption, Option.map_some, hdigest]

end EntropySource

/-! ## Rows of seeds -/

/-- A row is that of a seed, and the secret of the row is one of those issued. -/
structure Seed.Serves (expiresAt : Int) (issued : List Secret) (seed : Seed) (row : Token) :
    Prop where
  key : row.key = seed.key
  expiresAt : row.expiresAt = expiresAt
  secret : ∃ block, Secret.ofBlock block ∈ issued ∧ row.digest = (Secret.ofBlock block).digest

/-- More secrets that are issued change nothing about a row. -/
theorem Seed.Serves.mono {expiresAt : Int} {issued more : List Secret} {seed : Seed}
    {row : Token} (h : seed.Serves expiresAt issued row) (hmore : issued ⊆ more) :
    seed.Serves expiresAt more row := by
  rcases h.secret with ⟨block, hissued, hdigest⟩
  exact ⟨h.key, h.expiresAt, block, hmore hissued, hdigest⟩

/--
What a backend holds after some seeds, the readings of the clock and the source of random
blocks being given: a row for the first seed of each owner and name, and no others.
-/
structure Seeded (readings : Nat → Int) (source : EntropySource) (seeds : List Seed)
    (backend : Backend) (issued : List Secret) : Prop where
  sound : backend.Sound
  /-- Each row took one draw. -/
  entropy : backend.entropy = source.after backend.store.rows.values.length
  drawn : ∀ row ∈ backend.store.rows.values, ∃ i < backend.store.rows.values.length,
    ∃ block, source.nth i = .ok block ∧ row.digest = (Secret.ofBlock block).digest
  listed : ∀ row ∈ backend.store.rows.values, row.key ∈ seeds.map Seed.key
  served : ∀ i seed, seeds[i]? = some seed →
    seeds.findIdx? (fun other => other.key = seed.key) = some i →
    ∃ row ∈ backend.store.rows.values,
      seed.Serves (readings i + millisPerHour * seed.hours) issued row

namespace Seeded

variable {readings : Nat → Int} {source : EntropySource} {seeds : List Seed} {backend : Backend}
  {issued : List Secret}

/-- Before the first seed there is nothing. -/
theorem nil (h : backend.Sound) (hempty : backend.store.rows.values = []) :
    Seeded readings backend.entropy [] backend [] where
  sound := h
  entropy := by
    rw [hempty]
    rfl
  drawn := by
    rw [hempty]
    intro row hrow
    cases hrow
  listed := by
    rw [hempty]
    intro row hrow
    cases hrow
  served := by
    intro i seed hseed
    cases hseed

/-- The time is no matter of what is stored. -/
theorem setClock (h : Seeded readings source seeds backend issued) (clock : Int) :
    Seeded readings source seeds { backend with clock := clock } issued where
  sound := h.sound.setClock clock
  entropy := h.entropy
  drawn := h.drawn
  listed := h.listed
  served := h.served

/-- An owner and a name that are listed have a row, that of the first seed with them. -/
theorem exists_row (h : Seeded readings source seeds backend issued) {key : Int × String}
    (hkey : key ∈ seeds.map Seed.key) :
    ∃ i seed, seeds.findIdx? (fun other => other.key = key) = some i ∧ seeds[i]? = some seed ∧
      ∃ row ∈ backend.store.rows.values, row.key = key ∧
        seed.Serves (readings i + millisPerHour * seed.hours) issued row := by
  rcases List.mem_map.mp hkey with ⟨listed, hlisted, hlistedKey⟩
  have hsome : (seeds.findIdx? fun other => other.key = key).isSome := by
    rw [List.findIdx?_isSome]
    exact List.any_eq_true.mpr ⟨listed, hlisted, by simpa using hlistedKey⟩
  rcases Option.isSome_iff_exists.mp hsome with ⟨i, hi⟩
  rcases List.findIdx?_eq_some_iff_getElem.mp hi with ⟨hlt, hfirst, -⟩
  have hseedKey : seeds[i].key = key := by simpa using hfirst
  have hseed : seeds[i]? = some seeds[i] := List.getElem?_eq_getElem hlt
  rcases h.served i seeds[i] hseed (by rwa [hseedKey]) with ⟨row, hrow, hserves⟩
  exact ⟨i, seeds[i], hi, hseed, row, hrow, hserves.key.trans hseedKey, hserves⟩

/-- The first seed of its owner and name is so with one more seed, or is this one. -/
theorem first_concat {seeds : List Seed} {last seed : Seed} {i : Nat}
    (hseed : (seeds ++ [last])[i]? = some seed)
    (hfirst : (seeds ++ [last]).findIdx? (fun other => other.key = seed.key) = some i) :
    (seeds[i]? = some seed ∧ seeds.findIdx? (fun other => other.key = seed.key) = some i) ∨
      i = seeds.length ∧ seed = last ∧ last.key ∉ seeds.map Seed.key := by
  rw [List.findIdx?_append] at hfirst
  cases hearlier : seeds.findIdx? fun other => other.key = seed.key with
  | some j =>
    rw [hearlier, Option.some_or, Option.some.injEq] at hfirst
    left
    rw [← hfirst]
    rcases List.findIdx?_eq_some_iff_getElem.mp hearlier with ⟨hlt, -, -⟩
    rw [← hfirst, List.getElem?_append_left hlt] at hseed
    exact ⟨hseed, rfl⟩
  | none =>
    right
    rw [hearlier, Option.none_or, List.findIdx?_singleton] at hfirst
    split at hfirst
    · have hi : i = seeds.length := by simpa using hfirst.symm
      rw [hi, List.getElem?_concat_length, Option.some.injEq] at hseed
      refine ⟨hi, hseed.symm, ?_⟩
      intro hmem
      rcases List.mem_map.mp hmem with ⟨other, hother, hkey⟩
      have hne := List.findIdx?_eq_none_iff.mp hearlier other hother
      rw [← hseed, hkey] at hne
      simp at hne
    · cases hfirst

/-- A seed whose owner and name are listed already changes nothing. -/
theorem skip (h : Seeded readings source seeds backend issued) {seed : Seed}
    (hkey : seed.key ∈ seeds.map Seed.key) :
    Seeded readings source (seeds ++ [seed]) backend issued where
  sound := h.sound
  entropy := h.entropy
  drawn := h.drawn
  listed := by
    intro row hrow
    rw [List.map_append]
    exact List.mem_append_left _ (h.listed row hrow)
  served := by
    intro i found hfound hfirst
    rcases first_concat hfound hfirst with ⟨hold, hindex⟩ | ⟨-, -, hnew⟩
    · exact h.served i found hold hindex
    · exact absurd hkey hnew

/-- A seed of another owner and name adds a row that took one draw. -/
theorem add (h : Seeded readings source seeds backend issued) {seed : Seed} {block : Block}
    (hblock : backend.entropy.draw.1 = .ok block) {after : Backend} {row : Token}
    (hsound : after.Sound) (hentropy : after.entropy = backend.entropy.draw.2)
    (hvalues : after.store.rows.values = backend.store.rows.values ++ [row])
    (hserves : seed.Serves (readings seeds.length + millisPerHour * seed.hours)
      (.ofBlock block :: issued) row)
    (hdigest : row.digest = (Secret.ofBlock block).digest) :
    Seeded readings source (seeds ++ [seed]) after (.ofBlock block :: issued) where
  sound := hsound
  entropy := by
    rw [hentropy, h.entropy, hvalues, List.length_append]
    rfl
  drawn := by
    rw [hvalues, List.length_append, List.length_singleton]
    intro other hother
    rcases List.mem_append.mp hother with hold | hnew
    · rcases h.drawn other hold with ⟨i, hi, found, hfound, hother⟩
      exact ⟨i, Nat.lt_succ_of_lt hi, found, hfound, hother⟩
    · refine ⟨backend.store.rows.values.length, Nat.lt_succ_self _, block, ?_, ?_⟩
      · rwa [EntropySource.nth, ← h.entropy]
      · rw [List.mem_singleton.mp hnew]
        exact hdigest
  listed := by
    rw [hvalues, List.map_append]
    intro other hother
    rcases List.mem_append.mp hother with hold | hnew
    · exact List.mem_append_left _ (h.listed other hold)
    · rw [List.mem_singleton.mp hnew, hserves.key]
      exact List.mem_append_right _ (List.mem_singleton_self _)
  served := by
    rw [hvalues]
    intro i found hfound hfirst
    rcases first_concat hfound hfirst with ⟨hold, hindex⟩ | ⟨hlast, hseed, -⟩
    · rcases h.served i found hold hindex with ⟨other, hother, hothers⟩
      exact ⟨other, List.mem_append_left _ hother, hothers.mono (List.subset_cons_self _ _)⟩
    · rw [hlast, hseed]
      exact ⟨row, List.mem_append_right _ (List.mem_singleton_self row), hserves⟩

/-- The next block has a digest that no row has yet. -/
theorem fresh (h : Seeded readings source seeds backend issued) {count : Nat}
    (hdistinct : source.Distinct count) (hcount : backend.store.rows.values.length < count)
    {block : Block} (hblock : backend.entropy.draw.1 = .ok block) :
    ∀ row ∈ backend.store.rows.values, row.digest ≠ (Secret.ofBlock block).digest := by
  intro row hrow hdigest
  rcases h.drawn row hrow with ⟨i, hi, found, hfound, hother⟩
  rw [h.entropy] at hblock
  have hsame := hdistinct i _ found block (Nat.lt_trans hi hcount) hcount hfound hblock
    (hother.symm.trans hdigest)
  omega

/--
One more seed that does not end the seeding.  Either its owner and name are listed already,
or it draws the next block and adds a row.
-/
theorem attempt (h : Seeded readings source seeds backend issued) {count : Nat}
    (hdistinct : source.Distinct count) {seed : Seed}
    (hcount : seed.key ∉ seeds.map Seed.key → backend.store.rows.values.length < count)
    {expiresAt : Int} (hlifetime : hoursAfter (readings seeds.length) seed.hours = some expiresAt)
    {result : Option Secret}
    (hresult : Seed.outcome seed.name (seed.attempt expiresAt backend).1 = .ok result) :
    Seeded readings source (seeds ++ [seed]) (seed.attempt expiresAt backend).2
      (result.toList ++ issued) := by
  have hfree := h.sound.faultFree
  have hstore := h.sound.store
  cases hrefusal : Lifecycle.refusal? seed.owner seed.name none with
  | some refusal =>
    rw [Seed.attempt_of_refusal hrefusal, Seed.outcome_of_refusal hrefusal] at hresult
    cases hresult
  | none =>
    by_cases hkey : seed.key ∈ seeds.map Seed.key
    · rcases h.exists_row hkey with ⟨i, other, -, -, row, hrow, hrowKey, -⟩
      have hfound := hstore.findByOwnerAndName_eq_some_iff.mpr ⟨hrow, hrowKey⟩
      have hskipped : seed.attempt expiresAt backend = (.error (.duplicate seed.name), backend) :=
        Seed.attempt_eq (ServiceCall.eval_issue_of_found hfree hrefusal hfound)
      rw [hskipped] at hresult ⊢
      cases hresult
      exact h.skip hkey
    · have habsent : backend.store.findByOwnerAndName seed.owner seed.name = none := by
        apply hstore.findByOwnerAndName_eq_none_iff.mpr
        intro row hrow hrowKey
        apply hkey
        have hlisted := h.listed row hrow
        rwa [hrowKey] at hlisted
      cases hblock : backend.entropy.draw.1 with
      | error reason =>
        have hfailed : (seed.attempt expiresAt backend).1 = .error (.entropy reason) := by
          have hcall : (seed.call expiresAt).procedure.eval Backend.answer backend = _ :=
            ServiceCall.eval_issue hfree hrefusal habsent
          rw [hblock] at hcall
          rw [Seed.attempt_eq hcall]
        rw [hfailed] at hresult
        cases hresult
      | ok block =>
        have hfresh := h.fresh hdistinct (hcount hkey) hblock
        rcases ServiceCall.eval_issue_of_free hfree hstore hrefusal habsent hblock hfresh
          expiresAt with ⟨hconflicts, hcall⟩
        have hsound := h.sound.eval (seed.call expiresAt).procedure
        have hinserted := hstore.inserted_add hconflicts backend.creationTime
        rw [Seed.call, hcall] at hsound
        rw [Seed.attempt_eq hcall] at hresult ⊢
        cases hresult
        refine h.add hblock hsound rfl hinserted.values ⟨rfl, ?_, block, ?_, rfl⟩ rfl
        · exact hoursAfter_eq_some hlifetime
        · exact List.mem_cons_self

/-- As long as a seed of a new owner and name is to come, there are fewer rows than such. -/
theorem length_lt (h : Seeded readings source seeds backend issued) {seed : Seed}
    (hkey : seed.key ∉ seeds.map Seed.key) (rest : List Seed) :
    backend.store.rows.values.length <
      ((seeds ++ seed :: rest).map Seed.key).dedup.length := by
  have hlisted : backend.store.rows.values.map Token.key ⊆ seeds.map Seed.key := by
    intro key hmem
    rcases List.mem_map.mp hmem with ⟨row, hrow, rfl⟩
    exact h.listed row hrow
  have hnodup : (seed.key :: backend.store.rows.values.map Token.key).Nodup :=
    List.nodup_cons.mpr ⟨fun hmem => hkey (hlisted hmem), h.sound.store.keys_nodup⟩
  have hsubset : seed.key :: backend.store.rows.values.map Token.key ⊆
      ((seeds ++ seed :: rest).map Seed.key).dedup := by
    intro key hmem
    rw [List.mem_dedup, List.map_append, List.map_cons]
    rcases List.mem_cons.mp hmem with rfl | hold
    · exact List.mem_append_right _ List.mem_cons_self
    · exact List.mem_append_left _ (hlisted hold)
  have hlength := (List.subperm_of_subset hnodup hsubset).length_le
  rwa [List.length_cons, List.length_map] at hlength

/-- Seeding that does not fail leaves a row for the first seed of each owner and name. -/
theorem issueFrom (h : Seeded readings source seeds backend issued) {rest : List Seed}
    (hdistinct : source.Distinct ((seeds ++ rest).map Seed.key).dedup.length)
    {secrets : List Secret} {ticking : Ticking}
    (heval : (Seed.issueFrom issued rest).eval (Ticking.answer readings)
      ⟨backend, seeds.length⟩ = (.ok secrets, ticking)) :
    Seeded readings source (seeds ++ rest) ticking.backend secrets.reverse := by
  induction rest generalizing seeds backend issued with
  | nil =>
    cases heval
    rw [List.append_nil, List.reverse_reverse]
    exact h
  | cons seed rest ih =>
    rw [Seed.eval_issueFrom_cons, Seed.eval_issue] at heval
    cases hlifetime : hoursAfter (readings seeds.length) seed.hours with
    | none =>
      simp only [hlifetime] at heval
      cases heval
    | some expiresAt =>
      simp only [hlifetime] at heval
      cases hresult : Seed.outcome seed.name (seed.attempt expiresAt
          { backend with clock := readings seeds.length }).1 with
      | error cause =>
        simp only [hresult] at heval
        cases heval
      | ok result =>
        simp only [hresult] at heval
        have hready := h.setClock (readings seeds.length)
        have hnext := hready.attempt hdistinct (fun hkey => hready.length_lt hkey rest)
          hlifetime hresult
        have hlength : (seeds ++ [seed]).length = seeds.length + 1 := List.length_append
        have hall : seeds ++ seed :: rest = (seeds ++ [seed]) ++ rest := by
          rw [List.append_assoc, List.singleton_append]
        rw [hall] at hdistinct ⊢
        rw [← hlength] at heval
        exact ih hnext hdistinct heval

end Seeded

/-! ## What the filter decides -/

/--
A token is decided upon by the last entry about its owner: it authenticates the owner when
this entry lets it sign in, and is denied when it does not, or when there is none.
-/
structure DecidedBy (people : List (List Char)) (row : Token) (outcome : Option Outcome) :
    Prop where
  authenticated : (∃ bearer, outcome = some (.authenticated bearer) ∧
      bearer.user.id = row.owner ∧ bearer.tokenId = row.id ∧ bearer.tokenName = row.name) ↔
    ∃ entry, Entries.lastAbout? row.owner people = some entry ∧ ¬ Entries.Disabled entry
  disabled : outcome = some (.denied .disabledUser) ↔
    ∃ entry, Entries.lastAbout? row.owner people = some entry ∧ Entries.Disabled entry
  unknown : outcome = some (.denied (.directory (.unknownUser row.owner))) ↔
    Entries.lastAbout? row.owner people = none

section

variable {people : List (List Char)} {row : Token} {entry : List Char}

/-- A token whose owner no entry is about is denied. -/
theorem decidedBy_unknown (h : Entries.lastAbout? row.owner people = none) :
    DecidedBy people row (some (.denied (.directory (.unknownUser row.owner)))) where
  authenticated := by simp [h]
  disabled := by simp [h]
  unknown := by simp [h]

/-- A token whose owner may not sign in is denied. -/
theorem decidedBy_disabled (h : Entries.lastAbout? row.owner people = some entry)
    (hdisabled : Entries.Disabled entry) :
    DecidedBy people row (some (.denied .disabledUser)) where
  authenticated := by simp [h, hdisabled]
  disabled := by simp [h, hdisabled]
  unknown := by simp [h]

/-- A token whose owner may sign in authenticates it. -/
theorem decidedBy_enabled (h : Entries.lastAbout? row.owner people = some entry)
    (henabled : ¬ Entries.Disabled entry) {user : User} (howner : user.id = row.owner) :
    DecidedBy people row (some (.authenticated ⟨user, row.id, row.name⟩)) where
  authenticated := by simp [h, henabled, howner]
  disabled := by simp [h, henabled]
  unknown := by simp [h]

/-- The check of an owner goes by the last entry about it. -/
theorem decidedBy_checkOwner {users : List User}
    (hpeople : people.map Entries.user? = users.map some) (row : Token) :
    DecidedBy people row
      (some (Filter.outcome (some (Filter.checkOwner row
        ((UserDirectory.ofList users).load row.owner))))) := by
  have hget := Entries.get?_ofList hpeople row.owner
  have hlast := Entries.map_lastAbout? hpeople row.owner
  unfold UserDirectory.load
  cases hentry : Entries.lastAbout? row.owner people with
  | none =>
    rw [hentry, Option.bind_none] at hget
    rw [hget]
    exact decidedBy_unknown hentry
  | some entry =>
    rw [hentry] at hlast hget
    rcases Option.map_eq_some_iff.mp hlast.symm with ⟨user, -, huser⟩
    rw [Option.bind_some, ← huser] at hget
    have howner := UserDirectory.keyed_ofList users row.owner user hget
    have hdisabled := Entries.enabled_eq_false_iff huser.symm
    rw [hget]
    cases hsigns : user.enabled with
    | false =>
      have hdenied : Filter.checkOwner row (.ok user) = .error .disabledUser := by
        simp [Filter.checkOwner, hsigns]
      rw [hdenied]
      exact decidedBy_disabled hentry (hdisabled.mp hsigns)
    | true =>
      have hadmitted : Filter.checkOwner row (.ok user) =
          .ok (some ⟨user, row.id, row.name⟩) := by
        simp [Filter.checkOwner, hsigns]
      have henabled : ¬ Entries.Disabled entry := by
        intro hentryDisabled
        rw [hdisabled.mpr hentryDisabled] at hsigns
        cases hsigns
      rw [hadmitted]
      exact decidedBy_enabled hentry henabled howner

/-- The credential of an unexpired row is decided upon by the last entry about its owner. -/
theorem decidedBy_authenticate {filter : Filter} {backend : Backend} (h : backend.Sound)
    (henabled : filter.enabled = true) {users : List User}
    (hpeople : people.map Entries.user? = users.map some)
    (hdirectory : backend.directory = .ofList users)
    (hrow : row ∈ backend.store.rows.values) (hunexpired : backend.clock ≤ row.expiresAt)
    {value : List UInt8} {secret : Secret} (hvalue : BearerCredential value secret.text)
    (hdigest : row.digest = secret.digest) (rest : List (List UInt8)) (allowance : Option Nat) :
    DecidedBy people row
      (filter.authenticate Backend.environment (value :: rest) allowance backend).result := by
  have hprompt := Filter.authenticate_prompt h.faultFree filter (value :: rest)
  rw [hprompt.result allowance, Filter.decision_of_credential henabled hvalue,
    Filter.check_of_mem h.store hrow hdigest, if_neg (Int.not_lt.mpr hunexpired), hdirectory]
  exact decidedBy_checkOwner hpeople row

end

/-- With the filter switched off, nothing is decided about a credential. -/
theorem Filter.authenticate_of_disabled {filter : Filter} {backend : Backend}
    (h : backend.FaultFree) (hdisabled : filter.enabled = false) (values : List (List UInt8))
    (allowance : Option Nat) :
    (filter.authenticate Backend.environment values allowance backend).result =
      some (.passThrough .disabled) := by
  have hprompt := Filter.authenticate_prompt h filter values
  rw [hprompt.result allowance, Filter.decision, hdisabled]
  rfl

/-! ## The start -/

namespace Settings

variable {settings : Settings} {users : List User} {readings : Nat → Int}
  {entropy : EntropySource} {started : Started}

/-- A service that has started has the rows of its seeds and the directory of its users. -/
theorem seeded_of_startAt (hmemory : settings.store = .memory users)
    (hstart : settings.startAt readings entropy = .ok started)
    (hdistinct : entropy.Distinct (settings.seeds.map Seed.key).dedup.length) :
    Seeded readings entropy settings.seeds started.backend started.secrets.reverse ∧
      started.backend.directory = .ofList users ∧ started.service = settings.service := by
  unfold startAt at hstart
  simp only [hmemory] at hstart
  let fresh : Backend := { Backend.ofUsers users (readings 0) with entropy := entropy }
  have hsound : fresh.Sound := ⟨⟨rfl, rfl, rfl⟩, .empty, UserDirectory.keyed_ofList users⟩
  have hnone : Seeded readings entropy [] fresh [] := Seeded.nil hsound rfl
  have hdirectory := Seed.directory_issueFrom readings [] settings.seeds ⟨fresh, 0⟩
  split at hstart
  · cases hstart
  · next secrets ticking heval =>
    cases hstart
    rw [Seed.issueAll] at heval
    rw [heval] at hdirectory
    exact ⟨hnone.issueFrom hdistinct heval, hdirectory, rfl⟩

/--
Let the settings be read from variables, and let the service have started on a store in
memory, with random blocks whose secrets have different digests.  Then each owner and name
that the list of tokens names has exactly one row, that of the first entry about them, which
expires the hours of this entry after the clock was read for it; and no other rows are there.
The secret of the row was handed out at the start.  Presented until the row expires, it
passes unread when the filter is switched off, and is decided upon by the last entry about
the owner in the list of users otherwise.
-/
theorem bootstrap {vars : Variables} (hread : read vars = .ok settings)
    (hmemory : settings.store = .memory users)
    (hstart : settings.startAt readings entropy = .ok started)
    (hdistinct : entropy.Distinct (vars.tokenEntries.filterMap Entries.key?).dedup.length) :
    let rows := started.backend.store.rows.values
    (∀ row ∈ rows, ∃ entry ∈ vars.tokenEntries, Entries.key? entry = some row.key) ∧
      ∀ key, (∃ entry ∈ vars.tokenEntries, Entries.key? entry = some key) →
        ∃ i seed row secret,
          vars.tokenEntries.findIdx? (fun entry => Entries.key? entry = some key) = some i ∧
          vars.tokenEntries[i]?.bind Entries.seed? = some seed ∧
          rows.filter (fun row => row.key = key) = [row] ∧
          row.expiresAt = readings i + 3600000 * seed.hours ∧
          secret ∈ started.secrets ∧ row.digest = secret.digest ∧
          BearerCredential secret.credential secret.text ∧
          ∀ now ≤ row.expiresAt, ∀ value rest allowance, BearerCredential value secret.text →
            let outcome := (started.service.filter.authenticate Backend.environment
              (value :: rest) allowance { started.backend with clock := now }).result
            if (vars.get? "AUTH_ENABLED").bind readSwitch = some false then
              outcome = some (.passThrough .disabled)
            else DecidedBy vars.userEntries row outcome := by
  intro rows
  have hreads := read_eq_ok_iff.mp hread
  have hseeds := hreads.map_seed?
  have hpeople := hreads.map_user? hmemory
  have hkeys := Entries.filterMap_key? hseeds
  rw [hkeys] at hdistinct
  rcases seeded_of_startAt hmemory hstart hdistinct with ⟨hseeded, hdirectory, hservice⟩
  constructor
  · intro row hrow
    have hlisted := hseeded.listed row hrow
    rw [← hkeys] at hlisted
    exact List.mem_filterMap.mp hlisted
  · intro key hentry
    have hlisted : key ∈ settings.seeds.map Seed.key := by
      rw [← hkeys]
      exact List.mem_filterMap.mpr hentry
    rcases hseeded.exists_row hlisted with ⟨i, seed, hfirst, hseed, row, hrow, rfl, hserves⟩
    rcases hserves.secret with ⟨block, hissued, hdigest⟩
    have hsecret : Secret.ofBlock block ∈ started.secrets := List.mem_reverse.mp hissued
    refine ⟨i, seed, row, .ofBlock block, ?_, ?_, ?_, hserves.expiresAt, hsecret, hdigest,
      bearerCredential_ofBlock block, ?_⟩
    · rw [Entries.findIdx?_key? hseeds]
      exact hfirst
    · rw [Entries.getElem?_bind_seed? hseeds]
      exact hseed
    · exact hseeded.sound.store.filter_key_eq hrow
    · intro now hnow value rest allowance hvalue outcome
      have hsound := hseeded.sound.setClock now
      have hswitch := hreads.authEnabled_eq_false_iff
      split
      · next hoff =>
        have hdisabled : started.service.filter.enabled = false := by
          rw [hservice]
          exact hswitch.mpr hoff
        exact Filter.authenticate_of_disabled hsound.faultFree hdisabled (value :: rest) allowance
      · next hon =>
        have henabled : started.service.filter.enabled = true := by
          rw [hservice]
          exact eq_true_of_ne_false fun hoff => hon (hswitch.mp hoff)
        exact decidedBy_authenticate hsound henabled hpeople hdirectory hrow hnow hvalue hdigest
          rest allowance

/-- Variables with several entries about a token and about each of two users. -/
def repeatedVariables : Variables :=
  .ofList [("TOKEN_STORE", Ascii.bytes "memory"),
    ("DEV_USERS", Ascii.bytes "7:alice, 8:bob:disabled, 7:alice:disabled, 8:bob"),
    ("DEV_TOKENS", Ascii.bytes "8:ci:2, 7:ci:1, 8:ci:5, 9:ci:1")]

/-- The users of the variables. -/
def repeatedUsers : List User :=
  [.ordinary 7 "alice" true, .ordinary 8 "bob" false, .ordinary 7 "alice" false,
    .ordinary 8 "bob" true]

/-- The settings that the variables are read as. -/
def repeatedSettings : Settings where
  port := 3000
  production := false
  store := .memory repeatedUsers
  authEnabled := true
  lookupTimeout := 2000
  requestTimeout := 30
  seeds := [⟨8, "ci", 2⟩, ⟨7, "ci", 1⟩, ⟨8, "ci", 5⟩, ⟨9, "ci", 1⟩]

/-- Of the repeated entries, the first about the token and the last about its owner count. -/
theorem bootstrap_repeatedVariables :
    ∃ started, repeatedSettings.startAt (fun n => 1000 * n) .empty = .ok started ∧
      ∃ row secret,
        started.backend.store.rows.values.filter (fun row => row.key = (8, "ci")) = [row] ∧
        row.expiresAt = 7200000 ∧ secret ∈ started.secrets ∧
        ∃ bearer, (started.service.filter.authenticate Backend.environment [secret.credential]
            none { started.backend with clock := 7200000 }).result =
              some (.authenticated bearer) ∧ bearer.user.id = 8 := by
  have hread : read repeatedVariables = .ok repeatedSettings := by decide +kernel
  have hdistinct : EntropySource.empty.Distinct
      (repeatedVariables.tokenEntries.filterMap Entries.key?).dedup.length :=
    EntropySource.distinct_of_nodup (by decide +kernel)
  have hstarts : (repeatedSettings.startAt (fun n => 1000 * n) .empty).isOk := by decide +kernel
  cases hstart : repeatedSettings.startAt (fun n => 1000 * n) .empty with
  | error cause =>
    rw [hstart] at hstarts
    cases hstarts
  | ok started =>
    rcases (bootstrap hread rfl hstart hdistinct).2 (8, "ci")
      ⟨"8:ci:2".toList, by decide +kernel, by decide +kernel⟩ with
      ⟨i, seed, row, secret, hfirst, hseed, honly, hexpires, hsecret, -, hcredential, hdecided⟩
    have hindex : repeatedVariables.tokenEntries.findIdx?
        (fun entry => Entries.key? entry = some (8, "ci")) = some 0 := by decide +kernel
    have hentry : repeatedVariables.tokenEntries[0]?.bind Entries.seed? = some ⟨8, "ci", 2⟩ := by
      decide +kernel
    rw [hindex, Option.some.injEq] at hfirst
    subst hfirst
    rw [hentry, Option.some.injEq] at hseed
    subst hseed
    have hkey : row.key = (8, "ci") := by
      have hmem : row ∈ [row] := List.mem_singleton_self row
      rw [← honly] at hmem
      simpa using (List.mem_filter.mp hmem).2
    have howner : row.owner = 8 := congrArg Prod.fst hkey
    have hexpiry : row.expiresAt = 7200000 := hexpires
    have hdecision := hdecided 7200000 (Int.le_of_eq hexpiry.symm) secret.credential [] none
      hcredential
    rw [if_neg (by decide +kernel)] at hdecision
    have hlast : Entries.lastAbout? row.owner repeatedVariables.userEntries =
        some "8:bob".toList := by
      rw [howner]
      decide +kernel
    have henabled : ¬ Entries.Disabled "8:bob".toList := by
      unfold Entries.Disabled
      decide +kernel
    rcases hdecision.authenticated.mpr ⟨_, hlast, henabled⟩ with ⟨bearer, hbearer, hid, -, -⟩
    exact ⟨started, rfl, row, secret, honly, hexpiry, hsecret, bearer, hbearer,
      hid.trans howner⟩

end Settings
end BearerTokens
