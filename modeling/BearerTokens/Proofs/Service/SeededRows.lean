import BearerTokens.Proofs.Lifecycle.Conduct
import BearerTokens.Proofs.Service.Seeding
import BearerTokens.Proofs.Settings.Reading

/-!
# The rows that seeding adds

Seeding at a time goes through its seeds in order.  Each is one of three: it fits and its
owner and name have a row, so that it is skipped; it fits and they have none, so that a row
is added; or it does not fit, so that the seeding ends.  So the rows that are added are those
of the first seed of each new owner and name, up to the first seed that does not fit.

Main results:

- Definition {lit}`Seed.Fits`: the seeds that do not end the seeding.
- Definition {lit}`Seed.novel`: the first seed of each new owner and name.
- Theorems {lit}`Seed.issue_of_taken`, {lit}`Seed.issue_of_free` and
  {lit}`Seed.issue_of_unfit`: what one seed comes to.
- Theorem {lit}`Seed.issueFrom_of_fits`: what seeds that fit come to.
- Theorem {lit}`Seed.seeding_outcome`: what any seeds come to, and what they come to again.
-/

namespace BearerTokens

/-! ## Random blocks in order -/

/-- The next blocks of a source, one after another. -/
def EntropySource.Gives (source : EntropySource) : List Block → Prop
  | [] => True
  | block :: blocks => source.draw.1 = .ok block ∧ source.draw.2.Gives blocks

/-- The next blocks make secrets with digests that are different, and that no row has. -/
structure Backend.Supplies (backend : Backend) (blocks : List Block) : Prop where
  gives : backend.entropy.Gives blocks
  distinct : (blocks.map fun block => (Secret.ofBlock block).digest).Nodup
  fresh : ∀ row ∈ backend.store.rows.values, ∀ block ∈ blocks,
    row.digest ≠ (Secret.ofBlock block).digest

/-- After a block has become a row, the blocks after it are as they should be. -/
theorem Backend.Supplies.tail {backend after : Backend} {block : Block} {blocks : List Block}
    (h : backend.Supplies (block :: blocks)) (hentropy : after.entropy = backend.entropy.draw.2)
    {row : Token} (hrows : after.store.rows.values = backend.store.rows.values ++ [row])
    (hdigest : row.digest = (Secret.ofBlock block).digest) : after.Supplies blocks where
  gives := by
    rw [hentropy]
    exact h.gives.2
  distinct := (List.nodup_cons.mp h.distinct).2
  fresh := by
    rw [hrows]
    intro other hother next hnext
    rcases List.mem_append.mp hother with hold | hnew
    · exact h.fresh other hold next (List.mem_cons_of_mem block hnext)
    · rw [List.mem_singleton.mp hnew, hdigest]
      intro hsame
      apply (List.nodup_cons.mp h.distinct).1
      exact List.mem_map.mpr ⟨next, hnext, hsame.symm⟩

namespace Seed

variable {backend after : Backend} {seed : Seed} {seeds rest : List Seed} {blocks : List Block}
  {taken : List (Int × String)}

/-! ## Seeds and their rows -/

/-- Whether a seed does not end the seeding at a time. -/
structure Fits (now : Int) (seed : Seed) : Prop where
  lifetime : (hoursAfter now seed.hours).isSome
  owner : 0 < seed.owner
  name : seed.name.length ≤ 255

instance (now : Int) (seed : Seed) : Decidable (seed.Fits now) :=
  decidable_of_iff
    ((hoursAfter now seed.hours).isSome ∧ 0 < seed.owner ∧ seed.name.length ≤ 255)
    ⟨fun h => ⟨h.1, h.2.1, h.2.2⟩, fun h => ⟨h.lifetime, h.owner, h.name⟩⟩

/-- Of the seeds whose owner and name are not taken, the first of each owner and name. -/
def novel (taken : List (Int × String)) (seeds : List Seed) : List Seed :=
  (seeds.filter fun seed => seed.key ∉ taken).eraseDupsBy fun other seed => other.key == seed.key

/-- The token of a seed at a time, with the secret of a block. -/
def token (now : Int) (seed : Seed) (block : Block) : NewToken :=
  ⟨seed.owner, seed.name, none, (Secret.ofBlock block).digest, now + 3600000 * seed.hours⟩

/-- The rows of seeds in order, with a block for each, from a number on. -/
def rows (first : Int) (createdAt : Timestamp) (now : Int) (seeds : List Seed)
    (blocks : List Block) : List Token :=
  (seeds.zip blocks).mapIdx fun i entry =>
    .ofNew (first + i) createdAt (entry.1.token now entry.2)

/-- The first row is that of the first seed. -/
theorem rows_cons (first : Int) (createdAt : Timestamp) (now : Int) (seed : Seed)
    (seeds : List Seed) (block : Block) (blocks : List Block) :
    rows first createdAt now (seed :: seeds) (block :: blocks) =
      .ofNew first createdAt (seed.token now block) ::
        rows (first + 1) createdAt now seeds blocks := by
  have hfirst : first + (0 : Nat) = first := by omega
  have hnext : ∀ i : Nat, first + (i + 1 : Nat) = first + 1 + i := by
    intro i
    omega
  simp only [rows, List.zip_cons_cons, List.mapIdx_cons, hfirst, hnext]

/-- A seed of a taken owner and name is not new. -/
theorem novel_of_taken (h : seed.key ∈ taken) (rest : List Seed) :
    novel taken (seed :: rest) = novel taken rest := by
  simp [novel, h]

/-- A seed of a free owner and name is new, and takes them. -/
theorem novel_of_free (h : seed.key ∉ taken) (rest : List Seed) :
    novel taken (seed :: rest) = seed :: novel (taken ++ [seed.key]) rest := by
  simp only [novel, List.filter_cons, h, not_false_eq_true, decide_true, if_true,
    List.eraseDupsBy_cons, List.filter_filter]
  congr 3
  funext other
  simp [Bool.and_comm]

/-- The new seeds of the first seeds are the first of all new seeds. -/
theorem novel_prefix (taken : List (Int × String)) (seeds rest : List Seed) :
    novel taken seeds <+: novel taken (seeds ++ rest) := by
  induction seeds generalizing taken with
  | nil => exact List.nil_prefix
  | cons seed seeds ih =>
    rw [List.cons_append]
    by_cases hkey : seed.key ∈ taken
    · rw [novel_of_taken hkey, novel_of_taken hkey]
      exact ih taken
    · rw [novel_of_free hkey, novel_of_free hkey]
      exact (List.prefix_cons_inj seed).mpr (ih _)

/-! ## One seed -/

/-- The error that a seed that does not fit at a time ends the seeding with. -/
def Offends (now : Int) (seed : Seed) : SeedError → Prop
  | .lifetimeTooLarge name => name = seed.name ∧ hoursAfter now seed.hours = none
  | .refused name cause =>
    name = seed.name ∧ (hoursAfter now seed.hours).isSome ∧
      ∃ field reason, Lifecycle.FirstBroken seed.owner seed.name none field ∧
        cause = .validation field reason

/-- The issue of a seed reads the clock and attempts the call. -/
theorem eval_issue_at (seed : Seed) (backend : Backend) :
    seed.issue.eval Backend.answer backend =
      match hoursAfter backend.clock seed.hours with
      | none => (.error (.lifetimeTooLarge seed.name), backend)
      | some expiresAt =>
        let tried := seed.attempt expiresAt backend
        (outcome seed.name tried.1, tried.2) := by
  simp only [issue, Procedure.eval_ask, Backend.answer]
  cases hoursAfter backend.clock seed.hours with
  | none => rfl
  | some expiresAt => simp only [Procedure.eval_map, attempt]

/-- A seed that fits breaks no rule, and has an exact expiry. -/
theorem Fits.spec (h : seed.Fits backend.clock) :
    Lifecycle.refusal? seed.owner seed.name none = none ∧
      hoursAfter backend.clock seed.hours = some (backend.clock + 3600000 * seed.hours) := by
  constructor
  · exact Lifecycle.refusal?_eq_none_iff.mpr ⟨h.owner, h.name, by simp⟩
  · obtain ⟨expiresAt, hexpires⟩ := Option.isSome_iff_exists.mp h.lifetime
    rw [hexpires, hoursAfter_eq_some hexpires, millisPerHour]

/-- A seed that fits is skipped if its owner and name have a row. -/
theorem issue_of_taken (h : backend.FaultFree) (hstore : backend.store.Reachable)
    (hfits : seed.Fits backend.clock)
    (htaken : seed.key ∈ backend.store.rows.values.map Token.key) :
    seed.issue.eval Backend.answer backend = (.ok none, backend) := by
  obtain ⟨hrefusal, hexpires⟩ := hfits.spec
  obtain ⟨row, hrow, hkey⟩ := List.mem_map.mp htaken
  have hfound := hstore.findByOwnerAndName_eq_some_iff.mpr ⟨hrow, hkey⟩
  rw [eval_issue_at, hexpires]
  simp only [attempt_eq (ServiceCall.eval_issue_of_found h hrefusal hfound), outcome]

/-- A seed that fits adds a row with the next block if its owner and name have none. -/
theorem issue_of_free (h : backend.FaultFree) (hstore : backend.store.Reachable)
    (hfits : seed.Fits backend.clock)
    (hfree : seed.key ∉ backend.store.rows.values.map Token.key) {block : Block}
    (hblocks : backend.Supplies (block :: blocks)) :
    ∃ between,
      seed.issue.eval Backend.answer backend = (.ok (some (.ofBlock block)), between) ∧
        between.FaultFree ∧ between.store.Reachable ∧ between.clock = backend.clock ∧
        between.Supplies blocks ∧
        backend.store.Inserted between.store (.ofNew (backend.store.lastId + 1)
          backend.creationTime (seed.token backend.clock block)) := by
  obtain ⟨hrefusal, hexpires⟩ := hfits.spec
  have hunnamed : backend.store.findByOwnerAndName seed.owner seed.name = none := by
    refine hstore.findByOwnerAndName_eq_none_iff.mpr ?_
    intro row hrow hkey
    exact hfree (List.mem_map.mpr ⟨row, hrow, hkey⟩)
  have hfresh : ∀ row ∈ backend.store.rows.values, row.digest ≠ (Secret.ofBlock block).digest :=
    fun row hrow => hblocks.fresh row hrow block List.mem_cons_self
  obtain ⟨hconflicts, hissued⟩ := ServiceCall.eval_issue_of_free h hstore hrefusal hunnamed
    hblocks.gives.1 hfresh (backend.clock + 3600000 * seed.hours)
  have hinserted := hstore.inserted_add hconflicts backend.creationTime
  have hissue := seed.eval_issue_at backend
  have hafter := h.eval seed.issue
  have hreachable := Procedure.eval_store_reachable seed.issue hstore
  rw [hexpires] at hissue
  simp only [attempt_eq hissued, outcome] at hissue
  rw [hissue] at hafter hreachable
  exact ⟨_, hissue, hafter, hreachable, rfl, hblocks.tail rfl hinserted.values rfl, hinserted⟩

/-- A seed that does not fit ends the seeding and changes nothing. -/
theorem issue_of_unfit (hunfit : ¬ seed.Fits backend.clock) :
    ∃ cause, seed.Offends backend.clock cause ∧
      seed.issue.eval Backend.answer backend = (.error cause, backend) := by
  rw [eval_issue_at]
  cases hexpires : hoursAfter backend.clock seed.hours with
  | none => exact ⟨.lifetimeTooLarge seed.name, ⟨rfl, hexpires⟩, rfl⟩
  | some expiresAt =>
    have hbroken : ∃ field, Lifecycle.FirstBroken seed.owner seed.name none field := by
      by_contra hkept
      have hrefusal := Lifecycle.refusal?_eq_none_of_kept (not_exists.mp hkept)
      obtain ⟨howner, hname, -⟩ := Lifecycle.refusal?_eq_none_iff.mp hrefusal
      exact hunfit ⟨by rw [hexpires]; rfl, howner, hname⟩
    obtain ⟨field, hfield⟩ := hbroken
    obtain ⟨reason, hrefusal⟩ := Lifecycle.exists_refusal_iff.mpr hfield
    refine ⟨.refused seed.name (.validation field reason), ⟨rfl, by rw [hexpires]; rfl, field,
      reason, hfield, rfl⟩, ?_⟩
    simp only [attempt_of_refusal hrefusal, outcome]

/-! ## Seeds in order -/

/-- What seeds that fit make of a backend. -/
structure Leaves (backend : Backend) (seeds : List Seed) (blocks : List Block) (after : Backend) :
    Prop where
  faultFree : after.FaultFree
  store : after.store.Reachable
  clock : after.clock = backend.clock
  values : after.store.rows.values = backend.store.rows.values ++
    rows (backend.store.lastId + 1) backend.creationTime backend.clock
      (novel (backend.store.rows.values.map Token.key) seeds) blocks
  held : ∀ seed ∈ seeds, seed.key ∈ after.store.rows.values.map Token.key

/-- A seed that is skipped makes nothing of a backend. -/
theorem Leaves.skip (h : Leaves backend seeds blocks after)
    (htaken : seed.key ∈ backend.store.rows.values.map Token.key) :
    Leaves backend (seed :: seeds) blocks after where
  faultFree := h.faultFree
  store := h.store
  clock := h.clock
  values := by
    rw [novel_of_taken htaken]
    exact h.values
  held := by
    intro other hother
    rcases List.mem_cons.mp hother with rfl | hrest
    · rw [h.values, List.map_append]
      exact List.mem_append_left _ htaken
    · exact h.held other hrest

/-- A seed that adds a row is the first of those that do. -/
theorem Leaves.add {between : Backend} (h : Leaves between seeds blocks after)
    (hfree : seed.key ∉ backend.store.rows.values.map Token.key) {block : Block}
    (hclock : between.clock = backend.clock)
    (hinserted : backend.store.Inserted between.store
      (.ofNew (backend.store.lastId + 1) backend.creationTime (seed.token backend.clock block))) :
    Leaves backend (seed :: seeds) (block :: blocks) after where
  faultFree := h.faultFree
  store := h.store
  clock := h.clock.trans hclock
  values := by
    have htime : between.creationTime = backend.creationTime := by
      rw [Backend.creationTime, Backend.creationTime, hclock]
    rw [h.values, hinserted.values, hinserted.lastId, htime, hclock, List.map_append,
      novel_of_free hfree, rows_cons, List.append_assoc]
    rfl
  held := by
    intro other hother
    rcases List.mem_cons.mp hother with rfl | hrest
    · rw [h.values, hinserted.values, List.map_append, List.map_append]
      refine List.mem_append_left _ (List.mem_append_right _ ?_)
      exact List.mem_singleton_self _
    · exact h.held other hrest

/-- Seeds that fit add a row for each that is new, and give the secrets of these rows. -/
theorem issueFrom_of_fits (h : backend.FaultFree) (hstore : backend.store.Reachable)
    (hfits : ∀ seed ∈ seeds, seed.Fits backend.clock) (hblocks : backend.Supplies blocks)
    (hcount : (novel (backend.store.rows.values.map Token.key) seeds).length ≤ blocks.length)
    (issued : List Secret) :
    let count := (novel (backend.store.rows.values.map Token.key) seeds).length
    ∃ after, Leaves backend seeds blocks after ∧
      (issueFrom issued seeds).eval Backend.answer backend =
        (.ok (issued.reverse ++ (blocks.take count).map Secret.ofBlock), after) := by
  induction seeds generalizing backend blocks issued with
  | nil =>
    refine ⟨backend, ⟨h, hstore, rfl, ?_, ?_⟩, ?_⟩
    · exact (List.append_nil _).symm
    · intro seed hseed
      cases hseed
    · simp [issueFrom, novel]
  | cons seed rest ih =>
    have hseed := hfits seed List.mem_cons_self
    have hrest : ∀ other ∈ rest, other.Fits backend.clock :=
      fun other hother => hfits other (List.mem_cons_of_mem seed hother)
    simp only [eval_issueFrom_cons]
    by_cases htaken : seed.key ∈ backend.store.rows.values.map Token.key
    · rw [novel_of_taken htaken] at hcount ⊢
      rw [issue_of_taken h hstore hseed htaken]
      obtain ⟨after, hleaves, heval⟩ := ih h hstore hrest hblocks hcount issued
      exact ⟨after, hleaves.skip htaken, heval⟩
    · rw [novel_of_free htaken] at hcount ⊢
      cases blocks with
      | nil => simp at hcount
      | cons block blocks =>
        obtain ⟨between, hissue, hfree, hbetween, hclock, hsupplies, hinserted⟩ :=
          issue_of_free h hstore hseed htaken hblocks
        have hkeys : between.store.rows.values.map Token.key =
            backend.store.rows.values.map Token.key ++ [seed.key] := by
          rw [hinserted.values, List.map_append]
          rfl
        rw [← hkeys] at hcount ⊢
        rw [← hclock] at hrest
        obtain ⟨after, hleaves, heval⟩ := ih hfree hbetween hrest hsupplies
          (Nat.le_of_succ_le_succ hcount) (.ofBlock block :: issued)
        refine ⟨after, hleaves.add htaken hclock hinserted, ?_⟩
        rw [hissue]
        simpa using heval

/-- Seeds that fit are all skipped if their owners and names all have rows. -/
theorem issueFrom_of_taken (h : backend.FaultFree) (hstore : backend.store.Reachable)
    (hfits : ∀ seed ∈ seeds, seed.Fits backend.clock)
    (htaken : ∀ seed ∈ seeds, seed.key ∈ backend.store.rows.values.map Token.key)
    (issued : List Secret) :
    (issueFrom issued seeds).eval Backend.answer backend = (.ok issued.reverse, backend) := by
  induction seeds with
  | nil => rfl
  | cons seed rest ih =>
    rw [eval_issueFrom_cons, issue_of_taken h hstore (hfits seed List.mem_cons_self)
      (htaken seed List.mem_cons_self)]
    exact ih (fun other hother => hfits other (List.mem_cons_of_mem seed hother))
      fun other hother => htaken other (List.mem_cons_of_mem seed hother)

/-- Seeding goes on with more seeds where it came to with the first. -/
theorem eval_issueFrom_append {σ : Type} {answer : σ → (c : Call) → c.Answer × σ}
    {issued secrets : List Secret} {s s' : σ}
    (h : (issueFrom issued seeds).eval answer s = (.ok secrets, s')) (rest : List Seed) :
    (issueFrom issued (seeds ++ rest)).eval answer s =
      (issueFrom secrets.reverse rest).eval answer s' := by
  induction seeds generalizing issued s with
  | nil =>
    cases h
    rw [List.nil_append, List.reverse_reverse]
  | cons seed seeds ih =>
    rw [eval_issueFrom_cons] at h
    rw [List.cons_append, eval_issueFrom_cons]
    cases hissue : seed.issue.eval answer s with
    | mk result between =>
      rw [hissue] at h
      cases result with
      | error cause => cases h
      | ok secret => exact ih h

/-- A seed that does not fit, after seeds that do, ends the seeding where these left it. -/
theorem issueAll_of_unfit (h : backend.FaultFree) (hstore : backend.store.Reachable)
    (hfits : ∀ seed ∈ seeds, seed.Fits backend.clock) (hblocks : backend.Supplies blocks)
    (hcount : (novel (backend.store.rows.values.map Token.key) seeds).length ≤ blocks.length)
    (hunfit : ¬ seed.Fits backend.clock) (rest : List Seed) :
    ∃ secrets after cause, (issueAll seeds).eval Backend.answer backend = (.ok secrets, after) ∧
      seed.Offends backend.clock cause ∧
      (issueAll (seeds ++ seed :: rest)).eval Backend.answer backend = (.error cause, after) := by
  obtain ⟨after, hleaves, heval⟩ := issueFrom_of_fits h hstore hfits hblocks hcount []
  rw [← hleaves.clock] at hunfit ⊢
  obtain ⟨cause, hoffends, hissue⟩ := issue_of_unfit hunfit
  refine ⟨_, after, cause, heval, hoffends, ?_⟩
  rw [issueAll, eval_issueFrom_append heval, eval_issueFrom_cons, hissue]

/-- Among seeds that do not all fit there is a first that does not. -/
theorem exists_first_unfit {now : Int} (h : ¬ ∀ seed ∈ seeds, seed.Fits now) :
    ∃ before seed rest, seeds = before ++ seed :: rest ∧
      (∀ other ∈ before, other.Fits now) ∧ ¬ seed.Fits now := by
  have hsome : (seeds.find? fun seed => ¬ seed.Fits now).isSome := by
    simpa using h
  obtain ⟨seed, hseed⟩ := Option.isSome_iff_exists.mp hsome
  obtain ⟨hunfit, before, rest, hseeds, hbefore⟩ := List.find?_eq_some_iff_append.mp hseed
  exact ⟨before, seed, rest, hseeds, by simpa using hbefore, by simpa using hunfit⟩

/--
Seeding at a fixed time, with blocks that make new and different secrets.  If all seeds fit,
one row is added for the first seed of each owner and name that has no row yet, in order, and
the secrets of these rows are given in this order; all earlier rows stay.  To seed again, at
any time at which the lifetimes fit, gives no secret and changes nothing.  If not all seeds
fit, the seeding ends with an error about the first that does not, and leaves what seeding
those before it would leave.
-/
theorem seeding_outcome (h : backend.FaultFree) (hstore : backend.store.Reachable)
    (hblocks : backend.Supplies blocks)
    (hcount : (novel (backend.store.rows.values.map Token.key) seeds).length ≤ blocks.length) :
    let run := fun (seeds : List Seed) (backend : Backend) =>
      (issueAll seeds).eval Backend.answer backend
    let new := novel (backend.store.rows.values.map Token.key) seeds
    let after := (run seeds backend).2
    ((∀ seed ∈ seeds, seed.Fits backend.clock) →
      (run seeds backend).1 = .ok ((blocks.take new.length).map Secret.ofBlock) ∧
      after.store.Reachable ∧
      after.store.rows.values = backend.store.rows.values ++
        rows (backend.store.lastId + 1) backend.creationTime backend.clock new blocks ∧
      ∀ later, (∀ seed ∈ seeds, (hoursAfter later seed.hours).isSome) →
        run seeds { after with clock := later } = (.ok [], { after with clock := later })) ∧
    ((¬ ∀ seed ∈ seeds, seed.Fits backend.clock) →
      ∃ before seed rest secrets cause, seeds = before ++ seed :: rest ∧
        (∀ other ∈ before, other.Fits backend.clock) ∧ ¬ seed.Fits backend.clock ∧
        seed.Offends backend.clock cause ∧
        (run before backend).1 = .ok secrets ∧
        run seeds backend = (.error cause, (run before backend).2)) := by
  intro run new after
  constructor
  · intro hfits
    obtain ⟨left, hleaves, heval⟩ := issueFrom_of_fits h hstore hfits hblocks hcount []
    have hrun : run seeds backend = _ := heval
    have hafter : after = left := congrArg Prod.snd hrun
    rw [hafter, hrun]
    refine ⟨rfl, hleaves.store, hleaves.values, ?_⟩
    intro later hlater
    let restarted : Backend := { left with clock := later }
    have hfree : restarted.FaultFree := ⟨hleaves.faultFree.storeOutage,
      hleaves.faultFree.directoryOutage, hleaves.faultFree.faults⟩
    have hstill : ∀ seed ∈ seeds, seed.Fits restarted.clock := by
      intro seed hseed
      exact ⟨hlater seed hseed, (hfits seed hseed).owner, (hfits seed hseed).name⟩
    exact issueFrom_of_taken hfree hleaves.store hstill hleaves.held []
  · intro hunfit
    obtain ⟨before, seed, rest, rfl, hbefore, hseed⟩ := exists_first_unfit hunfit
    have hprefix := novel_prefix (backend.store.rows.values.map Token.key) before (seed :: rest)
    have hfewer := Nat.le_trans hprefix.length_le hcount
    obtain ⟨secrets, left, cause, hfirst, hoffends, hall⟩ :=
      issueAll_of_unfit h hstore hbefore hblocks hfewer hseed rest
    have hrun : run before backend = _ := hfirst
    refine ⟨before, seed, rest, secrets, cause, rfl, hbefore, hseed, hoffends, ?_, ?_⟩
    · rw [hrun]
    · rw [hrun]
      exact hall

/-- Seeds of two names, both of them twice. -/
def repeatedSeeds : List Seed := [⟨7, "ci", 1⟩, ⟨7, "cd", 1⟩, ⟨7, "ci", 2⟩, ⟨7, "cd", 3⟩]

/-- A backend with a token of the first name. -/
def seededBackend : Backend :=
  ((issueAll [⟨7, "ci", 1⟩]).eval Backend.answer (.ofUsers [] 1000)).2

/-- Of these seeds one adds a row, and no more are added later. -/
theorem seeding_outcome_repeatedSeeds :
    let after := ((issueAll repeatedSeeds).eval Backend.answer seededBackend).2
    after.store.rows.values.map Token.key = [(7, "ci"), (7, "cd")] ∧
      ((issueAll repeatedSeeds).eval Backend.answer { after with clock := 5000 }).1 = .ok [] := by
  have hfree : seededBackend.FaultFree := ⟨rfl, rfl, rfl⟩
  have hstore : seededBackend.store.Reachable := Procedure.eval_store_reachable _ .empty
  let block := EntropySource.blockOf (EntropySource.increment * 2)
  have hblocks : seededBackend.Supplies [block] := by
    refine ⟨⟨by decide +kernel, trivial⟩, List.nodup_singleton _, by decide +kernel⟩
  have hfits : ∀ seed ∈ repeatedSeeds, seed.Fits seededBackend.clock := by decide +kernel
  have hcount : (novel (seededBackend.store.rows.values.map Token.key) repeatedSeeds).length ≤
      [block].length := by
    decide +kernel
  have hseeding := (seeding_outcome hfree hstore hblocks hcount).1 hfits
  dsimp only at hseeding ⊢
  obtain ⟨-, -, hvalues, hagain⟩ := hseeding
  constructor
  · rw [hvalues]
    decide +kernel
  · rw [hagain 5000 (by decide +kernel)]

end Seed
end BearerTokens
