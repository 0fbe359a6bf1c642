import BearerTokens.Secret.Basic

/-!
# A reproducible source of random blocks

Blocks can be queued, a queued failure among them.  When nothing is queued,
blocks come from a fixed sequence: the multiples of an odd constant modulo
{lit}`2 ^ 128`, in which no block repeats before all have come.
-/

namespace BearerTokens

/-- A source of random blocks. -/
structure EntropySource where
  /-- Blocks and failures to be given first. -/
  queue : List (Option Block)
  /-- The number of blocks given of the sequence. -/
  drawn : Nat
  deriving DecidableEq, Repr

namespace EntropySource

/-- The source with nothing queued. -/
def empty : EntropySource := ⟨[], 0⟩

/-- The text of a failure. -/
def failure : String := "getrandom: this target is not supported"

/-- The constant whose multiples make up the sequence. -/
def increment : Nat := 0x9E3779B97F4A7C15F39CC0605CEDC835

/-- The block of a number, the most significant byte first. -/
def blockOf (n : Nat) : Block where
  bytes := Sha256.bigEndian 16 n
  length_bytes := by simp [Sha256.bigEndian]

/-- Queue more blocks and failures. -/
def push (source : EntropySource) (blocks : List (Option Block)) : EntropySource :=
  { source with queue := source.queue ++ blocks }

/-- Draw a block. -/
def draw (source : EntropySource) : Except String Block × EntropySource :=
  match source.queue with
  | some block :: rest => (.ok block, { source with queue := rest })
  | none :: rest => (.error failure, { source with queue := rest })
  | [] =>
    let drawn := source.drawn + 1
    (.ok (blockOf (increment * drawn)), { source with drawn := drawn })

end EntropySource
end BearerTokens
