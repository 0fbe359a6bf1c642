import BearerTokens.Secret.Sha256
import BearerTokens.Text.Hex
import BearerTokens.Text.Utf8

/-!
# Secrets

A secret is drawn as a block of sixteen random bytes and handed out once, as 32
hexadecimal digits with upper-case letters.  The service keeps only its digest,
the SHA-256 of the text.  Diagnostics show nothing of a secret.

Main results:

- Theorem {lit}`length_ofBlock`: a secret has 32 characters.
- Theorem {lit}`ofBlock_injective`: different blocks give different secrets.
-/

namespace BearerTokens

/-- Sixteen random bytes. -/
structure Block where
  bytes : List UInt8
  length_bytes : bytes.length = 16
  deriving DecidableEq, Repr

/-- The digest of a secret. -/
abbrev Digest := List UInt8

/-- The text that authenticates its bearer. -/
structure Secret where
  text : String
  deriving DecidableEq, Repr

namespace Secret

/-- The secret of a block: its bytes in upper-case hexadecimal digits. -/
def ofBlock (block : Block) : Secret :=
  ⟨String.ofList (Hex.encode .upper block.bytes)⟩

/-- The digest under which a secret with the given text is stored. -/
def digestOf (text : String) : Digest :=
  Sha256.digest (Utf8.encode text)

/-- The digest under which a secret is stored. -/
def digest (secret : Secret) : Digest :=
  digestOf secret.text

/-- What diagnostics show of a secret. -/
def redacted : String :=
  "TokenSecret(**redacted**)"

/-- A secret has 32 characters. -/
theorem length_ofBlock (block : Block) : (ofBlock block).text.toList.length = 32 := by
  simp [ofBlock, Hex.length_encode, block.length_bytes]

/-- A secret is written in digits and upper-case letters up to F. -/
theorem mem_digits_ofBlock {block : Block} {c : Char} (h : c ∈ (ofBlock block).text.toList) :
    c ∈ Hex.Letters.upper.digits := by
  rw [ofBlock, String.toList_ofList] at h
  exact Hex.mem_digits_of_mem_encode h

/-- Different blocks give different secrets. -/
theorem ofBlock_injective {b c : Block} (h : ofBlock b = ofBlock c) : b = c := by
  have ht : Hex.encode .upper b.bytes = Hex.encode .upper c.bytes := by
    have := congrArg (fun s => s.text.toList) h
    simpa [ofBlock] using this
  have hb := congrArg Hex.decode? ht
  simp only [Hex.decode?_encode, Option.some.injEq] at hb
  cases b
  cases c
  simpa using hb

end Secret
end BearerTokens
