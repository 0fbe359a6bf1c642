import BearerTokens.Text.Utf8

/-!
# Request targets

A target is a path with an optional query, the same after a scheme and an
authority, an authority alone, or an asterisk.  Only the path matters to the
service.  It is kept as it was sent: escapes are not decoded, and some
characters are accepted that a strict reader would want to be escaped.
-/

namespace BearerTokens
namespace Http

/-- The path of a target as it was sent. -/
abbrev Path := List Char

/-- The longest target in bytes. -/
def maxTargetLength : Nat := 65534

/-- Whether a number lies between two others. -/
def between (low high n : Nat) : Bool := low ≤ n && n ≤ high

/-- Whether a character may stand in a path; all but ASCII may. -/
def isPathChar (c : Char) : Bool :=
  let n := c.toNat
  n == 0x21 || n == 0x22 || between 0x24 0x3B n || n == 0x3D || between 0x40 0x5F n ||
    between 0x61 0x7E n || 0x80 ≤ n

/-- Whether a character may stand in a query; all but ASCII may. -/
def isQueryChar (c : Char) : Bool :=
  let n := c.toNat
  n == 0x21 || between 0x24 0x3B n || n == 0x3D || between 0x3F 0x7E n || 0x80 ≤ n

/-! ## Path and query -/

/-- The characters before a fragment. -/
def beforeFragment (cs : List Char) : List Char :=
  cs.takeWhile (· ≠ '#')

/-- The path of a path with an optional query and fragment; empty stands for the root. -/
def pathOf? (cs : List Char) : Option Path :=
  let relevant := beforeFragment cs
  let path := relevant.takeWhile (· ≠ '?')
  let query := (relevant.dropWhile (· ≠ '?')).drop 1
  if path.all isPathChar && query.all isQueryChar then
    some (if path.isEmpty then ['/'] else path)
  else none

/-! ## Scheme -/

/-- The longest scheme. -/
def maxSchemeLength : Nat := 64

/-- Whether a character may stand in a scheme. -/
def isSchemeChar (c : Char) : Bool :=
  c.isAlphanum || c == '+' || c == '-' || c == '.' || c == '~'

/-- How a target begins. -/
inductive SchemeSplit where
  | absent
  | tooLong
  /-- A scheme was read; authority, path and query are left. -/
  | found (rest : List Char)
  deriving DecidableEq, Repr

/-- Split off a scheme and the mark after it. -/
def splitScheme (cs : List Char) : SchemeSplit :=
  let scheme := cs.takeWhile isSchemeChar
  match cs.dropWhile isSchemeChar with
  | ':' :: '/' :: '/' :: rest =>
    if cs.length ≤ 3 then .absent
    else if maxSchemeLength < scheme.length then .tooLong
    else .found rest
  | _ => .absent

/-! ## Authority -/

/-- Whether a character, other than a percent sign, may stand in an authority. -/
def isAuthorityChar (c : Char) : Bool :=
  let n := c.toNat
  n == 0x21 || n == 0x24 || between 0x26 0x2E n || between 0x30 0x3B n || n == 0x3D ||
    between 0x40 0x5B n || n == 0x5D || n == 0x5F || between 0x61 0x7A n || n == 0x7E

/-- What has been seen of an authority. -/
structure AuthorityScan where
  colons : Nat
  opened : Bool
  closed : Bool
  percent : Bool
  /-- Whether the last character was the at sign. -/
  endsWithAt : Bool
  deriving DecidableEq, Repr

/-- The most colons between two of the marks that end a part of an authority. -/
def maxColons : Nat := 8

/-- Take one character of an authority. -/
def AuthorityScan.step (scan : AuthorityScan) (c : Char) : Option AuthorityScan :=
  let scan := { scan with endsWithAt := false }
  if c = ':' then
    if maxColons ≤ scan.colons then none else some { scan with colons := scan.colons + 1 }
  else if c = '[' then
    if scan.percent || scan.opened then none else some { scan with opened := true }
  else if c = ']' then
    if !scan.opened || scan.closed then none
    else some { scan with closed := true, colons := 0, percent := false }
  else if c = '@' then
    some { scan with colons := 0, percent := false, endsWithAt := true }
  else if c = '%' then some { scan with percent := true }
  else if isAuthorityChar c then some scan
  else none

/-- Whether an authority may end here. -/
def AuthorityScan.complete (scan : AuthorityScan) : Bool :=
  scan.opened == scan.closed && scan.colons ≤ 1 && !scan.endsWithAt && !scan.percent

/-- Whether a character ends an authority. -/
def endsAuthority (c : Char) : Bool :=
  c == '/' || c == '?' || c == '#'

/-- Whether characters without an end mark make up an authority. -/
def isAuthority (cs : List Char) : Bool :=
  match cs.foldlM AuthorityScan.step ⟨0, false, false, false, false⟩ with
  | none => false
  | some scan => scan.complete

/-! ## Targets -/

/-- The path of a target with a scheme, behind that scheme. -/
def pathAfterScheme? (cs : List Char) : Option Path :=
  let authority := cs.takeWhile fun c => !endsAuthority c
  if authority.isEmpty || !isAuthority authority then none
  else pathOf? (cs.dropWhile fun c => !endsAuthority c)

/-- The path of a target; nothing if it is malformed. -/
def targetPath? (target : String) : Option Path :=
  if maxTargetLength < target.utf8ByteSize then none
  else
    match target.toList with
    | [] => none
    | '/' :: rest => pathOf? ('/' :: rest)
    | ['*'] => some ['*']
    | cs =>
      match splitScheme cs with
      | .tooLong => none
      | .found rest => pathAfterScheme? rest
      | .absent =>
        if cs.all (fun c => !endsAuthority c) && isAuthority cs then some [] else none

end Http
end BearerTokens
