import BearerTokens.Http.Field

/-!
# Media types

A media type is a type and a subtype, which may have a suffix behind its last
plus sign, and parameters; all of them are tokens, and a value may be quoted.  A
value is JSON when its subtype or its suffix is {lit}`json` within the type
{lit}`application`, in any letter case, and the whole value follows the grammar.
-/

namespace BearerTokens
namespace Http

/-- Whether a character may stand between the quotes of a parameter's value. -/
def isQuotedChar (c : Char) : Bool :=
  31 < c.toNat && c.toNat != 127

/-! ## Parameters -/

/-- Where reading stands within the parameters. -/
inductive ParameterState where
  /-- Before a parameter, where blanks may stand. -/
  | before
  /-- In the name, of which something has been read. -/
  | name
  /-- Right behind the equals sign. -/
  | valueStart
  | value
  /-- Right behind the opening quote. -/
  | quoteStart
  | quoted
  /-- Behind the closing quote. -/
  | after
  deriving DecidableEq, Repr

/-- Take one character of the parameters. -/
def ParameterState.step (state : ParameterState) (c : Char) : Option ParameterState :=
  match state with
  | .before =>
    if c = ' ' then some .before else if isTokenChar c then some .name else none
  | .name =>
    if c = '=' then some .valueStart else if isTokenChar c then some .name else none
  | .valueStart =>
    if c = '"' then some .quoteStart else if isTokenChar c then some .value else none
  | .value =>
    if c = ';' then some .before else if isTokenChar c then some .value else none
  | .quoteStart => if isQuotedChar c then some .quoted else none
  | .quoted =>
    if c = '"' then some .after else if isQuotedChar c then some .quoted else none
  | .after =>
    if c = ';' then some .before else if c = ' ' then some .after else none

/-- Whether the parameters may end here. -/
def ParameterState.complete : ParameterState → Bool
  | .before => true
  | .name => false
  | .valueStart => true
  | .value => true
  | .quoteStart => false
  | .quoted => false
  | .after => true

/-- Whether the characters behind the first semicolon are parameters. -/
def areParameters (cs : List Char) : Bool :=
  match cs.foldlM ParameterState.step .before with
  | none => false
  | some state => state.complete

/-! ## Media types -/

/-- A subtype without its suffix, and the suffix behind its last plus sign. -/
def splitSuffix (subtype : List Char) : List Char × Option (List Char) :=
  let behind := subtype.reverse.takeWhile (· ≠ '+')
  let before := (subtype.reverse.drop (behind.length + 1)).reverse
  if before.isEmpty then (subtype, none) else (before, some behind.reverse)

/-- Whether a media type is JSON. -/
def isJson (mediaType : String) : Bool :=
  let cs := mediaType.toList
  let type := cs.takeWhile isTokenChar
  match cs.dropWhile isTokenChar with
  | '/' :: rest =>
    let subtype := rest.takeWhile isTokenChar
    let wellFormed :=
      match rest.dropWhile isTokenChar with
      | [] => true
      | ';' :: parameters => !subtype.isEmpty && areParameters parameters
      | _ :: _ => false
    let (base, suffix) := splitSuffix (subtype.map Char.toLower)
    wellFormed && !type.isEmpty && type.map Char.toLower == "application".toList &&
      (base == "json".toList || suffix == some "json".toList)
  | _ => false

end Http
end BearerTokens
