import BearerTokens.Settings.Variables
import BearerTokens.Text.Alphanumeric
import BearerTokens.Text.Blank

/-!
# Environment files

An environment file sets variables that are not set yet, one in a line.  A line
goes on in the next one while a quote or an escape is open.  Values may be
quoted, escaped, and refer to other variables.  The first line that cannot be
read ends the file; what the lines before it set stays.
-/

namespace BearerTokens
namespace EnvFile

/-! ## Lines -/

/-- What has been read of a text in lines. -/
structure LineScan where
  /-- The lines that have ended, the last first. -/
  lines : List (List Char)
  /-- The line that has not, its characters last first. -/
  line : List Char
  deriving DecidableEq, Repr

/-- Take one character of a text in lines. -/
def LineScan.step (scan : LineScan) (c : Char) : LineScan :=
  if c = '\n' then ⟨(c :: scan.line).reverse :: scan.lines, []⟩
  else ⟨scan.lines, c :: scan.line⟩

/-- The lines of a text, each with the line feed that ends it; the last may have none. -/
def physicalLines (cs : List Char) : List (List Char) :=
  let scan := cs.foldl LineScan.step ⟨[], []⟩
  (if scan.line.isEmpty then scan.lines else scan.line.reverse :: scan.lines).reverse

/-- What is open at some point of a line. -/
inductive Openness where
  | nothing
  /-- Behind a blank, where a comment may start. -/
  | blank
  | escape
  | single
  | singleEscape
  | double
  | doubleEscape
  deriving DecidableEq, Repr

/-- What opens at a character outside quotes. -/
def Openness.outside (c : Char) : Openness :=
  if c = '\\' then .escape
  else if c = '"' then .double
  else if c = '\'' then .single
  else .nothing

/-- What is open behind one more character. -/
def Openness.step (state : Openness) (c : Char) : Openness :=
  match state with
  | .nothing =>
    if Text.isBlank c && c != '\n' && c != '\r' then .blank else .outside c
  | .blank => .outside c
  | .escape => .nothing
  | .single => if c = '\\' then .singleEscape else if c = '\'' then .nothing else .single
  | .singleEscape => .single
  | .double => if c = '\\' then .doubleEscape else if c = '"' then .nothing else .double
  | .doubleEscape => .double

/-- How a physical line ends. -/
inductive LineEnd where
  | openness (state : Openness)
  /-- A comment starts behind the given part of the line. -/
  | comment (before : List Char)
  deriving DecidableEq, Repr

/-- Follow a line to its end or to a comment, given what was read of it, last first. -/
def lineEnd (state : Openness) (read : List Char) : List Char → LineEnd
  | [] => .openness state
  | c :: rest =>
    if state = .blank ∧ c = '#' then .comment read.reverse
    else lineEnd (state.step c) (c :: read) rest

/-- A line without the line feed, and the carriage return before it, at its end. -/
def chomp (line : List Char) : List Char :=
  match line.reverse with
  | '\n' :: '\r' :: rest => rest.reverse
  | '\n' :: rest => rest.reverse
  | _ => line

/-- Whether a physical line is a comment and nothing else. -/
def isCommentLine (line : List Char) : Bool :=
  (Text.trimStart line).head? == some '#'

/-- What has been joined of physical lines. -/
structure LineJoin where
  /-- The lines that are complete, the last first. -/
  joined : List (List Char)
  /-- What is open. -/
  state : Openness
  /-- The pieces of the line that is not complete, the last first. -/
  pieces : List (List Char)
  deriving DecidableEq, Repr

/--
Take one physical line.  A comment line is skipped where no line has begun; a
line is complete when nothing is open at its end or a comment begins in it.
-/
def LineJoin.step (join : LineJoin) (physical : List Char) : LineJoin :=
  if join.pieces.isEmpty && isCommentLine physical then join
  else
    match lineEnd join.state [] physical with
    | .comment before =>
      ⟨(before :: join.pieces).reverse.flatten :: join.joined, .nothing, []⟩
    | .openness .nothing =>
      ⟨chomp (physical :: join.pieces).reverse.flatten :: join.joined, .nothing, []⟩
    | .openness state => ⟨join.joined, state, physical :: join.pieces⟩

/--
The lines of a file, joined where a quote or an escape is open.  A line in
which something is still open at the end of the file is dropped.
-/
def logicalLines (content : List Char) : List (List Char) :=
  ((physicalLines content).foldl LineJoin.step ⟨[], .nothing, []⟩).joined.reverse

/-! ## Values -/

/-- What a reference to a variable stands for. -/
abbrev Lookup := String → String

/-- Where reading stands within a value. -/
inductive ValueState where
  | plain
  | single
  | double
  /-- Behind a backslash, inside double quotes or not. -/
  | escape (quoted : Bool)
  /-- Behind a dollar sign and a part of a name, last first. -/
  | reference (quoted : Bool) (name : List Char)
  /-- Behind an opening brace and a part of a name, last first. -/
  | braced (quoted : Bool) (name : List Char)
  /-- Behind a blank that ends the value. -/
  | ended
  /-- Inside a comment. -/
  | comment
  deriving DecidableEq, Repr

/-- What has been read of a value, its characters last first. -/
structure ValueScan where
  state : ValueState
  output : List Char
  deriving DecidableEq, Repr

/-- The state outside of escapes and references. -/
def ValueState.within (quoted : Bool) : ValueState :=
  if quoted then .double else .plain

/-- What a reference stands for, put behind the characters read. -/
def substitute (lookup : Lookup) (name output : List Char) : List Char :=
  (lookup (String.ofList name.reverse)).toList.reverse ++ output

/-- The character that an escape stands for. -/
def unescape? (c : Char) : Option Char :=
  if c = '\\' ∨ c = '\'' ∨ c = '"' ∨ c = '$' ∨ c = ' ' then some c
  else if c = 'n' then some '\n'
  else none

/-- Take one character of a value; nothing if it may not stand there. -/
def ValueScan.step (lookup : Lookup) (scan : ValueScan) (c : Char) : Option ValueScan :=
  let output := scan.output
  match scan.state with
  | .comment => some scan
  | .ended =>
    if c = ' ' ∨ c = '\t' then some scan
    else if c = '#' then some ⟨.comment, output⟩
    else none
  | .escape quoted => (unescape? c).map fun e => ⟨.within quoted, e :: output⟩
  | .single => if c = '\'' then some ⟨.plain, output⟩ else some ⟨.single, c :: output⟩
  | .reference quoted name =>
    if Text.isAlphanumeric c then some ⟨.reference quoted (c :: name), output⟩
    else if c = '\x7b' ∧ name = [] then some ⟨.braced quoted [], output⟩
    else if c = '$' then some ⟨.reference quoted [], substitute lookup name output⟩
    else some ⟨.within quoted, c :: substitute lookup name output⟩
  | .braced quoted name =>
    if c = '\x7d' then some ⟨.within quoted, substitute lookup name output⟩
    else some ⟨.braced quoted (c :: name), output⟩
  | .double =>
    if c = '$' then some ⟨.reference true [], output⟩
    else if c = '"' then some ⟨.plain, output⟩
    else if c = '\\' then some ⟨.escape true, output⟩
    else some ⟨.double, c :: output⟩
  | .plain =>
    if c = '$' then some ⟨.reference false [], output⟩
    else if c = '\'' then some ⟨.single, output⟩
    else if c = '"' then some ⟨.double, output⟩
    else if c = '\\' then some ⟨.escape false, output⟩
    else if c = ' ' ∨ c = '\t' then some ⟨.ended, output⟩
    else some ⟨.plain, c :: output⟩

/-- The value of all characters; nothing if a quote or a brace is left open. -/
def ValueScan.finish (lookup : Lookup) (scan : ValueScan) : Option String :=
  match scan.state with
  | .single | .double | .braced _ _ | .escape true | .reference true _ => none
  | .reference false name =>
    some (String.ofList (substitute lookup name scan.output).reverse)
  | .plain | .escape false | .ended | .comment => some (String.ofList scan.output.reverse)

/-- The value written by characters, if they are well-formed. -/
def value? (lookup : Lookup) (cs : List Char) : Option String :=
  (cs.foldlM (ValueScan.step lookup) ⟨.plain, []⟩).bind (ValueScan.finish lookup)

/-! ## Assignments -/

/-- Whether a character may start a key. -/
def isKeyStart (c : Char) : Bool :=
  c.isAlpha || c == '_'

/-- Whether a character may stand in a key. -/
def isKeyChar (c : Char) : Bool :=
  c.isAlphanum || c == '_' || c == '.'

/-- A key and what follows it and the blanks behind it. -/
def key? (cs : List Char) : Option (String × List Char) :=
  if cs.head?.any isKeyStart then
    some (String.ofList (cs.takeWhile isKeyChar), Text.trimStart (cs.dropWhile isKeyChar))
  else none

/-- What follows an equals sign and the blanks behind it. -/
def afterEquals? : List Char → Option (List Char)
  | [] => none
  | c :: rest => if c = '=' then some (Text.trimStart rest) else none

/-- The key of an assignment and the text behind its equals sign. -/
def assignment? (cs : List Char) : Option (String × List Char) :=
  match key? cs with
  | none => none
  | some (key, rest) =>
    match afterEquals? rest with
    | some text => some (key, text)
    | none =>
      if key = "export" then
        match key? rest with
        | none => none
        | some (key, rest) => (afterEquals? rest).map fun text => (key, text)
      else none

/-- What a line says. -/
inductive Line where
  | blank
  | assign (key : String) (value : String)
  | malformed
  deriving DecidableEq, Repr

/-- Whether nothing but a comment is left. -/
def isVoid (cs : List Char) : Bool :=
  cs.isEmpty || cs.head? == some '#'

/-- Read a line. -/
def readLine (lookup : Lookup) (line : List Char) : Line :=
  let cs := Text.trim line
  if isVoid cs then .blank
  else
    match assignment? cs with
    | none => .malformed
    | some (key, text) =>
      if isVoid text then .assign key ""
      else
        match value? lookup text with
        | none => .malformed
        | some value => .assign key value

/-! ## Files -/

/-- The variables set so far, and the values that the lines read so far gave. -/
structure Loading where
  vars : Variables
  assigned : Index String String
  deriving DecidableEq, Repr

/--
What a reference stands for: what the variables make of it, else an earlier
line's value, else nothing.
-/
def Loading.lookup (loading : Loading) (name : String) : String :=
  ((loading.vars.refer? name).or (loading.assigned.get? name)).getD ""

/-- Set the variables of lines up to the first that cannot be read. -/
def Loading.lines (loading : Loading) : List (List Char) → Loading
  | [] => loading
  | line :: rest =>
    match readLine loading.lookup line with
    | .malformed => loading
    | .blank => loading.lines rest
    | .assign key value =>
      Loading.lines ⟨loading.vars.fill key value, loading.assigned.insert key value⟩ rest

/-- The byte order mark. -/
def byteOrderMark : Char := Char.ofNat 0xFEFF

/-- Set the variables of a file that are not set yet. -/
def load (vars : Variables) (content : String) : Variables :=
  let cs := match content.toList with
    | [] => []
    | c :: rest => if c = byteOrderMark then rest else c :: rest
  (Loading.lines ⟨vars, .empty⟩ (logicalLines cs)).vars

end EnvFile
end BearerTokens
