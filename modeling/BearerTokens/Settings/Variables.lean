import BearerTokens.Store.Index
import BearerTokens.Text.Utf8

/-!
# Environment variables

The values of environment variables are bytes.  A value that is not text counts
as not set.
-/

namespace BearerTokens

/-- Environment variables with the bytes of their values. -/
structure Variables where
  values : Index String (List UInt8)
  deriving DecidableEq, Repr

namespace Variables

/-- No variables. -/
def empty : Variables := ⟨.empty⟩

/-- Set a variable to bytes. -/
def set (vars : Variables) (name : String) (value : List UInt8) : Variables :=
  ⟨vars.values.insert name value⟩

/-- The variables of a list; the last value of a name counts. -/
def ofList (entries : List (String × List UInt8)) : Variables :=
  entries.foldl (fun vars entry => vars.set entry.1 entry.2) empty

/-- The text of a variable, if it is set to one. -/
def get? (vars : Variables) (name : String) : Option String :=
  (vars.values.get? name).bind Utf8.decode?

/--
What a name refers to.  A variable is kept as one line, its name, an equals
sign and its value, and a name refers to the text behind itself and an equals
sign.  So a name that contains an equals sign refers to a part of the value of
the variable that it begins with.
-/
def refer? (vars : Variables) (name : String) : Option String :=
  let own := String.ofList (name.toList.takeWhile (· ≠ '='))
  match name.toList.dropWhile (· ≠ '=') with
  | [] => vars.get? name
  | _ :: start =>
    (vars.values.get? own).bind fun value =>
      ((Utf8.encode (String.ofList (start ++ ['=']))).isPrefixOf? value).bind Utf8.decode?

/-- Set a variable to a text unless it has one. -/
def fill (vars : Variables) (name value : String) : Variables :=
  match vars.get? name with
  | some _ => vars
  | none => vars.set name (Utf8.encode value)

end Variables
end BearerTokens
