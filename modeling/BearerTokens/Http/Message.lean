import BearerTokens.Http.Field
import BearerTokens.Http.Target
import BearerTokens.Json.Value
import BearerTokens.Text.Utf8

/-!
# Requests and responses

A request is admitted when its method, its target and its header fields have
the form that HTTP demands.  A response has a status, header fields and a text.
-/

namespace BearerTokens
namespace Http

/-! ## Requests -/

/-- An admitted request. -/
structure Request where
  method : String
  path : Path
  fields : List Field
  body : List UInt8
  deriving DecidableEq, Repr

/-- The first part of a request that HTTP forbids. -/
inductive MalformedRequest where
  | method
  | target
  | field
  deriving DecidableEq, Repr

/-- The fields of names and values, if all of them are allowed. -/
def fieldsOf? : List (String × List UInt8) → Option (List Field)
  | [] => some []
  | (name, value) :: rest =>
    match Field.of? name value, fieldsOf? rest with
    | some field, some fields => some (field :: fields)
    | _, _ => none

/-- Admit a request, or name the first part that HTTP forbids. -/
def Request.of? (method target : String) (fields : List (String × List UInt8))
    (body : List UInt8) : Except MalformedRequest Request :=
  if !isToken method then .error .method
  else
    match targetPath? target with
    | none => .error .target
    | some path =>
      match fieldsOf? fields with
      | none => .error .field
      | some fields => .ok ⟨method, path, fields, body⟩

/-- The first value of a field of a request. -/
def Request.value? (request : Request) (name : String) : Option (List UInt8) :=
  Http.value? name request.fields

/-- The Authorization values of a request in order. -/
def Request.authorization (request : Request) : List (List UInt8) :=
  values "authorization" request.fields

/-! ## Responses -/

/-- A response without the length of its body, which every transport adds. -/
structure Response where
  status : Nat
  fields : List Field
  body : String
  deriving DecidableEq, Repr

namespace Response

/-- A response without fields and body. -/
def bare (status : Nat) : Response := ⟨status, [], ""⟩

/-- A response with a plain text. -/
def plain (status : Nat) (body : String) : Response :=
  ⟨status, [.ofText "content-type" "text/plain; charset=utf-8"], body⟩

/-- A response with a JSON document. -/
def json (status : Nat) (body : Json) : Response :=
  ⟨status, [.ofText "content-type" "application/json"], body.text⟩

/-- A response with one more field. -/
def withField (response : Response) (field : Field) : Response :=
  { response with fields := response.fields ++ [field] }

/-- A response without its body. -/
def withoutBody (response : Response) : Response :=
  { response with body := "" }

/-- The values of a field of a response in order. -/
def values (response : Response) (name : String) : List (List UInt8) :=
  Http.values name response.fields

end Response
end Http
end BearerTokens
