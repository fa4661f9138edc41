import HttpExchange.Http.ContentLength
import HttpExchange.Http.Status
import HttpExchange.Http.Target

/-!
# Request heads

Method, target, version and fields of a request, and what the transport attached to it. `build`
checks the parts in the order method, target, fields from left to right, each name before its
value; the first fault is the answer.
-/

namespace HttpExchange

/-- Why parts do not form a head. -/
inductive HeadError
  | invalidStatus | invalidMethod | invalidName | invalidValue
  | invalidTarget (fault : TargetError)
  deriving DecidableEq

def HeadError.message : HeadError → String
  | .invalidStatus => "invalid status code"
  | .invalidMethod => "invalid HTTP method"
  | .invalidName => "invalid HTTP header name"
  | .invalidValue => "failed to parse header value"
  | .invalidTarget fault => fault.message

/-- A field as it was given, before it is checked. -/
abbrev RawField := Octets × Octets

/-- Checks one given field. -/
def RawField.check (field : RawField) : Except HeadError (FieldName × FieldValue) :=
  match FieldName.ofOctets? field.1 with
  | none => .error .invalidName
  | some name =>
    match FieldValue.ofOctets? field.2 with
    | none => .error .invalidValue
    | some value => .ok (name, value)

/-- The fields of a header, in the order given. -/
def Fields.ofRaw (raw : List RawField) : Except HeadError Fields := do
  return ⟨← raw.mapM RawField.check⟩

/-- The header of one request, as delivered by the transport. -/
structure RequestHead where
  method : Method
  target : Target
  version : Version
  fields : Fields
  /-- What the transport attached to the request. -/
  attachment : Option String
  deriving DecidableEq

namespace RequestHead

/-- The head that stands in when a failure arrives before any request: a bare `GET /`. -/
def bare : RequestHead := ⟨.get, .root, .http10, .empty, none⟩

/-- The declared body length. -/
def contentLength? (head : RequestHead) : Option Nat := ContentLength.ofFields? head.fields

/-- Checks the parts of a head. -/
def build (method target : Octets) (version : Version) (fields : List RawField)
    (attachment : Option String) : Except HeadError RequestHead :=
  match Method.ofOctets? method with
  | none => .error .invalidMethod
  | some method => do
    let target ← (Target.parse target).mapError .invalidTarget
    return ⟨method, target, version, ← Fields.ofRaw fields, attachment⟩

end RequestHead

end HttpExchange
