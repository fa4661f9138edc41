import HttpExchange.Failure

/-!
# Error pages

What an error response says, and its standard form: one line of plain text that is not to be
cached.
-/

namespace HttpExchange

/-- What an error response should say. -/
structure ErrorPage where
  status : Status
  message : String
  cause : Option FailureRef

namespace ErrorPage

/-- A page; without a message the reason phrase of the status speaks. -/
def ofStatus (status : Status) (message : Option String) (cause : Option FailureRef) : ErrorPage :=
  ⟨status, message.getD (status.reason?.getD "Unknown"), cause⟩

/-- The page for a failed exchange: the status of the failure, and for a request that broke the
protocol the reason of it. -/
def ofFailure (failures : Failures) (cause : FailureRef) : ErrorPage :=
  let error := (failures.get cause).error
  ofStatus error.status (match error with | .protocol _ reason => some reason | _ => none) cause

def cacheControl : FieldValue :=
  ⟨Octets.ofString "must-revalidate,no-cache,no-store", by decide⟩

def contentType : FieldValue := ⟨Octets.ofString "text/plain; charset=utf-8", by decide⟩

/-- The standard form: a body of one line, and the fields laid over the given ones. -/
def render (page : ErrorPage) (fields : Fields) : Octets × Fields :=
  (Octets.ofString (toString page.status.code ++ " " ++ page.message ++ "\n"),
    (fields.insert .cacheControl cacheControl).insert .contentType contentType)

end ErrorPage

end HttpExchange
