import HttpExchange.Http.ContentLength
import HttpExchange.Http.Status

/-!
# Response heads

Status line and fields of a response, as they are handed to the transport with the first bytes,
and how the body is to be framed.
-/

namespace HttpExchange

/-- How a body is framed. -/
inductive PayloadSize
  /-- A body of known length. -/
  | length (n : Nat)
  /-- A body of unknown length, streamed until the last write. -/
  | chunked
  /-- No body framing at all. -/
  | empty
  deriving DecidableEq

def PayloadSize.isChunked : PayloadSize → Bool
  | .chunked => true
  | _ => false

def PayloadSize.isEmpty : PayloadSize → Bool
  | .empty => true
  | _ => false

/-- The head of a response. -/
structure ResponseHead where
  status : Status
  version : Version
  fields : Fields
  /-- The body length that was declared or found out. -/
  contentLength : Option Nat
  deriving DecidableEq

/-- How the body of a response is framed: interim responses, 204, 304 and a length of zero have no
framing. -/
def ResponseHead.payloadSize (head : ResponseHead) : PayloadSize :=
  if head.status.isInformational || head.status = .noContent || head.status = .notModified then
    .empty
  else match head.contentLength with
    | some 0 => .empty
    | some n => .length n
    | none => .chunked

end HttpExchange
