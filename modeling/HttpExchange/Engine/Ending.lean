import HttpExchange.Engine.Writing

/-!
# The end of an exchange

An exchange ends once, with success or with a failure. It is detached from the channel first, so
that whatever runs meanwhile finds it gone. Success drains the unread request body and sends the
final frame if no write has. Failure of a response that is not fixed sends an error page instead.
-/

namespace HttpExchange

variable {κ ε : Type}

namespace Engine

/-- Detaches the active exchange and its stream from the channel. -/
def detach (e : ExchangeRef) (cause : Option FailureRef) : Engine κ ε Unit := do
  note (.ended e (← Effect.gets fun w => w.channel.stream) cause)
  Effect.modify (·.enterDropped e cause)
  modifyChannel fun c => { c with active := none, stream := none }

/-- Nothing more is to be done about the end of an exchange. -/
def conclude (e : ExchangeRef) : Engine κ ε Unit := do
  setPhase e .terminal
  note (.concluded e)

/-- Fails the stream of an exchange that ended. -/
def terminate (host : Host κ ε) (e : ExchangeRef) (stream : Stream) (cause : FailureRef) :
    Engine κ ε Unit := do
  tellFailed host e stream cause
  conclude e

/-- Notes that unread content keeps the connection from being used again. -/
def forbidReuse (e : ExchangeRef) : Engine κ ε Unit := do
  if ← Effect.gets fun w => w.channel.persistent then
    modifyChannel fun c => { c with persistent := false }
    modifyResponse e fun r =>
      if r.committed then r else { r with fields := r.fields.insert .connection .close }

/-- Sends what is left of a successful response whose head is fixed. -/
def sendRest (host : Host κ ε) (e : ExchangeRef) (stream : Stream) (head : Option ResponseHead) :
    Engine κ ε Unit := do
  let r ← response e
  match r.lengthFault true with
  | some fault =>
    note (.mismatched e)
    terminate host e stream (← newFailure fault)
  | none =>
    if r.lastWritten then tellSucceeded host e stream
    else sendTo host e stream head true (.finalFrame e stream) []
    conclude e

/-- Sends what is left of a successful response. -/
def sendEnd (host : Host κ ε) (e : ExchangeRef) (stream : Stream) : Engine κ ε Unit := do
  let before ← response e
  modifyResponse e fun r => { r with committed := true }
  let head ← if before.committed then pure none else some <$> freezeHead host e stream true
  sendRest host e stream head

/-- Renders and sends the error response for a failure, then fails the stream. -/
def sendErrorResponse (host : Host κ ε) (e : ExchangeRef) (stream : Stream) (cause : FailureRef) :
    Engine κ ε Unit := do
  let page ← Effect.gets fun w => ErrorPage.ofFailure w.failures cause
  let request := (← exchange e).request
  match ← Effect.attempt (host.render request page .empty) with
  | .error p =>
    suppress cause (← panicFailure p)
    terminate host e stream cause
  | .ok (body, fields) =>
    modifyResponse e fun r =>
      { r with
        fields := (r.fields.extend fields).remove .contentLength, written := body.length,
        lastWritten := true, committed := true }
    let head ← freezeHead host e stream true
    sendTo host e stream (some head) true (.errorResponse e stream cause) [body]
    conclude e

/-- Ends the response of a detached exchange that succeeded: the unread request body is drained,
and what is left of the response is sent, unless the stream cannot drain. -/
def succeedStream (host : Host κ ε) (e : ExchangeRef) (stream : Stream) : Engine κ ε Unit := do
  match ← stream.consumeAll host with
  | none => sendEnd host e stream
  | some unread =>
    if (← errorOf unread).isUnconsumedBody then
      forbidReuse e
      sendEnd host e stream
    else
      terminate host e stream unread

/-- Ends the response of a detached exchange that failed: with an error response, which starts over
from the standard fields, unless the head is fixed. -/
def failStream (host : Host κ ε) (e : ExchangeRef) (stream : Stream) (cause : FailureRef)
    (standard : Fields) : Engine κ ε Unit := do
  -- a write that was admitted owns the head, even if the stream has not seen it
  let committed := (← response e).committed
  if !committed then
    let status := (← errorOf cause).status
    modifyExchange e fun x => { x with response := .recycled status standard, trailers := none }
  setPhase e .completing
  if committed then terminate host e stream cause
  else sendErrorResponse host e stream cause

end Engine

namespace ExchangeRef

/-- Ends the exchange with success. Refused, with the exchange left as it is, while it is not
processing, has something pending, or failed; ignored once it ended. -/
def succeed (host : Host κ ε) (e : ExchangeRef) : Engine κ ε (Except ExchangeError Unit) := do
  match ← Engine.activeFor? e with
  | none => return .ok ()
  | some active =>
    if !active.processing then return .error .notProcessing
    if active.demand.isSome then return .error .demandPending
    if active.write.isSome then return .error .writePending
    if active.error.isSome then return .error .exchangeFailed
    let stream ← Effect.gets fun w => w.channel.stream
    Engine.detach e none
    match stream with
    | none => return .ok ()
    | some stream =>
      Engine.setPhase e .completing
      Engine.succeedStream host e stream
      return .ok ()

/-- Ends the exchange with a failure; ignored once it ended. What is pending is dropped. -/
def fail (host : Host κ ε) (e : ExchangeRef) (cause : FailureRef) : Engine κ ε Unit := do
  match ← Engine.activeFor? e with
  | none => pure ()
  | some active =>
    let channel ← Effect.gets fun w => w.channel
    Engine.detach e (some cause)
    match active.write with
    | some callback => callback.drop host
    | none => pure ()
    match channel.stream with
    | none => pure ()
    | some stream =>
      Engine.failStream host e stream cause (channel.config.standardFields host.now)

end ExchangeRef

end HttpExchange
