import HttpExchange.Engine.Drain

/-!
# The response side of an exchange

Status and fields can be changed until the first write fixes them. One write at a time may be
pending; the next one is admitted after the callback of the previous one was told. The bytes of
every admitted write count, and they have to fit the body length that was fixed with the head.
-/

namespace HttpExchange

variable {κ ε : Type}

namespace Response

/-- Counts the bytes of an admitted write, which fixes the head. -/
def accept (r : Response) (last : Bool) (chunks : List Octets) : Response :=
  { r with
    written := r.written + chunks.flatten.length, lastWritten := last, committed := true }

/-- Fixes the head: the status is 200 unless one was set, and the body length is the declared one,
or for a last write the bytes written, which are then declared. -/
def freeze (r : Response) (last : Bool) : Response :=
  match ContentLength.ofFields? r.fields, last with
  | none, true =>
    { r with
      status := some (r.status.getD .ok), committedLength := some r.written,
      fields := r.fields.insert .contentLength (.ofNat r.written) }
  | declared, _ => { r with status := some (r.status.getD .ok), committedLength := declared }

/-- Whether the bytes written break the fixed body length: they are too many, or too few at the
end. -/
def lengthFault (r : Response) (last : Bool) : Option ExchangeError :=
  match r.committedLength with
  | none => none
  | some declared =>
    if declared < r.written ∨ (last = true ∧ r.written < declared) then
      some (.lengthMismatch declared r.written)
    else none

/-- The response from which an error response starts over. -/
def recycled (status : Status) (standard : Fields) : Response :=
  { Response.fresh standard with status := some status }

end Response

/-- What becomes of a write. -/
inductive Admission
  /-- Its bytes go to the stream; `commits` tells the write that fixes the head. -/
  | send (commits : Bool)
  /-- There is nothing to send. -/
  | flush
  /-- It is refused for a new reason. -/
  | refuse (why : ExchangeError)
  /-- It is refused because the exchange failed. -/
  | failed (cause : FailureRef)

/-- Decides about a write of the active exchange. -/
def Active.admission (active : Active κ) (r : Response) (last : Bool) (chunks : List Octets) :
    Admission :=
  if active.write.isSome then .refuse .writePending
  else if !active.processing then .refuse .notProcessing
  else match active.error with
    | some cause => .failed cause
    | none =>
      if r.lastWritten then .refuse .completed
      else if chunks.isEmpty && !last && r.committed then .flush
      else .send !r.committed

/-- The identity of a new send, with what is to be done once it ended. -/
def SendRef.new (callback : SendCallback κ) : Engine κ ε SendRef :=
  .modifyGet fun w => (⟨w.sends.size⟩, { w with sends := w.sends.push (some callback) })

namespace Engine

/-- Fixes the head of a response, and lets the stream add fields of its own. -/
def freezeHead (host : Host κ ε) (e : ExchangeRef) (stream : Stream) (last : Bool) :
    Engine κ ε ResponseHead := do
  modifyResponse e (·.freeze last)
  let r ← response e
  let (fields, panic) ← stream.prepare host r.fields
  modifyResponse e fun x => { x with fields }
  Effect.unwindWith panic
  let version ← Effect.gets fun w => w.channel.version
  return ⟨r.status.getD .ok, version, fields, r.committedLength⟩

/-- Hands bytes of an exchange to its stream. -/
def sendTo (host : Host κ ε) (e : ExchangeRef) (stream : Stream) (head : Option ResponseHead)
    (last : Bool) (callback : SendCallback κ) (chunks : List Octets) : Engine κ ε Unit := do
  let ref ← SendRef.new callback
  note (.sent e ⟨ref, stream, head, last, callback, chunks⟩)
  stream.send host (head.map (·, e)) last ref chunks

/-- Tells the stream of an exchange that it succeeded. -/
def tellSucceeded (host : Host κ ε) (e : ExchangeRef) (stream : Stream) : Engine κ ε Unit := do
  note (.succeeded e stream)
  stream.succeeded host

/-- Tells the stream of an exchange that it failed. -/
def tellFailed (host : Host κ ε) (e : ExchangeRef) (stream : Stream) (cause : FailureRef) :
    Engine κ ε Unit := do
  note (.failed e stream cause)
  stream.failed host cause

/-- Takes the callback of the pending write of an exchange. -/
def takeWrite (e : ExchangeRef) : Engine κ ε (Option (Callback κ)) :=
  .modifyGet fun w =>
    match w.activeFor? e with
    | none => (none, w)
    | some active => (active.write, w.modifyActive fun a => { a with write := none })

/-- Fails a write that is not done, through its callback. -/
def failWrite (host : Host κ ε) (callback : Callback κ) (cause : FailureRef) :
    Engine κ ε Unit :=
  runQueued host "write-failure" (.complete callback (.error cause))

/-- Refuses a write for a new reason. -/
def refuseWrite (host : Host κ ε) (callback : Callback κ) (why : ExchangeError) :
    Engine κ ε Unit := do
  let cause ← newFailure why
  enter (.refused callback cause)
  failWrite host callback cause

end Engine

/-- Does what is to be done once a send ended. -/
def SendCallback.complete (host : Host κ ε) (callback : SendCallback κ) (ref : SendRef)
    (result : Result) : Engine κ ε Unit := do
  match callback with
  | .direct callback => callback.complete host result
  | .pendingWrite e =>
    Engine.note (.sendEnded e ref result)
    match ← Engine.takeWrite e with
    | some callback => Engine.runQueued host "write-complete" (.complete callback result)
    | none => pure ()
  | .finalFrame e stream =>
    Engine.note (.sendEnded e ref result)
    match result with
    | .ok () => Engine.tellSucceeded host e stream
    | .error cause => Engine.tellFailed host e stream cause
  | .errorResponse e stream cause =>
    Engine.note (.sendEnded e ref result)
    match result with
    | .ok () => pure ()
    | .error other => Engine.suppress cause other
    Engine.tellFailed host e stream cause

/-- Tells the engine how a send ended, unless that was told before. -/
def SendRef.complete (host : Host κ ε) (ref : SendRef) (result : Result) : Engine κ ε Unit := do
  let callback ← Effect.modifyGet fun w =>
    (w.sendCallback? ref, { w with sends := w.sends.modify ref.index fun _ => none })
  match callback with
  | none => pure ()
  | some callback => callback.complete host ref result

namespace ExchangeRef

/-- Sets the status, unless the head is fixed. -/
def setStatus (e : ExchangeRef) (status : Status) : Engine κ ε Unit :=
  Engine.modifyResponse e fun r => if r.committed then r else { r with status := some status }

/-- Lets `edit` change a copy of the fields, which then replaces them. The edit may use the
exchange meanwhile; if the head is fixed by then, the copy is lost. -/
def editFields {α : Type} (e : ExchangeRef) (edit : Fields → Engine κ ε (α × Fields)) :
    Engine κ ε (Except ExchangeError α) := do
  let r ← Engine.response e
  if r.committed then return .error .committed
  let (a, fields) ← edit r.fields
  -- the edit itself may have written
  if (← Engine.response e).committed then return .error .committed
  Engine.modifyResponse e fun r => { r with fields }
  return .ok a

/-- Declares the body length. -/
def setContentLength (e : ExchangeRef) (length : Nat) :
    Engine κ ε (Except ExchangeError Unit) := do
  if (← Engine.response e).committed then return .error .committed
  Engine.modifyResponse e fun r =>
    { r with fields := r.fields.insert .contentLength (.ofNat length) }
  return .ok ()

/-- Lets `edit` change a copy of the trailers, which then replaces them. -/
def editTrailers {α : Type} (e : ExchangeRef) (edit : Fields → Engine κ ε (α × Fields)) :
    Engine κ ε α := do
  let (a, trailers) ← edit ((← Engine.exchange e).trailers.getD .empty)
  Engine.modifyExchange e fun x => { x with trailers := some trailers }
  return a

/-- Takes the trailers, leaving none. -/
def takeTrailers (e : ExchangeRef) : Engine κ ε (Option Fields) := do
  let trailers := (← Engine.exchange e).trailers
  Engine.modifyExchange e fun x => { x with trailers := none }
  return trailers

/-- Clears status, fields and trailers. -/
def reset (e : ExchangeRef) : Engine κ ε (Except ExchangeError Unit) := do
  if (← Engine.response e).committed then return .error .committed
  Engine.modifyExchange e fun x =>
    { x with response := { x.response with status := none, fields := .empty }, trailers := none }
  return .ok ()

/-- Writes body bytes; the callback is told when they are written or why not. -/
def write (host : Host κ ε) (e : ExchangeRef) (last : Bool) (callback : Callback κ)
    (chunks : List Octets) : Engine κ ε Unit := do
  let w ← Effect.get
  Engine.enter (.wrote e callback last chunks (w.exchange e).response.committed)
  match w.channel.stream, w.activeFor? e with
  | some stream, some active =>
    match active.admission (w.exchange e).response last chunks with
    | .flush => Engine.runQueued host "write-complete" (.complete callback (.ok ()))
    | .refuse why => Engine.refuseWrite host callback why
    | .failed cause => Engine.failWrite host callback cause
    | .send commits =>
      Engine.modifyResponse e (·.accept last chunks)
      -- registered before the bytes are sent, because the stream may complete the send at once
      Engine.modifyActive fun a => { a with write := some callback }
      let head ←
        if commits then some <$> Engine.freezeHead host e stream last else pure none
      match (← Engine.response e).lengthFault last with
      | none =>
        Effect.modify (·.enterSending callback)
        Engine.sendTo host e stream head last (.pendingWrite e) chunks
      | some fault =>
        Engine.note (.mismatched e)
        match ← Engine.takeWrite e with
        | some callback => Engine.refuseWrite host callback fault
        | none => pure ()
  | _, _ => Engine.refuseWrite host callback .completed

/-- Writes body bytes, with a promise of the result. -/
def writeAsync (host : Host κ ε) (e : ExchangeRef) (last : Bool) (chunks : List Octets) :
    Engine κ ε PromiseRef := do
  let promise ← PromiseRef.new
  e.write host last (.promise promise) chunks
  return promise

/-- Has an error page rendered and writes it as the whole body. -/
def writeError (host : Host κ ε) (e : ExchangeRef) (status : Status) (message : Option String)
    (callback : Callback κ) : Engine κ ε Unit := do
  let request := (← Engine.exchange e).request
  let (body, fields) ← host.render request (.ofStatus status message none) .empty
  if (← Engine.response e).committed then
    Engine.enter (.wrote e callback true [body] true)
    Engine.refuseWrite host callback .committed
  else
    Engine.modifyResponse e fun r =>
      { r with status := some status, fields := (r.fields.remove .contentLength).extend fields }
    e.write host true callback [body]

/-- Asks the stream to push a resource; nothing happens once the exchange ended. -/
def push (host : Host κ ε) (e : ExchangeRef) (request : RequestHead) : Engine κ ε Unit := do
  let w ← Effect.get
  match w.activeFor? e, w.channel.stream with
  | some _, some stream => stream.push host request
  | _, _ => pure ()

end ExchangeRef

end HttpExchange
