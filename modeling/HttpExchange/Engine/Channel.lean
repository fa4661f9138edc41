import HttpExchange.Engine.Queue
import HttpExchange.Engine.Stream

/-!
# Events of a connection

The transport reports what happens on a connection: a stream, a request header, content, a
failure, the end. Each event changes the channel and defers the rest as tasks.

The first failure of an exchange is stored. Delivering it wakes a pending demand, then fails a
pending write, then tells the error listeners, then ends the exchange, in this order. A later
failure is suppressed by the first.
-/

namespace HttpExchange

variable {κ ε : Type}

namespace Engine

def modifyChannel (f : Channel κ → Channel κ) : Engine κ ε Unit := .modify (·.modifyChannel f)

def modifyActive (f : Active κ → Active κ) : Engine κ ε Unit := .modify (·.modifyActive f)

/-- The running part of an exchange, if it is the active one. -/
def activeFor? (e : ExchangeRef) : Engine κ ε (Option (Active κ)) := .gets (·.activeFor? e)

/-- Makes a new exchange the active one. -/
def activate (host : Host κ ε) (stream : Stream) (request : RequestHead) :
    Engine κ ε (Active κ) := do
  let e ← newExchange host stream request
  modifyChannel fun c => { c with active := some (.fresh e) }
  return .fresh e

end Engine

namespace Channel

/-- Attaches the stream that the next request header arrives on. -/
def setStream (stream : Stream) : Engine κ ε (Except ExchangeError Unit) := do
  if (← Effect.gets fun w => w.channel.stream.isSome) then return .error .streamSet
  Engine.modifyChannel fun c => { c with stream := some stream }
  Engine.note (.attached stream)
  return .ok ()

/-- Creates the exchange for a request header, and gives the task that handles it. A target that
is not acceptable still makes an exchange; the task then fails it. -/
def onRequest (host : Host κ ε) (request : RequestHead) :
    Engine κ ε (Except ExchangeError (Task κ)) := do
  let w ← Effect.get
  match w.channel.stream with
  | none => return .error .noStream
  | some stream =>
    if w.channel.active.isSome then return .error .exchangeActive
    let active ← Engine.activate host stream request
    Engine.modifyChannel fun c => { c with requests := c.requests + 1 }
    match w.channel.config.compliance.validate request with
    | none => return .ok ⟨"handle", .dispatch active.exchange⟩
    | some fault =>
      let cause ← Engine.newFailure (.badRequest fault.message)
      return .ok ⟨"bad-message", .abort cause⟩

/-- Takes the demand of the active exchange, now that there is content. -/
def onContentAvailable : Engine κ ε (Option (Task κ)) := do
  let demand ← Effect.gets fun w => w.channel.active.bind (·.demand)
  Engine.modifyActive fun a => { a with demand := none }
  Engine.offer .channel (demand.toList.map (⟨"demand", ·⟩))

/-- The tasks that deliver a failure to what was waiting on an exchange. -/
def deliveries (active : Active κ) (cause : FailureRef) : List (Task κ) :=
  active.demand.toList.map (⟨"demand", ·⟩) ++
  active.write.toList.map (fun callback => ⟨"write-failure", .complete callback (.error cause)⟩) ++
  active.errorListeners.map (.errorListener active.exchange · cause) ++
  [⟨"completion-failure", .fail active.exchange cause⟩]

/-- Stores the first failure of the active exchange, and takes from it what the failure is
delivered to. -/
def storeFailure (active : Active κ) (cause : FailureRef) : Engine κ ε Unit := do
  Engine.modifyExchange active.exchange fun x =>
    { x with failure := x.failure.or (some cause) }
  -- failing counts as processing, even before the handler was run
  if !active.processing then Engine.setPhase active.exchange .processing
  Engine.modifyActive fun a =>
    { a with
      error := some cause, processing := true, demand := none, write := none,
      errorListeners := [] }

/-- Fails an exchange that is active: its first failure is stored and delivered, a later one is
suppressed by the first. -/
def failActive (active : Active κ) (cause : FailureRef) : Engine κ ε (Option (Task κ)) :=
  match active.error with
  | some stored => do
    Engine.suppress stored cause
    return none
  | none => do
    storeFailure active cause
    Engine.offer .channel (deliveries active cause)

/-- Fails the active exchange, or one made up for the purpose if only a stream is attached. -/
def onError (host : Host κ ε) (cause : FailureRef) : Engine κ ε (Option (Task κ)) := do
  let w ← Effect.get
  match w.channel.stream with
  | none => return none
  | some stream =>
    match w.channel.active with
    | some active => failActive active cause
    | none =>
      -- an error response needs an exchange, even before any header
      let active ← Engine.activate host stream .bare
      failActive active cause

/-- The tasks that follow when the connection is gone: with a cause and a stream the exchange is
failed first, then the close listeners are told. -/
def closing (channel : Channel κ) (cause : Option FailureRef) : List (Task κ) :=
  (if channel.stream.isSome then cause.toList.map (⟨"close-error", .abort ·⟩) else []) ++
  channel.closeListeners.map (⟨"close-listener", .closeListener · cause⟩)

/-- The connection is gone. -/
def onClose (cause : Option FailureRef) : Engine κ ε (Option (Task κ)) := do
  let channel ← Effect.gets fun w => w.channel
  Engine.modifyChannel fun c => { c with closeListeners := [] }
  Engine.offer .channel (channel.closing cause)

/-- Registers code that is told when the connection is gone. -/
def addCloseListener (listener : κ) : Engine κ ε Unit :=
  Engine.modifyChannel fun c => { c with closeListeners := c.closeListeners ++ [listener] }

/-- Replaces the attached stream by what `transform` makes of it, in at most the given number of
rounds. Each round starts over if the stream was replaced meanwhile. -/
def wrapStreamWithin (transform : Stream → Engine κ ε Stream) :
    Nat → Engine κ ε (Except ExchangeError Unit)
  | 0 => .halt
  | rounds + 1 => do
    let before ← Effect.gets fun w => w.channel.stream
    match before with
    | none => return .error .noActiveStream
    | some current =>
      let wrapper ← transform current
      if wrapper.wrapped? ≠ some current then return .error .notWrapping
      let after ← Effect.gets fun w => w.channel.stream
      match after with
      | none => return .error .noActiveStream
      | some active =>
        if active = current then
          Engine.modifyChannel fun c => { c with stream := some wrapper }
          return .ok ()
        else wrapStreamWithin transform rounds

/-- Replaces the attached stream by a wrapper of it. -/
def wrapStream (host : Host κ ε) (transform : Stream → Engine κ ε Stream) :
    Engine κ ε (Except ExchangeError Unit) :=
  wrapStreamWithin transform host.patience

/-- A task of the channel's queue failed: a failed exchange suppresses it, otherwise it closes the
connection. -/
def taskFailed (host : Host κ ε) (failure : FailureRef) : Engine κ ε Unit := do
  let stored ← Effect.gets fun w => w.channel.active.bind (·.error)
  match stored with
  | some stored => Engine.suppress stored failure
  | none =>
    match ← onClose (some failure) with
    | some task => host.perform task.job
    | none => pure ()

end Channel

end HttpExchange
