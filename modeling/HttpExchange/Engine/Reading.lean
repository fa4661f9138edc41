import HttpExchange.Engine.Drain

/-!
# The request side of an exchange

Content is read when there is some; if there is none, code is registered to run once there may be.
A failed exchange answers every read with its failure and runs every demand at once.
-/

namespace HttpExchange

variable {κ ε : Type}

namespace ExchangeRef

/-- Reads the next content. Without any, the answer is nothing. An exchange that failed, is not
processing or ended answers with an error and leaves the stream alone. -/
def readContent (host : Host κ ε) (e : ExchangeRef) : Engine κ ε (Option (Content κ)) := do
  match ← Engine.activeFor? e with
  | none =>
    match (← Engine.exchange e).failure with
    | some failure => return some (.error failure)
    | none => return some (.error (← Engine.newFailure .completed))
  | some active =>
    match active.error with
    | some failure => return some (.error failure)
    | none =>
      if !active.processing then
        return some (.error (← Engine.newFailure .notProcessing))
      let stream ← Effect.gets fun w => w.channel.stream
      match stream with
      | none => return none
      | some stream => stream.read host

/-- Asks for a job to be done once content can be read. If there is nothing to wait for it is done
right away, and the next read tells why. -/
def demandContent (host : Host κ ε) (e : ExchangeRef) (job : Job κ) :
    Engine κ ε (Except ExchangeError Unit) := do
  let stream ← Effect.gets fun w => w.channel.stream
  match ← Engine.activeFor? e with
  | none =>
    if (← Engine.exchange e).failure.isNone then return .error .completed
    Engine.enter (.demanded e job)
    Engine.runQueued host "demand" job
    return .ok ()
  | some active =>
    if active.error.isNone && active.processing then
      if active.demand.isSome then return .error .secondDemand
      Engine.enter (.demanded e job)
      Engine.modifyActive fun a => { a with demand := some job }
      match stream with
      | some stream => stream.demand host
      | none => pure ()
    else
      Engine.enter (.demanded e job)
      Engine.runQueued host "demand" job
    return .ok ()

/-- Registers code that is told the failure of the exchange; one that failed already tells it right
away. -/
def addErrorListener (host : Host κ ε) (e : ExchangeRef) (listener : κ) : Engine κ ε Unit := do
  let told ← match ← Engine.activeFor? e with
    | some active => pure active.error
    | none => pure (← Engine.exchange e).failure
  match told with
  | some failure =>
    Engine.note (.listening e listener)
    Engine.enter (.listened e listener)
    Queue.run host .channel (.errorListener e listener failure)
  | none =>
    if (← Engine.activeFor? e).isSome then
      Engine.note (.listening e listener)
      Engine.enter (.listened e listener)
      Engine.modifyActive fun a => { a with errorListeners := a.errorListeners ++ [listener] }
    else
      Effect.modify (·.enterIgnored e listener)

/-- Registers a callback for the outcome of the exchange, told before the transport is. -/
def addCompletionListener (host : Host κ ε) (e : ExchangeRef) (listener : Callback κ) :
    Engine κ ε (Except ExchangeError Unit) := do
  if (← Engine.activeFor? e).isNone then return .error .completed
  let slot ← SlotRef.new listener
  Channel.wrapStream host (·.listen slot)

/-- Lets the application start reading and writing. -/
def enableProcessing (e : ExchangeRef) : Engine κ ε Unit := do
  if (← Engine.activeFor? e).isSome then
    Engine.modifyActive fun a => { a with processing := true }
    Engine.setPhase e .processing

end ExchangeRef

end HttpExchange
