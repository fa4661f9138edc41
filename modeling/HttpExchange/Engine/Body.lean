import HttpExchange.Engine.Reading

/-!
# Polled request bodies

A body reads while there is content. When there is none it demands some, once, and whoever polls
is woken when the demand is answered.
-/

namespace HttpExchange

variable {κ ε : Type}

/-- What polling a body gives. -/
inductive Frame
  /-- Nothing yet; the poller is woken later. -/
  | pending
  | finished
  | data (bytes : Octets)
  | trailers (fields : Fields)
  | failed (failure : FailureRef)
  deriving DecidableEq

namespace BodyRef

/-- A body over the content of an exchange. -/
def new (e : ExchangeRef) : Engine κ ε BodyRef :=
  .modifyGet fun w =>
    (⟨w.bodies.size⟩, { w with bodies := w.bodies.push ⟨e, none, false, false⟩ })

def modify (b : BodyRef) (f : RequestBody κ → RequestBody κ) : Engine κ ε Unit :=
  .modify fun w => { w with bodies := w.bodies.modify b.index f }

def get? (b : BodyRef) : Engine κ ε (Option (RequestBody κ)) := .gets fun w => w.bodies[b.index]?

/-- The demand of a body is answered: whoever polls is woken. -/
def wake (host : Host κ ε) (b : BodyRef) : Engine κ ε Unit := do
  let waker := (← b.get?).bind (·.waker)
  b.modify fun x => { x with inFlight := false, waker := none }
  match waker with
  | some waker => host.run waker .ready
  | none => pure ()

/-- Demands content, unless a demand is on its way. -/
def demand (host : Host κ ε) (b : BodyRef) (body : RequestBody κ) :
    Engine κ ε (Except FailureRef Unit) := do
  if body.inFlight then return .ok ()
  b.modify fun x => { x with inFlight := true }
  match ← body.exchange.demandContent host (.wakeBody b) with
  | .ok () => return .ok ()
  | .error fault =>
    b.modify fun x => { x with inFlight := false }
    return .error (← Engine.newFailure fault)

/-- Reads until there is something to give, in at most the given number of rounds. -/
def pollWithin (host : Host κ ε) (b : BodyRef) (e : ExchangeRef) : Nat → Engine κ ε Frame
  | 0 => .halt
  | rounds + 1 => do
    match ← e.readContent host with
    | some (.chunk bytes last release) =>
      b.modify fun x => { x with finished := last }
      match release with
      | some release => host.run release .ready
      | none => pure ()
      if !bytes.isEmpty then return .data bytes
      else if last then return .finished
      else pollWithin host b e rounds
    | some (.trailers fields) =>
      b.modify fun x => { x with finished := true }
      return .trailers fields
    | some (.error failure) =>
      b.modify fun x => { x with finished := true }
      return .failed failure
    | none =>
      match ← b.get? with
      | none => return .finished
      | some body =>
        match ← b.demand host body with
        | .error failure =>
          b.modify fun x => { x with finished := true }
          return .failed failure
        | .ok () =>
          -- the demand may have been answered while it was made
          let inFlight : Bool ← Effect.gets fun w => (w.bodies[b.index]?).any (·.inFlight)
          if inFlight then return .pending else pollWithin host b e rounds

/-- Polls a body. Without anything to give, `waker` is run once there may be. -/
def poll (host : Host κ ε) (b : BodyRef) (waker : κ) : Engine κ ε Frame := do
  match ← b.get? with
  | none => return .finished
  | some body =>
    if body.finished then return .finished
    b.modify fun x => { x with waker := some waker }
    pollWithin host b body.exchange host.patience

/-- Whether everything has been given. -/
def isFinished (b : BodyRef) : Engine κ ε Bool :=
  .gets fun w => (w.bodies[b.index]?).any (·.finished)

/-- The least number of bytes to expect, and the greatest if it is known. -/
def sizeHint (b : BodyRef) : Engine κ ε (Nat × Option Nat) :=
  .gets fun w =>
    match (w.bodies[b.index]?).bind fun body => (w.exchange body.exchange).request.contentLength?
    with
    | some length => (length, some length)
    | none => (0, none)

end BodyRef

end HttpExchange
