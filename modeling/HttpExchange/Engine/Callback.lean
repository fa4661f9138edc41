import HttpExchange.Engine.Host

/-!
# Callbacks and promises

A callback is told once how its operation ended. A callback that resolves a promise and is lost
instead leaves the promise abandoned; whoever waits is woken in both cases.
-/

namespace HttpExchange

variable {κ ε : Type}

/-- Settles a pending promise, and wakes whoever waits for it. -/
def PromiseRef.settle (host : Host κ ε) (p : PromiseRef) (state : PromiseState) :
    Engine κ ε Unit := do
  let waker ← Effect.gets fun w => (w.promises[p.index]?).bind (·.waker)
  Effect.modify (·.tell p state)
  match waker with
  | some waker => host.run waker .ready
  | none => pure ()

namespace Callback

/-- Tells a callback how its operation ended. -/
def complete (host : Host κ ε) (callback : Callback κ) (result : Result) : Engine κ ε Unit :=
  match callback with
  | .code run => host.run run (.ended result)
  | .promise p => p.settle host (.resolved result)
  | .ignore => pure ()

/-- Loses a callback that was never told. -/
def drop (host : Host κ ε) : Callback κ → Engine κ ε Unit
  | .promise p => p.settle host .abandoned
  | _ => pure ()

end Callback

namespace PromiseRef

/-- A new promise that nothing has resolved. -/
def new : Engine κ ε PromiseRef :=
  .modifyGet fun w => (⟨w.promises.size⟩, { w with promises := w.promises.push ⟨.pending, none⟩ })

/-- Asks for the result. Without one, `waker` is run once there is. A promise whose callback was
lost answers with a failure. -/
def poll (p : PromiseRef) (waker : κ) : Engine κ ε (Option Result) := do
  let promise : Option (Promise κ) ← Effect.gets fun w => w.promises[p.index]?
  match promise with
  | some ⟨.pending, _⟩ =>
    Effect.modify fun w =>
      { w with promises := w.promises.modify p.index fun x => { x with waker := some waker } }
    return none
  | some ⟨.resolved result, _⟩ => return some result
  | _ => return some (.error (← Engine.newFailure .writeDropped))

/-- Stops waiting for the result. -/
def forget (p : PromiseRef) : Engine κ ε Unit :=
  .modify fun w =>
    { w with promises := w.promises.modify p.index fun x => { x with waker := none } }

end PromiseRef

end HttpExchange
