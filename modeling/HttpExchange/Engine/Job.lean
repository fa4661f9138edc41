import HttpExchange.Engine.Body
import HttpExchange.Engine.Ending

/-!
# Deferred jobs

What each deferred job does.
-/

namespace HttpExchange

variable {κ ε : Type}

/-- Hands an exchange to the handler. A handler that refuses or panics fails the exchange, unless
it has ended. -/
def ExchangeRef.dispatch (host : Host κ ε) (e : ExchangeRef) : Engine κ ε Unit := do
  e.enableProcessing
  match ← Effect.attempt (host.handle e) with
  | .ok none => pure ()
  | .ok (some why) => e.fail host (← Engine.newFailure (.application why))
  | .error p => e.fail host (← Engine.panicFailure p)

namespace Job

/-- Fails the active exchange and works off what that deferred. -/
def abortNow (host : Host κ ε) (cause : FailureRef) : Engine κ ε Unit := do
  match ← Channel.onError host cause with
  | some task => host.perform task.job
  | none => pure ()

/-- Does a deferred job. -/
def perform (host : Host κ ε) : Job κ → Engine κ ε Unit
  | .code run signal => host.run run signal
  | .wakeBody body => body.wake host
  | .complete callback result => callback.complete host result
  | .errorListener _ run cause => host.run run (.failed cause)
  | .closeListener run cause => do
    let _ ← Effect.attempt (host.run run (.closed cause))
  | .abort cause => abortNow host cause
  | .fail e cause => e.fail host cause
  | .dispatch e => e.dispatch host
  | .drain name => Queue.drain host name

variable (host : Host κ ε)

@[simp] theorem perform_code (run : κ) (signal : Signal) :
    (code run signal).perform host = host.run run signal := rfl

/-- Code that is the callback of an operation is run and told how that ended. -/
@[simp] theorem perform_complete_code (run : κ) (result : Result) :
    (complete (.code run) result).perform host = host.run run (.ended result) := rfl

/-- A promise is settled with the result. -/
@[simp] theorem perform_complete_promise (p : PromiseRef) (result : Result) :
    (complete (.promise p) result).perform host = p.settle host (.resolved result) := rfl

@[simp] theorem perform_complete_ignore (result : Result) :
    (complete .ignore result).perform host = (pure () : Engine κ ε Unit) := rfl

/-- An error listener is run and told the failure. -/
@[simp] theorem perform_errorListener (e : ExchangeRef) (run : κ) (cause : FailureRef) :
    (errorListener e run cause).perform host = host.run run (.failed cause) := rfl

/-- A close listener is run and told the cause; its panic ends here. -/
@[simp] theorem perform_closeListener (run : κ) (cause : Option FailureRef) :
    (closeListener run cause).perform host =
      (Effect.attempt (host.run run (.closed cause)) >>= fun _ => pure ()) := rfl

end Job

end HttpExchange
