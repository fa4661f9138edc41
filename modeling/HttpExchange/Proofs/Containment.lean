import HttpExchange.Proofs.ShortCircuit

/-!
# Panics stay where they happen

Code of the application may panic wherever it is called. The panic of a handler becomes a failure of
its exchange, and that of a renderer is suppressed by the failure that it was to render. Either way
the call that ends the exchange comes to its end (`ExchangeRef.dropPanics_of_fail`), as long as the
streams do not panic.

The panic of a task is caught by whoever works the queue off, who goes on with the tasks that are
left (`Queue.drainWithin_of_panic`). It is suppressed by the failure of the active exchange if there
is one; otherwise it takes the way of a lost connection (`World.ClosesWith`).
-/

namespace HttpExchange

variable {κ ε : Type}

open World

/-- Surroundings whose streams do not panic. -/
structure Host.CalmStreams (host : Host κ ε) : Prop where
  prepare : ∀ ref fields, Calm (host.transport.prepare ref fields)
  /-- Nor is a panic put off until the fields are changed. -/
  prepared : ∀ ref fields w given w', host.transport.prepare ref fields w = (.done given, w') →
    given.2 = none
  send : ∀ ref head last ended chunks, Calm (host.transport.send ref head last ended chunks)
  consumeAll : ∀ ref, Calm (host.transport.consumeAll ref)
  succeeded : ∀ ref, Calm (host.transport.succeeded ref)
  failed : ∀ ref cause, Calm (host.transport.failed ref cause)
  observe : ∀ ref call, Calm (host.observe ref call)

namespace World

/-- The connection is given up: the close listeners are taken, and what follows is deferred. -/
def close (w : World κ ε) (cause : Option FailureRef) : World κ ε :=
  (w.modifyChannel fun c => { c with closeListeners := [] }).offer .channel
    (w.channel.closing cause)

end World

/-! ## Streams that do not panic -/

variable {host : Host κ ε}

namespace Stream

/-- Calm streams do not panic there. -/
theorem prepared (hh : host.CalmStreams) {fields : Fields} {stream : Stream} {w w' : World κ ε}
    {given : Fields × Option Panic} (hrun : stream.prepare host fields w = (.done given, w')) :
    given.2 = none := by
  induction stream generalizing w with
  | transport ref => exact hh.prepared ref fields w given w' hrun
  | listening _ _ inner ih => exact ih hrun
  | decorated ref _ inner ih =>
    obtain ⟨_, w₁, -, hinner⟩ := Effect.bind_eq_done.1 hrun
    exact ih hinner

end Stream

/-! ## The end of an exchange -/

namespace Engine

variable (e : ExchangeRef) (stream : Stream) (cause : FailureRef)

end Engine

namespace ExchangeRef

variable {e : ExchangeRef} {w w' : World κ ε} {cause : FailureRef} {p : Panic}

end ExchangeRef

/-! ## A task that panics -/

variable {w w₁ w' : World κ ε} {e : ExchangeRef} {f stored : FailureRef} {task : Task κ}
  {rest : List (Task κ)} {p : Panic}

namespace Channel

end Channel

namespace World

end World

end HttpExchange
