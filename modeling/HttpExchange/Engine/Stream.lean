import HttpExchange.Engine.Callback

/-!
# Streams and their wrappers

A call of a stream goes down the chain of wrappers to the transport. A listening wrapper tells its
listener the outcome of the exchange, once, before it passes it on; a panic of the listener stays
with it. A decorating wrapper sees the calls that pass, and takes no part in pushes.
-/

namespace HttpExchange

variable {κ ε : Type}

/-- A new slot that holds a listener. -/
def SlotRef.new (listener : Callback κ) : Engine κ ε SlotRef :=
  .modifyGet fun w => (⟨w.slots.size⟩, { w with slots := w.slots.push (some listener) })

/-- Tells the listener of a slot, if nobody has. -/
def SlotRef.notify (host : Host κ ε) (slot : SlotRef) (result : Result) : Engine κ ε Unit := do
  let listener ← Effect.modifyGet fun w =>
    ((w.slots[slot.index]?).join, { w with slots := w.slots.modify slot.index fun _ => none })
  match listener with
  | none => pure ()
  | some listener =>
    let _ ← Effect.attempt (listener.complete host result)

namespace Stream

/-- A wrapper that tells the listener of a slot. -/
def listen (inner : Stream) (slot : SlotRef) : Engine κ ε Stream := do
  return .listening (← Engine.newStream) slot inner

/-- A wrapper with a listener of its own. -/
def withListener (inner : Stream) (listener : Callback κ) : Engine κ ε Stream := do
  inner.listen (← SlotRef.new listener)

def read (host : Host κ ε) : Stream → Engine κ ε (Option (Content κ))
  | transport ref => host.transport.read ref
  | listening _ _ inner => inner.read host
  | decorated ref _ inner => do
    host.observe ref .read
    inner.read host

def demand (host : Host κ ε) : Stream → Engine κ ε Unit
  | transport ref => host.transport.demand ref
  | listening _ _ inner => inner.demand host
  | decorated ref _ inner => do
    host.observe ref .demand
    inner.demand host

def prepare (host : Host κ ε) (fields : Fields) :
    Stream → Engine κ ε (Fields × Option Panic)
  | transport ref => host.transport.prepare ref fields
  | listening _ _ inner => inner.prepare host fields
  | decorated ref _ inner => do
    host.observe ref .prepare
    inner.prepare host fields

def send (host : Host κ ε) (head : Option (ResponseHead × ExchangeRef)) (last : Bool)
    (ended : SendRef) (chunks : List Octets) : Stream → Engine κ ε Unit
  | transport ref => host.transport.send ref head last ended chunks
  | listening _ _ inner => inner.send host head last ended chunks
  | decorated ref _ inner => do
    host.observe ref .send
    inner.send host head last ended chunks

def push (host : Host κ ε) (request : RequestHead) : Stream → Engine κ ε Unit
  | transport ref => host.transport.push ref request
  | listening _ _ inner => inner.push host request
  | decorated _ _ _ => pure ()

def consumeAll (host : Host κ ε) : Stream → Engine κ ε (Option FailureRef)
  | transport ref => host.transport.consumeAll ref
  | listening _ _ inner => inner.consumeAll host
  | decorated ref _ inner => do
    host.observe ref .consumeAll
    inner.consumeAll host

def succeeded (host : Host κ ε) : Stream → Engine κ ε Unit
  | transport ref => host.transport.succeeded ref
  | listening _ slot inner => do
    slot.notify host (.ok ())
    inner.succeeded host
  | decorated ref _ inner => do
    host.observe ref .succeeded
    inner.succeeded host

def failed (host : Host κ ε) (cause : FailureRef) : Stream → Engine κ ε Unit
  | transport ref => host.transport.failed ref cause
  | listening _ slot inner => do
    slot.notify host (.error cause)
    inner.failed host cause
  | decorated ref _ inner => do
    host.observe ref .failed
    inner.failed host cause

end Stream

end HttpExchange
