import HttpExchange.Effect
import HttpExchange.Engine.State
import HttpExchange.ErrorPage

/-!
# What the engine is run by

The engine calls back into its surroundings: it runs stored application code, it uses the streams
of the transport, it has error pages rendered. A `Host` says how each of these is done. Everything
the engine does is given a host, so a statement about the engine can speak of all surroundings at
once.

`perform` does a deferred job. It is a part of the host because a job can defer and do further
jobs, without end in sight; `patience` bounds the rounds of the engine's own loops.
-/

namespace HttpExchange

/-- Computations of the engine. -/
abbrev Engine (κ ε : Type) := Effect (World κ ε)

/-- The calls of a stream that a decorating wrapper sees. -/
inductive StreamCall
  | read | demand | prepare | send | consumeAll | succeeded | failed
  deriving DecidableEq

/-- What the transport's streams do. -/
structure Transport (κ ε : Type) where
  /-- The identifier of a stream within its connection. -/
  id : ε → StreamRef → String
  /-- Whether response bytes have been handed to the wire. -/
  isCommitted : ε → StreamRef → Bool
  /-- The next content, or nothing if none is ready. -/
  read : StreamRef → Engine κ ε (Option (Content κ))
  /-- Asks to signal once content is ready. -/
  demand : StreamRef → Engine κ ε Unit
  /-- Changes the fields before the first send. A panic keeps what was changed before it. -/
  prepare : StreamRef → Fields → Engine κ ε (Fields × Option Panic)
  /-- Sends bytes; `trailers` names the exchange whose trailers belong to a head. -/
  send : StreamRef → Option (ResponseHead × ExchangeRef) → (last : Bool) → SendRef →
    List Octets → Engine κ ε Unit
  /-- Pushes a resource, if it can. -/
  push : StreamRef → RequestHead → Engine κ ε Unit
  /-- Discards unread content, and says so if some is left. -/
  consumeAll : StreamRef → Engine κ ε (Option FailureRef)
  succeeded : StreamRef → Engine κ ε Unit
  failed : StreamRef → FailureRef → Engine κ ε Unit

/-- The surroundings of the engine. -/
structure Host (κ ε : Type) where
  /-- Runs application code. -/
  run : κ → Signal → Engine κ ε Unit
  transport : Transport κ ε
  /-- Lets a decorating wrapper see a call before it is passed on. -/
  observe : StreamRef → StreamCall → Engine κ ε Unit
  /-- Handles an exchange; a text says why it cannot. -/
  handle : ExchangeRef → Engine κ ε (Option String)
  /-- Renders the body of an error response and fills in its fields. -/
  render : RequestHead → ErrorPage → Fields → Engine κ ε (Octets × Fields)
  /-- Hears of a task of the standalone queue that failed. -/
  taskFailed : String → FailureRef → Engine κ ε Unit
  /-- Does a deferred job. -/
  perform : Job κ → Engine κ ε Unit
  /-- The current date. -/
  now : FieldValue
  /-- How many rounds a loop may take before everything is cut off. -/
  patience : Nat

namespace Engine

variable {κ ε : Type}

/-- A new failure of this error. -/
def newFailure (error : ExchangeError) : Engine κ ε FailureRef :=
  .modifyGet fun w => (w.failures.next, { w with failures := w.failures.add error })

/-- The failure that a panic is turned into. -/
def panicFailure (p : Panic) : Engine κ ε FailureRef := newFailure (.application p.message)

/-- Records a failure as suppressed by an earlier one. -/
def suppress (f other : FailureRef) : Engine κ ε Unit :=
  .modify fun w => { w with failures := w.failures.suppress f other }

def errorOf (f : FailureRef) : Engine κ ε ExchangeError := .gets fun w => (w.failures.get f).error

/-- Writes down what the engine does. -/
def note (d : Deed κ) : Engine κ ε Unit := .modify (·.note d)

/-- Enters who waits, or what became of somebody who does. -/
def enter (entry : Entry κ) : Engine κ ε Unit := .modify (·.enter entry)

def exchange (e : ExchangeRef) : Engine κ ε Exchange := .gets (·.exchange e)

def modifyExchange (e : ExchangeRef) (f : Exchange → Exchange) : Engine κ ε Unit :=
  .modify (·.modifyExchange e f)

def setPhase (e : ExchangeRef) (phase : Phase) : Engine κ ε Unit :=
  modifyExchange e fun x => { x with phase }

def response (e : ExchangeRef) : Engine κ ε Response := .gets fun w => (w.exchange e).response

def modifyResponse (e : ExchangeRef) (f : Response → Response) : Engine κ ε Unit :=
  .modify (·.modifyResponse e f)

/-- A new exchange on the given stream; it is not active yet. -/
def newExchange (host : Host κ ε) (stream : Stream) (request : RequestHead) :
    Engine κ ε ExchangeRef :=
  .modifyGet fun w =>
    let id := w.channel.connectionId ++ "#" ++ host.transport.id w.outside stream.base
    let fields := w.channel.config.standardFields host.now
    (⟨w.exchanges.size⟩, { w with exchanges := w.exchanges.push (.fresh id request fields) })

/-- The identity of a new stream object. -/
def newStream : Engine κ ε StreamRef :=
  .modifyGet fun w => (⟨w.streamCount⟩, { w with streamCount := w.streamCount + 1 })

end Engine

end HttpExchange
