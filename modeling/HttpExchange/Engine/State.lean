import HttpExchange.Config
import HttpExchange.Failure
import HttpExchange.Http.ResponseHead

/-!
# The state of the engine

A channel serves one connection and runs one exchange at a time. `Channel` is what the engine
knows of the connection, `Active` the part of the running exchange that is lost when it ends, and
`Exchange` the part that handles on it can still ask for afterwards.

`World` holds all of it, the queues of deferred tasks, and, as `outside`, whatever the transport
and the application keep for themselves. The type `κ` stands for the code of the application: the
engine stores it, hands it on and has it run, and never looks into it.

The engine also writes down what it did (`Deed`): which tasks were offered and started, who listens
for failures, what each exchange sent, and how it ended. Beside that it keeps a ledger of all who
wait for something (`Entry`): who was given to it, what became of writes, and who was dropped.
Nothing reads these records while the engine runs; they are what statements about a whole run speak
of.
-/

namespace HttpExchange

structure ExchangeRef where
  index : Nat
  deriving DecidableEq

structure StreamRef where
  index : Nat
  deriving DecidableEq

structure SlotRef where
  index : Nat
  deriving DecidableEq

structure SendRef where
  index : Nat
  deriving DecidableEq

structure PromiseRef where
  index : Nat
  deriving DecidableEq

structure BodyRef where
  index : Nat
  deriving DecidableEq

/-- How an operation ended: well, or with a failure. -/
abbrev Result := Except FailureRef Unit

instance Result.decidableEq : DecidableEq Result
  | .ok (), .ok () => isTrue rfl
  | .error a, .error b => decidable_of_iff (a = b) ⟨congrArg _, Except.error.inj⟩
  | .ok _, .error _ => isFalse nofun
  | .error _, .ok _ => isFalse nofun

/-- What a stored piece of application code is told when it runs. -/
inductive Signal
  /-- It is time to go on. -/
  | ready
  /-- The operation ended. -/
  | ended (result : Result)
  /-- The exchange failed. -/
  | failed (cause : FailureRef)
  /-- The connection is gone. -/
  | closed (cause : Option FailureRef)
  deriving DecidableEq

/-- Whom to tell how an operation ended. -/
inductive Callback (κ : Type)
  | code (run : κ)
  | promise (promise : PromiseRef)
  | ignore
  deriving DecidableEq

/-- The transport side of one exchange. Every stream object has an identity of its own; a wrapper
knows what it wraps. -/
inductive Stream
  /-- A stream of the transport. -/
  | transport (ref : StreamRef)
  /-- A wrapper that reports the outcome of the exchange to a listener first. -/
  | listening (ref : StreamRef) (slot : SlotRef) (inner : Stream)
  /-- A wrapper of the application, which may conceal what it wraps. -/
  | decorated (ref : StreamRef) (reported : Bool) (inner : Stream)
  deriving DecidableEq

namespace Stream

def ref : Stream → StreamRef
  | transport ref => ref
  | listening ref _ _ => ref
  | decorated ref _ _ => ref

/-- The stream that a wrapper reports to wrap. -/
def wrapped? : Stream → Option Stream
  | transport _ => none
  | listening _ _ inner => some inner
  | decorated _ reported inner => if reported then some inner else none

/-- The transport's stream at the end of a chain of wrappers. -/
def base : Stream → StreamRef
  | transport ref => ref
  | listening _ _ inner => inner.base
  | decorated _ _ inner => inner.base

end Stream

/-- What the engine asks a stream to call when a send ended. -/
inductive SendCallback (κ : Type)
  /-- A callback that is none of the engine's. -/
  | direct (callback : Callback κ)
  /-- Completes the pending write of the exchange. -/
  | pendingWrite (exchange : ExchangeRef)
  /-- Tells the stream the outcome of the final frame. -/
  | finalFrame (exchange : ExchangeRef) (stream : Stream)
  /-- Fails the stream with the cause that the error response was rendered for. -/
  | errorResponse (exchange : ExchangeRef) (stream : Stream) (cause : FailureRef)
  deriving DecidableEq

/-- One item read from the request side. -/
inductive Content (κ : Type)
  /-- Body bytes; the code in `release` gives the buffer back and runs once. -/
  | chunk (bytes : Octets) (last : Bool) (release : Option κ)
  | trailers (fields : Fields)
  | error (failure : FailureRef)

/-- The two queues of tasks: the one of the channel, and one that stands alone. -/
inductive QueueName
  | channel | standalone
  deriving DecidableEq

/-- Deferred work. -/
inductive Job (κ : Type)
  /-- Runs application code. -/
  | code (run : κ) (signal : Signal)
  /-- Tells a request body that content may be there. -/
  | wakeBody (body : BodyRef)
  /-- Tells a callback how its operation ended. -/
  | complete (callback : Callback κ) (result : Result)
  /-- Tells an error listener of an exchange its failure. -/
  | errorListener (exchange : ExchangeRef) (run : κ) (cause : FailureRef)
  /-- Tells a close listener that the connection is gone; its panic is kept to itself. -/
  | closeListener (run : κ) (cause : Option FailureRef)
  /-- Fails the active exchange and delivers the failure. -/
  | abort (cause : FailureRef)
  /-- Ends an exchange with a failure. -/
  | fail (exchange : ExchangeRef) (cause : FailureRef)
  /-- Hands an exchange to the handler. -/
  | dispatch (exchange : ExchangeRef)
  /-- Works a queue off. -/
  | drain (queue : QueueName)
  deriving DecidableEq

/-- Deferred work with its name. -/
structure Task (κ : Type) where
  name : String
  job : Job κ
  deriving DecidableEq

/-- Tasks that run one at a time, in the order of the offers. -/
structure Queue (κ : Type) where
  tasks : List (Task κ)
  /-- Whether somebody works the queue off, or has been asked to. -/
  draining : Bool

def Queue.idle {κ : Type} : Queue κ := ⟨[], false⟩

/-- Where an exchange is in its life. -/
inductive Phase
  /-- The header was received. -/
  | created
  /-- The application may read and write. -/
  | processing
  /-- The completion was signalled. -/
  | completing
  /-- The final frame was handed to the stream. -/
  | terminal
  deriving DecidableEq

/-- The response as far as it is prepared. -/
structure Response where
  status : Option Status
  fields : Fields
  /-- Whether a write has fixed the head. -/
  committed : Bool
  /-- Body bytes admitted so far. -/
  written : Nat
  /-- The body length fixed with the head. -/
  committedLength : Option Nat
  /-- Whether the last write has been admitted. -/
  lastWritten : Bool
  deriving DecidableEq

/-- A response that nobody has touched. -/
def Response.fresh (standard : Fields) : Response := ⟨none, standard, false, 0, none, false⟩

/-- What remains known of an exchange as long as there are handles on it. -/
structure Exchange where
  id : String
  request : RequestHead
  response : Response
  trailers : Option Fields
  phase : Phase
  /-- The failure that was delivered to the exchange. -/
  failure : Option FailureRef
  deriving DecidableEq

def Exchange.fresh (id : String) (request : RequestHead) (standard : Fields) : Exchange :=
  ⟨id, request, .fresh standard, none, .created, none⟩

instance : Inhabited Exchange := ⟨.fresh "" .bare .empty⟩

/-- The part of an exchange that is lost when it ends. -/
structure Active (κ : Type) where
  exchange : ExchangeRef
  processing : Bool
  error : Option FailureRef
  errorListeners : List κ
  demand : Option (Job κ)
  write : Option (Callback κ)

def Active.fresh {κ : Type} (exchange : ExchangeRef) : Active κ :=
  ⟨exchange, false, none, [], none, none⟩

/-- One connection. -/
structure Channel (κ : Type) where
  connectionId : String
  version : Version
  config : Config
  /-- Whether the connection may serve another exchange. -/
  persistent : Bool
  stream : Option Stream
  active : Option (Active κ)
  closeListeners : List κ
  /-- Request headers delivered so far. -/
  requests : Nat

def Channel.fresh {κ : Type} (connectionId : String) (version : Version) (config : Config)
    (persistent : Bool) : Channel κ :=
  ⟨connectionId, version, config, persistent, none, none, [], 0⟩

/-- Why a channel cannot be set up. -/
inductive SetupError
  | missingHandler
  deriving DecidableEq

def SetupError.message : SetupError → String
  | .missingHandler => "a handler is required to build a channel"

/-- The number that names a connection without an identifier, after so many of them. -/
def Channel.automaticId (before : Nat) : Nat := before + 1

/-- The result of an operation that somebody may wait for. -/
inductive PromiseState
  | pending
  | resolved (result : Result)
  /-- The callback that would have resolved it is gone. -/
  | abandoned
  deriving DecidableEq

structure Promise (κ : Type) where
  state : PromiseState
  waker : Option κ

/-- A request body that is read by polling. -/
structure RequestBody (κ : Type) where
  exchange : ExchangeRef
  waker : Option κ
  /-- Whether a demand of this body is on its way. -/
  inFlight : Bool
  finished : Bool

/-- One call that hands bytes to a stream. -/
structure Sending (κ : Type) where
  ref : SendRef
  stream : Stream
  head : Option ResponseHead
  last : Bool
  /-- What is done once the stream tells how the send ended. -/
  callback : SendCallback κ
  chunks : List Octets
  deriving DecidableEq

/-- Something that the engine did. -/
inductive Deed (κ : Type)
  /-- Tasks were offered to a queue. -/
  | offered (queue : QueueName) (tasks : List (Task κ))
  /-- A task was taken from a queue, to be run. -/
  | started (queue : QueueName) (task : Task κ)
  /-- A stream was attached to the channel. -/
  | attached (stream : Stream)
  /-- An error listener was registered with an exchange, or told its failure at once. -/
  | listening (exchange : ExchangeRef) (listener : κ)
  /-- Bytes were handed to the stream of an exchange. -/
  | sent (exchange : ExchangeRef) (sending : Sending κ)
  /-- The callback of a send was called. -/
  | sendEnded (exchange : ExchangeRef) (ref : SendRef) (result : Result)
  /-- The bytes written for an exchange were found not to fit the fixed body length. -/
  | mismatched (exchange : ExchangeRef)
  /-- The exchange was detached from the channel together with its stream, by a success or by
  failing it with a cause. -/
  | ended (exchange : ExchangeRef) (stream : Option Stream) (cause : Option FailureRef)
  /-- The stream was told that the exchange succeeded. -/
  | succeeded (exchange : ExchangeRef) (stream : Stream)
  /-- The stream was told that the exchange failed. -/
  | failed (exchange : ExchangeRef) (stream : Stream) (cause : FailureRef)
  /-- The call that detached the exchange had nothing more to do. -/
  | concluded (exchange : ExchangeRef)
  deriving DecidableEq

/-- Code that waits: for the end of a write, for content, or for the failure of an exchange. -/
inductive Waiter (κ : Type)
  | write (callback : Callback κ)
  | demand (job : Job κ)
  | listener (exchange : ExchangeRef) (run : κ)
  deriving DecidableEq

/-- Everybody who waits on the running part of an exchange. -/
def Active.waiters {κ : Type} (active : Active κ) : List (Waiter κ) :=
  active.demand.toList.map .demand ++ active.write.toList.map .write ++
    active.errorListeners.map (.listener active.exchange)

/-- An entry in the ledger of those who wait. -/
inductive Entry (κ : Type)
  /-- A write was called; whether the head was fixed by then. -/
  | wrote (exchange : ExchangeRef) (callback : Callback κ) (last : Bool) (chunks : List Octets)
    (committed : Bool)
  /-- A demand was accepted. -/
  | demanded (exchange : ExchangeRef) (job : Job κ)
  /-- An error listener was accepted. -/
  | listened (exchange : ExchangeRef) (listener : κ)
  /-- An error listener came after the end of an exchange that had no failure. -/
  | ignored (exchange : ExchangeRef) (listener : κ)
  /-- The bytes of a write are handed to the stream, under this identity. -/
  | sending (ref : SendRef) (callback : Callback κ)
  /-- A write is refused with this failure. -/
  | refused (callback : Callback κ) (cause : FailureRef)
  /-- Somebody still waited when the exchange was detached, by a success or by failing it with a
  cause. -/
  | dropped (waiter : Waiter κ) (exchange : ExchangeRef) (cause : Option FailureRef)
  /-- The callback of a promise was told, or lost. -/
  | told (promise : PromiseRef) (state : PromiseState)
  deriving DecidableEq

/-- Everything that can change. -/
structure World (κ ε : Type) where
  failures : Failures
  exchanges : Array Exchange
  channel : Channel κ
  channelQueue : Queue κ
  standaloneQueue : Queue κ
  /-- Callbacks of sends, until they are called. -/
  sends : Array (Option (SendCallback κ))
  /-- Listeners of stream wrappers, until they are told. -/
  slots : Array (Option (Callback κ))
  promises : Array (Promise κ)
  bodies : Array (RequestBody κ)
  /-- The number of stream objects made so far. -/
  streamCount : Nat
  /-- What the engine did, latest first. -/
  deeds : List (Deed κ)
  /-- Who waited and what became of it, latest first. -/
  ledger : List (Entry κ)
  outside : ε

namespace World

variable {κ ε : Type}

/-- The world before anything happened. -/
def start (channel : Channel κ) (outside : ε) : World κ ε :=
  ⟨.empty, #[], channel, .idle, .idle, #[], #[], #[], #[], 0, [], [], outside⟩

def exchange (w : World κ ε) (e : ExchangeRef) : Exchange := w.exchanges.getD e.index default

def modifyExchange (w : World κ ε) (e : ExchangeRef) (f : Exchange → Exchange) : World κ ε :=
  { w with exchanges := w.exchanges.modify e.index f }

def modifyResponse (w : World κ ε) (e : ExchangeRef) (f : Response → Response) : World κ ε :=
  w.modifyExchange e fun x => { x with response := f x.response }

def modifyChannel (w : World κ ε) (f : Channel κ → Channel κ) : World κ ε :=
  { w with channel := f w.channel }

def modifyActive (w : World κ ε) (f : Active κ → Active κ) : World κ ε :=
  w.modifyChannel fun c => { c with active := c.active.map f }

/-- The callback of a send, if nobody has called it. -/
def sendCallback? (w : World κ ε) (ref : SendRef) : Option (SendCallback κ) :=
  (w.sends[ref.index]?).join

/-- The running part of an exchange, if it is the active one. -/
def activeFor? (w : World κ ε) (e : ExchangeRef) : Option (Active κ) :=
  w.channel.active.filter (·.exchange = e)

def queue (w : World κ ε) : QueueName → Queue κ
  | .channel => w.channelQueue
  | .standalone => w.standaloneQueue

def setQueue (w : World κ ε) (name : QueueName) (q : Queue κ) : World κ ε :=
  match name with
  | .channel => { w with channelQueue := q }
  | .standalone => { w with standaloneQueue := q }

def note (w : World κ ε) (d : Deed κ) : World κ ε := { w with deeds := d :: w.deeds }

def enter (w : World κ ε) (entry : Entry κ) : World κ ε := { w with ledger := entry :: w.ledger }

/-- Enters a listener that came too late to an exchange that there is. -/
def enterIgnored (w : World κ ε) (e : ExchangeRef) (listener : κ) : World κ ε :=
  if e.index < w.exchanges.size then w.enter (.ignored e listener) else w

/-- Enters whose bytes the next send has. -/
def enterSending (w : World κ ε) (callback : Callback κ) : World κ ε :=
  w.enter (.sending ⟨w.sends.size⟩ callback)

/-- Enters whoever still waits on the active exchange as dropped with it. -/
def enterDropped (w : World κ ε) (e : ExchangeRef) (cause : Option FailureRef) : World κ ε :=
  let waiters := w.channel.active.toList.flatMap (·.waiters)
  { w with ledger := waiters.map (.dropped · e cause) ++ w.ledger }

/-- Settles a promise, if there is one. -/
def tell (w : World κ ε) (p : PromiseRef) (state : PromiseState) : World κ ε :=
  if p.index < w.promises.size then
    { w.enter (.told p state) with promises := w.promises.modify p.index fun _ => ⟨state, none⟩ }
  else w

end World

end HttpExchange
