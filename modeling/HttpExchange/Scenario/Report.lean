import HttpExchange.Engine.Host
import HttpExchange.Http.Date

/-!
# What a scenario reports

Every step answers with a `Reply`; what happened meanwhile is a list of `Event`s. Failures are
shown as they are at that moment (`FailureView`), under names that tell which ones are the same.
-/

namespace HttpExchange

/-- The fields in the order of their names, with the octets of each value. Dates are not shown:
what matters of them is that they are there. -/
def Fields.listed (fields : Fields) : List (Octets × Octets) :=
  (fields.entries.map fun (name, value) =>
    (name.octets,
      if name = .date ∧ Date.isDate value.octets then Octets.ofString "<date>"
      else value.octets)).mergeSort
    fun a b => !decide (b.1 < a.1)

namespace Scenario

/-- A failure at the moment when it is shown. -/
structure FailureView where
  name : String
  error : ExchangeError
  text : String
  /-- Name and text of each failure that it suppressed. -/
  suppressed : List (String × String)

/-- Something that a scenario refers to and that is not there. -/
inductive Problem
  | unknownStep | unknownCall | unknownErrorKind | unknownFieldEdit
  | noChannel | noHandle | noCompletion | noStream | noTask | noBody | noPromise | noQueue
  deriving DecidableEq

def Problem.message : Problem → String
  | .unknownStep => "unknown step"
  | .unknownCall => "unknown call"
  | .unknownErrorKind => "unknown error kind"
  | .unknownFieldEdit => "unknown header edit"
  | .noChannel => "no channel"
  | .noHandle => "no handle"
  | .noCompletion => "no completion"
  | .noStream => "no stream"
  | .noTask => "no task"
  | .noBody => "no body"
  | .noPromise => "no future"
  | .noQueue => "no invoker"

/-- Why a step was not done. -/
inductive Fault
  | problem (problem : Problem)
  /-- A part of a head is not valid. -/
  | head (error : HeadError)
  /-- The engine refused. -/
  | refused (error : ExchangeError)

/-- Content that was read. -/
inductive ContentView
  /-- `taken` are the bytes if they were taken out. -/
  | chunk (bytes : Octets) (last released : Bool) (taken : Option Octets)
  | trailers (fields : Fields)
  | error (failure : FailureView)

/-- What polling a body gave. -/
inductive FrameView
  | pending
  | finished
  | data (bytes : Octets)
  | trailers (fields : Fields)
  | failed (failure : FailureView)

/-- A request as its handle shows it. -/
structure RequestView where
  id : String
  request : RequestHead
  connectionId : String
  phase : Phase
  failure : Option FailureView
  description : String

/-- A channel as it shows itself. -/
structure ChannelView where
  connectionId : String
  version : Version
  persistent : Bool
  config : Config
  requests : Nat
  description : String

/-- The answer of a step. -/
inductive Reply
  | ok
  | nothing
  | text (s : String)
  | flag (b : Bool)
  | fault (fault : Fault)
  /-- A panic left the step. -/
  | panicked (panic : Panic)
  /-- A panic ended the thread that a task ran on. -/
  | joinPanicked (panic : Panic)
  /-- A task was returned. -/
  | task (name : String)
  /-- A kept task was run. -/
  | ran (description : String)
  | exchange (id : String)
  | failure (view : FailureView)
  | fields (fields : Fields)
  | request (view : RequestView)
  | channel (view : ChannelView)
  | content (view : ContentView)
  | frame (frame : FrameView) (finished : Bool) (lower : Nat) (upper : Option Nat)
  /-- A promise has its result. -/
  | ready (failure : Option FailureView)
  /-- A stream was to be wrapped, with this many calls of the transform. -/
  | wrapped (calls : Nat) (refused : Option ExchangeError)
  | queue (draining : Bool) (description : String)
  | chain (count depth : Nat)

/-- What happened at a stream of the transport. -/
inductive StreamEvent
  | read
  | demand
  | prepare (fields : Fields)
  | send (last : Bool) (head : Option ResponseHead) (chunks : List Octets)
  /-- The trailers were taken; `none` stands for a stream that was sent no head. -/
  | trailers (taken : Option (Option Fields))
  | push (request : RequestHead)
  | consumeAll
  | succeeded
  | failed (cause : FailureView)

/-- What happened. -/
inductive Event
  | handle (handle id : String)
  | render (request : RequestHead) (status : Status) (message : String)
      (cause : Option FailureView)
  /-- A task of the standalone queue failed. -/
  | hook (task : String) (cause : FailureView)
  /-- A callback was told a result. -/
  | callback (tag : String) (failure : Option FailureView)
  /-- One of the two reactions of a callback ran. -/
  | reaction (tag : String) (failure : Option FailureView)
  | step (name : String) (reply : Reply)
  | closeListener (tag : Option String) (cause : Option FailureView)
  | errorListener (tag : Option String) (cause : FailureView)
  | demand (tag : Option String)
  /-- A decorating wrapper saw a call. -/
  | tagged (tag : Option String) (call : StreamCall)
  | released (tag : String)
  /-- A chain of writes is over. -/
  | chain (writes depth : Nat) (failure : Option FailureView)
  | wake (name : String)
  | task (name : String)
  | stream (stream : String) (event : StreamEvent)

/-- What can be seen of a handle on an exchange. -/
structure HandleView where
  name : String
  phase : Phase
  failure : Option String
  status : Option Status
  committed : Bool

/-- What can be seen between two steps; each part only where there is such a thing. -/
structure StateView where
  draining : Option Bool
  /-- The active exchange, whether the connection persists, and the requests so far. -/
  channel : Option (Option String × Bool × Nat)
  handle : Option HandleView

/-- Everything that one step brought. -/
structure StepReport where
  reply : Reply
  events : List Event
  state : StateView

end Scenario

end HttpExchange
