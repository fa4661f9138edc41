import HttpExchange.Engine.Callback
import HttpExchange.Scenario.Stage

/-!
# How long the channel lives

The channel is there as long as something refers to it: the scenario, a handle, a body, something
that is kept for later, or an operation that is running. What only refers to the queue of the
channel, such as the task of working it off, keeps the queue and not the channel.

`releaseUnused` lets go what nothing refers to any more. A promise that waited for a pending write
is abandoned with the channel, one whose result is still queued is abandoned with the queue. It is
called whenever a reference may have gone: after every step, and when an operation ends.
-/

namespace HttpExchange.Scenario

/-- What something refers to, and so keeps alive. -/
inductive Reference
  | nothing | queue | channel
  deriving DecidableEq

/-- What a piece of code refers to. -/
def Closure.reference : Closure → Reference
  | writeChain _ _ _ _ => .channel
  | _ => .nothing

end Scenario

/-- What a callback refers to until it is told. -/
def Callback.reference : Callback Scenario.Closure → Scenario.Reference
  | code run => run.reference
  | promise _ | ignore => .nothing

/-- What a deferred job refers to until it is done. -/
def Job.reference : Job Scenario.Closure → Scenario.Reference
  | code run _ | errorListener _ run _ => run.reference
  | complete callback _ => callback.reference
  | abort _ | fail _ _ | dispatch _ => .channel
  | drain .channel => .queue
  | drain .standalone | wakeBody _ | closeListener _ _ => .nothing

/-- What the callback of a send refers to until it is told. -/
def SendCallback.reference : SendCallback Scenario.Closure → Scenario.Reference
  | pendingWrite _ => .channel
  | direct callback => callback.reference
  | finalFrame _ _ | errorResponse _ _ _ => .nothing

namespace Scenario

/-- Whether anything refers to the channel. -/
def channelInUse (w : World Closure Stage) : Bool :=
  let s := w.outside
  s.hasChannel || 0 < s.channelUses || !s.handles.isEmpty || !s.bodies.isEmpty ||
  s.tasks.any (·.2.job.reference == .channel) ||
  s.streams.any (·.2.held.any fun ref => (w.sendCallback? ref).any (·.reference == .channel)) ||
  w.channelQueue.tasks.any (·.job.reference == .channel) ||
  (w.channel.active.bind (·.write)).any (·.reference == .channel)

/-- Whether anything but the channel refers to its queue. -/
def queueInUse (w : World Closure Stage) : Bool :=
  0 < w.outside.queueUses || w.outside.tasks.any (·.2.job.reference == .queue)

namespace Play

/-- Loses a deferred job that was never done. -/
def dropJob (host : Host Closure Stage) : Job Closure → Play Unit
  | .complete callback _ => callback.drop host
  | _ => pure ()

/-- Lets go the queue of a channel that is gone, with the tasks in it. -/
def releaseQueue (host : Host Closure Stage) : Play Unit := do
  let tasks := (← Effect.get).channelQueue.tasks
  Effect.modify fun w => { w with channelQueue := { w.channelQueue with tasks := [] } }
  Effect.forEach (fun task => dropJob host task.job) tasks

/-- Lets the channel go, with everything registered on it. -/
def releaseChannel (host : Host Closure Stage) : Play Unit := do
  let write := (← Effect.get).channel.active.bind (·.write)
  Effect.modify fun w =>
    w.modifyChannel fun c => { c with stream := none, active := none, closeListeners := [] }
  match write with
  | some callback => callback.drop host
  | none => pure ()

/-- Lets go what nothing refers to any more. -/
def releaseUnused (host : Host Closure Stage) : Play Unit := do
  let w ← Effect.get
  if !channelInUse w then
    releaseChannel host
    if !queueInUse w then releaseQueue host

/-- Notes a reference of a running operation. -/
def refer : Reference → Stage → Stage
  | .nothing, s => s
  | .queue, s => { s with queueUses := s.queueUses + 1 }
  | .channel, s => { s with channelUses := s.channelUses + 1 }

/-- Takes back a reference of a running operation. -/
def unrefer : Reference → Stage → Stage
  | .nothing, s => s
  | .queue, s => { s with queueUses := s.queueUses - 1 }
  | .channel, s => { s with channelUses := s.channelUses - 1 }

/-- Runs an operation that refers to something until it ends, by a panic too. -/
def whileReferring {α : Type} (host : Host Closure Stage) (reference : Reference) (m : Play α) :
    Play α := do
  modifyStage (refer reference)
  let outcome ← Effect.attempt m
  modifyStage (unrefer reference)
  releaseUnused host
  match outcome with
  | .ok a => return a
  | .error p => Effect.panic p

end Play

end HttpExchange.Scenario
