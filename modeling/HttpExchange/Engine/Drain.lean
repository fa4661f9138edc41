import HttpExchange.Engine.Channel

/-!
# Working a queue off

Tasks run one after the other until the queue is empty. A task that panics is reported and the
next one runs.
-/

namespace HttpExchange

variable {κ ε : Type}

namespace Queue

/-- Reports a task that failed to whoever cares for its queue. -/
def report (host : Host κ ε) : QueueName → (task : String) → FailureRef → Engine κ ε Unit
  | .channel, _, failure => Channel.taskFailed host failure
  | .standalone, task, failure => host.taskFailed task failure

/-- Runs tasks until the queue is empty, at most the given number of them. -/
def drainWithin (host : Host κ ε) (name : QueueName) : Nat → Engine κ ε Unit
  | 0 => .halt
  | rounds + 1 => do
    match ← Engine.nextTask name with
    | none => pure ()
    | some task =>
      match ← Effect.attempt (host.perform task.job) with
      | .ok () => drainWithin host name rounds
      | .error p =>
        report host name task.name (← Engine.panicFailure p)
        drainWithin host name rounds

/-- Runs tasks until the queue is empty. -/
def drain (host : Host κ ε) (name : QueueName) : Engine κ ε Unit :=
  drainWithin host name host.patience

/-- Appends a task, and works the queue off if nobody else does. -/
def run (host : Host κ ε) (name : QueueName) (task : Task κ) : Engine κ ε Unit := do
  match ← Engine.offer name [task] with
  | some _ => drain host name
  | none => pure ()

end Queue

/-- Has a job done in the channel's queue. -/
def Engine.runQueued (host : Host κ ε) (name : String) (job : Job κ) : Engine κ ε Unit :=
  Queue.run host .channel ⟨name, job⟩

end HttpExchange
