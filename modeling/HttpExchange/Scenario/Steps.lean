import HttpExchange.Describe
import HttpExchange.Engine.Job
import HttpExchange.Scenario.Transport

/-!
# The steps of a scenario

What each step does. A step that refers to something that is not there, or that the engine
refuses, answers with a fault.
-/

namespace HttpExchange.Scenario

open Play

/-- A step that may answer with a fault. -/
abbrev Trial := ExceptT Fault Play

namespace Trial

/-- Goes on with a value that may be a fault. -/
def orFault {α : Type} (m : Play (Except Fault α)) : Trial α := ExceptT.mk m

/-- Goes on unless the engine refuses. -/
def orRefused {α : Type} (m : Play (Except ExchangeError α)) : Trial α :=
  ExceptT.mk do return (← m).mapError .refused

/-- Stops with a fault if there is nothing. -/
def orProblem {α : Type} (a : Option α) (problem : Problem) : Trial α :=
  match a with
  | some a => pure a
  | none => throw (.problem problem)

def requireChannel : Trial Unit := do
  if !(← (stage : Play Stage)).hasChannel then throw (.problem .noChannel)

def requireQueue : Trial Unit := do
  if !(← (stage : Play Stage)).hasQueue then throw (.problem .noQueue)

/-- The handle of a name, or else the one stored last. -/
def findHandle (name : Option String) : Trial Handle := do
  let handles := (← (stage : Play Stage)).handles
  match name with
  | some name => orProblem (handles.lookup name) .noHandle
  | none => orProblem (handles.head?.map (·.2)) .noHandle

/-- The scripted stream of a name, or else the one made last. Of several streams of one name it is
the one made first. -/
def findStream (name : Option String) : Trial (StreamRef × ScriptedStream) := do
  let streams := (← (stage : Play Stage)).streams
  match name with
  | some name => orProblem (streams.reverse.find? (·.2.name = name)) .noStream
  | none => orProblem streams.head? .noStream

def findFailure (spec : FailureSpec) : Trial FailureRef := orFault spec.find

def findFailure? (spec : Option FailureSpec) : Trial (Option FailureRef) :=
  orFault (FailureSpec.find? spec)

def checkStatus (n : Nat) : Trial Status :=
  match Status.ofNat? n with
  | some status => pure status
  | none => throw (.head .invalidStatus)

end Trial

open Trial

variable (host : Host Closure Stage)

/-- The callback that a scenario asks for. -/
def CallbackSpec.callback (spec : CallbackSpec Code) : Callback Closure :=
  match spec.listening with
  | .ignoring => .ignore
  | _ => .code (.callback spec)

/-- Runs a returned task, or keeps it. -/
def finishTask (keep : Keep) (task : Task Closure) : Play Reply := do
  match keep with
  | some name => modifyStage fun s => { s with tasks := store name task s.tasks }
  | none => host.perform task.job
  return .task task.name

/-- Runs or keeps the task that there may be. -/
def finishTask? (keep : Keep) : Option (Task Closure) → Play Reply
  | some task => finishTask host keep task
  | none => return .nothing

/-- Makes a scripted stream. -/
def createStream (spec : StreamSpec Code) : Play Stream := do
  let ref ← Engine.newStream
  let number := (← stage).streams.length + 1
  let stream : ScriptedStream :=
    { name := spec.name.getD ("s" ++ toString number), id := spec.id, contents := spec.contents,
      auto := spec.auto, results := spec.results, prepare := spec.prepare,
      unconsumed := spec.unconsumed, autoTrailers := spec.autoTrailers, hooks := spec.hooks,
      head := none, held := [] }
  modifyStage fun s => { s with streams := (ref, stream) :: s.streams }
  return .transport ref

/-- A stream without any script. -/
def StreamSpec.plain : StreamSpec Code := ⟨none, "1", [], .succeed, [], [], none, false, []⟩

/-- A stream transform that has not been called. -/
def newTransform (during : List Code) : Play Nat :=
  updateStage fun s =>
    (s.transforms.size, { s with transforms := s.transforms.push ⟨0, during⟩ })

/-- One call of a stream transform. -/
def transformStream (id : Nat) (kind : WrapperKind) (tag : Option String)
    (listener : CallbackSpec Code) (inner : Stream) : Play Stream := do
  let body ← updateStage fun s =>
    match s.transforms[id]? with
    | none => ([], s)
    | some t =>
      (t.during.headD [],
        { s with transforms := s.transforms.set! id ⟨t.calls + 1, t.during.tail⟩ })
  runNested host body
  let decorate (reported : Bool) : Play Stream := do
    let ref ← Engine.newStream
    modifyStage fun s => { s with decorations := (ref, tag) :: s.decorations }
    return .decorated ref reported inner
  match kind with
  | .listener => inner.withListener listener.callback
  | .double => do (← inner.withListener listener.callback).withListener listener.callback
  | .tag => decorate true
  | .concealing => decorate false
  | .same => return inner
  | .unrelated => createStream .plain

namespace Play

/-- Shows an exchange from its request side. -/
def viewRequest (e : ExchangeRef) : Play RequestView := do
  let w ← Effect.get
  let x := w.exchange e
  return ⟨x.id, x.request, w.channel.connectionId, x.phase, ← viewFailure? x.failure,
    x.describeRequest⟩

/-- Shows content that was read, and gives it back. -/
def consume (content : Content Closure) (disposal : Disposal) : Play ContentView := do
  match content with
  | .trailers fields => return .trailers fields
  | .error f => return .error (← viewFailure f)
  | .chunk bytes last release =>
    match release with
    | some release => host.run release .ready
    | none => pure ()
    return .chunk bytes last release.isNone
      (match disposal with | .takeBytes => some bytes | _ => none)

/-- Reads content and shows it. -/
def readAndShow (read : Play (Option (Content Closure))) (disposal : Disposal) : Play Reply := do
  match ← read with
  | none => return .nothing
  | some content => return .content (← consume host content disposal)

/-- Changes fields by a script, runs nested steps, and answers with the fields as changed. -/
def editAndRun (edits : List FieldEdit) (body : Code) (fields : Fields) :
    Play (Reply × Fields) := do
  let (fields, fault) := FieldEdit.applyAll fields edits
  runNested host body
  match fault with
  | some fault => return (.fault fault, fields)
  | none => return (.fields fields, fields)

/-- Enters a nested call of a chain. -/
def enterChain (id : Nat) : Play Unit :=
  modifyStage fun s =>
    { s with
      chains := s.chains.modify id fun c =>
        ⟨c.count + 1, c.depth + 1, max c.deepest (c.depth + 1)⟩ }

def leaveChain (id : Nat) : Play Unit :=
  modifyStage fun s =>
    { s with chains := s.chains.modify id fun c => { c with depth := c.depth - 1 } }

/-- A chain without calls yet. -/
def newChain : Play Nat :=
  updateStage fun s => (s.chains.size, { s with chains := s.chains.push ⟨0, 0, 0⟩ })

def chain (id : Nat) : Play Chain := .gets fun w => w.outside.chains.getD id ⟨0, 0, 0⟩

/-- Makes one write of a chain, with `left` more to come. -/
def writeLink (id : Nat) (e : ExchangeRef) (left : Nat) (chunk : Octets) : Play Unit := do
  enterChain id
  e.write host (left == 0) (.code (.writeChain id e left chunk)) [chunk]
  leaveChain id

end Play

/-- A callback of a scenario is told a result. -/
def runCallback (spec : CallbackSpec Code) (result : Result) : Play Unit := do
  match spec.listening, result with
  | .ignoring, _ => pure ()
  | .whole, result =>
    report (.callback spec.tag (← viewResult result))
    runNested host spec.body
  | .branches, .ok () =>
    report (.reaction spec.tag none)
    runNested host spec.body
  | .branches, .error f => report (.reaction spec.tag (some (← viewFailure f)))

/-- One write of a chain has its result. -/
def continueChain (id : Nat) (e : ExchangeRef) (left : Nat) (chunk : Octets) (result : Result) :
    Play Unit := do
  match left, result with
  | left + 1, .ok () => writeLink host id e left chunk
  | _, result =>
    let c ← chain id
    report (.chain c.count c.deepest (← viewResult result))

namespace ChannelStep

/-- The steps that report events of the connection, and those that look at the channel. What a
step hands to the channel is made first, whether there is a channel or not. -/
def act (step : ChannelStep Code) : Trial Reply := do
  match step with
  | setStream spec =>
    let stream ← createStream spec
    requireChannel
    orRefused (Channel.setStream stream)
    return .ok
  | request keep spec =>
    let head ← orFault (pure spec.head?)
    requireChannel
    let task ← orRefused (Channel.onRequest host head)
    finishTask host keep task
  | contentAvailable keep =>
    requireChannel
    finishTask? host keep (← (Channel.onContentAvailable : Play _))
  | error keep spec =>
    let cause ← findFailure spec
    requireChannel
    finishTask? host keep (← (Channel.onError host cause : Play _))
  | close keep spec =>
    let cause ← findFailure? spec
    requireChannel
    finishTask? host keep (← (Channel.onClose cause : Play _))
  | addCloseListener tag body =>
    requireChannel
    (Channel.addCloseListener (.closeListener tag body) : Play _)
    return .ok
  | addWrapper kind tag listener during =>
    requireChannel
    let id ← (newTransform during : Play _)
    let result ← (Channel.wrapStream host (transformStream host id kind tag listener) : Play _)
    let calls := ((← (stage : Play Stage)).transforms[id]?.map (·.calls)).getD 0
    return .wrapped calls (match result with | .ok () => none | .error e => some e)
  | current name =>
    requireChannel
    let w ← (Effect.get : Play _)
    match w.channel.active with
    | none => return .nothing
    | some active =>
      modifyStage fun s => { s with handles := store name ⟨active.exchange, false⟩ s.handles }
      return .exchange (w.exchange active.exchange).id
  | info =>
    requireChannel
    let w ← (Effect.get : Play _)
    return .channel ⟨w.channel.connectionId, w.channel.version, w.channel.persistent,
      w.channel.config, w.channel.requests, w.describeChannel⟩
  | drop =>
    modifyStage fun s => { s with hasChannel := false, handles := [] }
    return .ok

end ChannelStep

namespace RequestStep

/-- The steps of an application on a request. -/
def act (handle : Handle) (step : RequestStep Code) : Trial Reply := do
  let e := handle.exchange
  match step with
  | info => return .request (← viewRequest e)
  | read disposal => readAndShow host (e.readContent host) disposal
  | demand tag body =>
    orRefused (e.demandContent host (.code (.demand tag body) .ready))
    return .ok
  | addErrorListener tag body =>
    (e.addErrorListener host (.errorListener tag body) : Play _)
    return .ok
  | addCompletionListener listener =>
    orRefused (e.addCompletionListener host listener.callback)
    return .ok
  | openBody name =>
    let body ← (BodyRef.new e : Play _)
    modifyStage fun s => { s with bodies := store name body s.bodies }
    return .ok

end RequestStep

namespace ResponseStep

/-- The steps of an application on a response. -/
def act (handle : Handle) (step : ResponseStep Code) : Trial Reply := do
  let e := handle.exchange
  match step with
  | setStatus n =>
    let status ← checkStatus n
    (e.setStatus status : Play _)
    return .ok
  | fields => return .fields (← (Engine.response e : Play _)).fields
  | setContentLength length =>
    orRefused (e.setContentLength length)
    return .ok
  | reset =>
    orRefused e.reset
    return .ok
  | describe => return .text (← (Engine.exchange e : Play _)).describeResponse
  | editFields edits body => orRefused (e.editFields (editAndRun host edits body))
  | editTrailers edits body => (e.editTrailers (editAndRun host edits body) : Play _)
  | write last chunks callback =>
    (e.write host last callback.callback chunks : Play _)
    return .ok
  | writeChain count chunk =>
    let id ← newChain
    writeLink host id e (count - 1) chunk
    return .ok
  | writeAsync last chunks name =>
    let promise ← (e.writeAsync host last chunks : Play _)
    match (← (stage : Play Stage)).promises.lookup name with
    | some old => (old.forget : Play _)
    | none => pure ()
    modifyStage fun s => { s with promises := store name promise s.promises }
    return .ok
  | writeError n message callback =>
    let status ← checkStatus n
    (e.writeError host status message callback.callback : Play _)
    return .ok
  | push spec =>
    let head ← orFault (pure spec.head?)
    (e.push host head : Play _)
    return .ok

end ResponseStep

namespace CompletionStep

/-- The steps of an application that end an exchange. -/
def act (handle : Handle) (step : CompletionStep) : Trial Reply := do
  let e := handle.exchange
  if !handle.canEnd then throw (.problem .noCompletion)
  match step with
  | succeed =>
    orRefused (e.succeed host)
    return .ok
  | fail spec =>
    let cause ← findFailure spec
    (e.fail host cause : Play _)
    return .ok
  | describe => return .text (← (Engine.exchange e : Play _)).describeCompletion

end CompletionStep

namespace WaitStep

def viewFrame : Frame → Play FrameView
  | .pending => return .pending
  | .finished => return .finished
  | .data bytes => return .data bytes
  | .trailers fields => return .trailers fields
  | .failed f => return .failed (← viewFailure f)

/-- The steps of an application that waits. What is being polled is out of reach meanwhile. -/
def act (step : WaitStep) : Trial Reply := do
  match step with
  | pollBody name =>
    let body ← orProblem ((← (stage : Play Stage)).bodies.lookup name) .noBody
    -- out of reach until the poll is over
    modifyStage fun s => { s with bodies := s.bodies.filter (·.1 ≠ name) }
    let frame ← (body.poll host (.waker name) : Play _)
    modifyStage fun s => { s with bodies := store name body s.bodies }
    let (lower, upper) ← (body.sizeHint : Play _)
    let finished ← (body.isFinished : Play _)
    return .frame (← viewFrame frame) finished lower upper
  | dropBody name =>
    modifyStage fun s => { s with bodies := s.bodies.filter (·.1 ≠ name) }
    return .ok
  | pollPromise name =>
    let promise ← orProblem ((← (stage : Play Stage)).promises.lookup name) .noPromise
    match ← (promise.poll (.waker name) : Play _) with
    | none => return .text "pending"
    | some result =>
      modifyStage fun s => { s with promises := s.promises.filter (·.1 ≠ name) }
      return .ready (← viewResult result)
  | dropPromise name =>
    match (← (stage : Play Stage)).promises.lookup name with
    | some promise => (promise.forget : Play _)
    | none => pure ()
    modifyStage fun s => { s with promises := s.promises.filter (·.1 ≠ name) }
    return .ok

end WaitStep

namespace TransportStep

/-- The steps of the transport on one of its streams. The failure that a send is to end with is
made first, whether there is a stream or not. -/
def act (name : Option String) (step : TransportStep) : Trial Reply := do
  let failure ← match step with
    | completeSend spec => findFailure? spec
    | _ => pure none
  let (ref, stream) ← findStream name
  match step with
  | pushContent content =>
    modifyStream ref fun s => { s with contents := s.contents ++ [content] }
    return .ok
  | setUnconsumed unconsumed =>
    modifyStream ref fun s => { s with unconsumed }
    return .ok
  | completeSend _ =>
    match stream.held with
    | [] => return .text "none pending"
    | send :: held =>
      modifyStream ref fun s => { s with held }
      (endSend host send (match failure with | none => .ok () | some f => .error f) : Play _)
      return .ok
  | takeTrailers =>
    match ← (Play.takeTrailers ref : Play _) with
    | none => return .text "none"
    | some none => return .nothing
    | some (some fields) => return .fields fields
  | describeTrailers =>
    match stream.head with
    | none => return .nothing
    | some e => return .text (← (Engine.exchange e : Play _)).describeTrailers

end TransportStep

/-- The steps on failures. -/
def FailureStep.act (step : FailureStep) : Trial Reply := do
  match step with
  | present spec =>
    let f ← findFailure spec
    return .failure (← viewFailure f)
  | suppress first later =>
    let f ← findFailure first
    let other ← findFailure later
    (Engine.suppress f other : Play _)
    return .failure (← viewFailure f)
  | same first second =>
    let f ← findFailure first
    let g ← findFailure second
    return .flag (f == g)

/-- The task that a scenario asks for. -/
def TaskSpec.task (spec : TaskSpec Code) : Task Closure := ⟨spec.name, .code (.task spec) .ready⟩

/-- A task of a chain, with `left` more to come. -/
def chainTask (id left : Nat) : Task Closure := ⟨"chain", .code (.queueChain id left) .ready⟩

/-- The steps on the standalone queue. -/
def QueueStep.act (step : QueueStep Code) : Trial Reply := do
  requireQueue
  match step with
  | offer keep tasks =>
    let tasks := tasks.filterMap (·.map TaskSpec.task)
    finishTask? host keep (← (Engine.offer .standalone tasks : Play _))
  | run spec =>
    (Queue.run host .standalone spec.task : Play _)
    return .ok
  | state =>
    let q ← (Effect.gets fun w => w.standaloneQueue : Play _)
    return .queue q.draining q.describe
  | chain count =>
    let id ← newChain
    match count with
    | 0 => pure ()
    | left + 1 => (Queue.run host .standalone (chainTask id left) : Play _)
    let c ← Play.chain id
    return .chain c.count c.deepest

/-- The steps on tasks. -/
def TaskStep.act (step : TaskStep Code) : Trial Reply := do
  match step with
  | make keep spec => finishTask host keep spec.task
  | run name blocking =>
    let task ← orProblem ((← (stage : Play Stage)).tasks.lookup name) .noTask
    modifyStage fun s => { s with tasks := s.tasks.filter (·.1 ≠ name) }
    if blocking then
      match ← (Effect.attempt (host.perform task.job) : Play _) with
      | .ok () => return .ran task.describe
      | .error p => return .joinPanicked p
    else
      host.perform task.job
      return .ran task.describe
  | drop name =>
    modifyStage fun s => { s with tasks := s.tasks.filter (·.1 ≠ name) }
    return .ok

/-- Runs nested steps a number of times. -/
def repeatNested (body : Code) : Nat → Play Unit
  | 0 => pure ()
  | times + 1 => do
    runNested host body
    repeatNested body times

/-- Runs nested steps a number of times, which takes nothing if there are none. -/
def repeatAll (count : Nat) : Code → Play Unit
  | [] => pure ()
  | step :: rest => repeatNested host (step :: rest) count

/-- The steps that steer the scenario. -/
def ControlStep.act (step : ControlStep Code) : Trial Reply := do
  match step with
  | times count body =>
    repeatAll host count body
    return .ok
  | panic p => (Effect.panic p : Play _)
  | stop => (Effect.halt : Play _)
  | unknown => throw (.problem .unknownStep)

namespace Step

def name : Step → String
  | channel name _ | request name _ _ | response name _ _ | completion name _ _ | wait name _
  | transport name _ _ | failure name _ | queue name _ | task name _ | control name _ => name

/-- Does a step, or says why it cannot. -/
def trial (step : Step) : Trial Reply := do
  match step with
  | channel _ step => step.act host
  | request _ handle step => step.act host (← findHandle handle)
  | response _ handle step => step.act host (← findHandle handle)
  | completion _ handle step => step.act host (← findHandle handle)
  | wait _ step => step.act host
  | transport _ stream step => step.act host stream
  | failure _ step => step.act
  | queue _ step => step.act host
  | task _ step => step.act host
  | control _ step => step.act host

/-- What a step refers to until it has its answer. -/
def reference : Step → Reference
  | channel _ _ | request _ _ _ | response _ _ _ | completion _ _ _ => .channel
  | wait _ (.pollBody _) => .channel
  | _ => .nothing

/-- Does a step and gives its answer. -/
def run (step : Step) : Play Reply := do
  match ← whileReferring host step.reference (step.trial host).run with
  | .ok reply => return reply
  | .error fault => return .fault fault

/-- Does nested steps, and reports the answer of each. -/
def runAll : Code → Play Unit
  | [] => pure ()
  | step :: rest => do
    report (.step step.name (← step.run host))
    runAll rest

end Step

/-- Runs the application code of a scenario. -/
def Closure.run (closure : Closure) (signal : Signal) : Play Unit := do
  match closure, signal with
  | block body, _ => Step.runAll host body
  | callback spec, .ended result => runCallback host spec result
  | demand tag body, _ =>
    report (.demand tag)
    Step.runAll host body
  | errorListener tag body, .failed cause =>
    report (.errorListener tag (← viewFailure cause))
    Step.runAll host body
  | closeListener tag body, .closed cause =>
    report (.closeListener tag (← viewFailure? cause))
    Step.runAll host body
  | task spec, _ =>
    report (.task spec.name)
    Step.runAll host spec.body
  | waker name, _ => report (.wake name)
  | release tag, _ => report (.released tag)
  | queueChain id left, _ =>
    enterChain id
    match left with
    | 0 => pure ()
    | left + 1 => Queue.run host .standalone (chainTask id left)
    leaveChain id
  | writeChain id e left chunk, .ended result => continueChain host id e left chunk result
  | _, _ => pure ()

end HttpExchange.Scenario
