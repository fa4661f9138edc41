import HttpExchange.Engine.Writing
import HttpExchange.Scenario.Lifetime

/-!
# Scripted streams

A stream of a scenario reports each call, runs the nested steps that its script has for the call,
and then does what the script says.
-/

namespace HttpExchange.Scenario

namespace Play

/-- Runs nested steps. -/
def runNested (host : Host Closure Stage) (body : Code) : Play Unit :=
  match body with
  | [] => pure ()
  | _ => host.run (.block body) .ready

def scriptedStream? (ref : StreamRef) : Play (Option ScriptedStream) :=
  .gets fun w => w.outside.streams.lookup ref

/-- Changes one stream of a list in which each is listed once. -/
def modifyListed (ref : StreamRef) (f : ScriptedStream → ScriptedStream) :
    List (StreamRef × ScriptedStream) → List (StreamRef × ScriptedStream)
  | [] => []
  | (r, stream) :: rest =>
    if r = ref then (r, f stream) :: rest else (r, stream) :: modifyListed ref f rest

def modifyStream (ref : StreamRef) (f : ScriptedStream → ScriptedStream) : Play Unit :=
  modifyStage fun s => { s with streams := modifyListed ref f s.streams }

/-- Reports what happened at a stream. -/
def reportAt (ref : StreamRef) (event : StreamEvent) : Play Unit := do
  match ← scriptedStream? ref with
  | some stream => report (.stream stream.name event)
  | none => pure ()

/-- Takes the first list of nested steps for a call. -/
def takeHook (point : HookPoint) :
    List (HookPoint × List Code) → Code × List (HookPoint × List Code)
  | [] => ([], [])
  | (p, bodies) :: rest =>
    if p = point then
      match bodies with
      | [] => ([], (p, []) :: rest)
      | body :: bodies => (body, (p, bodies) :: rest)
    else
      let (body, rest) := takeHook point rest
      (body, (p, bodies) :: rest)

/-- Runs the nested steps of a call. -/
def runHook (host : Host Closure Stage) (ref : StreamRef) (point : HookPoint) : Play Unit := do
  match ← scriptedStream? ref with
  | none => pure ()
  | some stream =>
    let (body, hooks) := takeHook point stream.hooks
    modifyStream ref fun s => { s with hooks }
    runNested host body

/-- Takes the next content of a stream. -/
def nextContent (ref : StreamRef) : Play ContentSpec := do
  match ← scriptedStream? ref with
  | some ⟨_, _, content :: contents, _, _, _, _, _, _, _, _⟩ =>
    modifyStream ref fun s => { s with contents }
    return content
  | _ => return .nothing

/-- Decides what happens to the callback of a send. -/
def nextPlan (ref : StreamRef) : Play SendPlan := do
  match ← scriptedStream? ref with
  | none => return .lose
  | some stream =>
    match stream.results with
    | [] => return stream.auto
    | plan :: results =>
      modifyStream ref fun s => { s with results }
      return plan

/-- Tells the engine how a send ended. -/
def endSend (host : Host Closure Stage) (send : SendRef) (result : Result) : Play Unit := do
  let callback : Option (SendCallback Closure) ← Effect.gets (·.sendCallback? send)
  whileReferring host ((callback.map (·.reference)).getD .nothing) (send.complete host result)

/-- Takes the trailers of the head that a stream was sent last. -/
def takeTrailers (ref : StreamRef) : Play (Option (Option Fields)) := do
  match (← scriptedStream? ref).bind (·.head) with
  | none => return none
  | some e => return some (← e.takeTrailers)

end Play

open Play

/-- The content that a script asks for; there is none if what it asks for is not valid. -/
def ContentSpec.content : ContentSpec → Play (Option (Content Closure))
  | .nothing => pure none
  | .finish => pure (some (.chunk [] true none))
  | .chunk bytes last release => pure (some (.chunk bytes last (release.map .release)))
  | .trailers raw => pure ((Fields.ofRaw raw).toOption.map .trailers)
  | .error spec => return (← spec.findValid?).map .error

/-- The failure that a script has a send fail with. -/
def sendFailure (spec : FailureSpec) : Play FailureRef := do
  match ← spec.findValid? with
  | some f => return f
  | none => Engine.newFailure (.transport "?")

/-- How the streams of a scenario behave. -/
def scriptedTransport (host : Host Closure Stage) : Transport Closure Stage where
  id stage ref := ((stage.streams.lookup ref).map (·.id)).getD ""
  isCommitted stage ref := ((stage.streams.lookup ref).bind (·.head)).isSome
  read ref := do
    reportAt ref .read
    runHook host ref .read
    (← nextContent ref).content
  demand ref := do
    reportAt ref .demand
    runHook host ref .demand
  prepare ref fields := do
    reportAt ref (.prepare fields)
    let stream ← scriptedStream? ref
    return PrepareStep.applyAll fields ((stream.map (·.prepare)).getD [])
  send ref head last ended chunks := do
    match head with
    | some (_, e) => modifyStream ref fun s => { s with head := some e }
    | none => pure ()
    reportAt ref (.send last (head.map (·.1)) chunks)
    runHook host ref .send
    if last && ((← scriptedStream? ref).any (·.autoTrailers)) then
      reportAt ref (.trailers (← takeTrailers ref))
    match ← nextPlan ref with
    | .succeed => endSend host ended (.ok ())
    | .fail spec => endSend host ended (.error (← sendFailure spec))
    | .hold => modifyStream ref fun s => { s with held := s.held ++ [ended] }
    | .lose => pure ()
  push ref request := reportAt ref (.push request)
  consumeAll ref := do
    reportAt ref .consumeAll
    runHook host ref .consumeAll
    match (← scriptedStream? ref).bind (·.unconsumed) with
    | none => return none
    | some spec => spec.findValid?
  succeeded ref := do
    reportAt ref .succeeded
    runHook host ref .succeeded
  failed ref cause := do
    reportAt ref (.failed (← viewFailure cause))
    runHook host ref .failed

end HttpExchange.Scenario
