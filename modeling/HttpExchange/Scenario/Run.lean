import HttpExchange.Scenario.Steps

/-!
# Running a scenario

The host of a scenario runs nested steps, which call the engine, which calls the host again. How
deep this goes is bounded by the size of the scenario: each level uses up a piece of it.
`Script.play` runs a scenario from the start and gives what each step brought and the final state.
-/

namespace HttpExchange.Scenario

open Play

/-- The date that a scenario shows. -/
def today : FieldValue := ⟨Octets.ofString "Thu, 01 Jan 1970 00:00:00 GMT", by decide⟩

/-- The handler of a scenario: it stores a handle on the exchange and then follows its next
script. -/
def handleByScript (host : Host Closure Stage) (e : ExchangeRef) : Play (Option String) := do
  let (script, name) ← updateStage fun s =>
    let name := "h" ++ toString (s.handled + 1)
    ((s.handlers.head?, name),
      { s with
        handled := s.handled + 1, handlers := s.handlers.tail,
        handles := store name ⟨e, true⟩ s.handles })
  report (.handle name (← Engine.exchange e).id)
  match script with
  | none => return none
  | some script =>
    runNested host script.body
    return script.error

/-- The usual page, which is also that of a renderer without a script. -/
def renderedPage : Octets := Octets.ofString "rendered\n"

/-- The renderer of a scenario. -/
def renderByScript (host : Host Closure Stage) (request : RequestHead) (page : ErrorPage)
    (fields : Fields) : Play (Octets × Fields) := do
  match (← stage).renderer with
  | none => return page.render fields
  | some scripts =>
    modifyStage fun s => { s with renderer := some scripts.tail }
    report (.render request page.status page.message (← viewFailure? page.cause))
    match scripts with
    | [] => return (renderedPage, fields)
    | script :: _ =>
      runNested host script.body
      return (script.page.getD renderedPage, (FieldEdit.applyAll fields script.edits).1)

/-- What a scenario does when a task of the standalone queue failed. -/
def hearByScript (host : Host Closure Stage) (task : String) (cause : FailureRef) : Play Unit := do
  if (← stage).reportsHooks then
    report (.hook task (← viewFailure cause))
    let body ← updateStage fun s => (s.hooks.headD [], { s with hooks := s.hooks.tail })
    runNested host body

/-- A decorating wrapper reports the calls that pass. -/
def observeByScript (ref : StreamRef) (call : StreamCall) : Play Unit := do
  let tag := ((← stage).decorations.lookup ref).join
  report (.tagged tag call)

/-- A host that does nothing any more. -/
def exhausted (patience : Nat) : Host Closure Stage where
  run _ _ := .halt
  transport :=
    { id := fun _ _ => ""
      isCommitted := fun _ _ => false
      read := fun _ => .halt
      demand := fun _ => .halt
      prepare := fun _ _ => .halt
      send := fun _ _ _ _ _ => .halt
      push := fun _ _ => .halt
      consumeAll := fun _ => .halt
      succeeded := fun _ => .halt
      failed := fun _ _ => .halt }
  observe _ _ := .halt
  handle _ := .halt
  render _ _ _ := .halt
  taskFailed _ _ := .halt
  perform _ := .halt
  now := today
  patience

/-- The host of a scenario, for code nested at most so many levels deep. -/
def host (patience : Nat) : (depth : Nat) → Host Closure Stage
  | 0 => exhausted patience
  | depth + 1 =>
    { run := fun code signal => code.run (host patience depth) signal
      transport :=
        { id := fun stage ref => (scriptedTransport (host patience depth)).id stage ref
          isCommitted := fun stage ref =>
            (scriptedTransport (host patience depth)).isCommitted stage ref
          read := fun ref => (scriptedTransport (host patience depth)).read ref
          demand := fun ref => (scriptedTransport (host patience depth)).demand ref
          prepare := fun ref fields => (scriptedTransport (host patience depth)).prepare ref fields
          send := fun ref head last ended chunks =>
            (scriptedTransport (host patience depth)).send ref head last ended chunks
          push := fun ref request => (scriptedTransport (host patience depth)).push ref request
          consumeAll := fun ref => (scriptedTransport (host patience depth)).consumeAll ref
          succeeded := fun ref => (scriptedTransport (host patience depth)).succeeded ref
          failed := fun ref cause => (scriptedTransport (host patience depth)).failed ref cause }
      observe := observeByScript
      handle := fun e => handleByScript (host patience depth) e
      render := fun request page fields =>
        renderByScript (host patience depth) request page fields
      taskFailed := fun task cause => hearByScript (host patience depth) task cause
      perform := fun job =>
        whileReferring (host patience depth) job.reference (job.perform (host patience depth))
      now := today
      patience }

namespace Script

/-- How deep the steps of a scenario can nest, and how many tasks one of them can bring. -/
def bound (script : Script) : Nat := 16 * script.weight + 64

/-- The host that runs a scenario. -/
def host (script : Script) : Host Closure Stage := Scenario.host script.bound script.bound

/-- Why the channel of a scenario cannot be set up, if it cannot. -/
def setupError? (script : Script) : Option SetupError :=
  script.channel.bind fun spec => if spec.handlers.isNone then some .missingHandler else none

/-- The channel that a scenario starts with. -/
def newChannel (script : Script) : Channel Closure :=
  match script.channel with
  | none => .fresh "" .http11 {} true
  | some spec => .fresh spec.connectionId spec.version spec.config spec.persistent

/-- The state before the first step. -/
def start (script : Script) : World Closure Stage := .start script.newChannel (.start script)

end Script

namespace Play

/-- Shows what can be seen between two steps. -/
def viewState : Play StateView := do
  let w ← Effect.get
  let s := w.outside
  let handle ← match s.handles with
    | [] => pure none
    | (name, handle) :: _ =>
      let x := w.exchange handle.exchange
      let failure ← match x.failure with
        | none => pure none
        | some f => some <$> failureName f
      pure (some ⟨name, x.phase, failure, x.response.status, x.response.committed⟩)
  return {
    draining := if s.hasQueue then some w.standaloneQueue.draining else none
    channel :=
      if s.hasChannel then
        some (w.channel.active.map fun a => (w.exchange a.exchange).id, w.channel.persistent,
          w.channel.requests)
      else none
    handle }

/-- Takes a step from outside, and gives everything that it brought. -/
def takeStep (host : Host Closure Stage) (step : Step) : Play StepReport := do
  modifyStage fun s => { s with events := [] }
  let reply ← match ← Effect.attempt (step.run host) with
    | .ok reply => pure reply
    | .error p => pure (.panicked p)
  let events := (← stage).events.reverse
  return ⟨reply, events, ← viewState⟩

end Play

/-- Takes steps one after the other. The reports end where the scenario was cut off. -/
def playSteps (host : Host Closure Stage) :
    Code → World Closure Stage → List StepReport × World Closure Stage
  | [], w => ([], w)
  | step :: rest, w =>
    match takeStep host step w with
    | (.done report, w) =>
      let (reports, w) := playSteps host rest w
      (report :: reports, w)
    | (_, w) => ([], w)

/-- Runs a scenario: the report of each step, and the state at the end. -/
def Script.play (script : Script) : List StepReport × World Closure Stage :=
  playSteps script.host script.steps script.start

end HttpExchange.Scenario
