import HttpExchange.Scenario.Run

/-!
# Calls on a chain of wrappers

A scripted stream under listening wrappers, without any channel: the calls go to the outermost
wrapper.
-/

namespace HttpExchange.Scenario

open Play Trial

/-- A call of a stream. -/
inductive StreamStep
  | id
  | read (disposal : Disposal)
  | demand
  | prepare (fields : List RawField)
  | send (last : Bool) (callback : CallbackSpec Code) (chunks : List Octets)
  | push (head : RequestSpec)
  | isCommitted
  | consumeAll
  | succeeded
  | failed (cause : FailureSpec)
  | unknown

/-- A stream, the listeners of the wrappers around it, innermost first, and the calls. -/
structure WrappingScript where
  stream : StreamSpec Code
  listeners : List (CallbackSpec Code)
  calls : List StreamStep

/-- A wrapper as it shows itself, and whether it reports to wrap the stream below. -/
structure LayerView where
  description : String
  wraps : Bool

/-- Calls a stream. -/
def StreamStep.act (host : Host Closure Stage) (stream : Stream) (step : StreamStep) :
    Trial Reply := do
  match step with
  | id => return .text (host.transport.id (← (Play.stage : Play _)) stream.base)
  | read disposal => readAndShow host (stream.read host) disposal
  | demand =>
    (stream.demand host : Play _)
    return .ok
  | prepare raw =>
    let fields ← orFault (pure ((Fields.ofRaw raw).mapError .head))
    let (fields, panic) ← (stream.prepare host fields : Play _)
    (Effect.unwindWith panic : Play _)
    return .fields fields
  | send last callback chunks =>
    let ended ← (SendRef.new (.direct callback.callback) : Play _)
    (stream.send host none last ended chunks : Play _)
    return .ok
  | push spec =>
    let head ← orFault (pure spec.head?)
    (stream.push host head : Play _)
    return .ok
  | isCommitted => return .flag (host.transport.isCommitted (← (Play.stage : Play _)) stream.base)
  | consumeAll =>
    match ← (stream.consumeAll host : Play _) with
    | none => return .nothing
    | some f => return .failure (← viewFailure f)
  | succeeded =>
    (stream.succeeded host : Play _)
    return .ok
  | failed spec =>
    let cause ← findFailure spec
    (stream.failed host cause : Play _)
    return .ok
  | unknown => throw (.problem .unknownCall)

/-- Puts wrappers around a stream, innermost first. -/
def wrapAll (host : Host Closure Stage) :
    List (CallbackSpec Code) → Stream → Play (List LayerView × Stream)
  | [], stream => return ([], stream)
  | listener :: rest, inner => do
    let wrapper ← inner.withListener listener.callback
    let id := host.transport.id (← stage) wrapper.base
    let (views, outer) ← wrapAll host rest wrapper
    return (⟨describeListening id, wrapper.wrapped?.map (·.ref) == some inner.ref⟩ :: views, outer)

/-- Makes calls one after the other, with what each of them brought. -/
def makeCalls (host : Host Closure Stage) (stream : Stream) :
    List StreamStep → Play (List (Reply × List Event))
  | [] => return []
  | call :: rest => do
    modifyStage fun s => { s with events := [] }
    let reply ← match ← Effect.attempt (call.act host stream).run with
      | .ok (.ok reply) => pure reply
      | .ok (.error fault) => pure (.fault fault)
      | .error p => pure (.panicked p)
    let events := (← stage).events.reverse
    return (reply, events) :: (← makeCalls host stream rest)

namespace WrappingScript

/-- All nested steps that the listeners and the calls hold. -/
def bodies (script : WrappingScript) : List Code :=
  script.listeners.map (·.body) ++
  script.calls.map fun
    | .send _ callback _ => callback.body
    | _ => []

/-- How deep the nested steps of the script can nest. -/
def bound (script : WrappingScript) : Nat :=
  16 * (streamWeight script.stream + codesWeight script.bodies) + 64

/-- Wraps the stream, makes the calls, and shows both. -/
def play (script : WrappingScript) : List LayerView × List (Reply × List Event) :=
  let host := Scenario.host script.bound script.bound
  let whole : Play (List LayerView × List (Reply × List Event)) := do
    let stream ← createStream script.stream
    let (layers, stream) ← wrapAll host script.listeners stream
    return (layers, ← makeCalls host stream script.calls)
  match whole (.start (.fresh "" .http11 {} true) (.start ⟨none, none, []⟩)) with
  | (.done result, _) => result
  | (_, _) => ([], [])

end WrappingScript

end HttpExchange.Scenario
