import HttpExchange.Scenario.Report
import HttpExchange.Scenario.Syntax

/-!
# The state of a scenario

What a scenario keeps beside the engine: the scripts of its streams, handles and other things
under their names, what is left of the scripts of handler and renderer, the names of failures,
and the events since the current step began.
-/

namespace HttpExchange.Scenario

/-- The application code that a scenario hands to the engine. -/
inductive Closure
  /-- Nested steps and nothing else. -/
  | block (body : Code)
  | callback (spec : CallbackSpec Code)
  | demand (tag : Option String) (body : Code)
  | errorListener (tag : Option String) (body : Code)
  | closeListener (tag : Option String) (body : Code)
  | task (spec : TaskSpec Code)
  | waker (name : String)
  | release (tag : String)
  /-- The next task of a chain, with as many still to come. -/
  | queueChain (chain : Nat) (left : Nat)
  /-- The callback of one write of a chain, with as many still to come. -/
  | writeChain (chain : Nat) (exchange : ExchangeRef) (left : Nat) (chunk : Octets)

/-- A scripted stream, with what is left of its script. -/
structure ScriptedStream where
  name : String
  id : String
  contents : List ContentSpec
  auto : SendPlan
  results : List SendPlan
  prepare : List PrepareStep
  unconsumed : Option FailureSpec
  autoTrailers : Bool
  hooks : List (HookPoint × List Code)
  /-- The exchange whose head was sent last. -/
  head : Option ExchangeRef
  /-- Sends whose end is not told yet, oldest first. -/
  held : List SendRef

/-- A handle on an exchange. -/
structure Handle where
  exchange : ExchangeRef
  /-- Whether it can end the exchange. -/
  canEnd : Bool

/-- How far a chain of calls has come, and how deep its calls are nested. -/
structure Chain where
  count : Nat
  depth : Nat
  deepest : Nat

/-- The calls of one stream transform, and the nested steps left for them. -/
structure Transform where
  calls : Nat
  during : List Code

/-- What a scenario keeps. Everything with a name is listed latest first, failures apart. -/
structure Stage where
  /-- Whether the scenario still has the channel. -/
  hasChannel : Bool
  /-- Running operations that refer to the channel. -/
  channelUses : Nat
  /-- Running operations that refer to the queue of the channel. -/
  queueUses : Nat
  hasQueue : Bool
  streams : List (StreamRef × ScriptedStream)
  decorations : List (StreamRef × Option String)
  handles : List (String × Handle)
  tasks : List (String × Task Closure)
  promises : List (String × PromiseRef)
  bodies : List (String × BodyRef)
  handlers : List HandlerScript
  /-- Calls of the handler so far. -/
  handled : Nat
  /-- The scripts left for the renderer; without any the standard one renders. -/
  renderer : Option (List RendererScript)
  reportsHooks : Bool
  hooks : List Code
  /-- The names of failures, oldest first: what a name was given to first keeps it. -/
  failureNames : List (String × FailureRef)
  /-- Failures that were given a number for a name. -/
  numbered : Nat
  chains : Array Chain
  transforms : Array Transform
  /-- What happened since the current step began, latest first. -/
  events : List Event

/-- The stage before the first step. -/
def Stage.start (script : Script) : Stage where
  hasChannel := script.channel.isSome
  channelUses := 0
  queueUses := 0
  hasQueue := script.queue.isSome
  streams := []
  decorations := []
  handles := []
  tasks := []
  promises := []
  bodies := []
  handlers := (script.channel.bind (·.handlers)).getD []
  handled := 0
  renderer := script.channel.bind (·.renderer)
  reportsHooks := (script.queue.map (·.reports)).getD false
  hooks := (script.queue.map (·.hooks)).getD []
  failureNames := []
  numbered := 0
  chains := #[]
  transforms := #[]
  events := []

/-- Puts something under a name, in place of what was there. -/
def store {α : Type} (name : String) (a : α) (entries : List (String × α)) : List (String × α) :=
  (name, a) :: entries.filter (·.1 ≠ name)

/-- Computations of a scenario. -/
abbrev Play := Engine Closure Stage

namespace Play

def stage : Play Stage := .gets (·.outside)

def modifyStage (f : Stage → Stage) : Play Unit :=
  .modify fun w => { w with outside := f w.outside }

/-- Reads something off the stage and changes it. -/
def updateStage {α : Type} (f : Stage → α × Stage) : Play α :=
  .modifyGet fun w =>
    let (a, s) := f w.outside
    (a, { w with outside := s })

/-- Reports an event. -/
def report (e : Event) : Play Unit := modifyStage fun s => { s with events := e :: s.events }

/-- The name of a failure: one that has none is numbered. -/
def failureName (f : FailureRef) : Play String :=
  updateStage fun s =>
    match s.failureNames.find? (·.2 = f) with
    | some (name, _) => (name, s)
    | none =>
      let name := "#" ++ toString (s.numbered + 1)
      (name,
        { s with failureNames := s.failureNames ++ [(name, f)], numbered := s.numbered + 1 })

/-- Shows the failures that another one suppressed. -/
def viewSuppressed : List FailureRef → Play (List (String × String))
  | [] => pure []
  | f :: rest => do
    let name ← failureName f
    let text ← Effect.gets fun w => w.failures.text f
    return (name, text) :: (← viewSuppressed rest)

/-- Shows a failure as it is now. -/
def viewFailure (f : FailureRef) : Play FailureView := do
  let name ← failureName f
  let failures : Failures ← Effect.gets fun w => w.failures
  return ⟨name, (failures.get f).error, failures.text f, ← viewSuppressed (failures.suppressed f)⟩

def viewFailure? : Option FailureRef → Play (Option FailureView)
  | none => pure none
  | some f => some <$> viewFailure f

/-- Shows the failure of a result, if it is one. -/
def viewResult : Result → Play (Option FailureView)
  | .ok () => pure none
  | .error f => some <$> viewFailure f

end Play

/-- The error that is asked for. -/
def ErrorSpec.error? : ErrorSpec → Except Fault ExchangeError
  | .transport cause => .ok (.transport cause)
  | .protocol status reason =>
    match Status.ofNat? status with
    | some status => .ok (.protocol status reason)
    | none => .error (.head .invalidStatus)
  | .badRequest reason => .ok (.badRequest reason)
  | .application cause => .ok (.application cause)
  | .lengthMismatch declared written => .ok (.lengthMismatch declared written)
  | .stateViolation reason => .ok (.stateViolation reason)
  | .invalidArgument reason => .ok (.invalidArgument reason)
  | .unconsumedBody reason => .ok (.unconsumedBody reason)
  | .unknown => .error (.problem .unknownErrorKind)

namespace FailureSpec

/-- Makes a new failure and gives it a name if there is one for it. -/
def create (name : Option String) (error : ExchangeError) : Play FailureRef := do
  let f ← Engine.newFailure error
  match name with
  | some name => Play.modifyStage fun s => { s with failureNames := s.failureNames ++ [(name, f)] }
  | none => pure ()
  return f

/-- The failure that is asked for. A name that is not known yet is given to a new failure. -/
def find (spec : FailureSpec) : Play (Except Fault FailureRef) := do
  let names := (← Play.stage).failureNames
  match spec with
  | .named name =>
    match names.lookup name with
    | some f => return .ok f
    | none => return .ok (← create (some name) (.transport name))
  | .made name error =>
    match name.bind (names.lookup ·) with
    | some f => return .ok f
    | none =>
      match error.error? with
      | .error fault => return .error fault
      | .ok error => return .ok (← create name error)

/-- The failure that may be asked for. -/
def find? : Option FailureSpec → Play (Except Fault (Option FailureRef))
  | none => return .ok none
  | some spec => return (← spec.find).map some

/-- The failure that is asked for, if what is asked for is valid. -/
def findValid? (spec : FailureSpec) : Play (Option FailureRef) := do
  return (← spec.find).toOption

end FailureSpec

namespace FieldEdit

/-- Makes one change. -/
def apply (fields : Fields) : FieldEdit → Except Fault Fields
  | .insert name value =>
    match RawField.check (name, value) with
    | .ok (name, value) => .ok (fields.insert name value)
    | .error e => .error (.head e)
  | .append name value =>
    match RawField.check (name, value) with
    | .ok (name, value) => .ok (fields.append name value)
    | .error e => .error (.head e)
  | .remove name =>
    match FieldName.ofOctets? name with
    | some name => .ok (fields.remove name)
    | none => .error (.head .invalidName)
  | .clear => .ok .empty
  | .unknown => .error (.problem .unknownFieldEdit)

/-- Makes changes in order, up to the first that is not valid. -/
def applyAll (fields : Fields) : List FieldEdit → Fields × Option Fault
  | [] => (fields, none)
  | edit :: rest =>
    match edit.apply fields with
    | .ok fields => applyAll fields rest
    | .error fault => (fields, some fault)

end FieldEdit

/-- Changes fields step by step. A change that is not valid is passed over; a panic ends it. -/
def PrepareStep.applyAll (fields : Fields) : List PrepareStep → Fields × Option Panic
  | [] => (fields, none)
  | .edit change :: rest =>
    match change.apply fields with
    | .ok fields => applyAll fields rest
    | .error _ => applyAll fields rest
  | .panic message :: _ => (fields, some (.text message))

/-- The head that is asked for. -/
def RequestSpec.head? (spec : RequestSpec) : Except Fault RequestHead :=
  (RequestHead.build spec.method spec.target spec.version spec.fields spec.attachment).mapError
    .head

end HttpExchange.Scenario
