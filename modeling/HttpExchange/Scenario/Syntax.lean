import HttpExchange.Engine.Host

/-!
# Scenarios

A scenario sets up a channel and acts on it from all sides: as the transport that reports events
and completes sends, as the application that reads, writes and ends exchanges. What the
application does when it is called back is part of the scenario too, as nested steps.

The types here are the scenarios as they are written down. Types that hold nested steps take the
type of nested code as a parameter; `Step` ties the knot with lists of itself.
-/

namespace HttpExchange.Scenario

/-- An error, as it is asked for. -/
inductive ErrorSpec
  | transport (cause : String)
  | protocol (status : Nat) (reason : String)
  | badRequest (reason : String)
  | application (cause : String)
  | lengthMismatch (declared written : Nat)
  | stateViolation (reason : String)
  | invalidArgument (reason : String)
  | unconsumedBody (reason : String)
  | unknown

/-- A failure, as it is asked for: by a name, or made from an error, which may give it a name. -/
inductive FailureSpec
  | named (name : String)
  | made (name : Option String) (error : ErrorSpec)

/-- A change of header fields. -/
inductive FieldEdit
  | insert (name value : Octets)
  | append (name value : Octets)
  | remove (name : Octets)
  | clear
  | unknown

/-- The parts of a request head. -/
structure RequestSpec where
  method : Octets
  target : Octets
  version : Version
  fields : List RawField
  attachment : Option String

/-- How a callback listens: to the result as a whole, with one reaction for success and one for
failure, or not at all. -/
inductive Listening
  | whole | branches | ignoring

/-- A callback that reports under a tag and then runs nested steps. -/
structure CallbackSpec (code : Type) where
  tag : String
  listening : Listening
  body : code

/-- A task that reports its name and then runs nested steps. -/
structure TaskSpec (code : Type) where
  name : String
  body : code

/-- Content that a stream is to deliver. -/
inductive ContentSpec
  /-- A read that finds nothing. -/
  | nothing
  /-- The end of the body. -/
  | finish
  /-- Body bytes; `release` is reported when the buffer is given back. -/
  | chunk (bytes : Octets) (last : Bool) (release : Option String)
  | trailers (fields : List RawField)
  | error (failure : FailureSpec)

/-- What a stream does with the callback of a send. -/
inductive SendPlan
  | succeed
  | fail (cause : FailureSpec)
  /-- Keeps it until it is told to complete it. -/
  | hold
  | lose

/-- What a stream does with the fields of a head before it is sent. -/
inductive PrepareStep
  | edit (edit : FieldEdit)
  | panic (message : String)

/-- The calls of a stream that can run nested steps. -/
inductive HookPoint
  | read | demand | send | consumeAll | succeeded | failed
  deriving DecidableEq

/-- A stream of the transport that follows a script. -/
structure StreamSpec (code : Type) where
  name : Option String
  id : String
  contents : List ContentSpec
  /-- What happens to a send for which `results` has no entry left. -/
  auto : SendPlan
  results : List SendPlan
  prepare : List PrepareStep
  unconsumed : Option FailureSpec
  /-- Whether the trailers are taken with the final frame. -/
  autoTrailers : Bool
  /-- Nested steps, one list for each call. -/
  hooks : List (HookPoint × List code)

/-- What a stream transform makes of a stream. -/
inductive WrapperKind
  /-- A wrapper with a completion listener. -/
  | listener
  /-- Two of them. -/
  | double
  /-- A decorating wrapper. -/
  | tag
  /-- A decorating wrapper that conceals what it wraps. -/
  | concealing
  /-- The stream itself. -/
  | same
  /-- A stream of its own. -/
  | unrelated

/-- What becomes of content that was read. -/
inductive Disposal
  | drop | release
  /-- The bytes are taken out. -/
  | takeBytes

/-- Where a returned task is kept; without a name it is run at once. -/
abbrev Keep := Option String

/-- Steps on the channel. -/
inductive ChannelStep (code : Type)
  | setStream (stream : StreamSpec code)
  | request (keep : Keep) (head : RequestSpec)
  | contentAvailable (keep : Keep)
  | error (keep : Keep) (cause : FailureSpec)
  | close (keep : Keep) (cause : Option FailureSpec)
  | addCloseListener (tag : Option String) (body : code)
  | addWrapper (kind : WrapperKind) (tag : Option String) (listener : CallbackSpec code)
      (during : List code)
  | current (handle : String)
  | info
  | drop

/-- Steps on the request side of an exchange. -/
inductive RequestStep (code : Type)
  | info
  | read (disposal : Disposal)
  | demand (tag : Option String) (body : code)
  | addErrorListener (tag : Option String) (body : code)
  | addCompletionListener (listener : CallbackSpec code)
  | openBody (name : String)

/-- Steps on the response side of an exchange. -/
inductive ResponseStep (code : Type)
  | setStatus (status : Nat)
  | fields
  | setContentLength (length : Nat)
  | reset
  | describe
  | editFields (edits : List FieldEdit) (body : code)
  | editTrailers (edits : List FieldEdit) (body : code)
  | write (last : Bool) (chunks : List Octets) (callback : CallbackSpec code)
  /-- Writes a chunk many times, each from the callback of the one before. -/
  | writeChain (count : Nat) (chunk : Octets)
  | writeAsync (last : Bool) (chunks : List Octets) (name : String)
  | writeError (status : Nat) (message : Option String) (callback : CallbackSpec code)
  | push (head : RequestSpec)

/-- Steps on the completion of an exchange. -/
inductive CompletionStep
  | succeed
  | fail (cause : FailureSpec)
  | describe

/-- Steps on what was left to be waited for. -/
inductive WaitStep
  | pollBody (name : String)
  | dropBody (name : String)
  | pollPromise (name : String)
  | dropPromise (name : String)

/-- Steps on a scripted stream. -/
inductive TransportStep
  | pushContent (content : ContentSpec)
  | setUnconsumed (cause : Option FailureSpec)
  | completeSend (failure : Option FailureSpec)
  | takeTrailers
  | describeTrailers

/-- Steps on failures. -/
inductive FailureStep
  | present (failure : FailureSpec)
  | suppress (failure cause : FailureSpec)
  | same (first second : FailureSpec)

/-- Steps on the standalone queue. -/
inductive QueueStep (code : Type)
  | offer (keep : Keep) (tasks : List (Option (TaskSpec code)))
  | run (task : TaskSpec code)
  | state
  /-- Runs a task that runs the next one from inside itself. -/
  | chain (count : Nat)

/-- Steps on tasks. -/
inductive TaskStep (code : Type)
  | make (keep : Keep) (task : TaskSpec code)
  | run (name : String) (blocking : Bool)
  | drop (name : String)

/-- Steps that steer the scenario itself. -/
inductive ControlStep (code : Type)
  | times (count : Nat) (body : code)
  | panic (panic : Panic)
  /-- Cuts the scenario off, so that the state in the middle of an operation can be looked at. -/
  | stop
  | unknown

/-- One step of a scenario, under the name that it is reported by. The steps on an exchange use
the handle that they name, or else the one stored last. -/
inductive Step
  | channel (name : String) (step : ChannelStep (List Step))
  | request (name : String) (handle : Option String) (step : RequestStep (List Step))
  | response (name : String) (handle : Option String) (step : ResponseStep (List Step))
  | completion (name : String) (handle : Option String) (step : CompletionStep)
  | wait (name : String) (step : WaitStep)
  | transport (name : String) (stream : Option String) (step : TransportStep)
  | failure (name : String) (step : FailureStep)
  | queue (name : String) (step : QueueStep (List Step))
  | task (name : String) (step : TaskStep (List Step))
  | control (name : String) (step : ControlStep (List Step))

instance : Inhabited Step := ⟨.control "" .unknown⟩

/-- Steps in their order. -/
abbrev Code := List Step

/-- What the handler does with one exchange, and the error it answers with. -/
structure HandlerScript where
  body : Code
  error : Option String

/-- How one error page is rendered. -/
structure RendererScript where
  body : Code
  edits : List FieldEdit
  /-- The body of the page, if it is not the usual one. -/
  page : Option Octets

/-- How a channel is set up. -/
structure ChannelSpec where
  connectionId : String
  version : Version
  persistent : Bool
  config : Config
  /-- The scripts of the renderer; without any the standard one renders. -/
  renderer : Option (List RendererScript)
  /-- The scripts of the handler; without any there is no handler. -/
  handlers : Option (List HandlerScript)

/-- How the standalone queue is set up. -/
structure QueueSpec where
  /-- Whether failed tasks are reported. -/
  reports : Bool
  /-- Nested steps, one list for each report. -/
  hooks : List Code

/-- A whole scenario. -/
structure Script where
  channel : Option ChannelSpec
  queue : Option QueueSpec
  steps : Code

/-! ## The size of a scenario

An upper bound on the steps that can be taken, which bounds how deep they can nest. -/

mutual

def Step.weight : Step → Nat
  | .channel _ step => 1 + channelWeight step
  | .request _ _ step => 1 + requestWeight step
  | .response _ _ step => 1 + responseWeight step
  | .completion _ _ _ => 1
  | .wait _ _ => 1
  | .transport _ _ _ => 1
  | .failure _ _ => 1
  | .queue _ step => 1 + queueWeight step
  | .task _ step => 1 + taskStepWeight step
  | .control _ step => 1 + controlWeight step

def channelWeight : ChannelStep (List Step) → Nat
  | .setStream stream => streamWeight stream
  | .addCloseListener _ body => codeWeight body
  | .addWrapper _ _ listener during => 2 * callbackWeight listener + codesWeight during
  | .request _ _ | .contentAvailable _ | .error _ _ | .close _ _ | .current _ | .info | .drop => 0

def requestWeight : RequestStep (List Step) → Nat
  | .demand _ body => codeWeight body
  | .addErrorListener _ body => codeWeight body
  | .addCompletionListener listener => callbackWeight listener
  | .info | .read _ | .openBody _ => 0

def responseWeight : ResponseStep (List Step) → Nat
  | .editFields _ body => codeWeight body
  | .editTrailers _ body => codeWeight body
  | .write _ _ callback => callbackWeight callback
  | .writeChain count _ => count
  | .writeError _ _ callback => callbackWeight callback
  | .setStatus _ | .fields | .setContentLength _ | .reset | .describe | .writeAsync _ _ _
  | .push _ => 0

def queueWeight : QueueStep (List Step) → Nat
  | .offer _ tasks => tasksWeight tasks
  | .run task => taskWeight task
  | .chain count => count
  | .state => 0

def taskStepWeight : TaskStep (List Step) → Nat
  | .make _ task => taskWeight task
  | .run _ _ | .drop _ => 0

def controlWeight : ControlStep (List Step) → Nat
  | .times count body => count * codeWeight body
  | .panic _ | .stop | .unknown => 0

def callbackWeight : CallbackSpec (List Step) → Nat
  | ⟨_, _, body⟩ => codeWeight body

def taskWeight : TaskSpec (List Step) → Nat
  | ⟨_, body⟩ => codeWeight body

def optionalTaskWeight : Option (TaskSpec (List Step)) → Nat
  | none => 0
  | some task => taskWeight task

def tasksWeight : List (Option (TaskSpec (List Step))) → Nat
  | [] => 0
  | task :: rest => 1 + optionalTaskWeight task + tasksWeight rest

def streamWeight : StreamSpec (List Step) → Nat
  | ⟨_, _, contents, _, _, _, _, _, hooks⟩ => contents.length + hooksWeight hooks

def hookWeight : HookPoint × List (List Step) → Nat
  | (_, codes) => codesWeight codes

def hooksWeight : List (HookPoint × List (List Step)) → Nat
  | [] => 0
  | hook :: rest => hookWeight hook + hooksWeight rest

def codesWeight : List (List Step) → Nat
  | [] => 0
  | code :: rest => 1 + codeWeight code + codesWeight rest

def codeWeight : List Step → Nat
  | [] => 0
  | step :: rest => step.weight + codeWeight rest

end

namespace Script

/-- All nested steps that the scripts of handler, renderer and queue hold. -/
def bodies (s : Script) : List Code :=
  let handlers := (s.channel.bind (·.handlers)).getD []
  let renderer := (s.channel.bind (·.renderer)).getD []
  let hooks := (s.queue.map (·.hooks)).getD []
  handlers.map (·.body) ++ renderer.map (·.body) ++ hooks

/-- A bound on the steps that a scenario can take. -/
def weight (s : Script) : Nat := codeWeight s.steps + codesWeight s.bodies

end Script

end HttpExchange.Scenario
