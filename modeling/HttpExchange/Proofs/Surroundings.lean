import HttpExchange.Engine.Job

/-!
# What surrounds the engine

The engine is run by code that it does not know: the application, the streams of the transport,
the handler and the renderer. `Client` says what such code can do. It computes, keeps things for
itself, panics, catches panics, and calls the operations of the engine, in any order and at any
time; when it calls an operation it is called back in turn.

How deep calls nest in each other is finite in every run, so `Surroundings` counts levels: a host
of level `n + 1` is made of clients that call the engine with hosts of level `n`. `Reachable`
collects every state that some client brings a new connection to. A client may be cut off at any
point, so these are the states at all moments of all runs, those inside nested calls included.

Two things are not left to clients. A deferred job is done as the engine says
(`Surroundings`), and a stream that prepares a head does nothing but that (`Quiet`): the response
is locked meanwhile, and whoever used it would never return.

Streams are handed to the engine in two places, where one is attached and where the attached one is
wrapped. A statement may ask of the code that makes such a stream that it does so in a certain way
(`Craft`); `ClientOf`, `SurroundingsOf`, `PermittedOf` and `ReachableOf` are for these statements.
All others are about clients that make streams anyhow.
-/

namespace HttpExchange

variable {κ ε α : Type}

/-- A computation that changes nothing but what the surroundings keep for themselves. -/
def Quiet (m : Engine κ ε α) : Prop := ∀ w, ∃ out, (m w).2 = { w with outside := out }

/-- Every call that a host answers has a property. -/
structure Host.Answers (P : (α : Type) → Engine κ ε α → Prop) (host : Host κ ε) : Prop where
  run : ∀ code signal, P _ (host.run code signal)
  read : ∀ ref, P _ (host.transport.read ref)
  demand : ∀ ref, P _ (host.transport.demand ref)
  prepare : ∀ ref fields, Quiet (host.transport.prepare ref fields)
  send : ∀ ref head last ended chunks, P _ (host.transport.send ref head last ended chunks)
  push : ∀ ref request, P _ (host.transport.push ref request)
  consumeAll : ∀ ref, P _ (host.transport.consumeAll ref)
  succeeded : ∀ ref, P _ (host.transport.succeeded ref)
  failed : ∀ ref cause, P _ (host.transport.failed ref cause)
  observe : ∀ ref call, P _ (host.observe ref call)
  observePrepare : ∀ ref, Quiet (host.observe ref .prepare)
  handle : ∀ e, P _ (host.handle e)
  render : ∀ request page fields, P _ (host.render request page fields)
  taskFailed : ∀ task cause, P _ (host.taskFailed task cause)

/-- What every call has that has a property is had by the calls of a host. -/
theorem Host.Answers.imp {P Q : (α : Type) → Engine κ ε α → Prop} {host : Host κ ε}
    (h : host.Answers P) (himp : ∀ {α : Type} {m : Engine κ ε α}, P α m → Q α m) :
    host.Answers Q where
  run code signal := himp (h.run code signal)
  read ref := himp (h.read ref)
  demand ref := himp (h.demand ref)
  prepare := h.prepare
  send ref head last ended chunks := himp (h.send ref head last ended chunks)
  push ref request := himp (h.push ref request)
  consumeAll ref := himp (h.consumeAll ref)
  succeeded ref := himp (h.succeeded ref)
  failed ref cause := himp (h.failed ref cause)
  observe ref call := himp (h.observe ref call)
  observePrepare := h.observePrepare
  handle e := himp (h.handle e)
  render request page fields := himp (h.render request page fields)
  taskFailed task cause := himp (h.taskFailed task cause)

/-- What is asked of code that makes a stream, given the one that it is to wrap, if there is one. -/
abbrev Craft (κ ε : Type) := Option Stream → Engine κ ε Stream → Prop

/-- Streams may be made anyhow. -/
def Craft.any : Craft κ ε := fun _ _ => True

/-- What code around the engine can do, with the help of hosts of the kind `H`, if it makes streams
as it is asked to. -/
inductive ClientOf (C : Craft κ ε) (H : Host κ ε → Prop) : (α : Type) → Engine κ ε α → Prop
  -- computing
  | pure {α : Type} (a : α) : ClientOf C H α (pure a)
  | bind {α β : Type} {m : Engine κ ε α} {f : α → Engine κ ε β} :
      ClientOf C H α m → (∀ a, ClientOf C H β (f a)) → ClientOf C H β (m >>= f)
  | panic {α : Type} (p : Panic) : ClientOf C H α (Effect.panic p)
  | attempt {α : Type} {m : Engine κ ε α} :
      ClientOf C H α m → ClientOf C H (Except Panic α) (Effect.attempt m)
  | halt {α : Type} : ClientOf C H α Effect.halt
  -- looking at the state, and keeping things
  | look : ClientOf C H (World κ ε) Effect.get
  | keep (f : World κ ε → ε) : ClientOf C H Unit (Effect.modify fun w => { w with outside := f w })
  -- making failures, streams and listeners
  | newFailure (error : ExchangeError) : ClientOf C H FailureRef (Engine.newFailure error)
  | suppress (f other : FailureRef) : ClientOf C H Unit (Engine.suppress f other)
  | newStream : ClientOf C H StreamRef Engine.newStream
  | newSlot (listener : Callback κ) : ClientOf C H SlotRef (SlotRef.new listener)
  -- events of the connection
  | attach {m : Engine κ ε Stream} : ClientOf C H Stream m → C none m →
      ClientOf C H (Except ExchangeError Unit) (m >>= fun stream => Channel.setStream stream)
  | onRequest {host : Host κ ε} (request : RequestHead) :
      H host → ClientOf C H (Except ExchangeError (Task κ)) (Channel.onRequest host request)
  | onContentAvailable : ClientOf C H (Option (Task κ)) Channel.onContentAvailable
  | onError {host : Host κ ε} (cause : FailureRef) :
      H host → ClientOf C H (Option (Task κ)) (Channel.onError host cause)
  | onClose (cause : Option FailureRef) : ClientOf C H (Option (Task κ)) (Channel.onClose cause)
  | addCloseListener (listener : κ) : ClientOf C H Unit (Channel.addCloseListener listener)
  | wrapStream {host : Host κ ε} {transform : Stream → Engine κ ε Stream} :
      H host → (∀ stream, ClientOf C H Stream (transform stream)) →
      (∀ stream, C (some stream) (transform stream)) →
      ClientOf C H (Except ExchangeError Unit) (Channel.wrapStream host transform)
  -- the end of a send, tasks, and the queue that stands alone
  | endSend {host : Host κ ε} (ref : SendRef) (result : Result) :
      H host → ClientOf C H Unit (ref.complete host result)
  | perform {host : Host κ ε} (job : Job κ) : H host → ClientOf C H Unit (job.perform host)
  | offer (tasks : List (Task κ)) : ClientOf C H (Option (Task κ)) (Engine.offer .standalone tasks)
  | enqueue {host : Host κ ε} (task : Task κ) :
      H host → ClientOf C H Unit (Queue.run host .standalone task)
  -- the request side of an exchange
  | readContent {host : Host κ ε} (e : ExchangeRef) :
      H host → ClientOf C H (Option (Content κ)) (e.readContent host)
  | demandContent {host : Host κ ε} (e : ExchangeRef) (code : κ) :
      H host → ClientOf C H (Except ExchangeError Unit) (e.demandContent host (.code code .ready))
  | addErrorListener {host : Host κ ε} (e : ExchangeRef) (listener : κ) :
      H host → ClientOf C H Unit (e.addErrorListener host listener)
  | addCompletionListener {host : Host κ ε} (e : ExchangeRef) (listener : Callback κ) :
      H host → ClientOf C H (Except ExchangeError Unit) (e.addCompletionListener host listener)
  | newBody (e : ExchangeRef) : ClientOf C H BodyRef (BodyRef.new e)
  | pollBody {host : Host κ ε} (body : BodyRef) (waker : κ) :
      H host → ClientOf C H Frame (body.poll host waker)
  -- the response side of an exchange
  | setStatus (e : ExchangeRef) (status : Status) : ClientOf C H Unit (e.setStatus status)
  | editFields {α : Type} (e : ExchangeRef) {edit : Fields → Engine κ ε (α × Fields)} :
      (∀ fields, ClientOf C H (α × Fields) (edit fields)) →
      ClientOf C H (Except ExchangeError α) (e.editFields edit)
  | setContentLength (e : ExchangeRef) (length : Nat) :
      ClientOf C H (Except ExchangeError Unit) (e.setContentLength length)
  | editTrailers {α : Type} (e : ExchangeRef) {edit : Fields → Engine κ ε (α × Fields)} :
      (∀ fields, ClientOf C H (α × Fields) (edit fields)) → ClientOf C H α (e.editTrailers edit)
  | takeTrailers (e : ExchangeRef) : ClientOf C H (Option Fields) e.takeTrailers
  | reset (e : ExchangeRef) : ClientOf C H (Except ExchangeError Unit) e.reset
  | write {host : Host κ ε} (e : ExchangeRef) (last : Bool) (callback : Callback κ)
      (chunks : List Octets) : H host → ClientOf C H Unit (e.write host last callback chunks)
  | writeAsync {host : Host κ ε} (e : ExchangeRef) (last : Bool) (chunks : List Octets) :
      H host → ClientOf C H PromiseRef (e.writeAsync host last chunks)
  | writeError {host : Host κ ε} (e : ExchangeRef) (status : Status) (message : Option String)
      (callback : Callback κ) :
      H host → ClientOf C H Unit (e.writeError host status message callback)
  | push {host : Host κ ε} (e : ExchangeRef) (request : RequestHead) :
      H host → ClientOf C H Unit (e.push host request)
  | pollPromise (promise : PromiseRef) (waker : κ) :
      ClientOf C H (Option Result) (promise.poll waker)
  | forget (promise : PromiseRef) : ClientOf C H Unit promise.forget
  -- the end of an exchange
  | succeed {host : Host κ ε} (e : ExchangeRef) :
      H host → ClientOf C H (Except ExchangeError Unit) (e.succeed host)
  | fail {host : Host κ ε} (e : ExchangeRef) (cause : FailureRef) :
      H host → ClientOf C H Unit (e.fail host cause)

/-- A given stream is attached. -/
theorem ClientOf.attachPure {C : Craft κ ε} {H : Host κ ε → Prop} {stream : Stream}
    (h : C none (Pure.pure stream)) :
    ClientOf C H (Except ExchangeError Unit) (Channel.setStream stream) := attach (.pure stream) h

/-- What code around the engine can do, with the help of hosts of the kind `H`. -/
abbrev Client (H : Host κ ε → Prop) : (α : Type) → Engine κ ε α → Prop := ClientOf Craft.any H

/-- Clients that make streams anyhow may attach any stream. -/
theorem ClientOf.setStream {H : Host κ ε → Prop} (stream : Stream) :
    Client H (Except ExchangeError Unit) (Channel.setStream stream) := attachPure trivial

/-- Hosts whose calls nest at most so many levels deep. Below the last level everything is cut
off. -/
def SurroundingsOf (C : Craft κ ε) : Nat → Host κ ε → Prop
  | 0, host => host.Answers (ClientOf C fun _ => False) ∧ ∀ job, host.perform job = Effect.halt
  | depth + 1, host =>
    host.Answers (ClientOf C (SurroundingsOf C depth)) ∧
    ∃ inner, SurroundingsOf C depth inner ∧ ∀ job, host.perform job = job.perform inner

abbrev Surroundings : Nat → Host κ ε → Prop := SurroundingsOf Craft.any

/-- What a client with surroundings of any depth can do. -/
def PermittedOf (C : Craft κ ε) (m : Engine κ ε α) : Prop :=
  ClientOf C (fun host => ∃ depth, SurroundingsOf C depth host) α m

abbrev Permitted (m : Engine κ ε α) : Prop := PermittedOf Craft.any m

/-- Surroundings that do nothing of their own. -/
def Host.idleWith (perform : Job κ → Engine κ ε Unit) : Host κ ε where
  run _ _ := pure ()
  transport :=
    { id := fun _ _ => ""
      isCommitted := fun _ _ => false
      read := fun _ => pure none
      demand := fun _ => pure ()
      prepare := fun _ fields => pure (fields, none)
      send := fun _ _ _ _ _ => pure ()
      push := fun _ _ => pure ()
      consumeAll := fun _ => pure none
      succeeded := fun _ => pure ()
      failed := fun _ _ => pure () }
  observe _ _ := pure ()
  handle _ := pure none
  render _ _ fields := pure ([], fields)
  taskFailed _ _ := pure ()
  perform := perform
  now := .close
  patience := 4

/-- Surroundings that do nothing but the deferred jobs, which nest at most so deep. -/
def Host.idle : Nat → Host κ ε
  | 0 => .idleWith fun _ => Effect.halt
  | depth + 1 => .idleWith fun job => job.perform (Host.idle depth)

/-- Surroundings that only return values have what returning has. -/
theorem Host.answers_idleWith {P : (α : Type) → Engine κ ε α → Prop}
    (hpure : ∀ (α : Type) (a : α), P α (pure a)) (perform : Job κ → Engine κ ε Unit) :
    (Host.idleWith perform).Answers P where
  run _ _ := hpure _ ()
  read _ := hpure _ none
  demand _ := hpure _ ()
  prepare _ _ w := ⟨w.outside, rfl⟩
  send _ _ _ _ _ := hpure _ ()
  push _ _ := hpure _ ()
  consumeAll _ := hpure _ none
  succeeded _ := hpure _ ()
  failed _ _ := hpure _ ()
  observe _ _ := hpure _ ()
  observePrepare _ w := ⟨w.outside, rfl⟩
  handle _ := hpure _ none
  render _ _ fields := hpure _ ([], fields)
  taskFailed _ _ := hpure _ ()

/-- Surroundings that do nothing are as deep as asked, and make no streams. -/
theorem surroundingsOf_idle (C : Craft κ ε) (depth : Nat) :
    SurroundingsOf C depth (Host.idle depth) := by
  induction depth with
  | zero => exact ⟨Host.answers_idleWith (fun _ => .pure) _, fun _ => rfl⟩
  | succ depth ih => exact ⟨Host.answers_idleWith (fun _ => .pure) _, _, ih, fun _ => rfl⟩

theorem surroundings_idle (depth : Nat) : Surroundings depth (Host.idle depth : Host κ ε) :=
  surroundingsOf_idle Craft.any depth

/-- The same surroundings with loops that may take so many rounds. -/
def Host.patient (host : Host κ ε) (rounds : Nat) : Host κ ε := { host with patience := rounds }

/-- Patience is not a call. -/
theorem Host.Answers.patient {P : (α : Type) → Engine κ ε α → Prop} {host : Host κ ε}
    (h : host.Answers P) (rounds : Nat) : (host.patient rounds).Answers P :=
  ⟨h.run, h.read, h.demand, h.prepare, h.send, h.push, h.consumeAll, h.succeeded, h.failed,
    h.observe, h.observePrepare, h.handle, h.render, h.taskFailed⟩

theorem Surroundings.patient {depth : Nat} {host : Host κ ε} (h : Surroundings depth host)
    (rounds : Nat) : Surroundings depth (host.patient rounds) := by
  cases depth with
  | zero => exact ⟨h.1.patient rounds, h.2⟩
  | succ depth => exact ⟨h.1.patient rounds, h.2⟩

/-- The states that clients bring a new connection to. -/
inductive ReachableOf (C : Craft κ ε) : World κ ε → Prop
  | intro {β : Type} {m : Engine κ ε β} (id : String) (version : Version) (config : Config)
      (persistent : Bool) (outside : ε) (permitted : PermittedOf C m) :
      ReachableOf C (m (.start (.fresh id version config persistent) outside)).2

abbrev Reachable : World κ ε → Prop := ReachableOf Craft.any

/-! ## A run -/

/-- The state that a client brings a connection to that has settings of the most common kind. -/
def World.after (m : Engine Unit Unit Unit) : World Unit Unit :=
  (m (.start (.fresh "" .http11 {} true) ())).2

/-- What a client does to a new connection leads to a state that is reached. -/
theorem Permitted.reachable {m : Engine Unit Unit Unit} (h : Permitted m) :
    Reachable (World.after m) := .intro _ _ _ _ _ h

/-- The same for code of the application that is told apart by numbers. -/
def World.afterNumbered (m : Engine Nat Unit Unit) : World Nat Unit :=
  (m (.start (.fresh "" .http11 {} true) ())).2

theorem Permitted.reachable_numbered {m : Engine Nat Unit Unit} (h : Permitted m) :
    Reachable (World.afterNumbered m) := .intro _ _ _ _ _ h

/-- A request arrives, and the whole body of its response is written, but not as the last bytes. -/
def wholeBody : Engine Unit Unit Unit := do
  let _ ← Channel.setStream (.transport ⟨0⟩)
  let _ ← Channel.onRequest (Host.idle 2) .bare
  Job.perform (Host.idle 2) (.dispatch ⟨0⟩)
  let _ ← ExchangeRef.setContentLength ⟨0⟩ 2
  ExchangeRef.write (Host.idle 2) ⟨0⟩ false .ignore [[104, 105]]
  SendRef.complete (Host.idle 2) ⟨0⟩ (.ok ())

/-- The same with the end of the exchange. -/
def wholeResponse : Engine Unit Unit Unit := do
  wholeBody
  let _ ← ExchangeRef.succeed (Host.idle 2) ⟨0⟩

/-- A request arrives, and the connection reports the first of two failures. -/
def firstFailure : Engine Unit Unit Unit := do
  let first ← Engine.newFailure (.transport "first")
  let _ ← Engine.newFailure (.transport "second")
  let _ ← Channel.setStream (.transport ⟨0⟩)
  let _ ← Channel.onRequest (Host.idle 2) .bare
  let _ ← Channel.onError (Host.idle 2) first

/-- A request arrives and is handled, and its whole response is written, but then the stream reports
that the bytes were lost. -/
def lostResponse : Engine Unit Unit Unit := do
  let lost ← Engine.newFailure (.transport "lost")
  let _ ← Channel.setStream (.transport ⟨0⟩)
  let _ ← Channel.onRequest (Host.idle 2) .bare
  Job.perform (Host.idle 2) (.dispatch ⟨0⟩)
  ExchangeRef.write (Host.idle 2) ⟨0⟩ true .ignore [[104, 105]]
  SendRef.complete (Host.idle 2) ⟨0⟩ (.error lost)

/-- A request arrives and is handled. Then content is demanded, bytes are written, and two error
listeners and two close listeners are registered. There is a failure that nobody has reported. -/
def allWaiting : Engine Nat Unit Unit := do
  let _ ← Engine.newFailure (.transport "lost")
  let _ ← Channel.setStream (.transport ⟨0⟩)
  let _ ← Channel.onRequest (Host.idle 2) .bare
  Job.perform (Host.idle 2) (.dispatch ⟨0⟩)
  let _ ← ExchangeRef.demandContent (Host.idle 2) ⟨0⟩ (.code 1 .ready)
  ExchangeRef.write (Host.idle 2) ⟨0⟩ false (.code 2) [[104, 105]]
  ExchangeRef.addErrorListener (Host.idle 2) ⟨0⟩ 3
  ExchangeRef.addErrorListener (Host.idle 2) ⟨0⟩ 4
  Channel.addCloseListener 5
  Channel.addCloseListener 6

/-- The runs that examples are about are those of clients. -/
theorem permitted_wholeBody : Permitted wholeBody := by
  have hidle : ∃ depth, Surroundings depth (Host.idle 2 : Host Unit Unit) :=
    ⟨2, surroundings_idle 2⟩
  exact .bind (.setStream _) fun _ => .bind (.onRequest _ hidle) fun _ =>
    .bind (.perform _ hidle) fun _ => .bind (.setContentLength _ _) fun _ =>
    .bind (.write _ _ _ _ hidle) fun _ => .endSend _ _ hidle

theorem permitted_wholeResponse : Permitted wholeResponse :=
  .bind permitted_wholeBody fun _ => .bind (.succeed _ ⟨2, surroundings_idle 2⟩) fun _ => .pure ()

theorem permitted_lostResponse : Permitted lostResponse := by
  have hidle : ∃ depth, Surroundings depth (Host.idle 2 : Host Unit Unit) :=
    ⟨2, surroundings_idle 2⟩
  exact .bind (.newFailure _) fun lost => .bind (.setStream _) fun _ =>
    .bind (.onRequest _ hidle) fun _ => .bind (.perform _ hidle) fun _ =>
    .bind (.write _ _ _ _ hidle) fun _ => .endSend _ _ hidle

theorem permitted_allWaiting : Permitted allWaiting := by
  have hidle : ∃ depth, Surroundings depth (Host.idle 2 : Host Nat Unit) :=
    ⟨2, surroundings_idle 2⟩
  exact .bind (.newFailure _) fun _ => .bind (.setStream _) fun _ =>
    .bind (.onRequest _ hidle) fun _ => .bind (.perform _ hidle) fun _ =>
    .bind (.demandContent _ _ hidle) fun _ => .bind (.write _ _ _ _ hidle) fun _ =>
    .bind (.addErrorListener _ _ hidle) fun _ => .bind (.addErrorListener _ _ hidle) fun _ =>
    .bind (.addCloseListener _) fun _ => .addCloseListener _

theorem permitted_firstFailure : Permitted firstFailure := by
  have hidle : ∃ depth, Surroundings depth (Host.idle 2 : Host Unit Unit) :=
    ⟨2, surroundings_idle 2⟩
  exact .bind (.newFailure _) fun _ => .bind (.newFailure _) fun _ =>
    .bind (.setStream _) fun _ => .bind (.onRequest _ hidle) fun _ =>
    .bind (.onError _ hidle) fun _ => .pure ()

end HttpExchange
