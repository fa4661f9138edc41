import HttpExchange.Proofs.Oblivious

/-!
# Runs that do not depend on the number of requests

The response side and the end of an exchange do not look at the number of requests, and neither does
a deferred job. The operations are taken apart as the engine does it: the parts that call a stream
have a lemma each, and the operation is a sequence of them with some looks at the state between.

A job may call the engine again, so what it does depends on the host that it is done by. Surroundings
are therefore built up by depth, as in `Proofs.Surroundings`: below the last level everything is cut
off, which is oblivious, and a host of the next level does jobs with the help of one that is known to
leave the number alone. So those of every depth leave it alone in deferred jobs too
(`ObliviousSurroundings.unaware`).

`ObliviousClient` collects what code around the engine can do without showing the number: it is a
client that looks at the state only where a request more makes no difference, and keeps nothing that
would tell. Whatever such a client does, the whole run is oblivious (`ObliviousClient.oblivious`).
`Proofs.EarlyFailure` compares two connections with that which differ in the number of requests
alone.
-/

namespace HttpExchange

variable {κ ε α : Type} {host : Host κ ε}

/-! ## Writes -/

namespace Engine

/-- The head of a response does not mention the number. -/
theorem oblivious_freezeHead (hh : host.Heedless) (e : ExchangeRef) (stream : Stream)
    (last : Bool) : Oblivious (freezeHead host e stream last) := by
  refine .bind (.modifyResponse e _) fun _ => .look (fun _ => rfl) fun r => ?_
  refine .bind (.prepare hh r.fields stream) fun (fields, panic) => ?_
  refine .bind (.modifyResponse e _) fun _ => .bind ?_ fun _ => ?_
  · cases panic with
    | none => exact .pure ()
    | some p => exact .panic p
  · exact .look (fun _ => rfl) fun _ => .pure _

/-- The send gets the same number and the same bytes. -/
theorem oblivious_sendTo (hh : host.Heedless) (e : ExchangeRef) (stream : Stream)
    (head : Option ResponseHead) (last : Bool) (callback : SendCallback κ)
    (chunks : List Octets) : Oblivious (sendTo host e stream head last callback chunks) :=
  .bind (.modifyGet fun _ => rfl) fun ref => .bind (.note _) fun _ =>
    .send hh _ last ref chunks stream

theorem oblivious_tellSucceeded (hh : host.Heedless) (e : ExchangeRef) (stream : Stream) :
    Oblivious (tellSucceeded host e stream) := .bind (.note _) fun _ => .succeeded hh stream

/-- The stream is told the same failure. -/
theorem oblivious_tellFailed (hh : host.Heedless) (e : ExchangeRef) (stream : Stream)
    (cause : FailureRef) : Oblivious (tellFailed host e stream cause) :=
  .bind (.note _) fun _ => .failed hh cause stream

/-- A write is refused for the same reason. -/
theorem oblivious_refuseWrite (hh : host.Unaware) (callback : Callback κ) (why : ExchangeError) :
    Oblivious (refuseWrite host callback why) :=
  .bind (.newFailure why) fun _ => .bind (.enter _) fun _ => oblivious_runQueued hh _ _

end Engine

namespace ExchangeRef

/-- An admitted write once its head is there. -/
theorem oblivious_sendChecked (hh : host.Unaware) (e : ExchangeRef) (stream : Stream) (last : Bool)
    (callback : Callback κ) (chunks : List Octets) (head : Option ResponseHead) :
    Oblivious (do
      match (← Engine.response e).lengthFault last with
      | none =>
        Effect.modify (·.enterSending callback)
        Engine.sendTo host e stream head last (.pendingWrite e) chunks
      | some fault =>
        Engine.note (.mismatched e)
        match ← Engine.takeWrite e with
        | some callback => Engine.refuseWrite host callback fault
        | none => pure () : Engine κ ε Unit) := by
  refine .look (fun _ => rfl) fun r => ?_
  split
  · refine .bind (.modify fun _ => rfl) fun _ => ?_
    exact Engine.oblivious_sendTo hh.toHeedless e stream head last _ chunks
  · refine .bind (.note _) fun _ => .bind (.takeWrite e) fun taken => ?_
    split
    · exact Engine.oblivious_refuseWrite hh _ _
    · exact .pure ()

/-- A write is admitted, refused or withheld in both runs. -/
theorem oblivious_write (hh : host.Unaware) (e : ExchangeRef) (last : Bool) (callback : Callback κ)
    (chunks : List Octets) : Oblivious (e.write host last callback chunks) := by
  refine .get (fun _ => rfl) fun w => .bind (.enter _) fun _ => ?_
  split
  next stream active _ _ =>
    split
    · exact Engine.oblivious_runQueued hh _ _
    · exact Engine.oblivious_refuseWrite hh callback _
    · exact Engine.oblivious_runQueued hh _ _
    next commits _ =>
      refine .bind (.modifyResponse e _) fun _ => .bind (.modifyActive _) fun _ => ?_
      have hrest := e.oblivious_sendChecked hh stream last callback chunks
      dsimp only
      split
      · exact .bind (.map _ (Engine.oblivious_freezeHead hh.toHeedless e stream last)) hrest
      · exact .bind (.pure none) hrest
  · exact Engine.oblivious_refuseWrite hh callback _

/-- The promise is the same one. -/
theorem oblivious_writeAsync (hh : host.Unaware) (e : ExchangeRef) (last : Bool)
    (chunks : List Octets) : Oblivious (e.writeAsync host last chunks) :=
  .bind (.modifyGet fun _ => rfl) fun _ => .bind (e.oblivious_write hh last _ chunks) fun _ =>
    .pure _

/-- The renderer gives the same page. -/
theorem oblivious_writeError (hh : host.Unaware) (e : ExchangeRef) (status : Status)
    (message : Option String) (callback : Callback κ) :
    Oblivious (e.writeError host status message callback) := by
  refine .look (fun _ => rfl) fun x => .bind (hh.render _ _ _) fun (body, fields) => ?_
  refine .look (fun _ => rfl) fun r => ?_
  split
  · exact .bind (.enter _) fun _ => Engine.oblivious_refuseWrite hh callback _
  · exact .bind (.modifyResponse e _) fun _ => e.oblivious_write hh true callback [body]

/-- A push goes to the stream in both runs. -/
theorem oblivious_push (hh : host.Heedless) (e : ExchangeRef) (request : RequestHead) :
    Oblivious (e.push host request) := by
  refine .get (fun _ => rfl) fun w => ?_
  split
  · exact .push hh request _
  · exact .pure ()

/-- The edit sees the same fields. -/
theorem oblivious_editFields (e : ExchangeRef) {edit : Fields → Engine κ ε (α × Fields)}
    (hedit : ∀ fields, Oblivious (edit fields)) : Oblivious (e.editFields edit) := by
  refine .look (fun _ => rfl) fun r => ?_
  split
  · exact .pure _
  · refine .bind (hedit _) fun (a, fields) => .look (fun _ => rfl) fun r => ?_
    split
    · exact .pure _
    · exact .bind (.modifyResponse e _) fun _ => .pure _

/-- The length is declared in both runs, or in none. -/
theorem oblivious_setContentLength (e : ExchangeRef) (length : Nat) :
    Oblivious (e.setContentLength length : Engine κ ε (Except ExchangeError Unit)) := by
  refine .look (fun _ => rfl) fun r => ?_
  split
  · exact .pure _
  · exact .bind (.modifyResponse e _) fun _ => .pure _

/-- The edit sees the same trailers. -/
theorem oblivious_editTrailers (e : ExchangeRef) {edit : Fields → Engine κ ε (α × Fields)}
    (hedit : ∀ fields, Oblivious (edit fields)) : Oblivious (e.editTrailers edit) :=
  .look (fun _ => rfl) fun _ => .bind (hedit _) fun _ => .bind (.modifyExchange e _) fun _ =>
    .pure _

theorem oblivious_takeTrailers (e : ExchangeRef) :
    Oblivious (e.takeTrailers : Engine κ ε (Option Fields)) :=
  .look (fun _ => rfl) fun _ => .bind (.modifyExchange e _) fun _ => .pure _

/-- The response is reset in both runs, or in none. -/
theorem oblivious_reset (e : ExchangeRef) :
    Oblivious (e.reset : Engine κ ε (Except ExchangeError Unit)) := by
  refine .look (fun _ => rfl) fun r => ?_
  split
  · exact .pure _
  · exact .bind (.modifyExchange e _) fun _ => .pure _

end ExchangeRef

/-! ## The end of a send -/

/-- The end of a send is told to the same callback. -/
theorem SendCallback.oblivious_complete (hh : host.Unaware) (callback : SendCallback κ)
    (ref : SendRef) (result : Result) : Oblivious (callback.complete host ref result) := by
  cases callback with
  | direct callback => exact .complete hh.toHeedless callback result
  | pendingWrite e =>
    refine .bind (.note _) fun _ => .bind (.takeWrite e) fun taken => ?_
    cases taken with
    | none => exact .pure ()
    | some callback => exact Engine.oblivious_runQueued hh _ _
  | finalFrame e stream =>
    refine .bind (.note _) fun _ => ?_
    cases result with
    | ok _ => exact Engine.oblivious_tellSucceeded hh.toHeedless e stream
    | error cause => exact Engine.oblivious_tellFailed hh.toHeedless e stream cause
  | errorResponse e stream cause =>
    have htell := Engine.oblivious_tellFailed hh.toHeedless e stream cause
    refine .bind (.note _) fun _ => ?_
    cases result with
    | ok _ => exact htell
    | error other => exact .bind (.suppress cause other) fun _ => htell

/-- A callback is taken once in both runs. -/
theorem SendRef.oblivious_complete (hh : host.Unaware) (ref : SendRef) (result : Result) :
    Oblivious (ref.complete host result) := by
  refine .bind (.modifyGet fun _ => rfl) fun callback => ?_
  cases callback with
  | none => exact .pure ()
  | some callback => exact callback.oblivious_complete hh ref result

/-! ## The end of an exchange -/

namespace Engine

/-- The exchange leaves the channel, and the number stays. -/
theorem oblivious_detach (e : ExchangeRef) (cause : Option FailureRef) :
    Oblivious (detach e cause : Engine κ ε Unit) :=
  .look (fun _ => rfl) fun _ => .bind (.note _) fun _ => .bind (.modify fun _ => rfl) fun _ =>
    .modify fun _ => rfl

theorem oblivious_conclude (e : ExchangeRef) : Oblivious (conclude e : Engine κ ε Unit) :=
  .bind (.setPhase e _) fun _ => .note _

/-- The exchange fails with the same failure. -/
theorem oblivious_terminate (hh : host.Heedless) (e : ExchangeRef) (stream : Stream)
    (cause : FailureRef) : Oblivious (terminate host e stream cause) :=
  .bind (oblivious_tellFailed hh e stream cause) fun _ => oblivious_conclude e

/-- The connection is given up in both runs. -/
theorem oblivious_forbidReuse (e : ExchangeRef) : Oblivious (forbidReuse e : Engine κ ε Unit) := by
  refine .look (fun _ => rfl) fun persistent => ?_
  split
  · exact .bind (.modify fun _ => rfl) fun _ => .modifyResponse e _
  · exact .pure ()

/-- The last frame is sent in both runs, or in none. -/
theorem oblivious_sendRest (hh : host.Heedless) (e : ExchangeRef) (stream : Stream)
    (head : Option ResponseHead) : Oblivious (sendRest host e stream head) := by
  refine .look (fun _ => rfl) fun r => ?_
  split
  · exact .bind (.note _) fun _ => .bind (.newFailure _) fun _ =>
      oblivious_terminate hh e stream _
  · dsimp only
    split
    · exact .bind (oblivious_tellSucceeded hh e stream) fun _ => oblivious_conclude e
    · exact .bind (oblivious_sendTo hh e stream _ true _ _) fun _ => oblivious_conclude e

/-- The length fits in both runs, or in none. -/
theorem oblivious_sendEnd (hh : host.Heedless) (e : ExchangeRef) (stream : Stream) :
    Oblivious (sendEnd host e stream) := by
  refine .look (fun _ => rfl) fun before => .bind (.modifyResponse e _) fun _ => ?_
  dsimp only
  split
  · exact .bind (.pure none) fun head => oblivious_sendRest hh e stream head
  · exact .bind (.map _ (oblivious_freezeHead hh e stream true)) fun head =>
      oblivious_sendRest hh e stream head

/-- The stream discards what was not read in both runs. -/
theorem oblivious_succeedStream (hh : host.Heedless) (e : ExchangeRef) (stream : Stream) :
    Oblivious (succeedStream host e stream) := by
  refine .bind (.consumeAll hh stream) fun unread => ?_
  cases unread with
  | none => exact oblivious_sendEnd hh e stream
  | some unread =>
    refine .look (fun _ => rfl) fun error => ?_
    split
    · exact .bind (oblivious_forbidReuse e) fun _ => oblivious_sendEnd hh e stream
    · exact oblivious_terminate hh e stream unread

/-- The error response has the same page. -/
theorem oblivious_sendErrorResponse (hh : host.Heedless) (e : ExchangeRef) (stream : Stream)
    (cause : FailureRef) : Oblivious (sendErrorResponse host e stream cause) := by
  refine .look (fun _ => rfl) fun page => .look (fun _ => rfl) fun x => ?_
  refine .bind (.attempt (hh.render _ _ _)) fun rendered => ?_
  cases rendered with
  | error p =>
    refine .bind (.newFailure _) fun failure => .bind (.suppress _ _) fun _ => ?_
    exact oblivious_terminate hh e stream cause
  | ok given =>
    refine .bind (.modifyResponse e _) fun _ => ?_
    refine .bind (oblivious_freezeHead hh e stream true) fun head => ?_
    exact .bind (oblivious_sendTo hh e stream _ true _ _) fun _ => oblivious_conclude e

/-- There is an error response in both runs, or in none. -/
theorem oblivious_failStream (hh : host.Heedless) (e : ExchangeRef) (stream : Stream)
    (cause : FailureRef) (standard : Fields) :
    Oblivious (failStream host e stream cause standard) := by
  refine .look (fun _ => rfl) fun r => ?_
  have hrest : Oblivious (do
      setPhase e .completing
      if r.committed then terminate host e stream cause
      else sendErrorResponse host e stream cause : Engine κ ε Unit) := by
    refine .bind (.setPhase e _) fun _ => ?_
    split
    · exact oblivious_terminate hh e stream cause
    · exact oblivious_sendErrorResponse hh e stream cause
  dsimp only
  split
  · refine .look (fun _ => rfl) fun error => ?_
    exact .bind (.modifyExchange e _) fun _ => hrest
  · exact hrest

end Engine

namespace ExchangeRef

/-- An exchange succeeds, or is not ready to, in both runs. -/
theorem oblivious_succeed (hh : host.Heedless) (e : ExchangeRef) : Oblivious (e.succeed host) := by
  refine .look (fun _ => rfl) fun active => ?_
  split
  · exact .pure _
  · repeat
      split
      · exact .pure _
    refine .look (fun _ => rfl) fun stream => .bind (Engine.oblivious_detach e none) fun _ => ?_
    split
    · exact .pure _
    · refine .bind (.setPhase e _) fun _ => ?_
      exact .bind (Engine.oblivious_succeedStream hh e _) fun _ => .pure _

theorem oblivious_fail (hh : host.Heedless) (e : ExchangeRef) (cause : FailureRef) :
    Oblivious (e.fail host cause) := by
  refine .look (fun _ => rfl) fun active => ?_
  cases active with
  | none => exact .pure ()
  | some active =>
    refine .look (fun _ => rfl) fun channel => ?_
    refine .bind (Engine.oblivious_detach e _) fun _ => ?_
    cases channel.stream with
    | none =>
      cases active.write with
      | none => exact .pure ()
      | some callback => exact .bind (.drop hh callback) fun _ => .pure ()
    | some stream =>
      have hfails := Engine.oblivious_failStream hh e stream cause
        (channel.config.standardFields host.now)
      cases active.write with
      | none => exact hfails
      | some callback => exact .bind (.drop hh callback) fun _ => hfails

/-- The handler runs in both runs. -/
theorem oblivious_dispatch (hh : host.Heedless) (e : ExchangeRef) :
    Oblivious (e.dispatch host) := by
  refine .bind e.oblivious_enableProcessing fun _ => ?_
  refine .bind (.attempt (hh.handle e)) fun handled => ?_
  split
  · exact .pure ()
  · exact .bind (.newFailure _) fun _ => e.oblivious_fail hh _
  · exact .bind (.newFailure _) fun _ => e.oblivious_fail hh _

end ExchangeRef

/-! ## Everything that can run -/

/-- Every job does the same. -/
theorem Job.oblivious_perform (hh : host.Unaware) (job : Job κ) : Oblivious (job.perform host) := by
  cases job with
  | code run signal => exact hh.run run signal
  | wakeBody body => exact body.oblivious_wake hh.toHeedless
  | complete callback result => exact .complete hh.toHeedless callback result
  | errorListener _ run cause => exact hh.run run _
  | closeListener run cause => exact .bind (.attempt (hh.run run _)) fun _ => .pure ()
  | abort cause =>
    refine .bind (Channel.oblivious_onError host cause) fun task => ?_
    cases task with
    | none => exact .pure ()
    | some task => exact hh.perform task.job
  | fail e cause => exact e.oblivious_fail hh.toHeedless cause
  | dispatch e => exact e.oblivious_dispatch hh.toHeedless
  | drain name => exact Queue.oblivious_drain hh name

/-- Surroundings of every depth that leave the number alone do so in deferred jobs too. -/
theorem ObliviousSurroundings.unaware {depth : Nat} {host : Host κ ε}
    (hh : ObliviousSurroundings depth host) : host.Unaware := by
  induction depth generalizing host with
  | zero =>
    obtain ⟨hheedless, hperform⟩ := hh
    refine ⟨hheedless, fun job => ?_⟩
    rw [hperform job]
    exact .halt
  | succ depth ih =>
    obtain ⟨hheedless, inner, hinner, hperform⟩ := hh
    refine ⟨hheedless, fun job => ?_⟩
    rw [hperform job]
    exact job.oblivious_perform (ih hinner)

/-- What code around the engine can do that looks at nothing which shows the number of requests,
with the help of hosts of the kind `H`. -/
inductive ObliviousClient (H : Host κ ε → Prop) : (α : Type) → Engine κ ε α → Prop
  -- computing
  | pure {α : Type} (a : α) : ObliviousClient H α (pure a)
  | bind {α β : Type} {m : Engine κ ε α} {f : α → Engine κ ε β} : ObliviousClient H α m →
      (∀ a, ObliviousClient H β (f a)) → ObliviousClient H β (m >>= f)
  | panic {α : Type} (p : Panic) : ObliviousClient H α (Effect.panic p)
  | attempt {α : Type} {m : Engine κ ε α} : ObliviousClient H α m →
      ObliviousClient H (Except Panic α) (Effect.attempt m)
  | halt {α : Type} : ObliviousClient H α Effect.halt
  -- looking at the state, and keeping things
  | look {α : Type} {f : World κ ε → α} : (∀ w : World κ ε, f w.recount = f w) →
      ObliviousClient H α (Effect.gets f)
  | keep {f : World κ ε → ε} : (∀ w : World κ ε, f w.recount = f w) →
      ObliviousClient H Unit (Effect.modify fun w => { w with outside := f w })
  -- making failures, streams and listeners
  | newFailure (error : ExchangeError) :
      ObliviousClient H FailureRef (Engine.newFailure error)
  | suppress (f other : FailureRef) : ObliviousClient H Unit (Engine.suppress f other)
  | newStream : ObliviousClient H StreamRef Engine.newStream
  | newSlot (listener : Callback κ) : ObliviousClient H SlotRef (SlotRef.new listener)
  -- events of the connection
  | setStream (stream : Stream) :
      ObliviousClient H (Except ExchangeError Unit) (Channel.setStream stream)
  | onRequest {host : Host κ ε} (request : RequestHead) : H host →
      ObliviousClient H (Except ExchangeError (Task κ)) (Channel.onRequest host request)
  | onContentAvailable : ObliviousClient H (Option (Task κ)) Channel.onContentAvailable
  | onError {host : Host κ ε} (cause : FailureRef) : H host →
      ObliviousClient H (Option (Task κ)) (Channel.onError host cause)
  | onClose (cause : Option FailureRef) :
      ObliviousClient H (Option (Task κ)) (Channel.onClose cause)
  | addCloseListener (listener : κ) :
      ObliviousClient H Unit (Channel.addCloseListener listener)
  | wrapStream {host : Host κ ε} {transform : Stream → Engine κ ε Stream} : H host →
      (∀ stream, ObliviousClient H Stream (transform stream)) →
      ObliviousClient H (Except ExchangeError Unit) (Channel.wrapStream host transform)
  -- the end of a send, tasks, and the queue that stands alone
  | endSend {host : Host κ ε} (ref : SendRef) (result : Result) : H host →
      ObliviousClient H Unit (ref.complete host result)
  | perform {host : Host κ ε} (job : Job κ) : H host →
      ObliviousClient H Unit (job.perform host)
  | offer (tasks : List (Task κ)) :
      ObliviousClient H (Option (Task κ)) (Engine.offer .standalone tasks)
  | enqueue {host : Host κ ε} (task : Task κ) : H host →
      ObliviousClient H Unit (Queue.run host .standalone task)
  -- the request side of an exchange
  | readContent {host : Host κ ε} (e : ExchangeRef) : H host →
      ObliviousClient H (Option (Content κ)) (e.readContent host)
  | demandContent {host : Host κ ε} (e : ExchangeRef) (code : κ) : H host →
      ObliviousClient H (Except ExchangeError Unit) (e.demandContent host (.code code .ready))
  | addErrorListener {host : Host κ ε} (e : ExchangeRef) (listener : κ) : H host →
      ObliviousClient H Unit (e.addErrorListener host listener)
  | addCompletionListener {host : Host κ ε} (e : ExchangeRef) (listener : Callback κ) :
      H host →
      ObliviousClient H (Except ExchangeError Unit) (e.addCompletionListener host listener)
  | newBody (e : ExchangeRef) : ObliviousClient H BodyRef (BodyRef.new e)
  | pollBody {host : Host κ ε} (body : BodyRef) (waker : κ) : H host →
      ObliviousClient H Frame (body.poll host waker)
  -- the response side of an exchange
  | setStatus (e : ExchangeRef) (status : Status) :
      ObliviousClient H Unit (e.setStatus status)
  | editFields {α : Type} (e : ExchangeRef) {edit : Fields → Engine κ ε (α × Fields)} :
      (∀ fields, ObliviousClient H (α × Fields) (edit fields)) →
      ObliviousClient H (Except ExchangeError α) (e.editFields edit)
  | setContentLength (e : ExchangeRef) (length : Nat) :
      ObliviousClient H (Except ExchangeError Unit) (e.setContentLength length)
  | editTrailers {α : Type} (e : ExchangeRef) {edit : Fields → Engine κ ε (α × Fields)} :
      (∀ fields, ObliviousClient H (α × Fields) (edit fields)) →
      ObliviousClient H α (e.editTrailers edit)
  | takeTrailers (e : ExchangeRef) : ObliviousClient H (Option Fields) e.takeTrailers
  | reset (e : ExchangeRef) : ObliviousClient H (Except ExchangeError Unit) e.reset
  | write {host : Host κ ε} (e : ExchangeRef) (last : Bool) (callback : Callback κ)
      (chunks : List Octets) : H host →
      ObliviousClient H Unit (e.write host last callback chunks)
  | writeAsync {host : Host κ ε} (e : ExchangeRef) (last : Bool) (chunks : List Octets) :
      H host → ObliviousClient H PromiseRef (e.writeAsync host last chunks)
  | writeError {host : Host κ ε} (e : ExchangeRef) (status : Status) (message : Option String)
      (callback : Callback κ) : H host →
      ObliviousClient H Unit (e.writeError host status message callback)
  | push {host : Host κ ε} (e : ExchangeRef) (request : RequestHead) : H host →
      ObliviousClient H Unit (e.push host request)
  | pollPromise (promise : PromiseRef) (waker : κ) :
      ObliviousClient H (Option Result) (promise.poll waker)
  | forget (promise : PromiseRef) : ObliviousClient H Unit promise.forget
  -- the end of an exchange
  | succeed {host : Host κ ε} (e : ExchangeRef) : H host →
      ObliviousClient H (Except ExchangeError Unit) (e.succeed host)
  | fail {host : Host κ ε} (e : ExchangeRef) (cause : FailureRef) : H host →
      ObliviousClient H Unit (e.fail host cause)

/-- A client that does not look at the number of requests is oblivious if the hosts that it uses
are. -/
theorem ObliviousClient.oblivious {H : Host κ ε → Prop} (hH : ∀ host, H host → host.Unaware)
    {m : Engine κ ε α} (h : ObliviousClient H α m) : Oblivious m := by
  induction h with
  | pure a => exact .pure a
  | bind _ _ ihm ihf => exact .bind ihm ihf
  | panic p => exact .panic p
  | attempt _ ih => exact .attempt ih
  | halt => exact .halt
  | look hsame => exact .gets hsame
  | @keep f hsame =>
    refine .modify fun w => ?_
    show { w.recount with outside := f w.recount } = _
    rw [hsame w]
    rfl
  | newFailure error => exact .newFailure error
  | suppress f other => exact .suppress f other
  | newStream => exact .modifyGet fun _ => rfl
  | newSlot listener => exact .modifyGet fun _ => rfl
  | setStream stream => exact Channel.oblivious_setStream stream
  | onRequest request _ => exact Channel.oblivious_onRequest _ request
  | onContentAvailable => exact Channel.oblivious_onContentAvailable
  | onError cause _ => exact Channel.oblivious_onError _ cause
  | onClose cause => exact Channel.oblivious_onClose cause
  | addCloseListener listener => exact .modify fun _ => rfl
  | wrapStream _ _ ih => exact Channel.oblivious_wrapStreamWithin ih _
  | endSend ref result hh => exact ref.oblivious_complete (hH _ hh) result
  | perform job hh => exact job.oblivious_perform (hH _ hh)
  | offer tasks => exact .offer .standalone tasks
  | enqueue task hh => exact Queue.oblivious_run (hH _ hh) _ task
  | readContent e hh => exact e.oblivious_readContent (hH _ hh)
  | demandContent e code hh => exact e.oblivious_demandContent (hH _ hh) _
  | addErrorListener e listener hh => exact e.oblivious_addErrorListener (hH _ hh) listener
  | addCompletionListener e listener _ => exact e.oblivious_addCompletionListener _ listener
  | newBody e => exact .modifyGet fun _ => rfl
  | pollBody body waker hh => exact body.oblivious_poll (hH _ hh) waker
  | setStatus e status => exact .modifyResponse e _
  | editFields e _ ih => exact e.oblivious_editFields ih
  | setContentLength e length => exact e.oblivious_setContentLength length
  | editTrailers e _ ih => exact e.oblivious_editTrailers ih
  | takeTrailers e => exact e.oblivious_takeTrailers
  | reset e => exact e.oblivious_reset
  | write e last callback chunks hh => exact e.oblivious_write (hH _ hh) last callback chunks
  | writeAsync e last chunks hh => exact e.oblivious_writeAsync (hH _ hh) last chunks
  | writeError e status message callback hh =>
    exact e.oblivious_writeError (hH _ hh) status message callback
  | push e request hh => exact e.oblivious_push (hH _ hh).toHeedless request
  | pollPromise promise waker => exact promise.oblivious_poll waker
  | forget promise => exact .modify fun _ => rfl
  | succeed e hh => exact e.oblivious_succeed (hH _ hh).toHeedless
  | fail e cause hh => exact e.oblivious_fail (hH _ hh).toHeedless cause

end HttpExchange
