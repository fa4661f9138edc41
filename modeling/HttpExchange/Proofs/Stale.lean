import HttpExchange.Proofs.Bystanders

/-!
# Handles on an exchange that is not active

Handles on an exchange stay around when it has ended, and with them the callbacks of its sends and
the task that dispatches it. What is done through them (`World.HandleCall`) leaves the channel and all
other exchanges alone, and calls nothing of the stream that is attached by then: `stale_handle_inert`.

The calls of the application that such an operation makes are not its own doing. They are assumed to
have no part in the engine, and not to panic in the queue. Which calls these may be is the part of an
operation (`Part`), and `World.HandleCall` says for each operation what has to be in it: the code of
a callback that is handed over, the handler for the task that dispatches, the stream of the ended
exchange for the end of its last send. Most operations run nothing. What is not in the part is not
restricted.

That no call of the attached stream is made is said with second surroundings. They need to have
nothing but the part in common with the first ones, so they may answer the calls of the attached
stream in any other way, and all calls that are made of a stream while its exchange runs; and yet
everything goes alike.
-/

namespace HttpExchange

open World

variable {κ ε α β : Type}

/-! ## Operations -/

namespace ExchangeRef

variable {host host' : Host κ ε} {part : Part κ}

/-- Content is not read any more; a failure is given instead. -/
theorem inert_readContent (e : ExchangeRef) :
    Inert part e (e.readContent host) (e.readContent host') := by
  refine .bind_activeFor? (.bind_gets fun w _ => ?_)
  cases (w.exchange e).failure with
  | some failure => exact .pure _
  | none => exact .bind (.newFailure _) fun _ => .pure _

/-- A demand is refused, or answered at once. -/
theorem inert_demandContent (e : ExchangeRef) (hh : host.Bystanders part e host') {job : Job κ}
    (hjob : part.Does job) :
    Inert part e (e.demandContent host job) (e.demandContent host' job) := by
  refine .bind_gets fun _ _ => .bind_activeFor? (.bind_gets fun w _ => ?_)
  split
  · exact .pure _
  · refine .bind (.enter _) fun _ => ?_
    refine .bind (Queue.inert_run hh hjob) fun _ => ?_
    exact .pure _

/-- An error listener is told what is known, or forgotten. -/
theorem inert_addErrorListener (e : ExchangeRef) (hh : host.Bystanders part e host') {listener : κ}
    (hlistener : part.code listener) :
    Inert part e (e.addErrorListener host listener) (e.addErrorListener host' listener) := by
  refine .bind_activeFor? (.bind_gets fun w _ => ?_)
  refine .bind (.pure _) fun told => ?_
  cases told with
  | some failure =>
    refine .bind (.note _) fun _ => .bind (.enter _) fun _ => ?_
    exact Queue.inert_run hh hlistener
  | none =>
    refine .bind_activeFor? (.modify fun w hw => ?_)
    unfold enterIgnored
    split
    · exact .of_eq hw rfl rfl rfl rfl rfl
    · exact ⟨.refl e w, rfl, hw⟩

theorem inert_addCompletionListener (e : ExchangeRef) (listener : Callback κ) :
    Inert part e (e.addCompletionListener host listener) (e.addCompletionListener host' listener) :=
  .bind_activeFor? (.pure _)

theorem inert_setStatus (e : ExchangeRef) (status : Status) :
    Inert part e (e.setStatus status : Engine κ ε Unit) (e.setStatus status) := .modifyExchange _

theorem inert_editFields (e : ExchangeRef) {edit : Fields → Engine κ ε (α × Fields)}
    (hedit : ∀ fields, Aloof part e (edit fields) (edit fields)) :
    Inert part e (e.editFields edit) (e.editFields edit) := by
  refine .bind_gets fun w _ => ?_
  split
  · exact .pure _
  · refine .bind (hedit _).inert fun (a, fields) => .bind_gets fun w _ => ?_
    split
    · exact .pure _
    · exact .bind (.modifyExchange _) fun _ => .pure _

theorem inert_setContentLength (e : ExchangeRef) (length : Nat) :
    Inert part e (e.setContentLength length : Engine κ ε (Except ExchangeError Unit))
      (e.setContentLength length) := by
  refine .bind_gets fun w _ => ?_
  split
  · exact .pure _
  · exact .bind (.modifyExchange _) fun _ => .pure _

theorem inert_editTrailers (e : ExchangeRef) {edit : Fields → Engine κ ε (α × Fields)}
    (hedit : ∀ fields, Aloof part e (edit fields) (edit fields)) :
    Inert part e (e.editTrailers edit) (e.editTrailers edit) := by
  refine .bind_gets fun w _ => .bind (hedit _).inert fun (a, trailers) => ?_
  exact .bind (.modifyExchange _) fun _ => .pure _

theorem inert_takeTrailers (e : ExchangeRef) :
    Inert part e (e.takeTrailers : Engine κ ε (Option Fields)) e.takeTrailers :=
  .bind_gets fun _ _ => .bind (.modifyExchange _) fun _ => .pure _

theorem inert_reset (e : ExchangeRef) :
    Inert part e (e.reset : Engine κ ε (Except ExchangeError Unit)) e.reset := by
  refine .bind_gets fun w _ => ?_
  split
  · exact .pure _
  · exact .bind (.modifyExchange _) fun _ => .pure _

/-- A refusal has the callback told. -/
theorem inert_refuseWrite (e : ExchangeRef) (hh : host.Bystanders part e host')
    {callback : Callback κ} (hcallback : part.Tells callback) (why : ExchangeError) :
    Inert part e (Engine.refuseWrite host callback why)
      (Engine.refuseWrite host' callback why) := by
  refine .bind (.newFailure _) fun cause => .bind (.enter _) fun _ => ?_
  exact Queue.inert_run hh hcallback

/-- A write is refused. -/
theorem inert_write (e : ExchangeRef) (hh : host.Bystanders part e host') (last : Bool)
    {callback : Callback κ} (hcallback : part.Tells callback) (chunks : List Octets) :
    Inert part e (e.write host last callback chunks) (e.write host' last callback chunks) := by
  refine .bind_gets fun w hw => .bind (.enter _) fun _ => ?_
  rw [hw.inactive]
  cases w.channel.stream <;> exact e.inert_refuseWrite hh hcallback _

/-- The same with a new promise as the callback, if that is in the part. -/
theorem writeAsync_alike (e : ExchangeRef) (hh : host.Bystanders part e host') (last : Bool)
    (chunks : List Octets) {w : World κ ε} (hw : w.Stale part e)
    (hp : part.promises ⟨w.promises.size⟩) :
    e.writeAsync host last chunks w = e.writeAsync host' last chunks w ∧
      w.Untouched e (e.writeAsync host last chunks w).2 := by
  have hrun : ∀ host : Host κ ε, e.writeAsync host last chunks w =
      (e.write host last (.promise ⟨w.promises.size⟩) chunks >>= fun _ => pure ⟨w.promises.size⟩)
        { w with promises := w.promises.push ⟨.pending, none⟩ } := fun _ => rfl
  have hstale : World.Stale { w with promises := w.promises.push ⟨.pending, none⟩ } part e :=
    ⟨hw.inactive, hw.settled, hw.waits.newPromise⟩
  have htells : part.Tells (.promise ⟨w.promises.size⟩) := hp
  have hinert := Inert.bind (e.inert_write hh last htells chunks)
    fun _ => .pure (⟨w.promises.size⟩ : PromiseRef)
  obtain ⟨hsame, huntouched⟩ := hinert.untouched hstale
  have hmade : w.Untouched e { w with promises := w.promises.push ⟨.pending, none⟩ } :=
    .same rfl rfl
  rw [hrun, hrun]
  exact ⟨hsame, hmade.trans huntouched⟩

/-- The page of an error is rendered, and then refused. -/
theorem inert_writeError (e : ExchangeRef) (hh : host.Bystanders part e host')
    (hrenderer : part.renderer) (status : Status) (message : Option String) {callback : Callback κ}
    (hcallback : part.Tells callback) :
    Inert part e (e.writeError host status message callback)
      (e.writeError host' status message callback) := by
  refine .bind_gets fun w _ => .bind (hh.render hrenderer _ _ _).inert fun (body, fields) => ?_
  refine .bind_gets fun w _ => ?_
  split
  · exact .bind (.enter _) fun _ => e.inert_refuseWrite hh hcallback _
  · exact .bind (.modifyExchange _) fun _ => e.inert_write hh true hcallback [body]

theorem inert_push (e : ExchangeRef) (request : RequestHead) :
    Inert part e (e.push host request) (e.push host' request) := by
  refine .bind_gets fun w hw => ?_
  rw [hw.inactive]
  exact .pure ()

theorem inert_succeed (e : ExchangeRef) : Inert part e (e.succeed host) (e.succeed host') :=
  .bind_activeFor? (.pure _)

theorem inert_fail (e : ExchangeRef) (cause : FailureRef) :
    Inert part e (e.fail host cause) (e.fail host' cause) :=
  .bind_activeFor? (.pure _)

/-- The handler is run, and whatever it comes to, there is nothing to fail. -/
theorem inert_dispatch (e : ExchangeRef) (hh : host.Bystanders part e host')
    (hhandler : part.handler) :
    Inert part e (e.dispatch host) (e.dispatch host') := by
  refine .bind (.bind_activeFor? (.pure _)) fun _ => ?_
  refine .bind (.attempt (hh.handle hhandler).inert) fun handled => ?_
  rcases handled with p | _ | why
  · exact .bind (.newFailure _) fun cause => e.inert_fail cause
  · exact .pure _
  · exact .bind (.newFailure _) fun cause => e.inert_fail cause

end ExchangeRef

/-! ## Bodies, promises, and the ends of sends -/

section

variable {host host' : Host κ ε} {part : Part κ} {e : ExchangeRef}

/-- Reading gives a failure, and goes on with that. -/
theorem ExchangeRef.inert_readContent_bind
    {f f' : Option (Content κ) → Engine κ ε β}
    (h : ∀ failure, Inert part e (f (some (.error failure))) (f' (some (.error failure)))) :
    Inert part e (e.readContent host >>= f) (e.readContent host' >>= f') := by
  unfold readContent
  rw [bind_assoc, bind_assoc]
  refine .bind_activeFor? ?_
  dsimp only
  rw [bind_assoc, bind_assoc]
  refine .bind_gets fun w _ => ?_
  cases (w.exchange e).failure with
  | some failure =>
    dsimp only
    rw [pure_bind, pure_bind]
    exact h failure
  | none =>
    dsimp only
    rw [bind_assoc, bind_assoc]
    refine .bind (.newFailure _) fun failure => ?_
    rw [pure_bind, pure_bind]
    exact h failure

namespace BodyRef

theorem inert_modify (b : BodyRef) (f : RequestBody κ → RequestBody κ) :
    Inert part e (b.modify f : Engine κ ε Unit) (b.modify f) :=
  .modify fun _ hw => .of_eq hw rfl rfl rfl rfl rfl

theorem inert_new (e : ExchangeRef) :
    Inert part e (BodyRef.new e : Engine κ ε BodyRef) (BodyRef.new e) :=
  .modifyGet fun _ hw => .of_eq hw rfl rfl rfl rfl rfl

/-- A body gives the failure that its exchange answers with. -/
theorem inert_pollWithin (b : BodyRef) (rounds : Nat) :
    Inert part e (b.pollWithin host e rounds) (b.pollWithin host' e rounds) := by
  cases rounds with
  | zero => exact fun w hw => ⟨rfl, .refl e w, hw.settled, hw.waits⟩
  | succ rounds =>
    refine ExchangeRef.inert_readContent_bind fun failure => ?_
    exact .bind (b.inert_modify _) fun _ => .pure _

/-- Polling a body of an exchange. -/
theorem poll_alike (hpatience : host.patience = host'.patience) (b : BodyRef) (waker : κ)
    {w : World κ ε} (hw : w.Stale part e) {body : RequestBody κ}
    (hbody : w.bodies[b.index]? = some body) (hexchange : body.exchange = e) :
    b.poll host waker w = b.poll host' waker w ∧ w.Untouched e (b.poll host waker w).2 := by
  have hrun : ∀ host : Host κ ε, b.poll host waker w = (do
      if body.finished then return .finished
      b.modify fun x => { x with waker := some waker }
      pollWithin host b body.exchange host.patience : Engine κ ε Frame) w := by
    intro host
    unfold poll get?
    rw [Effect.bind_run]
    dsimp only [Effect.gets]
    rw [hbody]
  have hinert : Inert part e (do
      if body.finished then return .finished
      b.modify fun x => { x with waker := some waker }
      pollWithin host b body.exchange host.patience : Engine κ ε Frame) (do
      if body.finished then return .finished
      b.modify fun x => { x with waker := some waker }
      pollWithin host' b body.exchange host'.patience : Engine κ ε Frame) := by
    rw [hexchange, ← hpatience]
    split
    · exact .pure _
    · exact .bind (b.inert_modify _) fun _ => b.inert_pollWithin _
  rw [hrun, hrun]
  exact hinert.untouched hw

end BodyRef

/-- Asking a promise runs no code. -/
theorem PromiseRef.inert_forget (p : PromiseRef) :
    Inert .none e (p.forget : Engine κ ε Unit) p.forget :=
  .modify fun _ _ => ⟨.same rfl rfl, rfl, .none _⟩

theorem PromiseRef.inert_poll (p : PromiseRef) (waker : κ) :
    Inert .none e (p.poll waker : Engine κ ε (Option Result)) (p.poll waker) := by
  refine .bind_gets fun w _ => ?_
  split
  · exact .bind (.modify fun _ _ => ⟨.same rfl rfl, rfl, .none _⟩) fun _ => .pure _
  · exact .pure _
  · exact .bind (.newFailure _) fun _ => .pure _

/-- The stream that the callback of a send tells how the exchange ended. -/
def SendCallback.stream? : SendCallback κ → Option Stream
  | direct _ | pendingWrite _ => none
  | finalFrame _ stream | errorResponse _ stream _ => some stream

/-- No write is pending that could be taken. -/
theorem Engine.inert_takeWrite_bind {f f' : Option (Callback κ) → Engine κ ε β}
    (h : Inert part e (f none) (f' none)) :
    Inert part e (Engine.takeWrite e >>= f) (Engine.takeWrite e >>= f') := by
  intro w hw
  have htake : Engine.takeWrite e w = (.done none, w) := by
    simp only [takeWrite, Effect.modifyGet, hw.inactive]
  rw [Effect.bind_of_done htake, Effect.bind_of_done htake]
  exact h w hw

/-- The callback of a send of an exchange, which may tell a stream how the exchange ended. -/
theorem SendCallback.inert_complete (hh : host.Bystanders part e host')
    {callback : SendCallback κ} (hfor : callback.IsFor e)
    (hstream : ∀ stream, callback.stream? = some stream → part.Holds stream)
    (ref : SendRef) (result : Result) :
    Inert part e (callback.complete host ref result) (callback.complete host' ref result) := by
  rcases hfor with rfl | ⟨stream, cause, rfl⟩
  · exact .bind (.note _) fun _ => Engine.inert_takeWrite_bind (.pure ())
  · have hholds : part.Holds stream := by cases cause <;> exact hstream stream rfl
    have hfailed : ∀ cause, Inert part e (Engine.tellFailed host e stream cause)
        (Engine.tellFailed host' e stream cause) :=
      fun cause => .bind (.note _) fun _ => (hh.streamFailed hholds cause).inert
    cases cause with
    | none =>
      refine .bind (.note _) fun _ => ?_
      cases result with
      | ok _ => exact .bind (.note _) fun _ => (hh.streamSucceeded hholds).inert
      | error cause => exact hfailed cause
    | some cause =>
      refine .bind (.note _) fun _ => ?_
      cases result with
      | ok _ => exact hfailed cause
      | error other =>
        refine .bind (.modify fun _ hw => .of_eq hw rfl rfl rfl rfl rfl) fun _ => ?_
        exact hfailed cause

/-- Telling the engine how a send of an exchange ended. -/
theorem SendRef.complete_alike (hh : host.Bystanders part e host') {w : World κ ε}
    (hw : w.Stale part e) {ref : SendRef}
    (hcallback : ∀ callback, w.sendCallback? ref = some callback → callback.IsFor e ∧
      ∀ stream, callback.stream? = some stream → part.Holds stream) (result : Result) :
    ref.complete host result w = ref.complete host' result w ∧
      w.Untouched e (ref.complete host result w).2 := by
  have htaken : w.Untouched e { w with sends := w.sends.modify ref.index fun _ => none } :=
    .same rfl rfl
  cases hcb : w.sendCallback? ref with
  | none =>
    have hrun : ∀ host : Host κ ε, ref.complete host result w =
        (.done (), { w with sends := w.sends.modify ref.index fun _ => none }) := by
      intro host
      simp only [complete, Effect.bind_run, Effect.modifyGet, hcb]
      rfl
    rw [hrun, hrun]
    exact ⟨rfl, htaken⟩
  | some callback =>
    obtain ⟨hfor, hstream⟩ := hcallback callback hcb
    have hinert := SendCallback.inert_complete hh hfor hstream ref result
    have hstale : World.Stale { w with sends := w.sends.modify ref.index fun _ => none } part e :=
      ⟨hw.inactive, hw.settled, hw.waits.of_eq rfl rfl⟩
    obtain ⟨hsame, huntouched⟩ := hinert.untouched hstale
    rw [SendRef.complete_eq hcb, SendRef.complete_eq hcb]
    exact ⟨hsame, htaken.trans huntouched⟩

end

/-! ## Whatever is done through the handles -/

/-- What can be done through the handles on an exchange, with the surroundings that do it, and what
it runs of their code. -/
inductive World.HandleCall (w : World κ ε) (part : Part κ) (e : ExchangeRef) :
    (α : Type) → (Host κ ε → Engine κ ε α) → Prop
  -- asking what is known
  | look {α : Type} (f : World κ ε → α) : HandleCall w part e α fun _ => Effect.gets f
  -- the request side
  | readContent : HandleCall w part e (Option (Content κ)) fun host => e.readContent host
  | demandContent {code : κ} : part.code code →
      HandleCall w part e (Except ExchangeError Unit) fun host =>
        e.demandContent host (.code code .ready)
  | addErrorListener {listener : κ} : part.code listener →
      HandleCall w part e Unit fun host => e.addErrorListener host listener
  | addCompletionListener (listener : Callback κ) :
      HandleCall w part e (Except ExchangeError Unit) fun host =>
        e.addCompletionListener host listener
  | newBody : HandleCall w part e BodyRef fun _ => BodyRef.new e
  | pollBody (b : BodyRef) (waker : κ) {body : RequestBody κ} : w.bodies[b.index]? = some body →
      body.exchange = e → HandleCall w part e Frame fun host => b.poll host waker
  -- the response side
  | setStatus (status : Status) : HandleCall w part e Unit fun _ => e.setStatus status
  | editFields {α : Type} {edit : Fields → Engine κ ε (α × Fields)} :
      (∀ fields, Aloof part e (edit fields) (edit fields)) →
      HandleCall w part e (Except ExchangeError α) fun _ => e.editFields edit
  | setContentLength (length : Nat) : HandleCall w part e (Except ExchangeError Unit) fun _ =>
      e.setContentLength length
  | editTrailers {α : Type} {edit : Fields → Engine κ ε (α × Fields)} :
      (∀ fields, Aloof part e (edit fields) (edit fields)) →
      HandleCall w part e α fun _ => e.editTrailers edit
  | takeTrailers : HandleCall w part e (Option Fields) fun _ => e.takeTrailers
  | reset : HandleCall w part e (Except ExchangeError Unit) fun _ => e.reset
  | write (last : Bool) {callback : Callback κ} (chunks : List Octets) : part.Tells callback →
      HandleCall w part e Unit fun host => e.write host last callback chunks
  | writeAsync (last : Bool) (chunks : List Octets) : part.promises ⟨w.promises.size⟩ →
      HandleCall w part e PromiseRef fun host => e.writeAsync host last chunks
  | pollPromise (promise : PromiseRef) (waker : κ) : HandleCall w part e (Option Result) fun _ =>
      promise.poll waker
  | forgetPromise (promise : PromiseRef) : HandleCall w part e Unit fun _ => promise.forget
  | writeError (status : Status) (message : Option String) {callback : Callback κ} :
      part.renderer → part.Tells callback →
      HandleCall w part e Unit fun host => e.writeError host status message callback
  | push (request : RequestHead) : HandleCall w part e Unit fun host => e.push host request
  -- the end of the exchange, of its sends, and the task that dispatches it
  | succeed : HandleCall w part e (Except ExchangeError Unit) fun host => e.succeed host
  | fail (cause : FailureRef) : HandleCall w part e Unit fun host => e.fail host cause
  | endSend (ref : SendRef) (result : Result) :
      (∀ callback, w.sendCallback? ref = some callback → callback.IsFor e ∧
        ∀ stream, callback.stream? = some stream → part.Holds stream) →
      HandleCall w part e Unit fun host => ref.complete host result
  | dispatch : part.handler → HandleCall w part e Unit fun host => (Job.dispatch e).perform host

/-- What is done through the handles on an exchange that is not active leaves the channel alone: its
active exchange, its stream, the number of its requests, and whether it is persistent. It leaves all
other exchanges alone, and so the active one. And it calls nothing but its part of the surroundings,
so nothing of the attached stream unless that is the stream which is told the end of its exchange: it
goes as it goes with a stream that answers differently. -/
theorem stale_handle_inert {w : World κ ε} (hw : Reachable w) {e : ExchangeRef}
    (hinactive : w.activeFor? e = none) {part : Part κ} (hwaits : w.Waits part)
    {op : Host κ ε → Engine κ ε α} (hop : w.HandleCall part e α op) {host host' : Host κ ε}
    (hh : host.Bystanders part e host') :
    w.Untouched e (op host w).2 ∧
      (∀ active, w.channel.active = some active →
        (op host w).2.exchange active.exchange = w.exchange active.exchange) ∧
      op host w = op host' w := by
  have hsettled := hw.possible.queue_settled
  have hstale : w.Stale part e := ⟨hinactive, hsettled, hwaits⟩
  have halike : op host w = op host' w ∧ w.Untouched e (op host w).2 := by
    cases hop with
    | look f => exact (Inert.gets f).untouched hstale
    | readContent => exact e.inert_readContent.untouched hstale
    | @demandContent code hcode =>
      have hdoes : part.Does (.code code .ready) := hcode
      exact (e.inert_demandContent hh hdoes).untouched hstale
    | addErrorListener hlistener => exact (e.inert_addErrorListener hh hlistener).untouched hstale
    | addCompletionListener listener =>
      exact (e.inert_addCompletionListener listener).untouched hstale
    | newBody => exact (BodyRef.inert_new e).untouched hstale
    | pollBody b waker hbody hexchange =>
      exact b.poll_alike hh.patience waker hstale hbody hexchange
    | setStatus status => exact (e.inert_setStatus status).untouched hstale
    | editFields hedit => exact (e.inert_editFields hedit).untouched hstale
    | setContentLength length => exact (e.inert_setContentLength length).untouched hstale
    | editTrailers hedit => exact (e.inert_editTrailers hedit).untouched hstale
    | takeTrailers => exact e.inert_takeTrailers.untouched hstale
    | reset => exact e.inert_reset.untouched hstale
    | write last chunks hcallback => exact (e.inert_write hh last hcallback chunks).untouched hstale
    | writeAsync last chunks hp => exact e.writeAsync_alike hh last chunks hstale hp
    | pollPromise promise waker =>
      exact (promise.inert_poll waker).untouched ⟨hinactive, hsettled, .none w⟩
    | forgetPromise promise => exact promise.inert_forget.untouched ⟨hinactive, hsettled, .none w⟩
    | writeError status message hrenderer hcallback =>
      exact (e.inert_writeError hh hrenderer status message hcallback).untouched hstale
    | push request => exact (e.inert_push request).untouched hstale
    | succeed => exact e.inert_succeed.untouched hstale
    | fail cause => exact (e.inert_fail cause).untouched hstale
    | endSend ref result hcallback => exact SendRef.complete_alike hh hstale hcallback result
    | dispatch hhandler => exact (e.inert_dispatch hh hhandler).untouched hstale
  obtain ⟨hsame, huntouched⟩ := halike
  refine ⟨huntouched, fun active hactive => huntouched.others _ fun he => ?_, hsame⟩
  have hfor : w.activeFor? e = some active := (activeFor?_eq_some w).2 ⟨hactive, he⟩
  cases hinactive.symm.trans hfor

/-- A response is complete but for its final frame, which was sent, and the next request has
arrived. -/
def nextRequest : Engine Unit Unit Unit := do
  wholeResponse
  let _ ← Channel.setStream (.transport ⟨1⟩)
  let _ ← Channel.onRequest (Host.idle 2) .bare

theorem permitted_nextRequest : Permitted nextRequest := by
  have hidle : ∃ depth, Surroundings depth (Host.idle 2 : Host Unit Unit) :=
    ⟨2, surroundings_idle 2⟩
  exact .bind permitted_wholeResponse fun _ => .bind (.setStream _) fun _ =>
    .bind (.onRequest _ hidle) fun _ => .pure ()

/-- Surroundings that do nothing, in which a stream cuts everything off once it is told that its
exchange succeeded. -/
def Host.fragile (ref : StreamRef) : Host Unit Unit :=
  { Host.idle 2 with
    transport := { (Host.idle 2 : Host Unit Unit).transport with
      succeeded := fun r => if r = ref then Effect.halt else pure () } }

theorem Host.twin_idle (part : Part κ) (e : ExchangeRef) (depth : Nat) :
    (Host.idle depth : Host κ ε).Twin part e (Host.idle depth) := by
  cases depth <;> exact ⟨fun _ _ _ => .pure _, fun _ => .pure _, fun _ _ _ _ => .pure _,
    fun _ _ => .pure _, fun _ _ _ => .pure _, fun _ _ _ _ => .pure _, rfl⟩

/-- The final frame of the first exchange ends when the second one is active. The stream of the first
one is told that, and nobody else: the stream of the second one would cut everything off. -/
theorem stale_handle_inert_finalFrame :
    Reachable (World.after nextRequest) ∧ (World.after nextRequest).activeFor? ⟨0⟩ = none ∧
      ((World.after nextRequest).activeFor? ⟨1⟩).isSome = true ∧
      (World.after nextRequest).channel.stream = some (.transport ⟨1⟩) ∧
      (World.after nextRequest).Untouched ⟨0⟩
        (SendRef.complete (Host.idle 2) ⟨1⟩ (.ok ()) (World.after nextRequest)).2 ∧
      SendRef.complete (Host.idle 2) ⟨1⟩ (.ok ()) (World.after nextRequest) =
        SendRef.complete (Host.fragile ⟨1⟩) ⟨1⟩ (.ok ()) (World.after nextRequest) := by
  have hw := permitted_nextRequest.reachable
  have hinactive : (World.after nextRequest).activeFor? ⟨0⟩ = none := by
    rw [← Option.isNone_iff_eq_none]
    decide +kernel
  have hcallback : (World.after nextRequest).sendCallback? ⟨1⟩ =
      some (.finalFrame ⟨0⟩ (.transport ⟨0⟩)) := by decide +kernel
  -- the part is the first stream alone
  let part : Part Unit := { Part.none with streams := fun ref => ref = ⟨0⟩ }
  have hwaits : (World.after nextRequest).Waits part := ⟨nofun, nofun⟩
  have hop : (World.after nextRequest).HandleCall part ⟨0⟩ Unit
      fun host => SendRef.complete host ⟨1⟩ (.ok ()) := by
    refine .endSend ⟨1⟩ (.ok ()) fun callback hcb => ?_
    cases hcallback.symm.trans hcb
    refine ⟨.inr ⟨.transport ⟨0⟩, none, rfl⟩, fun stream hstream => ?_⟩
    cases hstream
    exact ⟨fun ref href => List.mem_singleton.1 href, nofun⟩
  have hh : (Host.idle 2).Bystanders part ⟨0⟩ (Host.fragile ⟨1⟩) := by
    have htwin := Host.twin_idle (κ := Unit) (ε := Unit) part ⟨0⟩
    refine { htwin 2 with succeeded := fun ref href => ?_, perform := .inr ?_ }
    · have hsucceeded : (Host.fragile ⟨1⟩).transport.succeeded ref = pure () := by
        rw [show ref = ⟨0⟩ from href]
        rfl
      rw [hsucceeded]
      exact .pure ()
    · exact ⟨Host.idle 1, Host.idle 1, htwin 1, nofun, fun _ => ⟨rfl, rfl⟩⟩
  obtain ⟨huntouched, -, hsame⟩ := stale_handle_inert hw hinactive hwaits hop hh
  exact ⟨hw, hinactive, by decide +kernel, by decide +kernel, huntouched, hsame⟩

end HttpExchange
