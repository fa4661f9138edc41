import HttpExchange.Proofs.Listeners

/-!
# Properties of everything that can run

Whatever runs is made of the operations of the engine, and these are made of a few that have to do
with streams and of many that have not. A property is pervasive (`Pervasive`) if sequences have it
whose parts do, if whatever leaves the streams alone has it, and if the few have it that do not:
those that attach a stream, wrap it, make a slot, part an exchange from its stream, or tell that the
outcome. Then every operation has it, one lemma an operation, and so has all code around the engine
(`Pervasive.permitted`): a host of some depth is made of clients of the hosts below it.

A property may hold only of code that makes streams in a certain way (`Craft`).
-/

namespace HttpExchange

variable {κ ε α β : Type}

/-- Whether an exchange was parted from its stream, or that was told the outcome. -/
def Deed.isParting : Deed κ → Bool
  | ended _ _ _ | succeeded _ _ | failed _ _ _ => true
  | _ => false

/-- The part of the state that streams have to do with: the one that is attached, the slots of their
listeners, and those that were parted from their exchanges. -/
def World.wrapping (w : World κ ε) :
    Option Stream × Array (Option (Callback κ)) × List (Deed κ) :=
  (w.channel.stream, w.slots, w.deeds.filter Deed.isParting)

/-- Every call that a host answers has a property, and so has every job that it does. -/
structure Host.Obeys (P : (α : Type) → Engine κ ε α → Prop) (host : Host κ ε) : Prop where
  answers : host.Answers P
  perform : ∀ job, P _ (host.perform job)

/-- A property that everything has that can run, if streams are made as `C` says. -/
structure Pervasive (C : Craft κ ε) (P : (α : Type) → Engine κ ε α → Prop) : Prop where
  bind {α β : Type} {m : Engine κ ε α} {f : α → Engine κ ε β} :
    P α m → (∀ a, P β (f a)) → P β (m >>= f)
  attempt {α : Type} {m : Engine κ ε α} : P α m → P (Except Panic α) (Effect.attempt m)
  /-- What leaves streams alone has the property. -/
  still {α : Type} {m : Engine κ ε α} : (∀ w, (m w).2.wrapping = w.wrapping) → P α m
  newSlot (listener : Callback κ) : P _ (SlotRef.new listener)
  attach {m : Engine κ ε Stream} : P _ m → C none m → P _ (m >>= fun s => Channel.setStream s)
  wrapStream (host : Host κ ε) {transform : Stream → Engine κ ε Stream} :
    (∀ stream, P _ (transform stream)) → (∀ stream, C (some stream) (transform stream)) →
      P _ (Channel.wrapStream host transform)
  addCompletionListener (host : Host κ ε) (e : ExchangeRef) (listener : Callback κ) :
    P _ (e.addCompletionListener host listener)
  detach (e : ExchangeRef) (cause : Option FailureRef) : P _ (Engine.detach e cause)
  tell {host : Host κ ε} : host.Answers P → ∀ e stream result, P _ (Engine.tell host e stream result)

namespace Pervasive

variable {C : Craft κ ε} {P : (α : Type) → Engine κ ε α → Prop} {host : Host κ ε}

open World

/-! ## What leaves streams alone -/

theorem pure (hP : Pervasive C P) (a : α) : P _ (Pure.pure a) := hP.still fun _ => rfl

theorem panic (hP : Pervasive C P) (p : Panic) : P α (Effect.panic p) := hP.still fun _ => rfl

theorem halt (hP : Pervasive C P) : P α Effect.halt := hP.still fun _ => rfl

theorem get (hP : Pervasive C P) : P _ Effect.get := hP.still fun _ => rfl

theorem gets (hP : Pervasive C P) (f : World κ ε → α) : P _ (Effect.gets f) :=
  hP.still fun _ => rfl

theorem modifyGet (hP : Pervasive C P) {f : World κ ε → α × World κ ε}
    (h : ∀ w, (f w).2.wrapping = w.wrapping) : P _ (Effect.modifyGet f) := hP.still h

theorem modify (hP : Pervasive C P) {f : World κ ε → World κ ε}
    (h : ∀ w, (f w).wrapping = w.wrapping) : P _ (Effect.modify f) := hP.still h

/-- What is made of the result does not matter. -/
theorem map (hP : Pervasive C P) (f : α → β) {m : Engine κ ε α} (hm : P _ m) : P _ (f <$> m) := by
  rw [map_eq_pure_bind]
  exact hP.bind hm fun _ => hP.pure _

/-- Code that only keeps things for itself leaves streams alone. -/
theorem quiet (hP : Pervasive C P) {m : Engine κ ε α} (h : Quiet m) : P _ m := by
  refine hP.still fun w => ?_
  obtain ⟨out, hout⟩ := h w
  rw [hout]
  rfl

/-- A pervasive property is one of sequences, so callbacks and the calls of streams have it. -/
theorem sequential (hP : Pervasive C P) : Sequential P where
  pure := hP.pure
  bind := hP.bind
  attempt := hP.attempt
  gets := hP.gets
  tell p state := hP.modify fun w => by
    unfold World.tell
    split <;> rfl

/-- To note a deed leaves streams alone, unless it is about the end of an exchange. -/
theorem note (hP : Pervasive C P) {d : Deed κ} (hd : d.isParting = false) :
    P _ (Engine.note d) := by
  refine hP.modify fun w => ?_
  have hdeeds : (d :: w.deeds).filter Deed.isParting = w.deeds.filter Deed.isParting :=
    List.filter_cons_of_neg (by simp [hd])
  exact congrArg (fun deeds => (w.channel.stream, w.slots, deeds)) hdeeds

/-- The data of an exchange has nothing to do with its stream. -/
theorem modifyExchange (hP : Pervasive C P) (e : ExchangeRef) (f : Exchange → Exchange) :
    P _ (Engine.modifyExchange e f) := hP.modify fun _ => rfl

theorem modifyResponse (hP : Pervasive C P) (e : ExchangeRef) (f : Response → Response) :
    P _ (Engine.modifyResponse e f) := hP.modify fun _ => rfl

/-- The channel may be changed in everything but its stream. -/
theorem modifyChannel (hP : Pervasive C P) {f : Channel κ → Channel κ}
    (h : ∀ c, (f c).stream = c.stream) : P _ (Engine.modifyChannel f) :=
  hP.modify fun w => congrArg (·, _, _) (h w.channel)

theorem modifyActive (hP : Pervasive C P) (f : Active κ → Active κ) :
    P _ (Engine.modifyActive f) := hP.modify fun _ => rfl

/-- Failures are kept apart from streams. -/
theorem newFailure (hP : Pervasive C P) (error : ExchangeError) :
    P _ (Engine.newFailure error) := hP.modifyGet fun _ => rfl

theorem suppress (hP : Pervasive C P) (f other : FailureRef) :
    P _ (Engine.suppress f other) := hP.modify fun _ => rfl

theorem enter (hP : Pervasive C P) (entry : Entry κ) : P _ (Engine.enter entry) :=
  hP.modify fun _ => rfl

/-- Tasks that are offered to a queue wait there, whatever they are about. -/
theorem offer (hP : Pervasive C P) (name : QueueName) (tasks : List (Task κ)) :
    P _ (Engine.offer name tasks) := hP.modifyGet fun w => by cases name <;> rfl

theorem nextTask (hP : Pervasive C P) (name : QueueName) : P _ (Engine.nextTask name) :=
  hP.modifyGet fun w => by split <;> cases name <;> rfl

/-! ## Queues -/

/-- What follows when the connection is gone is offered as tasks. -/
theorem onClose (hP : Pervasive C P) (cause : Option FailureRef) :
    P _ (Channel.onClose cause) :=
  hP.bind (hP.gets _) fun _ => hP.bind (hP.modifyChannel fun _ => rfl) fun _ => hP.offer _ _

/-- A task that failed is suppressed by the failure of the exchange, or closes the connection. -/
theorem taskFailed (hP : Pervasive C P) (hh : host.Obeys P) (failure : FailureRef) :
    P _ (Channel.taskFailed host failure) := by
  refine hP.bind (hP.gets _) fun stored => ?_
  cases stored with
  | some stored => exact hP.suppress _ _
  | none =>
    refine hP.bind (hP.onClose _) fun task => ?_
    cases task with
    | some task => exact hh.perform task.job
    | none => exact hP.pure ()

/-- A task that failed is reported to the channel, or to the hook of the queue that stands alone. -/
theorem report (hP : Pervasive C P) (hh : host.Obeys P) (name : QueueName) (task : String)
    (failure : FailureRef) : P _ (Queue.report host name task failure) := by
  cases name with
  | channel => exact hP.taskFailed hh failure
  | standalone => exact hh.answers.taskFailed task failure

/-- Whoever works a queue off does the jobs of the surroundings, one after the other. -/
theorem drainWithin (hP : Pervasive C P) (hh : host.Obeys P) (name : QueueName) (rounds : Nat) :
    P _ (Queue.drainWithin host name rounds) := by
  induction rounds with
  | zero => exact hP.halt
  | succ rounds ih =>
    refine hP.bind (hP.nextTask name) fun task => ?_
    cases task with
    | none => exact hP.pure ()
    | some task =>
      refine hP.bind (hP.attempt (hh.perform task.job)) fun ended => ?_
      cases ended with
      | ok _ => exact ih
      | error p =>
        refine hP.bind (hP.newFailure _) fun failure => ?_
        exact hP.bind (hP.report hh name task.name failure) fun _ => ih

theorem drain (hP : Pervasive C P) (hh : host.Obeys P) (name : QueueName) :
    P _ (Queue.drain host name) := hP.drainWithin hh name _

/-- A task is offered, and if nobody works the queue off, that is done now. -/
theorem enqueue (hP : Pervasive C P) (hh : host.Obeys P) (name : QueueName) (task : Task κ) :
    P _ (Queue.run host name task) := by
  refine hP.bind (hP.offer name [task]) fun drainer => ?_
  cases drainer with
  | some _ => exact hP.drain hh name
  | none => exact hP.pure ()

theorem runQueued (hP : Pervasive C P) (hh : host.Obeys P) (name : String) (job : Job κ) :
    P _ (Engine.runQueued host name job) := hP.enqueue hh .channel _

/-! ## Events of the connection -/

/-- A new exchange has nothing to do with the streams that were there before. -/
theorem activate (hP : Pervasive C P) (host : Host κ ε) (stream : Stream)
    (request : RequestHead) : P _ (Engine.activate host stream request) :=
  hP.bind (hP.modifyGet fun _ => rfl) fun _ =>
    hP.bind (hP.modifyChannel fun _ => rfl) fun _ => hP.pure _

/-- A request becomes an exchange, over the stream that is attached. -/
theorem onRequest (hP : Pervasive C P) (host : Host κ ε) (request : RequestHead) :
    P _ (Channel.onRequest host request) := by
  refine hP.bind hP.get fun w => ?_
  split
  · exact hP.pure _
  · split
    · exact hP.pure _
    · refine hP.bind (hP.activate host _ request) fun active => ?_
      refine hP.bind (hP.modifyChannel fun _ => rfl) fun _ => ?_
      split
      · exact hP.pure _
      · exact hP.bind (hP.newFailure _) fun _ => hP.pure _

/-- A waiting demand is taken and offered as a task. -/
theorem onContentAvailable (hP : Pervasive C P) : P _ Channel.onContentAvailable :=
  hP.bind (hP.gets _) fun _ => hP.bind (hP.modifyActive _) fun _ => hP.offer _ _

/-- The failure is stored, and what waited is taken. -/
theorem storeFailure (hP : Pervasive C P) (active : Active κ) (cause : FailureRef) :
    P _ (Channel.storeFailure active cause) := by
  refine hP.bind (hP.modifyExchange _ _) fun _ => ?_
  dsimp only
  split
  · exact hP.bind (hP.modifyExchange _ _) fun _ => hP.modify fun _ => rfl
  · exact hP.modify fun _ => rfl

/-- A failure is stored if it is the first one, and suppressed if it is not. -/
theorem failActive (hP : Pervasive C P) (active : Active κ) (cause : FailureRef) :
    P _ (Channel.failActive active cause) := by
  unfold Channel.failActive
  split
  · exact hP.bind (hP.suppress _ _) fun _ => hP.pure _
  · exact hP.bind (hP.storeFailure active cause) fun _ => hP.offer _ _

/-- An error goes to the active exchange, or to one that is made up for it. -/
theorem onError (hP : Pervasive C P) (host : Host κ ε) (cause : FailureRef) :
    P _ (Channel.onError host cause) := by
  refine hP.bind hP.get fun w => ?_
  split
  · exact hP.pure _
  · split
    · exact hP.failActive _ cause
    · exact hP.bind (hP.activate host _ .bare) fun _ => hP.failActive _ cause

/-! ## The request side -/

/-- Content is read from the stream, which stays attached. -/
theorem readContent (hP : Pervasive C P) (hh : host.Obeys P) (e : ExchangeRef) :
    P _ (e.readContent host) := by
  refine hP.bind (hP.gets _) fun active => ?_
  split
  next =>
    refine hP.bind (hP.gets _) fun x => ?_
    split
    · exact hP.pure _
    · exact hP.bind (hP.newFailure _) fun _ => hP.pure _
  next active =>
    split
    · exact hP.pure _
    · split
      · exact hP.bind (hP.newFailure _) fun _ => hP.pure _
      · refine hP.bind (hP.gets _) fun stream => ?_
        cases stream with
        | none => exact hP.pure _
        | some stream => exact hP.sequential.read hh.answers stream

/-- A demand is stored for the active exchange, or answered at once. -/
theorem demandContent (hP : Pervasive C P) (hh : host.Obeys P) (e : ExchangeRef) (job : Job κ) :
    P _ (e.demandContent host job) := by
  have hrun : P _ (do
      Engine.enter (.demanded e job)
      Engine.runQueued host "demand" job
      return .ok () : Engine κ ε (Except ExchangeError Unit)) :=
    hP.bind (hP.enter _) fun _ => hP.bind (hP.runQueued hh _ job) fun _ => hP.pure _
  refine hP.bind (hP.gets _) fun stream => hP.bind (hP.gets _) fun active => ?_
  cases active with
  | none =>
    refine hP.bind (hP.gets _) fun x => ?_
    split
    · exact hP.pure _
    · exact hrun
  | some active =>
    dsimp only
    split
    · split
      · exact hP.pure _
      · refine hP.bind (hP.enter _) fun _ => hP.bind (hP.modifyActive _) fun _ => ?_
        cases stream with
        | none => exact hP.pure _
        | some stream =>
          exact hP.bind (hP.sequential.demand hh.answers stream) fun _ => hP.pure _
    · exact hrun

/-- An error listener is stored for the active exchange, or told at once. -/
theorem addErrorListener (hP : Pervasive C P) (hh : host.Obeys P) (e : ExchangeRef)
    (listener : κ) : P _ (e.addErrorListener host listener) := by
  have hrest : ∀ told, P _ (match told with
      | some failure => do
        Engine.note (.listening e listener)
        Engine.enter (.listened e listener)
        Queue.run host .channel (.errorListener e listener failure)
      | none => do
        if (← Engine.activeFor? e).isSome then
          Engine.note (.listening e listener)
          Engine.enter (.listened e listener)
          Engine.modifyActive fun a => { a with errorListeners := a.errorListeners ++ [listener] }
        else
          Effect.modify (·.enterIgnored e listener) : Engine κ ε Unit) := by
    intro told
    cases told with
    | some failure =>
      exact hP.bind (hP.note rfl) fun _ => hP.bind (hP.enter _) fun _ => hP.enqueue hh _ _
    | none =>
      refine hP.bind (hP.gets _) fun active => ?_
      split
      · exact hP.bind (hP.note rfl) fun _ => hP.bind (hP.enter _) fun _ => hP.modifyActive _
      · refine hP.modify fun w => ?_
        unfold enterIgnored
        split <;> rfl
  refine hP.bind (hP.gets _) fun active => ?_
  cases active with
  | some active => exact hP.bind (hP.pure _) hrest
  | none => exact hP.bind (hP.gets _) fun _ => hP.bind (hP.pure _) hrest

theorem enableProcessing (hP : Pervasive C P) (e : ExchangeRef) : P _ e.enableProcessing := by
  refine hP.bind (hP.gets _) fun active => ?_
  split
  · exact hP.bind (hP.modifyActive _) fun _ => hP.modifyExchange _ _
  · exact hP.pure _

/-! ## Request bodies -/

theorem modifyBody (hP : Pervasive C P) (b : BodyRef) (f : RequestBody κ → RequestBody κ) :
    P _ (b.modify f) := hP.modify fun _ => rfl

/-- Whoever polled a body is woken. -/
theorem wakeBody (hP : Pervasive C P) (hh : host.Obeys P) (b : BodyRef) : P _ (b.wake host) := by
  refine hP.bind (hP.gets _) fun body => hP.bind (hP.modifyBody b _) fun _ => ?_
  split
  · exact hh.answers.run _ .ready
  · exact hP.pure ()

/-- A body demands content for itself, once. -/
theorem demandBody (hP : Pervasive C P) (hh : host.Obeys P) (b : BodyRef) (body : RequestBody κ) :
    P _ (b.demand host body) := by
  unfold BodyRef.demand
  split
  · exact hP.pure _
  · refine hP.bind (hP.modifyBody b _) fun _ => ?_
    refine hP.bind (hP.demandContent hh body.exchange _) fun demanded => ?_
    cases demanded with
    | ok _ => exact hP.pure _
    | error fault =>
      exact hP.bind (hP.modifyBody b _) fun _ => hP.bind (hP.newFailure _) fun _ => hP.pure _

/-- A body reads until it can give something, and demands if there is nothing. -/
theorem pollBodyWithin (hP : Pervasive C P) (hh : host.Obeys P) (b : BodyRef) (e : ExchangeRef)
    (rounds : Nat) : P _ (b.pollWithin host e rounds) := by
  induction rounds with
  | zero => exact hP.halt
  | succ rounds ih =>
    refine hP.bind (hP.readContent hh e) fun content => ?_
    split
    next bytes last release =>
      refine hP.bind (hP.modifyBody b _) fun _ => ?_
      have hrest : P _ (if (!bytes.isEmpty) = true then Pure.pure (.data bytes)
          else if last = true then Pure.pure .finished
          else b.pollWithin host e rounds : Engine κ ε Frame) := by
        split
        · exact hP.pure _
        · split
          · exact hP.pure _
          · exact ih
      cases release with
      | none => exact hrest
      | some release => exact hP.bind (hh.answers.run release .ready) fun _ => hrest
    next fields => exact hP.bind (hP.modifyBody b _) fun _ => hP.pure _
    next failure => exact hP.bind (hP.modifyBody b _) fun _ => hP.pure _
    next =>
      refine hP.bind (hP.gets _) fun body => ?_
      cases body with
      | none => exact hP.pure _
      | some body =>
        refine hP.bind (hP.demandBody hh b body) fun demanded => ?_
        cases demanded with
        | error failure => exact hP.bind (hP.modifyBody b _) fun _ => hP.pure _
        | ok _ =>
          refine hP.bind (hP.gets _) fun inFlight => ?_
          split
          · exact hP.pure _
          · exact ih

theorem pollBody (hP : Pervasive C P) (hh : host.Obeys P) (b : BodyRef) (waker : κ) :
    P _ (b.poll host waker) := by
  refine hP.bind (hP.gets _) fun body => ?_
  split
  · exact hP.pure _
  · split
    · exact hP.pure _
    · exact hP.bind (hP.modifyBody b _) fun _ => hP.pollBodyWithin hh b _ _

/-- Asking a promise leaves the waker with it. -/
theorem pollPromise (hP : Pervasive C P) (p : PromiseRef) (waker : κ) :
    P _ (p.poll waker) := by
  refine hP.bind (hP.gets _) fun promise => ?_
  split
  · exact hP.bind (hP.modify fun _ => rfl) fun _ => hP.pure _
  · exact hP.pure _
  · exact hP.bind (hP.newFailure _) fun _ => hP.pure _

/-! ## Writes -/

/-- The stream prepares the head of a response, and does nothing but that. -/
theorem freezeHead (hP : Pervasive C P) (hh : host.Obeys P) (e : ExchangeRef) (stream : Stream)
    (last : Bool) : P _ (Engine.freezeHead host e stream last) := by
  refine hP.bind (hP.modifyResponse e _) fun _ => hP.bind (hP.gets _) fun r => ?_
  refine hP.bind (hP.quiet (stream.quiet_prepare hh.answers r.fields)) fun (fields, panic) => ?_
  refine hP.bind (hP.modifyResponse e _) fun _ => hP.bind ?_ fun _ => ?_
  · cases panic with
    | none => exact hP.pure ()
    | some p => exact hP.panic p
  · exact hP.bind (hP.gets _) fun _ => hP.pure _

/-- The bytes and the callback of the send are handed to the stream. -/
theorem sendTo (hP : Pervasive C P) (hh : host.Obeys P) (e : ExchangeRef) (stream : Stream)
    (head : Option ResponseHead) (last : Bool) (callback : SendCallback κ)
    (chunks : List Octets) : P _ (Engine.sendTo host e stream head last callback chunks) :=
  hP.bind (hP.modifyGet fun _ => rfl) fun ref => hP.bind (hP.note rfl) fun _ =>
    hP.sequential.send hh.answers _ last ref chunks stream

theorem tellSucceeded (hP : Pervasive C P) (hh : host.Obeys P) (e : ExchangeRef) (stream : Stream) :
    P _ (Engine.tellSucceeded host e stream) := hP.tell hh.answers e stream (.ok ())

theorem tellFailed (hP : Pervasive C P) (hh : host.Obeys P) (e : ExchangeRef) (stream : Stream)
    (cause : FailureRef) : P _ (Engine.tellFailed host e stream cause) :=
  hP.tell hh.answers e stream (.error cause)

theorem takeWrite (hP : Pervasive C P) (e : ExchangeRef) : P _ (Engine.takeWrite e) :=
  hP.modifyGet fun w => by split <;> rfl

/-- A refusal has the callback told a new failure. -/
theorem refuseWrite (hP : Pervasive C P) (hh : host.Obeys P) (callback : Callback κ)
    (why : ExchangeError) : P _ (Engine.refuseWrite host callback why) :=
  hP.bind (hP.newFailure why) fun _ => hP.bind (hP.enter _) fun _ => hP.runQueued hh _ _

/-- An admitted write once its head is there. -/
theorem sendChecked (hP : Pervasive C P) (hh : host.Obeys P) (e : ExchangeRef) (stream : Stream)
    (last : Bool) (callback : Callback κ) (chunks : List Octets) (head : Option ResponseHead) :
    P _ (do
      match (← Engine.response e).lengthFault last with
      | none =>
        Effect.modify (·.enterSending callback)
        Engine.sendTo host e stream head last (.pendingWrite e) chunks
      | some fault =>
        Engine.note (.mismatched e)
        match ← Engine.takeWrite e with
        | some callback => Engine.refuseWrite host callback fault
        | none => Pure.pure () : Engine κ ε Unit) := by
  refine hP.bind (hP.gets _) fun r => ?_
  split
  · exact hP.bind (hP.modify fun _ => rfl) fun _ =>
      hP.sendTo hh e stream head last _ chunks
  · refine hP.bind (hP.note rfl) fun _ => hP.bind (hP.takeWrite e) fun taken => ?_
    cases taken with
    | none => exact hP.pure ()
    | some callback => exact hP.refuseWrite hh callback _

/-- Whatever becomes of a write, the stream stays attached. -/
theorem write (hP : Pervasive C P) (hh : host.Obeys P) (e : ExchangeRef) (last : Bool)
    (callback : Callback κ) (chunks : List Octets) :
    P _ (e.write host last callback chunks) := by
  refine hP.bind hP.get fun w => hP.bind (hP.enter _) fun _ => ?_
  split
  next stream active _ _ =>
    split
    · exact hP.runQueued hh _ _
    · exact hP.refuseWrite hh callback _
    · exact hP.runQueued hh _ _
    next commits _ =>
      refine hP.bind (hP.modifyResponse e _) fun _ => hP.bind (hP.modifyActive _) fun _ => ?_
      have hrest := hP.sendChecked hh e stream last callback chunks
      dsimp only
      split
      · exact hP.bind (hP.map _ (hP.freezeHead hh e stream last)) hrest
      · exact hP.bind (hP.pure none) hrest
  · exact hP.refuseWrite hh callback _

/-- The promise is a callback like others. -/
theorem writeAsync (hP : Pervasive C P) (hh : host.Obeys P) (e : ExchangeRef) (last : Bool)
    (chunks : List Octets) : P _ (e.writeAsync host last chunks) :=
  hP.bind (hP.modifyGet fun _ => rfl) fun _ => hP.bind (hP.write hh e last _ chunks) fun _ =>
    hP.pure _

/-- The renderer runs, and then its page is written. -/
theorem writeError (hP : Pervasive C P) (hh : host.Obeys P) (e : ExchangeRef) (status : Status)
    (message : Option String) (callback : Callback κ) :
    P _ (e.writeError host status message callback) := by
  refine hP.bind (hP.gets _) fun x => hP.bind (hh.answers.render _ _ _) fun (body, fields) => ?_
  refine hP.bind (hP.gets _) fun r => ?_
  split
  · exact hP.bind (hP.enter _) fun _ => hP.refuseWrite hh callback _
  · exact hP.bind (hP.modifyResponse e _) fun _ => hP.write hh e true callback [body]

/-- A push goes to the stream. -/
theorem push (hP : Pervasive C P) (hh : host.Obeys P) (e : ExchangeRef) (request : RequestHead) :
    P _ (e.push host request) := by
  refine hP.bind hP.get fun w => ?_
  split
  · exact hP.sequential.push hh.answers request _
  · exact hP.pure ()

/-- The edit runs while the fields are taken out, and they are put back. -/
theorem editFields (hP : Pervasive C P) (e : ExchangeRef)
    {edit : Fields → Engine κ ε (α × Fields)} (hedit : ∀ fields, P _ (edit fields)) :
    P _ (e.editFields edit) := by
  refine hP.bind (hP.gets _) fun r => ?_
  split
  · exact hP.pure _
  · refine hP.bind (hedit _) fun (a, fields) => hP.bind (hP.gets _) fun r => ?_
    split
    · exact hP.pure _
    · exact hP.bind (hP.modifyResponse e _) fun _ => hP.pure _

theorem setContentLength (hP : Pervasive C P) (e : ExchangeRef) (length : Nat) :
    P _ (e.setContentLength length) := by
  refine hP.bind (hP.gets _) fun r => ?_
  split
  · exact hP.pure _
  · exact hP.bind (hP.modifyResponse e _) fun _ => hP.pure _

/-- The same for the trailers. -/
theorem editTrailers (hP : Pervasive C P) (e : ExchangeRef)
    {edit : Fields → Engine κ ε (α × Fields)} (hedit : ∀ fields, P _ (edit fields)) :
    P _ (e.editTrailers edit) := by
  refine hP.bind (hP.gets _) fun x => hP.bind (hedit _) fun (a, trailers) => ?_
  exact hP.bind (hP.modifyExchange e _) fun _ => hP.pure _

theorem takeTrailers (hP : Pervasive C P) (e : ExchangeRef) : P _ e.takeTrailers :=
  hP.bind (hP.gets _) fun _ => hP.bind (hP.modifyExchange e _) fun _ => hP.pure _

theorem reset (hP : Pervasive C P) (e : ExchangeRef) : P _ e.reset := by
  refine hP.bind (hP.gets _) fun r => ?_
  split
  · exact hP.pure _
  · exact hP.bind (hP.modifyExchange e _) fun _ => hP.pure _

/-! ## The end of a send -/

/-- The end of a last send tells the stream the outcome. -/
theorem completeSend (hP : Pervasive C P) (hh : host.Obeys P) (callback : SendCallback κ)
    (ref : SendRef) (result : Result) : P _ (callback.complete host ref result) := by
  cases callback with
  | direct callback => exact hP.sequential.complete hh.answers callback result
  | pendingWrite e =>
    refine hP.bind (hP.note rfl) fun _ => hP.bind (hP.takeWrite e) fun taken => ?_
    cases taken with
    | none => exact hP.pure ()
    | some callback => exact hP.runQueued hh _ _
  | finalFrame e stream =>
    refine hP.bind (hP.note rfl) fun _ => ?_
    cases result with
    | ok _ => exact hP.tellSucceeded hh e stream
    | error cause => exact hP.tellFailed hh e stream cause
  | errorResponse e stream cause =>
    refine hP.bind (hP.note rfl) fun _ => ?_
    cases result with
    | ok _ => exact hP.tellFailed hh e stream cause
    | error other =>
      exact hP.bind (hP.suppress cause other) fun _ => hP.tellFailed hh e stream cause

/-- The callback of a send is taken, and called. -/
theorem endSend (hP : Pervasive C P) (hh : host.Obeys P) (ref : SendRef) (result : Result) :
    P _ (ref.complete host result) := by
  refine hP.bind (hP.modifyGet fun _ => rfl) fun callback => ?_
  cases callback with
  | none => exact hP.pure ()
  | some callback => exact hP.completeSend hh callback ref result

/-! ## The end of an exchange -/

theorem conclude (hP : Pervasive C P) (e : ExchangeRef) : P _ (Engine.conclude e) :=
  hP.bind (hP.modifyExchange _ _) fun _ => hP.note rfl

/-- The failure is told to the stream, and the exchange is over. -/
theorem terminate (hP : Pervasive C P) (hh : host.Obeys P) (e : ExchangeRef) (stream : Stream)
    (cause : FailureRef) : P _ (Engine.terminate host e stream cause) :=
  hP.bind (hP.tellFailed hh e stream cause) fun _ => hP.conclude e

/-- The page goes to the stream that the exchange was parted from. -/
theorem sendErrorResponse (hP : Pervasive C P) (hh : host.Obeys P) (e : ExchangeRef)
    (stream : Stream) (cause : FailureRef) :
    P _ (Engine.sendErrorResponse host e stream cause) := by
  refine hP.bind (hP.gets _) fun page => hP.bind (hP.gets _) fun x => ?_
  refine hP.bind (hP.attempt (hh.answers.render _ _ _)) fun rendered => ?_
  cases rendered with
  | error p =>
    refine hP.bind (hP.newFailure _) fun failure => hP.bind (hP.suppress _ _) fun _ => ?_
    exact hP.terminate hh e stream cause
  | ok given =>
    refine hP.bind (hP.modifyResponse e _) fun _ => ?_
    refine hP.bind (hP.freezeHead hh e stream true) fun head => ?_
    exact hP.bind (hP.sendTo hh e stream _ true _ _) fun _ => hP.conclude e

/-- The last frame goes to the stream that the exchange was parted from. -/
theorem sendRest (hP : Pervasive C P) (hh : host.Obeys P) (e : ExchangeRef) (stream : Stream)
    (head : Option ResponseHead) : P _ (Engine.sendRest host e stream head) := by
  refine hP.bind (hP.gets _) fun r => ?_
  split
  · exact hP.bind (hP.note rfl) fun _ => hP.bind (hP.newFailure _) fun _ =>
      hP.terminate hh e stream _
  · dsimp only
    split
    · exact hP.bind (hP.tellSucceeded hh e stream) fun _ => hP.conclude e
    · exact hP.bind (hP.sendTo hh e stream _ true _ _) fun _ => hP.conclude e

/-- The response is closed, and its last frame is sent, or the exchange fails. -/
theorem sendEnd (hP : Pervasive C P) (hh : host.Obeys P) (e : ExchangeRef) (stream : Stream) :
    P _ (Engine.sendEnd host e stream) := by
  refine hP.bind (hP.gets _) fun before => hP.bind (hP.modifyResponse e _) fun _ => ?_
  dsimp only
  split
  · exact hP.bind (hP.pure none) fun head => hP.sendRest hh e stream head
  · exact hP.bind (hP.map _ (hP.freezeHead hh e stream true)) fun head =>
      hP.sendRest hh e stream head

/-- The connection is not to be used again. -/
theorem forbidReuse (hP : Pervasive C P) (e : ExchangeRef) : P _ (Engine.forbidReuse e) := by
  refine hP.bind (hP.gets _) fun persistent => ?_
  split
  · exact hP.bind (hP.modifyChannel fun _ => rfl) fun _ => hP.modifyResponse e _
  · exact hP.pure ()

/-- Unread content is discarded before the last frame is sent. -/
theorem succeedStream (hP : Pervasive C P) (hh : host.Obeys P) (e : ExchangeRef)
    (stream : Stream) : P _ (Engine.succeedStream host e stream) := by
  refine hP.bind (hP.sequential.consumeAll hh.answers stream) fun unread => ?_
  cases unread with
  | none => exact hP.sendEnd hh e stream
  | some unread =>
    refine hP.bind (hP.gets _) fun error => ?_
    split
    · exact hP.bind (hP.forbidReuse e) fun _ => hP.sendEnd hh e stream
    · exact hP.terminate hh e stream unread

/-- The failure is told to the stream at once, or goes with an error response. -/
theorem failStream (hP : Pervasive C P) (hh : host.Obeys P) (e : ExchangeRef) (stream : Stream)
    (cause : FailureRef) (standard : Fields) :
    P _ (Engine.failStream host e stream cause standard) := by
  have hrest : ∀ committed : Bool, P _ (do
      Engine.setPhase e .completing
      if committed then Engine.terminate host e stream cause
      else Engine.sendErrorResponse host e stream cause : Engine κ ε Unit) := by
    intro committed
    refine hP.bind (hP.modifyExchange _ _) fun _ => ?_
    split
    · exact hP.terminate hh e stream cause
    · exact hP.sendErrorResponse hh e stream cause
  refine hP.bind (hP.gets _) fun r => ?_
  dsimp only
  split
  · exact hP.bind (hP.gets _) fun _ => hP.bind (hP.modifyExchange _ _) fun _ => hrest _
  · exact hrest _

/-- The exchange is parted from its stream if it succeeds. -/
theorem succeed (hP : Pervasive C P) (hh : host.Obeys P) (e : ExchangeRef) :
    P _ (e.succeed host) := by
  refine hP.bind (hP.gets _) fun active => ?_
  cases active with
  | none => exact hP.pure _
  | some active =>
    dsimp only
    split
    · exact hP.pure _
    · split
      · exact hP.pure _
      · split
        · exact hP.pure _
        · split
          · exact hP.pure _
          · refine hP.bind (hP.gets _) fun stream => hP.bind (hP.detach e none) fun _ => ?_
            cases stream with
            | none => exact hP.pure _
            | some stream =>
              refine hP.bind (hP.modifyExchange _ _) fun _ => ?_
              exact hP.bind (hP.succeedStream hh e stream) fun _ => hP.pure _

/-- The exchange is parted from its stream, and its pending write is dropped. -/
theorem fail (hP : Pervasive C P) (hh : host.Obeys P) (e : ExchangeRef) (cause : FailureRef) :
    P _ (e.fail host cause) := by
  refine hP.bind (hP.gets _) fun active => ?_
  cases active with
  | none => exact hP.pure ()
  | some active =>
    refine hP.bind (hP.gets _) fun channel => hP.bind (hP.detach e _) fun _ => ?_
    dsimp only
    split
    · refine hP.bind (hP.sequential.drop hh.answers _) fun _ => ?_
      split
      · exact hP.pure ()
      · exact hP.failStream hh e _ cause _
    · split
      · exact hP.pure ()
      · exact hP.failStream hh e _ cause _

/-- The handler runs, and if it fails, the exchange fails. -/
theorem dispatch (hP : Pervasive C P) (hh : host.Obeys P) (e : ExchangeRef) :
    P _ (e.dispatch host) := by
  refine hP.bind (hP.enableProcessing e) fun _ => ?_
  refine hP.bind (hP.attempt (hh.answers.handle e)) fun handled => ?_
  split
  · exact hP.pure ()
  · exact hP.bind (hP.newFailure _) fun _ => hP.fail hh e _
  · exact hP.bind (hP.newFailure _) fun _ => hP.fail hh e _

/-! ## Everything that can run -/

/-- Every job is a call of the application or of an operation. -/
theorem perform (hP : Pervasive C P) (hh : host.Obeys P) (job : Job κ) :
    P _ (job.perform host) := by
  cases job with
  | code run signal => exact hh.answers.run run signal
  | wakeBody body => exact hP.wakeBody hh body
  | complete callback result => exact hP.sequential.complete hh.answers callback result
  | errorListener _ run cause => exact hh.answers.run run _
  | closeListener run cause =>
    exact hP.bind (hP.attempt (hh.answers.run run _)) fun _ => hP.pure ()
  | abort cause =>
    refine hP.bind (hP.onError host cause) fun task => ?_
    cases task with
    | none => exact hP.pure ()
    | some task => exact hh.perform task.job
  | fail e cause => exact hP.fail hh e cause
  | dispatch e => exact hP.dispatch hh e
  | drain name => exact hP.drain hh name

/-- A client obeys if the hosts that it uses do. -/
theorem client (hP : Pervasive C P) {H : Host κ ε → Prop} (hH : ∀ host, H host → host.Obeys P)
    {m : Engine κ ε α} (h : ClientOf C H α m) : P _ m := by
  induction h with
  | pure a => exact hP.pure a
  | bind _ _ ihm ihf => exact hP.bind ihm ihf
  | panic p => exact hP.panic p
  | attempt _ ih => exact hP.attempt ih
  | halt => exact hP.halt
  | look => exact hP.get
  | keep f => exact hP.modify fun _ => rfl
  | newFailure error => exact hP.newFailure error
  | suppress f other => exact hP.suppress f other
  | newStream => exact hP.modifyGet fun _ => rfl
  | newSlot listener => exact hP.newSlot listener
  | attach _ hmakes ih => exact hP.attach ih hmakes
  | onRequest request _ => exact hP.onRequest _ request
  | onContentAvailable => exact hP.onContentAvailable
  | onError cause _ => exact hP.onError _ cause
  | onClose cause => exact hP.onClose cause
  | addCloseListener listener => exact hP.modifyChannel fun _ => rfl
  | wrapStream _ _ hmakes ih => exact hP.wrapStream _ ih hmakes
  | endSend ref result hh => exact hP.endSend (hH _ hh) ref result
  | perform job hh => exact hP.perform (hH _ hh) job
  | offer tasks => exact hP.offer _ tasks
  | enqueue task hh => exact hP.enqueue (hH _ hh) _ task
  | readContent e hh => exact hP.readContent (hH _ hh) e
  | demandContent e code hh => exact hP.demandContent (hH _ hh) e _
  | addErrorListener e listener hh => exact hP.addErrorListener (hH _ hh) e listener
  | addCompletionListener e listener _ => exact hP.addCompletionListener _ e listener
  | newBody e => exact hP.modifyGet fun _ => rfl
  | pollBody body waker hh => exact hP.pollBody (hH _ hh) body waker
  | setStatus e status => exact hP.modifyResponse e _
  | editFields e _ ih => exact hP.editFields e ih
  | setContentLength e length => exact hP.setContentLength e length
  | editTrailers e _ ih => exact hP.editTrailers e ih
  | takeTrailers e => exact hP.takeTrailers e
  | reset e => exact hP.reset e
  | write e last callback chunks hh => exact hP.write (hH _ hh) e last callback chunks
  | writeAsync e last chunks hh => exact hP.writeAsync (hH _ hh) e last chunks
  | writeError e status message callback hh =>
    exact hP.writeError (hH _ hh) e status message callback
  | push e request hh => exact hP.push (hH _ hh) e request
  | pollPromise promise waker => exact hP.pollPromise promise waker
  | forget promise => exact hP.modify fun _ => rfl
  | succeed e hh => exact hP.succeed (hH _ hh) e
  | fail e cause hh => exact hP.fail (hH _ hh) e cause

/-- Surroundings of every depth obey. -/
theorem obeys (hP : Pervasive C P) {depth : Nat} (h : SurroundingsOf C depth host) :
    host.Obeys P := by
  -- a host of the next depth is made of clients of the hosts below it
  induction depth generalizing host with
  | zero =>
    obtain ⟨hanswers, hperform⟩ := h
    refine ⟨hanswers.imp fun hm => hP.client (fun _ hf => hf.elim) hm, fun job => ?_⟩
    rw [hperform job]
    exact hP.halt
  | succ depth ih =>
    obtain ⟨hanswers, inner, hinner, hperform⟩ := h
    refine ⟨hanswers.imp fun hm => hP.client (fun _ hh => ih hh) hm, fun job => ?_⟩
    rw [hperform job]
    exact hP.perform (ih hinner) job

/-- Whatever is permitted obeys. -/
theorem permitted (hP : Pervasive C P) {m : Engine κ ε α} (h : PermittedOf C m) : P _ m :=
  hP.client (fun _ ⟨_, hh⟩ => hP.obeys hh) h

end Pervasive

end HttpExchange
