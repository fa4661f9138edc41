import HttpExchange.Proofs.Surroundings

/-!
# What does not depend on the number of requests

A channel counts the request headers that were delivered to it. Nothing in the engine looks at that
number: an operation does the same if one more was counted, and leaves the same state, with one more
counted. `Oblivious` says so of a computation, as a renaming that it commutes with: `World.recount`
counts one more request, and going on from the recounted state comes to the recounted result. Panics
and being cut off are results like any other, so an oblivious computation ends in the same way too.

Sequences of oblivious computations are oblivious, where the second part is given the same value in
both runs. The one thing that has to be looked at is reading the state. What is read is either the
same in both runs (`Oblivious.gets`), or is put to a use that does not show the difference
(`Oblivious.look`): the engine reads the channel as a whole and takes a field of it.

Code around the engine may look at the number if it wants to, so it is assumed not to. That is
`Host.Heedless` for what is called at once and `Host.Unaware` for deferred jobs besides. With such
surroundings every operation of the engine is oblivious, here those of the queue, of the connection
and of the request side.

`Proofs.ObliviousRuns` goes on with the response side and the end of an exchange, up to whole runs.
-/

namespace HttpExchange

variable {κ ε α β γ : Type}

/-- The same state with one more request counted. -/
def World.recount (w : World κ ε) : World κ ε :=
  w.modifyChannel fun c => { c with requests := c.requests + 1 }

/-- A computation that goes on alike if one more request was counted. -/
def Oblivious (m : Engine κ ε α) : Prop :=
  ∀ w : World κ ε, m w.recount = ((m w).1, (m w).2.recount)

namespace Oblivious

/-! ## Computations -/

theorem pure (a : α) : Oblivious (pure a : Engine κ ε α) := fun _ => rfl

theorem panic (p : Panic) : Oblivious (Effect.panic p : Engine κ ε α) := fun _ => rfl

theorem halt : Oblivious (Effect.halt : Engine κ ε α) := fun _ => rfl

/-- What is read has to be independent of the number. -/
theorem gets {f : World κ ε → α} (h : ∀ w : World κ ε, f w.recount = f w) :
    Oblivious (Effect.gets f) := by
  intro w
  show (Outcome.done (f w.recount), w.recount) = (Outcome.done (f w), w.recount)
  rw [h]

/-- A change of the state has to leave the number as it is. -/
theorem modify {f : World κ ε → World κ ε} (h : ∀ w : World κ ε, f w.recount = (f w).recount) :
    Oblivious (Effect.modify f) := by
  intro w
  show (Outcome.done (), f w.recount) = (Outcome.done (), (f w).recount)
  rw [h]

theorem modifyGet {f : World κ ε → α × World κ ε}
    (h : ∀ w : World κ ε, f w.recount = ((f w).1, (f w).2.recount)) :
    Oblivious (Effect.modifyGet f) := by
  intro w
  show (Outcome.done (f w.recount).1, (f w.recount).2) = (Outcome.done (f w).1, (f w).2.recount)
  rw [h]

/-- The second part is given the same result in both runs, and one more request to count. -/
theorem bind {m : Engine κ ε α} {f : α → Engine κ ε β} (hm : Oblivious m)
    (hf : ∀ a, Oblivious (f a)) : Oblivious (m >>= f) := by
  intro w
  rw [Effect.bind_run, Effect.bind_run, hm w]
  rcases m w with ⟨a | p | _, w₁⟩
  · exact hf a w₁
  · rfl
  · rfl

/-- What is made of the result does not matter. -/
theorem map {m : Engine κ ε α} (f : α → β) (hm : Oblivious m) : Oblivious (f <$> m) := by
  rw [map_eq_pure_bind]
  exact hm.bind fun a => .pure (f a)

/-- A panic is caught in both runs or in none. -/
theorem attempt {m : Engine κ ε α} (hm : Oblivious m) : Oblivious (Effect.attempt m) := by
  intro w
  unfold Effect.attempt
  rw [hm w]
  rcases m w with ⟨_ | _ | _, _⟩ <;> rfl

/-- Whatever is read may be used for anything that does not show the number. -/
theorem look {g : World κ ε → γ} {f : γ → Engine κ ε β}
    (hsame : ∀ w : World κ ε, f (g w.recount) = f (g w)) (hf : ∀ a, Oblivious (f a)) :
    Oblivious (Effect.gets g >>= f) := by
  intro w
  show f (g w.recount) w.recount = _
  rw [hsame w]
  exact hf (g w) w

/-- The whole state may be used like that. -/
theorem get {f : World κ ε → Engine κ ε β} (hsame : ∀ w : World κ ε, f w.recount = f w)
    (hf : ∀ w, Oblivious (f w)) : Oblivious (Effect.get >>= f) := look hsame hf

/-- The deeds do not know the number. -/
theorem note (d : Deed κ) : Oblivious (Engine.note d : Engine κ ε Unit) := .modify fun _ => rfl

theorem enter (entry : Entry κ) : Oblivious (Engine.enter entry : Engine κ ε Unit) :=
  .modify fun _ => rfl

/-- Failures are numbered by themselves. -/
theorem newFailure (error : ExchangeError) :
    Oblivious (Engine.newFailure error : Engine κ ε FailureRef) := .modifyGet fun _ => rfl

theorem suppress (f other : FailureRef) : Oblivious (Engine.suppress f other : Engine κ ε Unit) :=
  .modify fun _ => rfl

/-- Exchanges are kept apart from the channel, which has the number. -/
theorem modifyExchange (e : ExchangeRef) (f : Exchange → Exchange) :
    Oblivious (Engine.modifyExchange e f : Engine κ ε Unit) := .modify fun _ => rfl

theorem setPhase (e : ExchangeRef) (phase : Phase) :
    Oblivious (Engine.setPhase e phase : Engine κ ε Unit) := .modifyExchange e _

theorem modifyResponse (e : ExchangeRef) (f : Response → Response) :
    Oblivious (Engine.modifyResponse e f : Engine κ ε Unit) := .modify fun _ => rfl

/-- The active exchange does not know the number. -/
theorem modifyActive (f : Active κ → Active κ) :
    Oblivious (Engine.modifyActive f : Engine κ ε Unit) := .modify fun _ => rfl

theorem modifyBody (b : BodyRef) (f : RequestBody κ → RequestBody κ) :
    Oblivious (b.modify f : Engine κ ε Unit) := .modify fun _ => rfl

/-- Promises do not know the number. -/
theorem tell (p : PromiseRef) (state : PromiseState) :
    Oblivious (Effect.modify (·.tell p state) : Engine κ ε Unit) := by
  refine .modify fun w => ?_
  unfold World.tell
  show (if p.index < w.promises.size then _ else w.recount) = _
  split <;> rfl

/-- The queues do not know the number. -/
theorem offer (name : QueueName) (tasks : List (Task κ)) :
    Oblivious (Engine.offer name tasks : Engine κ ε (Option (Task κ))) := by
  cases name <;> exact .modifyGet fun _ => rfl

/-- The next task is the same one. -/
theorem nextTask (name : QueueName) :
    Oblivious (Engine.nextTask name : Engine κ ε (Option (Task κ))) := by
  refine .modifyGet fun w => ?_
  have hqueue : w.recount.queue name = w.queue name := by cases name <;> rfl
  rw [hqueue]
  rcases (w.queue name).next with ⟨_ | task, q⟩ <;> cases name <;> rfl

/-- The pending write is the same one. -/
theorem takeWrite (e : ExchangeRef) :
    Oblivious (Engine.takeWrite e : Engine κ ε (Option (Callback κ))) := by
  refine .modifyGet fun w => ?_
  have hactive : w.recount.activeFor? e = w.activeFor? e := rfl
  rw [hactive]
  cases w.activeFor? e <;> rfl

end Oblivious

/-! ## Surroundings -/

/-- Surroundings that do not look at the number of requests, whatever they are called for. -/
structure Host.Heedless (host : Host κ ε) : Prop where
  run : ∀ code signal, Oblivious (host.run code signal)
  read : ∀ ref, Oblivious (host.transport.read ref)
  demand : ∀ ref, Oblivious (host.transport.demand ref)
  prepare : ∀ ref fields, Oblivious (host.transport.prepare ref fields)
  send : ∀ ref head last ended chunks,
    Oblivious (host.transport.send ref head last ended chunks)
  push : ∀ ref request, Oblivious (host.transport.push ref request)
  consumeAll : ∀ ref, Oblivious (host.transport.consumeAll ref)
  succeeded : ∀ ref, Oblivious (host.transport.succeeded ref)
  failed : ∀ ref cause, Oblivious (host.transport.failed ref cause)
  observe : ∀ ref call, Oblivious (host.observe ref call)
  handle : ∀ e, Oblivious (host.handle e)
  render : ∀ request page fields, Oblivious (host.render request page fields)
  taskFailed : ∀ task cause, Oblivious (host.taskFailed task cause)

/-- Surroundings that do not look at the number when they do a deferred job either. -/
structure Host.Unaware (host : Host κ ε) : Prop extends host.Heedless where
  perform : ∀ job, Oblivious (host.perform job)

/-- Hosts whose calls nest at most so many levels deep, and do not look at the number of requests.
Below the last level everything is cut off. -/
def ObliviousSurroundings : Nat → Host κ ε → Prop
  | 0, host => host.Heedless ∧ ∀ job, host.perform job = Effect.halt
  | depth + 1, host =>
    host.Heedless ∧
    ∃ inner, ObliviousSurroundings depth inner ∧ ∀ job, host.perform job = job.perform inner

variable {host : Host κ ε}

/-! ## Callbacks and streams -/

namespace Oblivious

/-- Whoever waits for a promise is woken in both runs. -/
theorem settle (hh : host.Heedless) (p : PromiseRef) (state : PromiseState) :
    Oblivious (p.settle host state) := by
  refine .look (fun _ => rfl) fun waker => .bind (.tell p state) fun _ => ?_
  cases waker with
  | none => exact .pure ()
  | some waker => exact hh.run waker .ready

/-- A callback is told the same result. -/
theorem complete (hh : host.Heedless) (callback : Callback κ) (result : Result) :
    Oblivious (callback.complete host result) := by
  cases callback with
  | code run => exact hh.run run _
  | promise p => exact settle hh p _
  | ignore => exact .pure ()

/-- A promise that nobody keeps any more is abandoned in both runs. -/
theorem drop (hh : host.Heedless) (callback : Callback κ) : Oblivious (callback.drop host) := by
  cases callback with
  | promise p => exact settle hh p _
  | code | ignore => exact .pure ()

/-- The same listener is taken out of its slot and told. -/
theorem notify (hh : host.Heedless) (slot : SlotRef) (result : Result) :
    Oblivious (slot.notify host result) := by
  refine .bind (.modifyGet fun _ => rfl) fun listener => ?_
  cases listener with
  | none => exact .pure ()
  | some listener => exact .bind (.attempt (complete hh listener result)) fun _ => .pure ()

/-- A stream is asked for content from the outside to the inside. -/
theorem read (hh : host.Heedless) (stream : Stream) : Oblivious (stream.read host) := by
  induction stream with
  | transport ref => exact hh.read ref
  | listening _ _ inner ih => exact ih
  | decorated ref _ inner ih => exact .bind (hh.observe ref .read) fun _ => ih

theorem demand (hh : host.Heedless) (stream : Stream) : Oblivious (stream.demand host) := by
  induction stream with
  | transport ref => exact hh.demand ref
  | listening _ _ inner ih => exact ih
  | decorated ref _ inner ih => exact .bind (hh.observe ref .demand) fun _ => ih

/-- A stream prepares the same head. -/
theorem prepare (hh : host.Heedless) (fields : Fields) (stream : Stream) :
    Oblivious (stream.prepare host fields) := by
  induction stream with
  | transport ref => exact hh.prepare ref fields
  | listening _ _ inner ih => exact ih
  | decorated ref _ inner ih => exact .bind (hh.observe ref .prepare) fun _ => ih

/-- The bytes go through the same wrappers. -/
theorem send (hh : host.Heedless) (head : Option (ResponseHead × ExchangeRef)) (last : Bool)
    (ended : SendRef) (chunks : List Octets) (stream : Stream) :
    Oblivious (stream.send host head last ended chunks) := by
  induction stream with
  | transport ref => exact hh.send ref head last ended chunks
  | listening _ _ inner ih => exact ih
  | decorated ref _ inner ih => exact .bind (hh.observe ref .send) fun _ => ih

theorem push (hh : host.Heedless) (request : RequestHead) (stream : Stream) :
    Oblivious (stream.push host request) := by
  induction stream with
  | transport ref => exact hh.push ref request
  | listening _ _ inner ih => exact ih
  | decorated => exact .pure ()

theorem consumeAll (hh : host.Heedless) (stream : Stream) :
    Oblivious (stream.consumeAll host) := by
  induction stream with
  | transport ref => exact hh.consumeAll ref
  | listening _ _ inner ih => exact ih
  | decorated ref _ inner ih => exact .bind (hh.observe ref .consumeAll) fun _ => ih

/-- A stream is told its outcome from the outside to the inside. -/
theorem succeeded (hh : host.Heedless) (stream : Stream) :
    Oblivious (stream.succeeded host) := by
  induction stream with
  | transport ref => exact hh.succeeded ref
  | listening _ slot inner ih => exact .bind (notify hh slot _) fun _ => ih
  | decorated ref _ inner ih => exact .bind (hh.observe ref .succeeded) fun _ => ih

theorem failed (hh : host.Heedless) (cause : FailureRef) (stream : Stream) :
    Oblivious (stream.failed host cause) := by
  induction stream with
  | transport ref => exact hh.failed ref cause
  | listening _ slot inner ih => exact .bind (notify hh slot _) fun _ => ih
  | decorated ref _ inner ih => exact .bind (hh.observe ref .failed) fun _ => ih

end Oblivious

/-- The answer of a promise does not depend on the number. -/
theorem PromiseRef.oblivious_poll (p : PromiseRef) (waker : κ) :
    Oblivious (p.poll waker : Engine κ ε (Option Result)) := by
  refine .look (fun _ => rfl) fun promise => ?_
  split
  · exact .bind (.modify fun _ => rfl) fun _ => .pure _
  · exact .pure _
  · exact .bind (.newFailure _) fun _ => .pure _

/-! ## Queues and events of a connection -/

namespace Channel

/-- The tasks of the close listeners are the same. -/
theorem oblivious_onClose (cause : Option FailureRef) :
    Oblivious (onClose cause : Engine κ ε (Option (Task κ))) :=
  .look (fun _ => rfl) fun _ => .bind (.modify fun _ => rfl) fun _ => .offer .channel _

/-- What a task that failed leads to does not depend on the number. -/
theorem oblivious_taskFailed (hh : host.Unaware) (failure : FailureRef) :
    Oblivious (taskFailed host failure) := by
  refine .look (fun _ => rfl) fun stored => ?_
  cases stored with
  | some stored => exact .suppress stored failure
  | none =>
    refine .bind (oblivious_onClose _) fun task => ?_
    cases task with
    | some task => exact hh.perform task.job
    | none => exact .pure ()

/-- Whether a stream is attached does not depend on the number. -/
theorem oblivious_setStream (stream : Stream) :
    Oblivious (setStream stream : Engine κ ε (Except ExchangeError Unit)) := by
  refine .look (fun _ => rfl) fun attached => ?_
  split
  · exact .pure _
  · exact .bind (.modify fun _ => rfl) fun _ => .bind (.note _) fun _ => .pure _

/-- An exchange gets its identifier from the stream and not from the number. -/
theorem oblivious_activate (host : Host κ ε) (stream : Stream) (request : RequestHead) :
    Oblivious (Engine.activate host stream request) :=
  .bind (.modifyGet fun _ => rfl) fun _ => .bind (.modify fun _ => rfl) fun _ => .pure _

/-- A request is counted, and nothing else is made of the number. -/
theorem oblivious_onRequest (host : Host κ ε) (request : RequestHead) :
    Oblivious (onRequest host request) := by
  refine .get (fun _ => rfl) fun w => ?_
  split
  · exact .pure _
  · split
    · exact .pure _
    · refine .bind (oblivious_activate host _ request) fun active => ?_
      refine .bind (.modify fun _ => rfl) fun _ => ?_
      split
      · exact .pure _
      · exact .bind (.newFailure _) fun _ => .pure _

/-- The demand that is answered is the same one. -/
theorem oblivious_onContentAvailable :
    Oblivious (onContentAvailable : Engine κ ε (Option (Task κ))) :=
  .look (fun _ => rfl) fun _ => .bind (.modifyActive _) fun _ => .offer .channel _

theorem oblivious_storeFailure (active : Active κ) (cause : FailureRef) :
    Oblivious (storeFailure active cause : Engine κ ε Unit) := by
  refine .bind (.modifyExchange _ _) fun _ => ?_
  dsimp only
  split
  · exact .bind (.setPhase _ _) fun _ => .modifyActive _
  · exact .modifyActive _

/-- What is stored and what is suppressed is the same. -/
theorem oblivious_failActive (active : Active κ) (cause : FailureRef) :
    Oblivious (failActive active cause : Engine κ ε (Option (Task κ))) := by
  unfold failActive
  split
  · exact .bind (.suppress _ _) fun _ => .pure _
  · exact .bind (oblivious_storeFailure active cause) fun _ => .offer .channel _

/-- An error makes the same tasks. -/
theorem oblivious_onError (host : Host κ ε) (cause : FailureRef) :
    Oblivious (onError host cause) := by
  refine .get (fun _ => rfl) fun w => ?_
  split
  · exact .pure _
  · split
    · exact oblivious_failActive _ cause
    · exact .bind (oblivious_activate host _ .bare) fun active => oblivious_failActive active cause

/-- The wrapper is made as often, and over the same stream. -/
theorem oblivious_wrapStreamWithin {transform : Stream → Engine κ ε Stream}
    (ht : ∀ stream, Oblivious (transform stream)) (rounds : Nat) :
    Oblivious (wrapStreamWithin transform rounds) := by
  induction rounds with
  | zero => exact .halt
  | succ rounds ih =>
    refine .look (fun _ => rfl) fun before => ?_
    split
    · exact .pure _
    · refine .bind (ht _) fun wrapper => ?_
      split
      · exact .pure _
      · refine .look (fun _ => rfl) fun after => ?_
        split
        · exact .pure _
        · split
          · exact .bind (.modify fun _ => rfl) fun _ => .pure _
          · exact ih

end Channel

namespace Queue

/-- A panic is reported to the same hook. -/
theorem oblivious_report (hh : host.Unaware) (name : QueueName) (task : String)
    (failure : FailureRef) : Oblivious (report host name task failure) := by
  cases name with
  | channel => exact Channel.oblivious_taskFailed hh failure
  | standalone => exact hh.taskFailed task failure

/-- Whoever works a queue off does the same tasks. -/
theorem oblivious_drainWithin (hh : host.Unaware) (name : QueueName) (rounds : Nat) :
    Oblivious (drainWithin host name rounds) := by
  induction rounds with
  | zero => exact .halt
  | succ rounds ih =>
    refine .bind (.nextTask name) fun task => ?_
    split
    · exact .pure ()
    · refine .bind (.attempt (hh.perform _)) fun ended => ?_
      split
      · exact ih
      · refine .bind (.newFailure _) fun failure => ?_
        exact .bind (oblivious_report hh name _ failure) fun _ => ih

theorem oblivious_drain (hh : host.Unaware) (name : QueueName) : Oblivious (drain host name) :=
  oblivious_drainWithin hh name _

/-- A task is left to somebody else in both runs, or done at once in both. -/
theorem oblivious_run (hh : host.Unaware) (name : QueueName) (task : Task κ) :
    Oblivious (Queue.run host name task) := by
  refine .bind (.offer name _) fun offered => ?_
  split
  · exact oblivious_drain hh name
  · exact .pure ()

end Queue

theorem Engine.oblivious_runQueued (hh : host.Unaware) (name : String) (job : Job κ) :
    Oblivious (Engine.runQueued host name job) := Queue.oblivious_run hh .channel _

/-! ## The request side -/

namespace ExchangeRef

/-- Content or a failure is given in both runs. -/
theorem oblivious_readContent (hh : host.Unaware) (e : ExchangeRef) :
    Oblivious (e.readContent host) := by
  refine .look (fun _ => rfl) fun active => ?_
  split
  · refine .look (fun _ => rfl) fun x => ?_
    split
    · exact .pure _
    · exact .bind (.newFailure _) fun _ => .pure _
  · split
    · exact .pure _
    · split
      · exact .bind (.newFailure _) fun _ => .pure _
      · refine .look (fun _ => rfl) fun stream => ?_
        split
        · exact .pure _
        · exact .read hh.toHeedless _

/-- A demand is stored, refused or answered in both runs. -/
theorem oblivious_demandContent (hh : host.Unaware) (e : ExchangeRef) (job : Job κ) :
    Oblivious (e.demandContent host job) := by
  refine .look (fun _ => rfl) fun stream => .look (fun _ => rfl) fun active => ?_
  split
  · refine .look (fun _ => rfl) fun x => ?_
    split
    · exact .pure _
    · exact .bind (.enter _) fun _ => .bind (Engine.oblivious_runQueued hh _ job) fun _ => .pure _
  · split
    · split
      · exact .pure _
      · refine .bind (.enter _) fun _ => .bind (.modifyActive _) fun _ => ?_
        split
        · exact .bind (.demand hh.toHeedless _) fun _ => .pure _
        · exact .pure _
    · exact .bind (.enter _) fun _ => .bind (Engine.oblivious_runQueued hh _ job) fun _ => .pure _

/-- An error listener is stored or told in both runs. -/
theorem oblivious_addErrorListener (hh : host.Unaware) (e : ExchangeRef) (listener : κ) :
    Oblivious (e.addErrorListener host listener) := by
  have hrest : ∀ told, Oblivious (match told with
      | some failure => do
        Engine.note (.listening e listener)
        Engine.enter (.listened e listener)
        Queue.run host .channel (.errorListener e listener failure)
      | none => do
        if (← Engine.activeFor? e).isSome then
          Engine.note (.listening e listener)
          Engine.enter (.listened e listener)
          Engine.modifyActive fun a => { a with errorListeners := a.errorListeners ++ [listener] }
        else
          Effect.modify (·.enterIgnored e listener) : Engine κ ε Unit) := by
    intro told
    cases told with
    | some failure =>
      exact .bind (.note _) fun _ => .bind (.enter _) fun _ => Queue.oblivious_run hh .channel _
    | none =>
      refine .look (fun _ => rfl) fun active => ?_
      split
      · exact .bind (.note _) fun _ => .bind (.enter _) fun _ => .modifyActive _
      · refine .modify fun w => ?_
        unfold World.enterIgnored
        show (if e.index < w.exchanges.size then _ else w.recount) = _
        split <;> rfl
  refine .look (fun _ => rfl) fun active => ?_
  cases active with
  | some active => exact .bind (.pure _) hrest
  | none => exact .look (fun _ => rfl) fun _ => .bind (.pure _) hrest

/-- A completion listener gets the same slot. -/
theorem oblivious_addCompletionListener (host : Host κ ε) (e : ExchangeRef)
    (listener : Callback κ) : Oblivious (e.addCompletionListener host listener) := by
  refine .look (fun _ => rfl) fun active => ?_
  split
  · exact .pure _
  · refine .bind (.modifyGet fun _ => rfl) fun slot => ?_
    exact Channel.oblivious_wrapStreamWithin
      (fun _ => .bind (.modifyGet fun _ => rfl) fun _ => .pure _) _

/-- The exchange is marked as running in both runs. -/
theorem oblivious_enableProcessing (e : ExchangeRef) :
    Oblivious (e.enableProcessing : Engine κ ε Unit) := by
  refine .look (fun _ => rfl) fun active => ?_
  split
  · exact .bind (.modifyActive _) fun _ => .setPhase e _
  · exact .pure ()

end ExchangeRef

/-! ## Request bodies -/

namespace BodyRef

/-- The same poller is woken. -/
theorem oblivious_wake (hh : host.Heedless) (b : BodyRef) : Oblivious (b.wake host) := by
  refine .look (fun _ => rfl) fun body => .bind (.modifyBody b _) fun _ => ?_
  split
  · exact hh.run _ .ready
  · exact .pure ()

/-- A body demands content in both runs or in none. -/
theorem oblivious_demand (hh : host.Unaware) (b : BodyRef) (body : RequestBody κ) :
    Oblivious (b.demand host body) := by
  unfold demand
  split
  · exact .pure _
  · refine .bind (.modifyBody b _) fun _ => ?_
    refine .bind (body.exchange.oblivious_demandContent hh _) fun demanded => ?_
    split
    · exact .pure _
    · exact .bind (.modifyBody b _) fun _ => .bind (.newFailure _) fun _ => .pure _

/-- A body gives the same frame. -/
theorem oblivious_pollWithin (hh : host.Unaware) (b : BodyRef) (e : ExchangeRef) (rounds : Nat) :
    Oblivious (b.pollWithin host e rounds) := by
  induction rounds with
  | zero => exact .halt
  | succ rounds ih =>
    refine .bind (e.oblivious_readContent hh) fun content => ?_
    split
    next bytes last release =>
      refine .bind (.modifyBody b _) fun _ => ?_
      have hrest : Oblivious (if (!bytes.isEmpty) = true then Pure.pure (.data bytes)
          else if last = true then Pure.pure .finished
          else b.pollWithin host e rounds : Engine κ ε Frame) := by
        split
        · exact .pure _
        · split
          · exact .pure _
          · exact ih
      cases release with
      | none => exact hrest
      | some release => exact .bind (hh.run release .ready) fun _ => hrest
    next fields => exact .bind (.modifyBody b _) fun _ => .pure _
    next failure => exact .bind (.modifyBody b _) fun _ => .pure _
    next =>
      refine .look (fun _ => rfl) fun body => ?_
      split
      · exact .pure _
      · refine .bind (b.oblivious_demand hh _) fun demanded => ?_
        split
        · exact .bind (.modifyBody b _) fun _ => .pure _
        · refine .look (fun _ => rfl) fun inFlight => ?_
          split
          · exact .pure _
          · exact ih

theorem oblivious_poll (hh : host.Unaware) (b : BodyRef) (waker : κ) :
    Oblivious (b.poll host waker) := by
  refine .look (fun _ => rfl) fun body => ?_
  split
  · exact .pure _
  · split
    · exact .pure _
    · exact .bind (.modifyBody b _) fun _ => b.oblivious_pollWithin hh _ _

end BodyRef

end HttpExchange
