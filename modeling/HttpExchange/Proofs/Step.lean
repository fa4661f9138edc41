import HttpExchange.Proofs.Compositional
import Mathlib.Logic.Relation

/-!
# What the engine does in one go

Between two calls of its surroundings the engine changes the state in one go. `World.Step` lists
everything that such a change can be, with the conditions under which the engine makes it; a run is
a sequence of steps (`World.Course`).

A call that ends an exchange takes several steps, with calls of the surroundings in between. The
steps that only such a call takes are told apart: `Step A` allows them for the exchanges in `A`
alone, and only as long as nothing has been done for the exchange since it was detached
(`Record.Ending`).
-/

namespace HttpExchange

variable {κ ε : Type}

/-- Whether a callback is that of the final frame or of an error response. -/
def SendCallback.isFinal : SendCallback κ → Bool
  | direct _ | pendingWrite _ => false
  | finalFrame _ _ | errorResponse _ _ _ => true

namespace Deed

/-- The exchange that something was done for. -/
def exchange? : Deed κ → Option ExchangeRef
  | offered _ _ | started _ _ | attached _ | listening _ _ => none
  | sent e _ | sendEnded e _ _ | mismatched e | ended e _ _ | succeeded e _ | failed e _ _
  | concluded e => some e

/-- Whether the callback of a send was called. -/
def isAnswer : Deed κ → Bool
  | sendEnded _ _ _ => true
  | _ => false

/-- Whether a stream was told how its exchange ended. -/
def isOutcome : Deed κ → Bool
  | succeeded _ _ | failed _ _ _ => true
  | _ => false

/-- Whether the end of an exchange was handed to its stream: the outcome, or the last bytes. -/
def closes : Deed κ → Bool
  | sent _ s => s.callback.isFinal
  | d => d.isOutcome

theorem closes_of_isAnswer {d : Deed κ} (h : d.isAnswer = true) : d.closes = false := by
  cases d with
  | sendEnded => rfl
  | offered | started | attached | listening | sent | mismatched | ended | succeeded | failed
  | concluded => cases h

end Deed

/-- Everything about one exchange: what remains known of it, its running part, and what the engine
did for it, latest first. -/
structure Record (κ : Type) where
  state : Exchange
  active : Option (Active κ)
  history : List (Deed κ)

/-- Bytes of the exchange were handed to its stream, or found not to fit. -/
def HeadUsed (e : ExchangeRef) (history : List (Deed κ)) : Prop :=
  (∃ s, .sent e s ∈ history) ∨ .mismatched e ∈ history

/-- The exchange was detached by a call that is not over: since then nothing has been done for it
but to take note of how earlier sends ended. If it ended with success, a head that is fixed has been
used. -/
structure Record.Ending (ρ : Record κ) (e : ExchangeRef) (stream : Option Stream)
    (cause : Option FailureRef) : Prop where
  detached : ρ.active = none
  latest : ∃ late earlier, ρ.history = late ++ .ended e stream cause :: earlier ∧
    ∀ d ∈ late, d.isAnswer = true
  unclosed : ∀ d ∈ ρ.history, d.closes = false
  used : cause = none → ρ.state.response.committed = true → HeadUsed e ρ.history

namespace World

/-- What the engine did for an exchange, latest first. -/
def history (w : World κ ε) (e : ExchangeRef) : List (Deed κ) :=
  w.deeds.filter fun d => d.exchange? = some e

def record (w : World κ ε) (e : ExchangeRef) : Record κ :=
  ⟨w.exchange e, w.activeFor? e, w.history e⟩

/-- The failure of an exchange as far as a new error listener is concerned. -/
def knownFailure? (w : World κ ε) (e : ExchangeRef) : Option FailureRef :=
  match w.activeFor? e with
  | some active => active.error
  | none => (w.exchange e).failure

/-- Tasks are appended to a queue. -/
def offer (w : World κ ε) (name : QueueName) (tasks : List (Task κ)) : World κ ε :=
  (w.setQueue name ((w.queue name).offer tasks).2).note (.offered name tasks)

def setPhase (w : World κ ε) (e : ExchangeRef) (phase : Phase) : World κ ε :=
  w.modifyExchange e fun x => { x with phase }

def addFailure (w : World κ ε) (error : ExchangeError) : World κ ε :=
  { w with failures := w.failures.add error }

/-- A write is called. -/
def enterWrote (w : World κ ε) (e : ExchangeRef) (callback : Callback κ) (last : Bool)
    (chunks : List Octets) : World κ ε :=
  w.enter (.wrote e callback last chunks (w.exchange e).response.committed)

/-- A write of the active exchange is accepted. -/
def accept (w : World κ ε) (e : ExchangeRef) (last : Bool) (callback : Callback κ)
    (chunks : List Octets) : World κ ε :=
  ((w.enterWrote e callback last chunks).modifyResponse e (·.accept last chunks)).modifyActive
    fun a => { a with write := some callback }

/-- A write is refused for a new reason: its callback is told by a task. -/
def refuse (w : World κ ε) (callback : Callback κ) (why : ExchangeError) : World κ ε :=
  ((w.addFailure why).enter (.refused callback w.failures.next)).offer .channel
    [⟨"write-failure", .complete callback (.error w.failures.next)⟩]

/-- The head of a response is fixed; the stream has put in its own fields. -/
def fixHead (w : World κ ε) (e : ExchangeRef) (last : Bool) (outside : ε) (fields : Fields) :
    World κ ε :=
  { w.modifyResponse e fun r => { r.freeze last with fields } with outside }

/-- The head of a response as it is now. -/
def headOf (w : World κ ε) (e : ExchangeRef) : ResponseHead :=
  let r := (w.exchange e).response
  ⟨r.status.getD .ok, w.channel.version, r.fields, r.committedLength⟩

/-- Bytes are handed to a stream. -/
def handOver (w : World κ ε) (e : ExchangeRef) (s : Sending κ) : World κ ε :=
  { w with sends := w.sends.push (some s.callback) }.note (.sent e s)

/-- The callback of a send is taken out, to be called. -/
def answer (w : World κ ε) (e : ExchangeRef) (ref : SendRef) (result : Result) : World κ ε :=
  { w with sends := w.sends.modify ref.index fun _ => none }.note (.sendEnded e ref result)

/-- The callback of the pending write of an exchange is taken out. -/
def dropWrite (w : World κ ε) (e : ExchangeRef) : World κ ε :=
  if (w.activeFor? e).isSome then w.modifyActive fun a => { a with write := none } else w

/-- The active exchange is detached. -/
def detach (w : World κ ε) (e : ExchangeRef) (cause : Option FailureRef) : World κ ε :=
  ((w.note (.ended e w.channel.stream cause)).enterDropped e cause).modifyChannel fun c =>
    { c with active := none, stream := none }

/-- The first failure of the active exchange is stored, and delivered by tasks. -/
def storeFailure (w : World κ ε) (active : Active κ) (cause : FailureRef) : World κ ε :=
  ((w.modifyExchange active.exchange fun x =>
    { x with
      failure := x.failure.or (some cause),
      phase := if active.processing then x.phase else .processing }).modifyActive fun a =>
    { a with
      error := some cause, processing := true, demand := none, write := none,
      errorListeners := [] }).offer .channel (Channel.deliveries active cause)

/-- What is handed to the stream with the first bytes: the head, which is fixed on this occasion. -/
inductive HeadFixed (w : World κ ε) (e : ExchangeRef) (last : Bool) :
    (commits : Bool) → World κ ε → Option ResponseHead → Prop
  | before : HeadFixed w e last false w none
  | now (outside : ε) (fields : Fields) :
      HeadFixed w e last true (w.fixHead e last outside fields)
        (some ((w.fixHead e last outside fields).headOf e))

end World

/-- A successful response counts as fixed when its end is sent. -/
def Response.close (r : Response) : Response := { r with committed := true }

/-- What is left of a response when its error response is about to be sent. -/
def Response.overlaid (r : Response) (body : Octets) (fields : Fields) : Response :=
  { r with
    fields := (r.fields.extend fields).remove .contentLength, written := body.length,
    lastWritten := true, committed := true }

/-- A change that only concerns what can be prepared of a response. -/
structure Exchange.Edited (x y : Exchange) : Prop where
  same : y = { x with
    response := { x.response with status := y.response.status, fields := y.response.fields },
    trailers := y.trailers }
  fixed : x.response.committed = true → y.response = x.response

open World in
/-- What the engine does in one go. -/
inductive World.Step (A : ExchangeRef → Prop) (w : World κ ε) : World κ ε → Prop
  -- beside the exchanges
  | aside (slots promises bodies streamCount outside) :
      (∀ p, promiseState { w with slots, promises, bodies, streamCount, outside } p =
        w.promiseState p) → w.promises.size ≤ promises.size →
      Step A w { w with slots, promises, bodies, streamCount, outside }
  | tell (p : PromiseRef) (state : PromiseState) : Step A w (w.tell p state)
  | addFailure (error : ExchangeError) : Step A w (w.addFailure error)
  | suppress (f other : FailureRef) :
      Step A w { w with failures := w.failures.suppress f other }
  | offer (tasks : List (Task κ)) : Step A w (w.offer .standalone tasks)
  | next (name : QueueName) : Step A w (Engine.nextTask name w).2
  -- events of the connection
  | attach (stream : Stream) : w.channel.stream = none →
      Step A w ((w.modifyChannel fun c => { c with stream := some stream }).note (.attached stream))
  | wrap {current : Stream} (wrapper : Stream) : w.channel.stream = some current →
      wrapper.wrapped? = some current →
      Step A w (w.modifyChannel fun c => { c with stream := some wrapper })
  | listen (listener : κ) :
      Step A w
        (w.modifyChannel fun c => { c with closeListeners := c.closeListeners ++ [listener] })
  | close (cause : Option FailureRef) :
      Step A w ((w.modifyChannel fun c => { c with closeListeners := [] }).offer .channel
        (w.channel.closing cause))
  | unpersist : Step A w (w.modifyChannel fun c => { c with persistent := false })
  | count : Step A w (w.modifyChannel fun c => { c with requests := c.requests + 1 })
  | activate (id : String) (request : RequestHead) (standard : Fields) :
      w.channel.stream.isSome = true → w.channel.active = none →
      Step A w
        ({ w with exchanges := w.exchanges.push (.fresh id request standard) }.modifyChannel
          fun c => { c with active := some (.fresh ⟨w.exchanges.size⟩) })
  | contentAvailable :
      Step A w ((w.modifyActive fun a => { a with demand := none }).offer .channel
        ((w.channel.active.bind (·.demand)).toList.map (⟨"demand", ·⟩)))
  | storeFailure {active : Active κ} (cause : FailureRef) : w.channel.stream.isSome = true →
      w.channel.active = some active → active.error = none →
      Step A w (w.storeFailure active cause)
  -- the application on the active exchange
  | enable {e : ExchangeRef} {active : Active κ} : w.activeFor? e = some active →
      Step A w ((w.modifyActive fun a => { a with processing := true }).setPhase e .processing)
  | demand {e : ExchangeRef} {active : Active κ} (job : Job κ) : w.activeFor? e = some active →
      active.error = none → active.processing = true → active.demand = none →
      Step A w ((w.enter (.demanded e job)).modifyActive fun a => { a with demand := some job })
  | demandNow (e : ExchangeRef) (job : Job κ) :
      Step A w ((w.enter (.demanded e job)).offer .channel [⟨"demand", job⟩])
  | listenForError {e : ExchangeRef} {active : Active κ} (listener : κ) :
      w.activeFor? e = some active → active.error = none →
      Step A w (((w.note (.listening e listener)).enter (.listened e listener)).modifyActive
        fun a => { a with errorListeners := a.errorListeners ++ [listener] })
  | listenLate {e : ExchangeRef} {cause : FailureRef} (listener : κ) :
      w.knownFailure? e = some cause →
      Step A w (((w.note (.listening e listener)).enter (.listened e listener)).offer .channel
        [.errorListener e listener cause])
  | ignore {e : ExchangeRef} (listener : κ) : e.index < w.exchanges.size →
      w.activeFor? e = none → (w.exchange e).failure = none →
      Step A w (w.enter (.ignored e listener))
  | edit (e : ExchangeRef) (f : Exchange → Exchange) : (w.exchange e).Edited (f (w.exchange e)) →
      Step A w (w.modifyExchange e f)
  -- a write has nothing to send, or is refused
  | flush (e : ExchangeRef) (callback : Callback κ) :
      Step A w ((w.enter (.wrote e callback false [] true)).offer .channel
        [⟨"write-complete", .complete callback (.ok ())⟩])
  | refuse (e : ExchangeRef) (callback : Callback κ) (last : Bool) (chunks : List Octets)
      (committed : Bool) (why : ExchangeError) :
      Step A w ((w.enter (.wrote e callback last chunks committed)).refuse callback why)
  | refuseFailed {e : ExchangeRef} {active : Active κ} {cause : FailureRef}
      (callback : Callback κ) (last : Bool) (chunks : List Octets) :
      w.activeFor? e = some active → active.error = some cause →
      Step A w ((w.enterWrote e callback last chunks).offer .channel
        [⟨"write-failure", .complete callback (.error cause)⟩])
  -- an admitted write is sent, does not fit the length, or is stopped by a panic of the stream
  | send {e : ExchangeRef} {stream : Stream} {active : Active κ} {last commits : Bool}
      (callback : Callback κ) {chunks : List Octets} {w' : World κ ε}
      {head : Option ResponseHead} :
      w.channel.stream = some stream → w.activeFor? e = some active →
      active.admission (w.exchange e).response last chunks = .send commits →
      (w.accept e last callback chunks).HeadFixed e last commits w' head →
      (w'.exchange e).response.lengthFault last = none →
      Step A w ((w'.enterSending callback).handOver e
        ⟨⟨w.sends.size⟩, stream, head, last, .pendingWrite e, chunks⟩)
  | withhold {e : ExchangeRef} {stream : Stream} {active : Active κ} {last commits : Bool}
      (callback : Callback κ) {chunks : List Octets} {w' : World κ ε}
      {head : Option ResponseHead} {fault : ExchangeError} :
      w.channel.stream = some stream → w.activeFor? e = some active →
      active.admission (w.exchange e).response last chunks = .send commits →
      (w.accept e last callback chunks).HeadFixed e last commits w' head →
      (w'.exchange e).response.lengthFault last = some fault →
      Step A w (((w'.note (.mismatched e)).dropWrite e).refuse callback fault)
  | stick {e : ExchangeRef} {stream : Stream} {active : Active κ} {last : Bool}
      (callback : Callback κ) {chunks : List Octets} {w' : World κ ε}
      {head : Option ResponseHead} :
      w.channel.stream = some stream → w.activeFor? e = some active →
      active.admission (w.exchange e).response last chunks = .send true →
      (w.accept e last callback chunks).HeadFixed e last true w' head →
      Step A w w'
  -- a send ended
  | answerWrite {ref : SendRef} {e : ExchangeRef} {active : Active κ} {callback : Callback κ}
      (result : Result) :
      w.sendCallback? ref = some (.pendingWrite e) →
      w.activeFor? e = some active → active.write = some callback →
      Step A w (((w.answer e ref result).dropWrite e).offer .channel
        [⟨"write-complete", .complete callback result⟩])
  | answerLate {ref : SendRef} {e : ExchangeRef} (result : Result) :
      w.sendCallback? ref = some (.pendingWrite e) →
      (∀ active, w.activeFor? e = some active → active.write = none) →
      Step A w (w.answer e ref result)
  | answerFinal {ref : SendRef} {e : ExchangeRef} {stream : Stream} (result : Result) :
      w.sendCallback? ref = some (.finalFrame e stream) →
      Step A w ((w.answer e ref result).note
        (match result with
          | .ok () => .succeeded e stream
          | .error cause => .failed e stream cause))
  | answerError {ref : SendRef} {e : ExchangeRef} {stream : Stream} {cause : FailureRef}
      (result : Result) :
      w.sendCallback? ref = some (.errorResponse e stream cause) →
      Step A w ({ w.answer e ref result with
        failures := match result with
          | .ok () => w.failures
          | .error other => w.failures.suppress cause other }.note (.failed e stream cause))
  -- the active exchange is detached
  | succeed {e : ExchangeRef} {active : Active κ} : w.activeFor? e = some active →
      active.processing = true → active.demand = none → active.write = none →
      active.error = none → Step A w (w.detach e none)
  | fail {e : ExchangeRef} {active : Active κ} (cause : FailureRef) :
      w.activeFor? e = some active → Step A w (w.detach e (some cause))
  -- what the detaching call does after that
  | complete {e : ExchangeRef} {stream : Stream} {cause : Option FailureRef} : A e →
      (w.record e).Ending e (some stream) cause → Step A w (w.setPhase e .completing)
  | recycle {e : ExchangeRef} {stream : Stream} {cause : FailureRef} (standard : Fields) : A e →
      (w.record e).Ending e (some stream) (some cause) → (w.exchange e).response.committed = false →
      Step A w ((w.modifyExchange e fun x =>
        { x with
          response := .recycled (w.failures.get cause).error.status standard,
          trailers := none }).setPhase e .completing)
  | mismatch {e : ExchangeRef} {stream : Stream} {w' : World κ ε} {head : Option ResponseHead}
      {fault : ExchangeError} : A e → (w.record e).Ending e (some stream) none →
      (w.exchange e).phase = .completing →
      (w.modifyResponse e (·.close)).HeadFixed e true (!(w.exchange e).response.committed) w'
        head →
      (w'.exchange e).response.lengthFault true = some fault →
      Step A w (((w'.note (.mismatched e)).addFailure fault).note
        (.failed e stream w.failures.next))
  | tellSuccess {e : ExchangeRef} {stream : Stream} {w' : World κ ε}
      {head : Option ResponseHead} : A e → (w.record e).Ending e (some stream) none →
      (w.exchange e).phase = .completing →
      (w.modifyResponse e (·.close)).HeadFixed e true (!(w.exchange e).response.committed) w'
        head →
      (w'.exchange e).response.lengthFault true = none →
      (w'.exchange e).response.lastWritten = true →
      Step A w (w'.note (.succeeded e stream))
  | sendFinal {e : ExchangeRef} {stream : Stream} {w' : World κ ε}
      {head : Option ResponseHead} : A e → (w.record e).Ending e (some stream) none →
      (w.exchange e).phase = .completing →
      (w.modifyResponse e (·.close)).HeadFixed e true (!(w.exchange e).response.committed) w'
        head →
      (w'.exchange e).response.lengthFault true = none →
      (w'.exchange e).response.lastWritten = false →
      Step A w
        (w'.handOver e ⟨⟨w.sends.size⟩, stream, head, true, .finalFrame e stream, []⟩)
  | stickFinal {e : ExchangeRef} {stream : Stream} {w' : World κ ε}
      {head : Option ResponseHead} : A e → (w.record e).Ending e (some stream) none →
      (w.exchange e).phase = .completing → (w.exchange e).response.committed = false →
      (w.modifyResponse e (·.close)).HeadFixed e true true w' head → Step A w w'
  | tellFailure {e : ExchangeRef} {stream : Stream} {cause : Option FailureRef}
      (told : FailureRef) : A e → (w.record e).Ending e (some stream) cause →
      (w.exchange e).phase = .completing → (∀ c, cause = some c → told = c) →
      Step A w (w.note (.failed e stream told))
  | sendError {e : ExchangeRef} {stream : Stream} {cause : FailureRef} (body : Octets)
      (fields : Fields) {w' : World κ ε} {head : Option ResponseHead} : A e →
      (w.record e).Ending e (some stream) (some cause) → (w.exchange e).phase = .completing →
      (w.exchange e).response.committed = false →
      (w.modifyResponse e (·.overlaid body fields)).HeadFixed e true true w' head →
      Step A w
        (w'.handOver e
          ⟨⟨w.sends.size⟩, stream, head, true, .errorResponse e stream cause, [body]⟩)
  | stickError {e : ExchangeRef} {stream : Stream} {cause : FailureRef} (body : Octets)
      (fields : Fields) {w' : World κ ε} {head : Option ResponseHead} : A e →
      (w.record e).Ending e (some stream) (some cause) → (w.exchange e).phase = .completing →
      (w.exchange e).response.committed = false →
      (w.modifyResponse e (·.overlaid body fields)).HeadFixed e true true w' head →
      Step A w w'
  | conclude {e : ExchangeRef} {d : Deed κ} : A e → w.activeFor? e = none →
      (w.exchange e).phase = .completing → d ∈ w.history e → d.closes = true →
      Step A w ((w.setPhase e .terminal).note (.concluded e))

/-- A sequence of steps. -/
abbrev World.Course (A : ExchangeRef → Prop) : World κ ε → World κ ε → Prop :=
  Relation.ReflTransGen (World.Step A)

end HttpExchange
