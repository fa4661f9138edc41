import HttpExchange.Proofs.FirstFailure
import HttpExchange.Proofs.Queueing

/-!
# How a failure is delivered

The first failure of an exchange is delivered by tasks of the channel's queue, in one block: whoever
waits for content is woken, the pending write fails, the error listeners are told, and then the
exchange is failed. Since the queue keeps the order of the offers, so do the deliveries
(`failure_delivered_in_order`).

A listener that is registered later is told by a task of its own, behind the block. `World.Enrolled`
ties the tasks that tell the listeners of an exchange to the listeners that were registered with it,
in the order in which they were: as long as there is no failure they stand in the exchange, and
from then on there is a task for each.
-/

namespace HttpExchange

variable {κ ε β : Type}

/-- The error listener that was registered with an exchange. -/
def Deed.listenerOf (e : ExchangeRef) : Deed κ → List κ
  | .listening g listener => if g = e then [listener] else []
  | _ => []

/-- Whether an error listener was registered. -/
def Deed.isListening : Deed κ → Bool
  | .listening _ _ => true
  | _ => false

/-- Only registering a listener is about one. -/
theorem Deed.listenerOf_eq_nil {d : Deed κ} (h : d.isListening = false) (e : ExchangeRef) :
    d.listenerOf e = [] := by
  cases d <;> first | rfl | cases h

/-- The error listener of an exchange that a task tells a failure. -/
def Task.notice? (e : ExchangeRef) (task : Task κ) : Option (κ × FailureRef) :=
  match task.job with
  | .errorListener g listener cause =>
    if task.name = "error-listener" ∧ g = e then some (listener, cause) else none
  | _ => none

/-- Other tasks are no notices. -/
theorem Task.notice?_eq_none {task : Task κ} (h : task.name ≠ "error-listener")
    (e : ExchangeRef) : task.notice? e = none := by
  unfold notice?
  split
  · exact if_neg fun hn => h hn.1
  · rfl

/-- The task of an error listener is a notice for its own exchange. -/
theorem Task.notice?_errorListener (e g : ExchangeRef) (listener : κ) (cause : FailureRef) :
    (Task.errorListener g listener cause).notice? e =
      if g = e then some (listener, cause) else none := by
  simp [notice?, errorListener]

/-- Of the tasks that deliver a failure those in the middle tell the error listeners. -/
theorem Channel.notices_deliveries (active : Active κ) (cause : FailureRef) (e : ExchangeRef) :
    (deliveries active cause).filterMap (Task.notice? e) =
      if active.exchange = e then active.errorListeners.map (·, cause) else [] := by
  have hdemand : (active.demand.toList.map (Task.mk "demand")).filterMap (Task.notice? e) = [] := by
    cases active.demand with
    | none => rfl
    | some job => simp [Task.notice?_eq_none]
  have hwrite : (active.write.toList.map fun callback =>
      Task.mk "write-failure" (.complete callback (.error cause))).filterMap (Task.notice? e) =
      [] := by
    cases active.write with
    | none => rfl
    | some callback => simp [Task.notice?_eq_none]
  have hlisteners : (active.errorListeners.map
      (Task.errorListener active.exchange · cause)).filterMap (Task.notice? e) =
      if active.exchange = e then active.errorListeners.map (·, cause) else [] := by
    split
    next he => simp [List.filterMap_map, Task.notice?_errorListener, he]
    next he => simp [Task.notice?_errorListener, he]
  rw [deliveries, List.filterMap_append, List.filterMap_append, List.filterMap_append, hdemand,
    hwrite, hlisteners]
  simp [Task.notice?_eq_none]

namespace World

/-- The error listeners that were registered with an exchange, in this order. -/
def listenersOf (w : World κ ε) (e : ExchangeRef) : List κ := w.log (·.listenerOf e)

/-- What tasks were offered for, to tell the error listeners of an exchange. -/
def noticesOf (w : World κ ε) (e : ExchangeRef) : List (κ × FailureRef) :=
  (w.offeredTo .channel).filterMap (Task.notice? e)

/-- What the error listeners of an exchange have to be told. -/
def dueNotices (w : World κ ε) (e : ExchangeRef) : List (κ × FailureRef) :=
  match (w.exchange e).failure with
  | some cause => (w.listenersOf e).map (·, cause)
  | none => []

/-- Error listeners are told in the order in which they were registered. -/
structure Enrolled (w : World κ ε) : Prop where
  /-- Nobody listens to an exchange that does not exist. -/
  unborn : ∀ e, w.exchanges.size ≤ e.index → w.listenersOf e = []
  /-- As long as the active exchange did not fail the listeners stand in it. -/
  waiting : ∀ a, w.channel.active = some a → a.error = none →
    w.listenersOf a.exchange = a.errorListeners
  /-- Once an exchange failed there is a task for each of its listeners. -/
  notified : ∀ e, w.noticesOf e = w.dueNotices e

variable {w w' : World κ ε}

/-- An exchange that does not exist has no failure. -/
theorem exchange_of_size_le {e : ExchangeRef} (h : w.exchanges.size ≤ e.index) :
    w.exchange e = default := by
  simp [exchange, h]

/-- A change that leaves the failure of the changed exchange alone leaves all failures alone. -/
theorem failure_modifyExchange {e : ExchangeRef} {f : Exchange → Exchange}
    (hf : (f (w.exchange e)).failure = (w.exchange e).failure) (g : ExchangeRef) :
    ((w.modifyExchange e f).exchange g).failure = (w.exchange g).failure := by
  rw [exchange_modifyExchange]
  split
  next hg =>
    rw [hg.1]
    exact hf
  next => rfl

/-- A new exchange has no failure, as one that does not exist. -/
theorem failure_push (w : World κ ε) (id : String) (request : RequestHead) (standard : Fields)
    (e : ExchangeRef) :
    (exchange { w with exchanges := w.exchanges.push (.fresh id request standard) } e).failure =
      (w.exchange e).failure := by
  rw [exchange_push]
  split
  next he =>
    rw [exchange_of_size_le (Nat.le_of_eq he.symm)]
    rfl
  next => rfl

/-- What is due depends on the failure and on the listeners. -/
theorem dueNotices_congr {e : ExchangeRef}
    (hfailure : (w'.exchange e).failure = (w.exchange e).failure)
    (hlisteners : w'.listenersOf e = w.listenersOf e) : w'.dueNotices e = w.dueNotices e := by
  rw [dueNotices, hfailure, hlisteners]
  rfl

/-! ## Changes that leave the listeners alone -/

namespace Enrolled

/-- It depends on the exchanges, the active one and the deeds. -/
theorem same (h : w.Enrolled) (hexchanges : w'.exchanges = w.exchanges)
    (hactive : w'.channel.active = w.channel.active) (hdeeds : w'.deeds = w.deeds) :
    w'.Enrolled := by
  have hlisteners : ∀ e, w'.listenersOf e = w.listenersOf e := fun e => log_eq_of_deeds _ hdeeds
  refine ⟨fun e he => ?_, fun a ha herror => ?_, fun e => ?_⟩
  · rw [hexchanges] at he
    exact (hlisteners e).trans (h.unborn e he)
  · rw [hactive] at ha
    exact (hlisteners a.exchange).trans (h.waiting a ha herror)
  · have hnotices : w'.noticesOf e = w.noticesOf e := by
      rw [noticesOf, offeredTo, log_eq_of_deeds _ hdeeds]
      rfl
    have hexchange : w'.exchange e = w.exchange e := by rw [exchange, hexchanges, exchange]
    have hdue : w'.dueNotices e = w.dueNotices e :=
      dueNotices_congr (by rw [hexchange]) (hlisteners e)
    rw [hnotices, hdue]
    exact h.notified e

/-- A deed that registers nobody and offers no task that tells a listener. -/
theorem note_of_plain {d : Deed κ} (h : w.Enrolled) (hd : d.isListening = false)
    (hplain : ∀ task ∈ d.offeredTo .channel, task.name ≠ "error-listener") :
    (w.note d).Enrolled := by
  have hlisteners : ∀ e, (w.note d).listenersOf e = w.listenersOf e := by
    intro e
    rw [listenersOf, log_note, Deed.listenerOf_eq_nil hd, List.append_nil]
    rfl
  refine ⟨fun e he => (hlisteners e).trans (h.unborn e he),
    fun a ha herror => (hlisteners a.exchange).trans (h.waiting a ha herror), fun e => ?_⟩
  have hnone : (d.offeredTo .channel).filterMap (Task.notice? e) = [] :=
    List.filterMap_eq_nil_iff.2 fun task htask => Task.notice?_eq_none (hplain task htask) e
  have hdue : (w.note d).dueNotices e = w.dueNotices e := dueNotices_congr rfl (hlisteners e)
  rw [noticesOf, offeredTo, log_note, List.filterMap_append, hnone, List.append_nil, hdue]
  exact h.notified e

theorem note {d : Deed κ} (h : w.Enrolled) (hd : d.isListening = false)
    (hq : d.isQueueing = false) : (w.note d).Enrolled := by
  refine h.note_of_plain hd fun task htask => ?_
  rw [Deed.offeredTo_eq_nil hq] at htask
  cases htask

theorem setQueue (h : w.Enrolled) (name : QueueName) (q : Queue κ) :
    (w.setQueue name q).Enrolled := by
  cases name <;> exact h.same rfl rfl rfl

/-- Other tasks may be offered. -/
theorem offer (h : w.Enrolled) (name : QueueName) {tasks : List (Task κ)}
    (hplain : name = .channel → ∀ task ∈ tasks, task.name ≠ "error-listener") :
    (w.offer name tasks).Enrolled := by
  refine (h.setQueue name _).note_of_plain rfl fun task htask => ?_
  simp only [Deed.offeredTo] at htask
  split at htask
  next hname => exact hplain hname task htask
  next => cases htask

theorem offerOne (h : w.Enrolled) {name : String} (job : Job κ) (hname : name ≠ "error-listener") :
    (w.offer .channel [⟨name, job⟩]).Enrolled := by
  refine h.offer .channel fun _ task htask => ?_
  cases List.mem_singleton.1 htask
  exact hname

theorem enter (h : w.Enrolled) (entry : Entry κ) : (w.enter entry).Enrolled := h.same rfl rfl rfl

theorem enterWrote (h : w.Enrolled) (e : ExchangeRef) (callback : Callback κ) (last : Bool)
    (chunks : List Octets) : (w.enterWrote e callback last chunks).Enrolled := h.enter _

theorem tell (h : w.Enrolled) (p : PromiseRef) (state : PromiseState) :
    (w.tell p state).Enrolled := by
  unfold World.tell
  split
  · exact (h.enter (.told p state)).same rfl rfl rfl
  · exact h

theorem refuse (h : w.Enrolled) (callback : Callback κ) (why : ExchangeError) :
    (w.refuse callback why).Enrolled := by
  refine Enrolled.offerOne (Enrolled.enter ?_ _) _ (by decide)
  exact h.same rfl rfl rfl

theorem nextTask (h : w.Enrolled) (name : QueueName) : (Engine.nextTask name w).2.Enrolled := by
  simp only [Engine.nextTask, Effect.modifyGet]
  split
  · exact h.setQueue name _
  · refine (h.setQueue name _).note_of_plain rfl fun task htask => ?_
    cases htask

/-- An exchange may change apart from its failure. -/
theorem modifyExchange (h : w.Enrolled) {e : ExchangeRef} {f : Exchange → Exchange}
    (hf : (f (w.exchange e)).failure = (w.exchange e).failure) :
    (w.modifyExchange e f).Enrolled := by
  refine ⟨fun g hg => ?_, h.waiting, fun g => ?_⟩
  · rw [size_modifyExchange] at hg
    exact h.unborn g hg
  · have hdue : (w.modifyExchange e f).dueNotices g = w.dueNotices g :=
      dueNotices_congr (failure_modifyExchange hf g) rfl
    rw [hdue]
    exact h.notified g

theorem modifyResponse (h : w.Enrolled) (e : ExchangeRef) (f : Response → Response) :
    (w.modifyResponse e f).Enrolled := by
  refine h.modifyExchange ?_
  rfl

theorem setPhase (h : w.Enrolled) (e : ExchangeRef) (phase : Phase) :
    (w.setPhase e phase).Enrolled := by
  refine h.modifyExchange ?_
  rfl

/-- The active exchange may change apart from its failure and its listeners. -/
theorem modifyActive (h : w.Enrolled) {f : Active κ → Active κ}
    (hf : ∀ a, (f a).exchange = a.exchange ∧ (f a).error = a.error ∧
      (f a).errorListeners = a.errorListeners) : (w.modifyActive f).Enrolled := by
  refine ⟨h.unborn, fun a' ha' herror => ?_, h.notified⟩
  obtain ⟨a, ha, rfl⟩ := Option.map_eq_some_iff.1 ha'
  obtain ⟨hexchange, hsame, hlisteners⟩ := hf a
  rw [hexchange, hlisteners]
  exact h.waiting a ha (hsame.symm.trans herror)

/-- The listeners of an exchange that is over are lost. -/
theorem deactivate (h : w.Enrolled) {f : Channel κ → Channel κ} (hf : ∀ c, (f c).active = none) :
    (w.modifyChannel f).Enrolled := by
  refine ⟨h.unborn, fun a ha => ?_, h.notified⟩
  cases (hf w.channel).symm.trans ha

theorem dropWrite (h : w.Enrolled) (e : ExchangeRef) : (w.dropWrite e).Enrolled := by
  unfold World.dropWrite
  split
  · exact h.modifyActive fun _ => ⟨rfl, rfl, rfl⟩
  · exact h

theorem answer (h : w.Enrolled) (e : ExchangeRef) (ref : SendRef) (result : Result) :
    (w.answer e ref result).Enrolled := by
  refine Enrolled.note ?_ rfl rfl
  exact h.same rfl rfl rfl

theorem handOver (h : w.Enrolled) (e : ExchangeRef) (s : Sending κ) :
    (w.handOver e s).Enrolled := by
  refine Enrolled.note ?_ rfl rfl
  exact h.same rfl rfl rfl

theorem accept (h : w.Enrolled) (e : ExchangeRef) (last : Bool) (callback : Callback κ)
    (chunks : List Octets) : (w.accept e last callback chunks).Enrolled := by
  refine ((h.enterWrote e callback last chunks).modifyResponse e _).modifyActive ?_
  exact fun _ => ⟨rfl, rfl, rfl⟩

theorem detach (h : w.Enrolled) (e : ExchangeRef) (cause : Option FailureRef) :
    (w.detach e cause).Enrolled := by
  have hnoted := h.note (d := .ended e w.channel.stream cause) rfl rfl
  have hdropped : ((w.note (.ended e w.channel.stream cause)).enterDropped e cause).Enrolled :=
    hnoted.same rfl rfl rfl
  exact hdropped.deactivate fun _ => rfl

/-- Fixing a head has nothing to do with listeners. -/
theorem fixHead (h : w.Enrolled) {e : ExchangeRef} {last commits : Bool}
    {head : Option ResponseHead} (hfix : w.HeadFixed e last commits w' head) : w'.Enrolled := by
  cases hfix with
  | before => exact h
  | now outside fields =>
    have hfrozen := h.modifyResponse e fun r => { r.freeze last with fields }
    exact hfrozen.same rfl rfl rfl

end Enrolled

/-! ## Registering listeners, and telling them -/

/-- A new listener comes behind those that were registered before. -/
theorem listenersOf_note_self (w : World κ ε) (e : ExchangeRef) (listener : κ) :
    (w.note (.listening e listener)).listenersOf e = w.listenersOf e ++ [listener] := by
  rw [listenersOf, log_note]
  simp [Deed.listenerOf, listenersOf]

theorem listenersOf_note_of_ne {e g : ExchangeRef} (h : g ≠ e) (w : World κ ε) (listener : κ) :
    (w.note (.listening e listener)).listenersOf g = w.listenersOf g := by
  rw [listenersOf, log_note]
  simp [Deed.listenerOf, listenersOf, Ne.symm h]

theorem noticesOf_note_listening (w : World κ ε) (e g : ExchangeRef) (listener : κ) :
    (w.note (.listening e listener)).noticesOf g = w.noticesOf g := by
  rw [noticesOf, offeredTo, log_note]
  simp [Deed.offeredTo, noticesOf, offeredTo]

/-- The notices among tasks that are offered come behind those before. -/
theorem noticesOf_offer (w : World κ ε) (tasks : List (Task κ)) (e : ExchangeRef) :
    (w.offer .channel tasks).noticesOf e = w.noticesOf e ++ tasks.filterMap (Task.notice? e) := by
  rw [noticesOf, offeredTo_offer, List.filterMap_append]
  rfl

theorem listenersOf_offer (w : World κ ε) (tasks : List (Task κ)) (e : ExchangeRef) :
    (w.offer .channel tasks).listenersOf e = w.listenersOf e := by
  simp [listenersOf, log, Deed.listenerOf]

/-- The deliveries of a failure are offered in one go. -/
theorem offeredTo_storeFailure (w : World κ ε) (active : Active κ) (cause : FailureRef) :
    (w.storeFailure active cause).offeredTo .channel =
      w.offeredTo .channel ++ Channel.deliveries active cause := offeredTo_offer _ _ _

theorem failure_offer (w : World κ ε) (name : QueueName) (tasks : List (Task κ))
    (e : ExchangeRef) : ((w.offer name tasks).exchange e).failure = (w.exchange e).failure := by
  cases name <;> rfl

/-- An exchange without a failure gets the one that is stored. -/
theorem failure_storeFailure_self {a : Active κ} (hlt : a.exchange.index < w.exchanges.size)
    (hnone : (w.exchange a.exchange).failure = none) (cause : FailureRef) :
    ((w.storeFailure a cause).exchange a.exchange).failure = some cause := by
  have hself := exchange_modifyExchange_self w hlt fun x =>
    { x with
      failure := x.failure.or (some cause),
      phase := if a.processing then x.phase else .processing }
  have hstored := congrArg Exchange.failure hself
  rw [hnone] at hstored
  exact (failure_offer _ _ _ _).trans hstored

theorem failure_storeFailure_of_ne {a : Active κ} {e : ExchangeRef} (h : e ≠ a.exchange)
    (cause : FailureRef) :
    ((w.storeFailure a cause).exchange e).failure = (w.exchange e).failure := by
  refine (failure_offer _ _ _ _).trans (congrArg Exchange.failure ?_)
  exact exchange_modifyExchange_of_ne w h _

/-- If there is a failure, every listener is to be told it. -/
theorem dueNotices_of_failure {e : ExchangeRef} {cause : FailureRef}
    (h : (w.exchange e).failure = some cause) :
    w.dueNotices e = (w.listenersOf e).map (·, cause) := by
  rw [dueNotices, h]

/-- If there is none, nobody is. -/
theorem dueNotices_of_unfailed {e : ExchangeRef} (h : (w.exchange e).failure = none) :
    w.dueNotices e = [] := by
  rw [dueNotices, h]

namespace Enrolled

/-- A new exchange has no listeners. -/
theorem activate (h : w.Enrolled) (id : String) (request : RequestHead) (standard : Fields) :
    ({ w with exchanges := w.exchanges.push (.fresh id request standard) }.modifyChannel
      fun c => { c with active := some (.fresh ⟨w.exchanges.size⟩) }).Enrolled := by
  refine ⟨fun e he => ?_, fun a ha _ => ?_, fun e => ?_⟩
  · refine h.unborn e (Nat.le_of_succ_le ?_)
    simpa [modifyChannel] using he
  · cases ha
    exact h.unborn ⟨w.exchanges.size⟩ (Nat.le_refl _)
  · have hdue := dueNotices_congr (failure_push w id request standard e) rfl
    exact (h.notified e).trans hdue.symm

/-- The listeners of the active exchange are told its first failure. -/
theorem storeFailure (h : w.Enrolled) {a : Active κ} (ha : w.channel.active = some a)
    (hlt : a.exchange.index < w.exchanges.size) (herror : a.error = none)
    (hfailure : (w.exchange a.exchange).failure = none) (cause : FailureRef) :
    (w.storeFailure a cause).Enrolled := by
  have hlisteners : ∀ e, (w.storeFailure a cause).listenersOf e = w.listenersOf e :=
    fun e => listenersOf_offer _ _ e
  refine ⟨fun e he => ?_, fun a' ha' herror' => ?_, fun e => ?_⟩
  · rw [hlisteners]
    refine h.unborn e ?_
    simpa [World.storeFailure, World.offer, World.setQueue, World.note, World.modifyActive,
      modifyChannel] using he
  · have hactive : (w.storeFailure a cause).channel.active = w.channel.active.map fun a =>
        { a with
          error := some cause, processing := true, demand := none, write := none,
          errorListeners := [] } := rfl
    rw [hactive, ha] at ha'
    cases ha'
    cases herror'
  · have hnotices : (w.storeFailure a cause).noticesOf e = w.noticesOf e ++
        (Channel.deliveries a cause).filterMap (Task.notice? e) := noticesOf_offer _ _ e
    rw [hnotices, Channel.notices_deliveries, h.notified]
    by_cases he : a.exchange = e
    · -- up to now nobody had to be told, and the block tells everybody
      subst he
      have hstored := failure_storeFailure_self hlt hfailure cause
      rw [dueNotices_of_unfailed hfailure, dueNotices_of_failure hstored, hlisteners,
        h.waiting a ha herror]
      simp
    · have hsame := failure_storeFailure_of_ne (w := w) (Ne.symm he) cause
      rw [dueNotices_congr hsame (hlisteners e)]
      simp [he]

/-- A listener stands in the exchange as long as there is no failure. -/
theorem listen (h : w.Enrolled) {e : ExchangeRef} {a : Active κ} (ha : w.activeFor? e = some a)
    (hlt : e.index < w.exchanges.size) (hfailure : (w.exchange e).failure = none)
    (listener : κ) :
    ((w.note (.listening e listener)).modifyActive fun a =>
      { a with errorListeners := a.errorListeners ++ [listener] }).Enrolled := by
  obtain ⟨hactive, rfl⟩ := (activeFor?_eq_some w).1 ha
  refine ⟨fun g hg => ?_, fun a' ha' herror => ?_, fun g => ?_⟩
  · have hne : g ≠ a.exchange := by
      rintro rfl
      exact Nat.not_le_of_lt hlt hg
    exact (listenersOf_note_of_ne hne w listener).trans (h.unborn g hg)
  · have hmap : (w.channel.active.map fun a : Active κ =>
        { a with errorListeners := a.errorListeners ++ [listener] }) = some a' := ha'
    rw [hactive] at hmap
    cases hmap
    have hold := h.waiting a hactive herror
    refine (listenersOf_note_self w a.exchange listener).trans ?_
    rw [hold]
  · refine (noticesOf_note_listening w a.exchange g listener).trans ((h.notified g).trans ?_)
    show w.dueNotices g = (w.note (.listening a.exchange listener)).dueNotices g
    by_cases hg : g = a.exchange
    · subst hg
      have hnone : ((w.note (.listening a.exchange listener)).exchange a.exchange).failure =
        none := hfailure
      rw [dueNotices_of_unfailed hfailure, dueNotices_of_unfailed hnone]
    · have hdue : (w.note (.listening a.exchange listener)).dueNotices g = w.dueNotices g :=
        dueNotices_congr rfl (listenersOf_note_of_ne hg w listener)
      exact hdue.symm

/-- A listener of a failed exchange is told by a task of its own. -/
theorem listenLate (h : w.Enrolled) {e : ExchangeRef} {cause : FailureRef}
    (hfailure : (w.exchange e).failure = some cause)
    (herror : ∀ a, w.activeFor? e = some a → a.error ≠ none) (listener : κ) :
    ((w.note (.listening e listener)).offer .channel
      [.errorListener e listener cause]).Enrolled := by
  have hlisteners : ∀ g, ((w.note (.listening e listener)).offer .channel
      [.errorListener e listener cause]).listenersOf g =
      (w.note (.listening e listener)).listenersOf g := fun g => listenersOf_offer _ _ g
  refine ⟨fun g hg => ?_, fun a ha hnone => ?_, fun g => ?_⟩
  · have hne : g ≠ e := by
      rintro rfl
      have hnew : w.exchange g = default := exchange_of_size_le hg
      rw [hnew] at hfailure
      cases hfailure
    rw [hlisteners, listenersOf_note_of_ne hne]
    exact h.unborn g hg
  · have hne : a.exchange ≠ e := by
      rintro rfl
      exact herror a ((activeFor?_eq_some w).2 ⟨ha, rfl⟩) hnone
    rw [hlisteners, listenersOf_note_of_ne hne]
    exact h.waiting a ha hnone
  · rw [noticesOf_offer, noticesOf_note_listening, h.notified]
    by_cases hg : g = e
    · subst hg
      have hlate : (((w.note (.listening g listener)).offer .channel
          [.errorListener g listener cause]).exchange g).failure = some cause := hfailure
      rw [dueNotices_of_failure hfailure, dueNotices_of_failure hlate, hlisteners,
        listenersOf_note_self]
      simp [Task.notice?_errorListener]
    · have hsame := (hlisteners g).trans (listenersOf_note_of_ne hg w listener)
      have hdue : ((w.note (.listening e listener)).offer .channel
        [.errorListener e listener cause]).dueNotices g = w.dueNotices g :=
        dueNotices_congr rfl hsame
      rw [hdue]
      simp [Task.notice?_errorListener, Ne.symm hg]

end Enrolled

/-- Every step tells whom it has to. -/
theorem Step.enrolled {A : ExchangeRef → Prop} (hstep : Step A w w') (hw : w.Possible)
    (h : w.Enrolled) : w'.Enrolled := by
  cases hstep with
  | aside | addFailure | suppress | ignore => exact h.same rfl rfl rfl
  | tell p state => exact h.tell p state
  | offer tasks => exact h.offer .standalone nofun
  | next name => exact h.nextTask name
  | attach =>
    refine Enrolled.note ?_ rfl rfl
    exact h.same rfl rfl rfl
  | wrap | listen | unpersist | count => exact h.same rfl rfl rfl
  | close cause =>
    refine Enrolled.offer ?_ _ fun _ task htask => ?_
    · exact h.same rfl rfl rfl
    · simp only [Channel.closing, List.mem_append, List.mem_map] at htask
      rcases htask with htask | ⟨listener, -, rfl⟩
      · split at htask
        · obtain ⟨cause, -, rfl⟩ := List.mem_map.1 htask
          exact (by decide : "close-error" ≠ "error-listener")
        · cases htask
      · exact (by decide : "close-listener" ≠ "error-listener")
  | activate id request standard => exact h.activate id request standard
  | contentAvailable =>
    refine Enrolled.offer (h.modifyActive ?_) _ fun _ task htask => ?_
    · exact fun _ => ⟨rfl, rfl, rfl⟩
    · obtain ⟨job, -, rfl⟩ := List.mem_map.1 htask
      exact (by decide : "demand" ≠ "error-listener")
  | storeFailure cause hstream hactive herror =>
    have ha := (activeFor?_eq_some w).2 ⟨hactive, rfl⟩
    exact h.storeFailure hactive (hw.sound.index_lt_of_active ha) herror
      ((hw.failure_eq ha).trans herror) cause
  | enable =>
    refine Enrolled.setPhase (h.modifyActive ?_) _ _
    exact fun _ => ⟨rfl, rfl, rfl⟩
  | demand job =>
    refine (h.enter (.demanded _ job)).modifyActive ?_
    exact fun _ => ⟨rfl, rfl, rfl⟩
  | demandNow g job => exact (h.enter (.demanded g job)).offerOne _ (by decide)
  | listenForError listener ha herror =>
    rename_i e active
    refine Enrolled.listen (w := w.enter (.listened e listener)) (h.enter _) ha ?_ ?_ listener
    · exact hw.sound.index_lt_of_active ha
    · exact (hw.failure_eq ha).trans herror
  | listenLate listener hknown =>
    rename_i e cause
    unfold knownFailure? at hknown
    have hentered := h.enter (.listened e listener)
    cases ha : w.activeFor? e with
    | none =>
      rw [ha] at hknown
      refine hentered.listenLate hknown (fun a' ha' => ?_) listener
      cases ha.symm.trans ha'
    | some a =>
      rw [ha] at hknown
      refine hentered.listenLate ((hw.failure_eq ha).trans hknown) (fun a' ha' => ?_) listener
      cases ha.symm.trans ha'
      simp [hknown]
  | flush g callback =>
    exact (h.enter (.wrote g callback false [] true)).offerOne _ (by decide)
  | refuse g callback last chunks committed why =>
    exact (h.enter (.wrote g callback last chunks committed)).refuse callback why
  | refuseFailed callback last chunks =>
    exact (h.enterWrote _ callback last chunks).offerOne _ (by decide)
  | edit e f hedit =>
    refine h.modifyExchange ?_
    rw [hedit.same]
  | send callback _ _ _ hfix =>
    refine Enrolled.handOver ?_ _ _
    exact ((h.accept _ _ callback _).fixHead hfix).enter _
  | withhold callback hstream ha hadm hfix hfault =>
    rename_i e stream active last commits chunks w₁ head fault
    have hfixed : w₁.Enrolled := (h.accept _ _ callback _).fixHead hfix
    have hdropped := (hfixed.note (d := .mismatched e) rfl rfl).dropWrite e
    exact hdropped.refuse callback fault
  | stick callback _ _ _ hfix => exact (h.accept _ _ callback _).fixHead hfix
  | answerWrite => exact ((h.answer _ _ _).dropWrite _).offerOne _ (by decide)
  | answerLate => exact h.answer _ _ _
  | answerFinal result =>
    refine (h.answer _ _ result).note ?_ ?_ <;> cases result <;> rfl
  | answerError result =>
    refine Enrolled.note ?_ rfl rfl
    exact (h.answer _ _ result).same rfl rfl rfl
  | succeed => exact h.detach _ none
  | fail cause => exact h.detach _ (some cause)
  | complete => exact h.setPhase _ _
  | recycle =>
    refine Enrolled.setPhase (h.modifyExchange ?_) _ _
    rfl
  | mismatch hc hend hphase hfix hfault =>
    rename_i e stream w₁ head fault
    have hfixed : w₁.Enrolled := (h.modifyResponse _ _).fixHead hfix
    have hbroken := hfixed.note (d := .mismatched e) rfl rfl
    refine Enrolled.note ?_ rfl rfl
    exact hbroken.same rfl rfl rfl
  | tellSuccess _ _ _ hfix => exact ((h.modifyResponse _ _).fixHead hfix).note rfl rfl
  | sendFinal _ _ _ hfix | sendError _ _ _ _ _ _ hfix =>
    exact ((h.modifyResponse _ _).fixHead hfix).handOver _ _
  | stickFinal _ _ _ _ hfix | stickError _ _ _ _ _ _ hfix =>
    exact (h.modifyResponse _ _).fixHead hfix
  | tellFailure => exact h.note rfl rfl
  | conclude => exact (h.setPhase _ _).note rfl rfl

/-- In every state of a run the listeners are told, or wait to be. -/
theorem Possible.enrolled (h : w.Possible) : w.Enrolled := by
  refine h.induct (fun id version config persistent outside => ?_)
    fun _ _ hw he hstep => hstep.enrolled hw he
  refine ⟨fun _ _ => rfl, fun _ ha => (nomatch ha), fun e => ?_⟩
  have hnone : (start (.fresh id version config persistent) outside : World κ ε).exchange e =
      default := by simp [start, exchange]
  rw [dueNotices, hnone]
  rfl

/-- The error listeners that were told are the first that were registered, in this order, and each
was told the failure of the exchange. -/
theorem Possible.told_listeners (h : w.Possible) (e : ExchangeRef) :
    let told := (w.startedOf .channel).filterMap (Task.notice? e)
    told.map Prod.fst <+: w.listenersOf e ∧
      ∀ notice ∈ told, (w.exchange e).failure = some notice.2 := by
  intro told
  have hfront : told <+: w.dueNotices e := by
    rw [← h.enrolled.notified e]
    exact (h.started_in_order .channel).filterMap _
  cases hfailure : (w.exchange e).failure with
  | none =>
    rw [dueNotices_of_unfailed hfailure, List.prefix_nil] at hfront
    simp [hfront]
  | some cause =>
    rw [dueNotices_of_failure hfailure] at hfront
    refine ⟨?_, fun notice hnotice => ?_⟩
    · have hfirst := hfront.map Prod.fst
      simpa [List.map_map, Function.comp_def] using hfirst
    · obtain ⟨listener, -, rfl⟩ := List.mem_map.1 (hfront.subset hnotice)
      rfl

end World

/-! ## The order of the deliveries -/

variable {host : Host κ ε} {w : World κ ε} {active : Active κ} {cause : FailureRef}

open World

/-- The first failure that is reported for an active exchange is stored and delivered. -/
theorem Channel.onError_of_unfailed (hs : w.Sound) (hactive : w.channel.active = some active)
    (herror : active.error = none) (cause : FailureRef) :
    Channel.onError host cause w =
      (.done (if w.channelQueue.draining then none else some (.drain .channel)),
        w.storeFailure active cause) := by
  obtain ⟨stream, hstream⟩ := hs.exists_stream ((activeFor?_eq_some w).2 ⟨hactive, rfl⟩)
  simp only [onError, Effect.bind_run, Effect.get, hstream, hactive]
  exact failActive_of_unfailed herror cause w

/-- Whatever was offered stands in front of what is offered later. -/
theorem World.Possible.offeredTo_later {w₁ : World κ ε} {m : Engine κ ε β} (h : w₁.Possible)
    (hm : Permitted m) (name : QueueName) :
    ∃ later, (m w₁).2.offeredTo name = w₁.offeredTo name ++ later ∧
      (m w₁).2.startedOf name <+: w₁.offeredTo name ++ later := by
  have hcourse := hm.runs w₁ h.sound
  obtain ⟨later, hlater⟩ := Course.offeredTo_prefix hcourse name
  have hoffered : (m w₁).2.offeredTo name = w₁.offeredTo name ++ later := hlater.symm
  exact ⟨later, hoffered, hoffered ▸ (h.course hcourse).started_in_order name⟩

/-- **The order of the deliveries.** The first failure of an exchange is delivered by tasks that are
offered in one block, behind all tasks offered before and in front of all offered later: the demand
that is pending, the failing of the pending write, the telling of the error listeners in the order in
which they were registered, and the end of the exchange. At any time the tasks that were started are
the first that were offered; when the queue was worked off, which ends without a panic whatever the
tasks do, they are all. The error listeners of an exchange that were told, registered before the
failure or after it, are the first that were registered, and each was told that failure. -/
theorem failure_delivered_in_order {w : World κ ε} (hw : Reachable w) :
    (∀ active cause (host : Host κ ε), w.channel.active = some active → active.error = none →
      let block : List (Task κ) :=
        active.demand.toList.map (⟨"demand", ·⟩) ++
        active.write.toList.map (⟨"write-failure", .complete · (.error cause)⟩) ++
        (w.listenersOf active.exchange).map (.errorListener active.exchange · cause) ++
        [⟨"completion-failure", .fail active.exchange cause⟩]
      ∃ w₁, Channel.onError host cause w =
          (.done (if w.channelQueue.draining then none else some (.drain .channel)), w₁) ∧
        ∀ (β : Type) (m : Engine κ ε β), Permitted m → ∃ later,
          (m w₁).2.offeredTo .channel = w.offeredTo .channel ++ block ++ later ∧
          (m w₁).2.startedOf .channel <+: w.offeredTo .channel ++ block ++ later) ∧
    (∀ depth host, Surroundings depth host →
      (∀ p, (Queue.drain host .channel w).1 ≠ .panicked p) ∧
      ∀ w', Queue.drain host .channel w = (.done (), w') →
        w'.startedOf .channel = w'.offeredTo .channel) ∧
    ∀ e, let told := (w.startedOf .channel).filterMap (Task.notice? e)
      told.map Prod.fst <+: w.listenersOf e ∧
      ∀ notice ∈ told, (w.exchange e).failure = some notice.2 := by
  have h := hw.possible
  refine ⟨fun active cause host hactive herror => ?_, fun depth host hh => ⟨?_, ?_⟩,
    h.told_listeners⟩
  · intro block
    refine ⟨_, Channel.onError_of_unfailed h.sound hactive herror cause, fun β m hm => ?_⟩
    have hcourse := Channel.runs_onError host cause w h.sound
    rw [Channel.onError_of_unfailed h.sound hactive herror cause] at hcourse
    have hblock : (w.storeFailure active cause).offeredTo .channel =
        w.offeredTo .channel ++ block := by
      have hlisteners := h.enrolled.waiting active hactive herror
      simp only [block, hlisteners]
      exact offeredTo_storeFailure w active cause
    rw [← hblock]
    exact (h.course hcourse).offeredTo_later hm .channel
  · exact fun p => hh.calm_drain w p
  · exact fun w' hrun => h.started_of_drained hh.lawful hrun

/-- A failure that finds everybody waiting, and the queue worked off after it. -/
theorem failure_delivered_to_allWaiting :
    ∃ w₁, Channel.onError (Host.idle 2) ⟨0⟩ (World.afterNumbered allWaiting) =
        (.done (some (.drain .channel)), w₁) ∧
      (Queue.drain ((Host.idle 2).patient 9) .channel w₁).1 = .done () ∧
      (Queue.drain ((Host.idle 2).patient 9) .channel w₁).2.startedOf .channel =
        [⟨"demand", .code 1 .ready⟩, ⟨"write-failure", .complete (.code 2) (.error ⟨0⟩)⟩,
          .errorListener ⟨0⟩ 3 ⟨0⟩, .errorListener ⟨0⟩ 4 ⟨0⟩,
          ⟨"completion-failure", .fail ⟨0⟩ ⟨0⟩⟩] := by
  have hactive : (World.afterNumbered allWaiting).channel.active.map
      (fun a => (a.exchange, a.error, a.demand, a.write)) =
      some (⟨0⟩, none, some (.code 1 .ready), some (.code 2)) := by decide +kernel
  have hlisteners : (World.afterNumbered allWaiting).listenersOf ⟨0⟩ = [3, 4] := by
    decide +kernel
  have hoffered : (World.afterNumbered allWaiting).offeredTo .channel = [] := by decide +kernel
  have hidle : (World.afterNumbered allWaiting).channelQueue.draining = false := by
    decide +kernel
  have hdrained : (Queue.drain ((Host.idle 2).patient 9) .channel
      (Channel.onError (Host.idle 2) ⟨0⟩ (World.afterNumbered allWaiting)).2).1 = .done () := by
    decide +kernel
  have hcount : ((Queue.drain ((Host.idle 2).patient 9) .channel (Channel.onError (Host.idle 2) ⟨0⟩
      (World.afterNumbered allWaiting)).2).2.startedOf .channel).length = 5 := by decide +kernel
  obtain ⟨a, ha, hfields⟩ := Option.map_eq_some_iff.1 hactive
  obtain ⟨he, herror, hdemand, hwrite⟩ : a.exchange = ⟨0⟩ ∧ a.error = none ∧
      a.demand = some (.code 1 .ready) ∧ a.write = some (.code 2) := by simpa using hfields
  have horder := failure_delivered_in_order permitted_allWaiting.reachable_numbered
  obtain ⟨w₁, hrun, hlater⟩ := horder.1 a ⟨0⟩ (Host.idle 2) ha herror
  have hpermitted : Permitted (Queue.drain ((Host.idle 2).patient 9) .channel :
      Engine Nat Unit Unit) := .perform (.drain .channel) ⟨2, (surroundings_idle 2).patient 9⟩
  obtain ⟨later, -, hstarted⟩ := hlater Unit _ hpermitted
  rw [hidle] at hrun
  rw [hrun] at hdrained hcount
  refine ⟨w₁, hrun, hdrained, ?_⟩
  -- five tasks were started, and they are the first five
  rw [List.prefix_iff_eq_take, hcount, hoffered, he, hlisteners, hdemand, hwrite] at hstarted
  exact hstarted

end HttpExchange
