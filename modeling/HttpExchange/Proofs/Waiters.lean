import HttpExchange.Proofs.ConnectionClose
import Mathlib.Algebra.Order.Group.Multiset
import Mathlib.Tactic.Abel

/-!
# Nobody who waits is lost

Whoever is told something later waits for it: the callback of a write, the job of a demand, an error
listener. The ledger has all of them that were taken in (`World.accepted`). The main statement is
`Possible.balanced`: each of them is registered with the active exchange, or a task to tell it was
offered to the queue of the channel, or it was lost, and never two of these. The statement counts, so
one that was taken in twice is there twice.

A step takes a waiter from one place and puts it to another by several changes, one after the other.
In between it is in neither; `World.Holds` has those in hand. So each change has a lemma of its own,
and a step is in order if nothing is in hand in the end.

Who was lost was dropped when its exchange was detached, or came too late (`Step.enters`).
-/

namespace HttpExchange

variable {κ ε : Type}

/-! ## Who waits -/

/-- Who is taken in with an entry. -/
def Entry.accepted? : Entry κ → Option (Waiter κ)
  | wrote _ callback _ _ _ => some (.write callback)
  | demanded _ job => some (.demand job)
  | listened e listener | ignored e listener => some (.listener e listener)
  | sending _ _ | refused _ _ | dropped _ _ _ | told _ _ => none

/-- Who will not be told any more. -/
def Entry.lost? : Entry κ → Option (Waiter κ)
  | dropped waiter _ _ => some waiter
  | ignored e listener => some (.listener e listener)
  | wrote _ _ _ _ _ | demanded _ _ | listened _ _ | sending _ _ | refused _ _ | told _ _ => none

/-- Whom a task tells what it waits for. -/
def Task.waiter? (task : Task κ) : Option (Waiter κ) :=
  if task.name = "demand" then some (.demand task.job)
  else match task.job with
    | .complete callback _ => some (.write callback)
    | .errorListener e run _ => some (.listener e run)
    | _ => none

/-- The tasks that deliver a failure are for those who wait, and one more. -/
theorem Channel.waiters_deliveries (active : Active κ) (cause : FailureRef) :
    (deliveries active cause).filterMap Task.waiter? = active.waiters := by
  obtain ⟨e, processing, error, listeners, demand, write⟩ := active
  have hlisteners : (listeners.map (Task.errorListener e · cause)).filterMap Task.waiter? =
      listeners.map (.listener e) := by
    rw [List.filterMap_map]
    exact List.filterMap_eq_map.symm ▸ rfl
  cases demand <;> cases write <;> simp [deliveries, Active.waiters, Task.waiter?, hlisteners]

/-- Nobody waits for the tasks that follow the end of the connection. -/
theorem Channel.waiters_closing (channel : Channel κ) (cause : Option FailureRef) :
    (channel.closing cause).filterMap Task.waiter? = [] := by
  refine List.filterMap_eq_nil_iff.2 fun task htask => ?_
  simp only [closing, List.mem_append, List.mem_map] at htask
  rcases htask with htask | ⟨listener, -, rfl⟩
  · split at htask
    · obtain ⟨cause, -, rfl⟩ := List.mem_map.1 htask
      rfl
    · cases htask
  · rfl

namespace World

/-- Everybody who was taken in. -/
def accepted (w : World κ ε) : List (Waiter κ) := w.ledger.filterMap Entry.accepted?

/-- Everybody who waits on the active exchange. -/
def registered (w : World κ ε) : List (Waiter κ) := w.channel.active.toList.flatMap (·.waiters)

/-- Everybody whom a task was offered for. -/
def notified (w : World κ ε) : List (Waiter κ) := (w.offeredTo .channel).filterMap Task.waiter?

/-- Everybody who was lost. -/
def lost (w : World κ ε) : List (Waiter κ) := w.ledger.filterMap Entry.lost?

/-- Whoever was taken in is in hand, registered, notified or lost. -/
def Holds (w : World κ ε) (hand : Multiset (Waiter κ)) : Prop :=
  (w.accepted : Multiset (Waiter κ)) = hand + w.registered + w.notified + w.lost

variable {w w' : World κ ε} {hand hand' : Multiset (Waiter κ)} {e : ExchangeRef}

/-- Entries that do not count change nothing of what is counted. -/
theorem filterMap_ledger {β : Type} {f : Entry κ → Option β} {new : List (Entry κ)}
    (hledger : w'.ledger = new ++ w.ledger) (hnew : ∀ entry ∈ new, f entry = none) :
    w'.ledger.filterMap f = w.ledger.filterMap f := by
  rw [hledger, List.filterMap_append, List.filterMap_eq_nil_iff.2 hnew, List.nil_append]

/-- Who is dropped when an exchange is detached does not count. -/
theorem filterMap_ledger_detach {β : Type} {f : Entry κ → Option β} {cause : Option FailureRef}
    (hf : ∀ waiter, f (.dropped waiter e cause) = none) :
    (w.detach e cause).ledger.filterMap f = w.ledger.filterMap f := by
  have hledger : (w.detach e cause).ledger =
      w.registered.map (.dropped · e cause) ++ w.ledger := rfl
  refine filterMap_ledger hledger fun entry hentry => ?_
  obtain ⟨waiter, -, rfl⟩ := List.mem_map.1 hentry
  exact hf waiter

/-! ## What each change does with those in hand -/

namespace Holds

theorem same (h : w.Holds hand) (hledger : w'.ledger = w.ledger) (hdeeds : w'.deeds = w.deeds)
    (hactive : w'.channel.active = w.channel.active) : w'.Holds hand := by
  have hregistered : w'.registered = w.registered := by rw [registered, hactive, registered]
  have hnotified : w'.notified = w.notified :=
    congrArg (List.filterMap Task.waiter?) (log_eq_of_deeds _ hdeeds)
  rw [Holds, accepted, lost, hledger, hregistered, hnotified]
  exact h

theorem note {d : Deed κ} (h : w.Holds hand) (hd : d.isQueueing = false) :
    (w.note d).Holds hand := by
  have hnotified : (w.note d).notified = w.notified := by
    rw [notified, offeredTo, log_note, Deed.offeredTo_eq_nil hd, List.append_nil]
    rfl
  rw [Holds, hnotified]
  exact h

/-- An entry about nobody in particular. -/
theorem enter (h : w.Holds hand) (entry : Entry κ) (haccepted : entry.accepted? = none)
    (hlost : entry.lost? = none) : (w.enter entry).Holds hand := by
  have hacc : (w.enter entry).accepted = w.accepted := List.filterMap_cons_none haccepted
  have hgone : (w.enter entry).lost = w.lost := List.filterMap_cons_none hlost
  rw [Holds, hacc, hgone]
  exact h

/-- Whoever is taken in is in hand. -/
theorem accept {x : Waiter κ} (h : w.Holds 0) (entry : Entry κ)
    (haccepted : entry.accepted? = some x) (hlost : entry.lost? = none) :
    (w.enter entry).Holds {x} := by
  have hacc : (w.enter entry).accepted = x :: w.accepted := List.filterMap_cons_some haccepted
  have hgone : (w.enter entry).lost = w.lost := List.filterMap_cons_none hlost
  rw [Holds] at h
  rw [Holds, hacc, hgone, ← Multiset.cons_coe, h, ← Multiset.singleton_add]
  show {x} + (0 + (w.registered : Multiset (Waiter κ)) + w.notified + w.lost) = _
  rw [zero_add, ← add_assoc, ← add_assoc]
  rfl

/-- Whoever comes too late is lost at once. -/
theorem ignore (h : w.Holds 0) (e : ExchangeRef) (listener : κ) :
    (w.enter (.ignored e listener)).Holds 0 := by
  have hacc : (w.enter (.ignored e listener)).accepted = .listener e listener :: w.accepted := rfl
  have hgone : (w.enter (.ignored e listener)).lost = .listener e listener :: w.lost := rfl
  rw [Holds] at h
  rw [Holds, hacc, hgone, ← Multiset.cons_coe, ← Multiset.cons_coe, h, Multiset.add_cons]
  rfl

theorem nextTask (h : w.Holds hand) (name : QueueName) :
    (Engine.nextTask name w).2.Holds hand := by
  have hnotified : (Engine.nextTask name w).2.notified = w.notified :=
    congrArg (List.filterMap Task.waiter?) (offeredTo_nextTask w name .channel)
  rw [Holds, hnotified]
  simp only [Engine.nextTask, Effect.modifyGet]
  split <;> cases name <;> exact h

/-- The other queue is none of the channel's business. -/
theorem offerStandalone (h : w.Holds hand) (tasks : List (Task κ)) :
    (w.offer .standalone tasks).Holds hand := by
  have hnotified : (w.offer .standalone tasks).notified = w.notified := by
    rw [notified, offeredTo, World.offer, log_note]
    show ((w.log fun d => d.offeredTo .channel) ++ []).filterMap _ = _
    rw [List.append_nil]
    rfl
  rw [Holds, hnotified]
  exact h

/-- Those whom tasks are offered for are out of hand. -/
theorem offer {tasks : List (Task κ)} (h : w.Holds hand)
    (hhand : hand = hand' + (tasks.filterMap Task.waiter? : List (Waiter κ))) :
    (w.offer .channel tasks).Holds hand' := by
  have hnotified : (w.offer .channel tasks).notified =
      w.notified ++ tasks.filterMap Task.waiter? := by
    rw [notified, offeredTo_offer, List.filterMap_append]
    rfl
  rw [Holds, hhand] at h
  rw [Holds, hnotified, ← Multiset.coe_add]
  show (w.accepted : Multiset (Waiter κ)) = hand' + w.registered + (_ + _) + w.lost
  rw [h]
  abel

theorem offerOne {task : Task κ} {x : Waiter κ} (h : w.Holds {x}) (htask : task.waiter? = some x) :
    (w.offer .channel [task]).Holds 0 := by
  refine h.offer ?_
  rw [List.filterMap_cons_some htask, zero_add]
  rfl

/-- A change of the active exchange puts some to hand, or takes them from it. -/
theorem modifyActive {active : Active κ} {f : Active κ → Active κ} (h : w.Holds hand)
    (ha : w.channel.active = some active)
    (hf : hand' + ((f active).waiters : Multiset (Waiter κ)) = hand + active.waiters) :
    (w.modifyActive f).Holds hand' := by
  have hbefore : w.registered = active.waiters := by
    rw [registered, ha, Option.toList_some, List.flatMap_singleton]
  have hafter : (w.modifyActive f).registered = (f active).waiters := by
    show (w.channel.active.map f).toList.flatMap _ = _
    rw [ha, Option.map_some, Option.toList_some, List.flatMap_singleton]
  rw [Holds, hbefore, ← hf] at h
  rw [Holds, hafter]
  exact h

/-- A change that nobody who waits notices. -/
theorem modifyActive_of_waiters {f : Active κ → Active κ} (h : w.Holds hand)
    (hf : ∀ active, (f active).waiters = active.waiters) : (w.modifyActive f).Holds hand := by
  cases ha : w.channel.active with
  | none =>
    have hsame : (w.modifyActive f).channel.active = w.channel.active := by
      show w.channel.active.map f = _
      rw [ha]
      rfl
    exact h.same rfl rfl hsame
  | some active =>
    refine h.modifyActive ha ?_
    rw [hf]

theorem modifyExchange (h : w.Holds hand) (e : ExchangeRef) (f : Exchange → Exchange) :
    (w.modifyExchange e f).Holds hand := h.same rfl rfl rfl

theorem tell (h : w.Holds hand) (p : PromiseRef) (state : PromiseState) :
    (w.tell p state).Holds hand := by
  unfold World.tell
  split
  · exact (h.enter (.told p state) rfl rfl).same rfl rfl rfl
  · exact h

theorem answer (h : w.Holds hand) (e : ExchangeRef) (ref : SendRef) (result : Result) :
    (w.answer e ref result).Holds hand := by
  refine Holds.note ?_ rfl
  exact h.same rfl rfl rfl

theorem fixHead {last commits : Bool} {head : Option ResponseHead} (h : w.Holds hand)
    (hfix : w.HeadFixed e last commits w' head) : w'.Holds hand := by
  cases hfix with
  | before => exact h
  | now => exact h.same rfl rfl rfl

/-- The callback of a write is out of hand once its exchange has it. -/
theorem acceptWrite {active : Active κ} (h : w.Holds 0) (ha : w.activeFor? e = some active)
    (hwrite : active.write = none) (last : Bool) (callback : Callback κ) (chunks : List Octets) :
    (w.accept e last callback chunks).Holds 0 := by
  obtain ⟨hactive, -⟩ := (activeFor?_eq_some w).1 ha
  have hcalled : (w.enterWrote e callback last chunks).Holds {.write callback} :=
    h.accept _ rfl rfl
  have hprepared : ((w.enterWrote e callback last chunks).modifyResponse e
      (·.accept last chunks)).Holds {.write callback} := hcalled.modifyExchange e _
  refine hprepared.modifyActive hactive ?_
  rw [zero_add, Multiset.singleton_add]
  simp only [Active.waiters, hwrite, Option.toList_none, Option.toList_some, List.map_nil,
    List.map_singleton, List.append_nil, List.append_assoc, List.singleton_append]
  exact Multiset.coe_eq_coe.2 List.perm_middle

/-- The callback of a pending write that is taken out is in hand. -/
theorem dropWrite {active : Active κ} {callback : Callback κ} (h : w.Holds 0)
    (ha : w.activeFor? e = some active) (hwrite : active.write = some callback) :
    (w.dropWrite e).Holds {.write callback} := by
  obtain ⟨hactive, -⟩ := (activeFor?_eq_some w).1 ha
  have hsome : (w.activeFor? e).isSome = true := by rw [ha]; rfl
  unfold World.dropWrite
  rw [if_pos hsome]
  refine h.modifyActive hactive ?_
  rw [zero_add, Multiset.singleton_add]
  simp only [Active.waiters, hwrite, Option.toList_none, Option.toList_some, List.map_nil,
    List.map_singleton, List.append_nil, List.append_assoc, List.singleton_append]
  exact Multiset.coe_eq_coe.2 List.perm_middle.symm

/-- A refused write is told so by a task. -/
theorem refuse {callback : Callback κ} (h : w.Holds {.write callback}) (why : ExchangeError) :
    (w.refuse callback why).Holds 0 := by
  have hfailed : (w.addFailure why).Holds {.write callback} := h.same rfl rfl rfl
  have hentered := hfailed.enter (.refused callback w.failures.next) rfl rfl
  exact hentered.offerOne rfl

/-- Content wakes the demand. -/
theorem contentAvailable (h : w.Holds 0) :
    ((w.modifyActive fun a => { a with demand := none }).offer .channel
      ((w.channel.active.bind (·.demand)).toList.map (⟨"demand", ·⟩))).Holds 0 := by
  cases ha : w.channel.active with
  | none =>
    have hhand : (w.modifyActive fun a => { a with demand := none }).Holds 0 := by
      refine h.same rfl rfl ?_
      show w.channel.active.map _ = _
      rw [ha]
      rfl
    refine hhand.offer ?_
    rfl
  | some active =>
    have hhand : (w.modifyActive fun a => { a with demand := none }).Holds
        (active.demand.toList.map .demand : List (Waiter κ)) := by
      refine h.modifyActive ha ?_
      rw [zero_add]
      simp [Active.waiters]
    refine hhand.offer ?_
    rw [zero_add, Option.bind_some]
    cases active.demand <;> rfl

/-- The failure of an exchange is delivered to everybody who waits on it. -/
theorem storeFailure {active : Active κ} (h : w.Holds 0) (ha : w.channel.active = some active)
    (cause : FailureRef) : (w.storeFailure active cause).Holds 0 := by
  have hhand : ∀ f, ((w.modifyExchange active.exchange f).modifyActive fun a =>
      { a with
        error := some cause, processing := true, demand := none, write := none,
        errorListeners := [] }).Holds active.waiters := by
    intro f
    refine (h.modifyExchange active.exchange f).modifyActive ha ?_
    rw [zero_add]
    exact add_zero _
  refine (hhand _).offer ?_
  rw [zero_add, Channel.waiters_deliveries]

/-- Whoever still waits when an exchange is detached is dropped. -/
theorem detach (h : w.Holds 0) (e : ExchangeRef) (cause : Option FailureRef) :
    (w.detach e cause).Holds 0 := by
  have hnoted : (w.note (.ended e w.channel.stream cause)).Holds 0 := h.note rfl
  have haccepted : (w.detach e cause).accepted = w.accepted :=
    filterMap_ledger_detach fun _ => rfl
  have hlost : (w.detach e cause).lost = w.registered ++ w.lost := by
    show List.filterMap Entry.lost? (w.registered.map (.dropped · e cause) ++ w.ledger) = _
    rw [List.filterMap_append, List.filterMap_map]
    refine congrArg (· ++ w.lost) ?_
    exact List.filterMap_some
  have hregistered : (w.detach e cause).registered = [] := rfl
  rw [Holds] at hnoted
  rw [Holds, haccepted, hlost, hregistered, ← Multiset.coe_add]
  show (w.accepted : Multiset (Waiter κ)) =
    0 + 0 + (w.note (.ended e w.channel.stream cause)).notified + (w.registered + w.lost)
  refine hnoted.trans ?_
  show 0 + (w.registered : Multiset (Waiter κ)) + _ + w.lost = _
  abel

end Holds

/-! ## Every step is in order -/

theorem Step.holds {A : ExchangeRef → Prop} (hstep : Step A w w') (h : w.Holds 0) :
    w'.Holds 0 := by
  cases hstep with
  | aside | addFailure | suppress | wrap | listen | unpersist | count | edit | complete
  | recycle => exact h.same rfl rfl rfl
  | tell p state => exact h.tell p state
  | offer tasks => exact h.offerStandalone tasks
  | next name => exact h.nextTask name
  | attach =>
    refine Holds.note ?_ rfl
    exact h.same rfl rfl rfl
  | close cause =>
    have hclosed : (w.modifyChannel fun c => { c with closeListeners := [] }).Holds 0 :=
      h.same rfl rfl rfl
    refine hclosed.offer ?_
    rw [Channel.waiters_closing]
    rfl
  | activate id request standard hstream hnone =>
    -- nobody waits on a new exchange
    have hregistered : w.registered = [] := by
      rw [registered, hnone]
      rfl
    rw [Holds, hregistered] at h
    exact h
  | contentAvailable => exact h.contentAvailable
  | storeFailure cause hstream ha => exact h.storeFailure ha cause
  | enable =>
    refine Holds.modifyExchange (h.modifyActive_of_waiters ?_) _ _
    exact fun _ => rfl
  | demand job ha herror hprocessing hnone =>
    rename_i e active
    obtain ⟨hactive, -⟩ := (activeFor?_eq_some w).1 ha
    have haccepted := h.accept (.demanded e job) rfl rfl
    refine haccepted.modifyActive hactive ?_
    rw [zero_add, Multiset.singleton_add]
    simp [Active.waiters, hnone]
  | demandNow e job =>
    have haccepted := h.accept (.demanded e job) rfl rfl
    exact haccepted.offerOne rfl
  | listenForError listener ha herror =>
    rename_i e active
    obtain ⟨hactive, rfl⟩ := (activeFor?_eq_some w).1 ha
    have hnoted : (w.note (.listening active.exchange listener)).Holds 0 := h.note rfl
    have haccepted := hnoted.accept (.listened active.exchange listener) rfl rfl
    refine haccepted.modifyActive hactive ?_
    have hwaiters : { active with errorListeners := active.errorListeners ++ [listener] }.waiters =
        active.waiters ++ [.listener active.exchange listener] := by
      simp [Active.waiters]
    rw [zero_add, Multiset.singleton_add, hwaiters]
    exact Multiset.coe_eq_coe.2 (List.perm_append_singleton _ _)
  | listenLate listener hknown =>
    rename_i e cause
    have hnoted : (w.note (.listening e listener)).Holds 0 := h.note rfl
    have haccepted := hnoted.accept (.listened e listener) rfl rfl
    exact haccepted.offerOne rfl
  | ignore listener => exact h.ignore _ listener
  | flush e callback =>
    have haccepted := h.accept (.wrote e callback false [] true) rfl rfl
    exact haccepted.offerOne rfl
  | refuse e callback last chunks committed why =>
    have haccepted := h.accept (.wrote e callback last chunks committed) rfl rfl
    exact haccepted.refuse why
  | refuseFailed callback last chunks ha herror =>
    rename_i e active cause
    have haccepted : (w.enterWrote e callback last chunks).Holds {.write callback} :=
      h.accept _ rfl rfl
    exact haccepted.offerOne rfl
  | send callback hstream ha hadm hfix hfits =>
    rename_i e stream active last commits chunks w₁ head
    have hfixed : w₁.Holds 0 :=
      (h.acceptWrite ha (Active.admission_eq_send hadm).1 last callback chunks).fixHead hfix
    have hentered := hfixed.enter (.sending ⟨w₁.sends.size⟩ callback) rfl rfl
    refine Holds.note ?_ rfl
    exact hentered.same rfl rfl rfl
  | withhold callback hstream ha hadm hfix hfault =>
    rename_i e stream active last commits chunks w₁ head fault
    have hfixed : w₁.Holds 0 :=
      (h.acceptWrite ha (Active.admission_eq_send hadm).1 last callback chunks).fixHead hfix
    have hnoted : (w₁.note (.mismatched e)).Holds 0 := hfixed.note rfl
    have hactive : (w₁.note (.mismatched e)).activeFor? e =
        some { active with write := some callback } :=
      (hfix.activeFor?_eq e).trans (activeFor?_accept ha last callback chunks)
    exact (hnoted.dropWrite hactive rfl).refuse fault
  | stick callback hstream ha hadm hfix =>
    exact (h.acceptWrite ha (Active.admission_eq_send hadm).1 _ callback _).fixHead hfix
  | answerWrite result hcb ha hwrite =>
    rename_i ref e active callback
    have hanswered := h.answer e ref result
    exact (hanswered.dropWrite ha hwrite).offerOne rfl
  | answerLate => exact h.answer _ _ _
  | answerFinal result =>
    refine (h.answer _ _ result).note ?_
    cases result <;> rfl
  | answerError result =>
    refine Holds.note ?_ rfl
    exact (h.answer _ _ result).same rfl rfl rfl
  | succeed => exact h.detach _ none
  | fail cause => exact h.detach _ (some cause)
  | mismatch hc hend hphase hfix hfault =>
    rename_i e stream w₁ head fault
    have hfixed : w₁.Holds 0 := (h.modifyExchange e _).fixHead hfix
    have hbroken : (w₁.note (.mismatched e)).Holds 0 := hfixed.note rfl
    refine Holds.note ?_ rfl
    exact hbroken.same rfl rfl rfl
  | tellSuccess _ _ _ hfix => exact ((h.modifyExchange _ _).fixHead hfix).note rfl
  | sendFinal _ _ _ hfix | sendError _ _ _ _ _ _ hfix =>
    refine Holds.note ?_ rfl
    have hfixed := (h.modifyExchange _ _).fixHead hfix
    exact hfixed.same rfl rfl rfl
  | stickFinal _ _ _ _ hfix | stickError _ _ _ _ _ _ hfix =>
    exact (h.modifyExchange _ _).fixHead hfix
  | tellFailure => exact h.note rfl
  | conclude => exact (h.modifyExchange _ _).note rfl

/-- Whoever was taken in is registered, notified or lost. -/
theorem Possible.holds (h : w.Possible) : w.Holds 0 :=
  h.induct (fun _ _ _ _ _ => rfl) fun _ _ _ hw hstep => hstep.holds hw

/-- Everybody for whom a task waits in the queue. -/
def queued (w : World κ ε) : List (Waiter κ) := w.channelQueue.tasks.filterMap Task.waiter?

/-- Everybody for whom a task was run. -/
def served (w : World κ ε) : List (Waiter κ) := (w.startedOf .channel).filterMap Task.waiter?

/-- Whoever was taken in is in one place: registered, queued, served or lost. -/
theorem Possible.balanced (h : w.Possible) :
    w.accepted.Perm (w.registered ++ w.queued ++ w.served ++ w.lost) := by
  have hnotified : w.notified = w.served ++ w.queued := by
    rw [notified, h.inOrder .channel, List.filterMap_append]
    rfl
  have hholds := h.holds
  rw [Holds, hnotified, zero_add] at hholds
  refine (Multiset.coe_eq_coe.1 hholds).trans ?_
  refine List.Perm.append_right _ ?_
  rw [List.append_assoc]
  exact List.Perm.append_left _ List.perm_append_comm

/-! ## What a step enters -/

/-- What a new entry is founded on. Those of sends and promises have a step of their own. -/
def Founded (w w' : World κ ε) : Entry κ → Prop
  | .ignored e _ =>
    e.index < w.exchanges.size ∧ w.activeFor? e = none ∧ (w.exchange e).failure = none
  | .dropped waiter e cause =>
    (∃ stream, .ended e stream cause ∈ w'.deeds) ∧
      (cause = none → ∃ listener, waiter = .listener e listener)
  | .sending _ _ | .told _ _ => False
  | .wrote _ _ _ _ _ | .demanded _ _ | .listened _ _ | .refused _ _ => True

/-- No promise was settled. -/
structure Unsettled (w w' : World κ ε) : Prop where
  state : ∀ p, w'.promiseState p = w.promiseState p
  size : w.promises.size ≤ w'.promises.size

theorem Unsettled.of_eq (h : w'.promises = w.promises) : Unsettled w w' := by
  refine ⟨fun p => ?_, Nat.le_of_eq (congrArg Array.size h.symm)⟩
  rw [promiseState, h]
  rfl

/-- How a step changes the ledger and the promises. -/
inductive Enters (w w' : World κ ε) : Prop
  | rest (new : List (Entry κ)) : w'.ledger = new ++ w.ledger →
      (∀ entry ∈ new, Founded w w' entry) → Unsettled w w' → w.sends.size ≤ w'.sends.size →
      Enters w w'
  | send (e : ExchangeRef) (callback : Callback κ) (last : Bool) (chunks : List Octets)
      (committed : Bool) :
      w'.ledger = .sending ⟨w.sends.size⟩ callback ::
        .wrote e callback last chunks committed :: w.ledger →
      Unsettled w w' → w'.sends.size = w.sends.size + 1 → Enters w w'
  | tell (p : PromiseRef) (state : PromiseState) : w' = w.tell p state → Enters w w'

namespace Enters

theorem nothing (hledger : w'.ledger = w.ledger) (hpromises : w'.promises = w.promises)
    (hsends : w.sends.size ≤ w'.sends.size) : Enters w w' := by
  exact .rest [] hledger (fun _ hentry => nomatch hentry) (.of_eq hpromises) hsends

theorem one {entry : Entry κ} (hledger : w'.ledger = entry :: w.ledger)
    (hfounded : Founded w w' entry) (hpromises : w'.promises = w.promises)
    (hsends : w'.sends = w.sends) : Enters w w' := by
  refine .rest [entry] hledger (fun other hother => ?_) (.of_eq hpromises) (Nat.le_of_eq ?_)
  · cases List.mem_singleton.1 hother
    exact hfounded
  · rw [hsends]

end Enters

@[simp] theorem promises_offer (name : QueueName) (tasks : List (Task κ)) :
    (w.offer name tasks).promises = w.promises := by
  cases name <;> rfl

@[simp] theorem promises_dropWrite (e : ExchangeRef) : (w.dropWrite e).promises = w.promises := by
  unfold dropWrite
  split <;> rfl

theorem HeadFixed.promises_eq {last commits : Bool} {head : Option ResponseHead}
    (h : w.HeadFixed e last commits w' head) : w'.promises = w.promises := by
  cases h <;> rfl

theorem size_sends_handOver (w : World κ ε) (e : ExchangeRef) (s : Sending κ) :
    (w.handOver e s).sends.size = w.sends.size + 1 := Array.size_push _

/-- Offering tasks enters nobody. -/
theorem Enters.offer {w₁ : World κ ε} {name : QueueName} {tasks : List (Task κ)}
    (hledger : w₁.ledger = w.ledger) (hpromises : w₁.promises = w.promises)
    (hsends : w₁.sends = w.sends) : Enters w (w₁.offer name tasks) := by
  refine .nothing ((ledger_offer ..).trans hledger) ((promises_offer ..).trans hpromises) ?_
  rw [sends_offer, hsends]

/-- Taking out the callback of a send enters nobody. -/
theorem Enters.answer (ref : SendRef) (hledger : w'.ledger = w.ledger)
    (hpromises : w'.promises = w.promises)
    (hsends : w'.sends = w.sends.modify ref.index fun _ => none) : Enters w w' := by
  refine .nothing hledger hpromises ?_
  rw [hsends, Array.size_modify]

/-- Detaching an exchange enters those who still wait on it. -/
theorem Enters.detach {active : Active κ} {cause : Option FailureRef}
    (ha : w.activeFor? e = some active)
    (hwaits : cause = none → active.demand = none ∧ active.write = none) :
    Enters w (w.detach e cause) := by
  obtain ⟨hactive, rfl⟩ := (activeFor?_eq_some w).1 ha
  refine .rest (w.registered.map (.dropped · active.exchange cause)) rfl ?_ (.of_eq rfl)
    (Nat.le_refl _)
  intro entry hentry
  obtain ⟨waiter, hwaiter, rfl⟩ := List.mem_map.1 hentry
  refine ⟨⟨w.channel.stream, List.mem_cons_self⟩, fun hnone => ?_⟩
  obtain ⟨hdemand, hwrite⟩ := hwaits hnone
  rw [registered, hactive, Option.toList_some, List.flatMap_singleton] at hwaiter
  simp only [Active.waiters, hdemand, hwrite, Option.toList_none, List.map_nil, List.nil_append,
    List.mem_map] at hwaiter
  obtain ⟨listener, -, rfl⟩ := hwaiter
  exact ⟨listener, rfl⟩

theorem Step.enters {A : ExchangeRef → Prop} (hstep : Step A w w') : Enters w w' := by
  cases hstep with
  | aside slots promises bodies streamCount outside hpromises hsize =>
    exact .rest [] rfl (fun _ hentry => nomatch hentry) ⟨hpromises, hsize⟩ (Nat.le_refl _)
  | tell p state => exact .tell p state rfl
  | addFailure | suppress | attach | wrap | listen | unpersist | count | activate | enable | edit
  | complete | recycle | tellFailure | conclude => exact .nothing rfl rfl (Nat.le_refl _)
  | offer | close | contentAvailable | storeFailure =>
    exact .offer rfl rfl rfl
  | next name =>
    simp only [Engine.nextTask, Effect.modifyGet]
    split <;> cases name <;> exact .nothing rfl rfl (Nat.le_refl _)
  | demand job => exact .one rfl trivial rfl rfl
  | listenForError listener => exact .one rfl trivial rfl rfl
  | demandNow e job | listenLate job | flush e job | refuseFailed job =>
    exact .one (ledger_offer ..) trivial (promises_offer ..) (sends_offer ..)
  | ignore listener hlt ha hfailure => exact .one rfl ⟨hlt, ha, hfailure⟩ rfl rfl
  | refuse e callback last chunks committed why =>
    refine .rest [_, _] (ledger_offer ..) ?_ (.of_eq rfl) (Nat.le_refl _)
    simp [Founded]
  | send callback hstream ha hadm hfix hfits =>
    rename_i e stream active last commits chunks w₁ head
    have hledger : w₁.ledger = .wrote e callback last chunks
        (w.exchange e).response.committed :: w.ledger := hfix.ledger_eq
    have hpromises : w₁.promises = w.promises := hfix.promises_eq
    have hsends : w₁.sends = w.sends := hfix.sends_eq
    refine .send e callback last chunks (w.exchange e).response.committed ?_ (.of_eq hpromises) ?_
    · show Entry.sending ⟨w₁.sends.size⟩ callback :: w₁.ledger = _
      rw [hledger, hsends]
    · rw [size_sends_handOver]
      show w₁.sends.size + 1 = _
      rw [hsends]
  | withhold callback hstream ha hadm hfix hfault =>
    rename_i e stream active last commits chunks w₁ head fault
    have hledger : ((w₁.note (.mismatched e)).dropWrite e).ledger = .wrote e callback last chunks
        (w.exchange e).response.committed :: w.ledger := (ledger_dropWrite e).trans hfix.ledger_eq
    have hpromises : ((w₁.note (.mismatched e)).dropWrite e).promises = w.promises :=
      (promises_dropWrite e).trans hfix.promises_eq
    have hsends : ((w₁.note (.mismatched e)).dropWrite e).sends = w.sends :=
      (sends_dropWrite e).trans hfix.sends_eq
    refine .rest [.refused callback ((w₁.note (.mismatched e)).dropWrite e).failures.next,
      .wrote e callback last chunks (w.exchange e).response.committed]
      ?_ ?_ (.of_eq ?_) (Nat.le_of_eq ?_)
    · rw [World.refuse, ledger_offer]
      exact congrArg (_ :: ·) hledger
    · simp [Founded]
    · rw [World.refuse, promises_offer]
      exact hpromises
    · rw [World.refuse, sends_offer]
      exact congrArg Array.size hsends.symm
  | stick callback hstream ha hadm hfix =>
    exact .one hfix.ledger_eq trivial hfix.promises_eq hfix.sends_eq
  | answerWrite result hcb ha hwrite =>
    rename_i ref e active callback
    refine .answer ref ?_ ?_ ?_
    · rw [ledger_offer, ledger_dropWrite]
      rfl
    · rw [promises_offer, promises_dropWrite]
      rfl
    · rw [sends_offer, sends_dropWrite]
      rfl
  | answerLate | answerFinal | answerError => exact .answer _ rfl rfl rfl
  | succeed ha hprocessing hdemand hwrite => exact .detach ha fun _ => ⟨hdemand, hwrite⟩
  | fail cause ha => exact .detach ha fun hnone => absurd hnone (Option.some_ne_none cause)
  | mismatch _ _ _ hfix | tellSuccess _ _ _ hfix | stickFinal _ _ _ _ hfix
  | stickError _ _ _ _ _ _ hfix =>
    exact .nothing hfix.ledger_eq hfix.promises_eq
      (Nat.le_of_eq (congrArg Array.size hfix.sends_eq.symm))
  | sendFinal _ _ _ hfix | sendError _ _ _ _ _ _ hfix =>
    refine .nothing hfix.ledger_eq hfix.promises_eq ?_
    rw [size_sends_handOver, hfix.sends_eq]
    exact Nat.le_succ _

end World

end HttpExchange
