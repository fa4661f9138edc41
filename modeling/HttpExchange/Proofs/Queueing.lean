import HttpExchange.Proofs.Ending

/-!
# The order of deferred tasks

The deeds tell which tasks were offered to a queue and which were started, both oldest first
(`World.offeredTo`, `World.startedOf`). The main statement is `Possible.inOrder`: at any time the
tasks that were started and then the tasks that wait are exactly those that were offered. So tasks
start in the order of the offers, each once, whatever they do themselves.

Working a queue off ends with an empty queue, if it ends (`Queue.idle_of_drained`). For the queue of
the channel it ends without a panic (`Surroundings.calm_drain`): a panic of a task is reported, and
the report only offers further tasks. A queue that nobody works off is empty (`Possible.queue_settled`).
-/

namespace HttpExchange

variable {κ ε α β : Type}

/-! ## What the deeds tell -/

namespace Deed

/-- The tasks that were offered to a queue. -/
def offeredTo (name : QueueName) : Deed κ → List (Task κ)
  | offered queue tasks => if queue = name then tasks else []
  | _ => []

/-- The task of a queue that was started. -/
def startedOf (name : QueueName) : Deed κ → List (Task κ)
  | started queue task => if queue = name then [task] else []
  | _ => []

/-- Whether a task was offered or started. -/
def isQueueing : Deed κ → Bool
  | offered _ _ | started _ _ => true
  | _ => false

/-- A deed that is not about a queue offers nothing. -/
theorem offeredTo_eq_nil {d : Deed κ} (h : d.isQueueing = false) (name : QueueName) :
    d.offeredTo name = [] := by
  cases d <;> first | rfl | cases h

/-- A deed that is not about a queue starts nothing. -/
theorem startedOf_eq_nil {d : Deed κ} (h : d.isQueueing = false) (name : QueueName) :
    d.startedOf name = [] := by
  cases d <;> first | rfl | cases h

end Deed

namespace World

/-- What the deeds tell, oldest first. -/
def log (f : Deed κ → List α) (w : World κ ε) : List α := w.deeds.reverse.flatMap f

def offeredTo (w : World κ ε) (name : QueueName) : List (Task κ) := w.log (·.offeredTo name)

def startedOf (w : World κ ε) (name : QueueName) : List (Task κ) := w.log (·.startedOf name)

variable {w w' : World κ ε}

/-- A deed is noted behind those that were done before. -/
theorem log_note (f : Deed κ → List α) (w : World κ ε) (d : Deed κ) :
    (w.note d).log f = w.log f ++ f d := by
  simp [log, note]

/-- What is read off the deeds depends on nothing else. -/
theorem log_eq_of_deeds (f : Deed κ → List α) (h : w'.deeds = w.deeds) : w'.log f = w.log f := by
  rw [log, h]
  rfl

/-- Later deeds add to what was told before. -/
theorem log_extends (f : Deed κ → List α) (h : w.deeds <:+ w'.deeds) : w.log f <+: w'.log f := by
  obtain ⟨late, heq⟩ := h
  refine ⟨late.reverse.flatMap f, ?_⟩
  simp [log, ← heq]

/-- An offer is put behind those that were made before. -/
theorem offeredTo_offer (w : World κ ε) (name : QueueName) (tasks : List (Task κ)) :
    (w.offer name tasks).offeredTo name = w.offeredTo name ++ tasks := by
  simp [offeredTo, log, Deed.offeredTo]

/-- What was offered stands in front of what is offered later. -/
theorem Course.offeredTo_prefix {A : ExchangeRef → Prop} (h : Course A w w') (name : QueueName) :
    w.offeredTo name <+: w'.offeredTo name := log_extends _ (Course.deeds_suffix h)

end World

namespace Engine

variable {w : World κ ε} {name : QueueName}

/-- Whoever finds a queue empty leaves it idle. -/
theorem nextTask_of_nil (h : (w.queue name).tasks = []) :
    nextTask name w = (.done none, w.setQueue name .idle) := by
  simp [nextTask, Effect.modifyGet, Queue.next, h]

/-- The first task is taken from a queue, and noted as started. -/
theorem nextTask_of_cons {task : Task κ} {rest : List (Task κ)}
    (h : (w.queue name).tasks = task :: rest) :
    nextTask name w =
      (.done (some task),
        (w.setQueue name ⟨rest, (w.queue name).draining⟩).note (.started name task)) := by
  simp [nextTask, Effect.modifyGet, Queue.next, h]

end Engine

namespace World

variable {w w' : World κ ε}

/-! ## First in, first out -/

/-- The tasks of each queue that were started, and then those that wait, are those that were
offered. -/
def InOrder (w : World κ ε) : Prop :=
  ∀ name, w.offeredTo name = w.startedOf name ++ (w.queue name).tasks

/-- The order is a matter of the deeds and the queues alone. -/
theorem InOrder.same (h : w.InOrder) (hdeeds : w'.deeds = w.deeds)
    (hchannel : w'.channelQueue = w.channelQueue)
    (hstandalone : w'.standaloneQueue = w.standaloneQueue) : w'.InOrder := by
  intro name
  have hqueue : w'.queue name = w.queue name := by
    cases name
    · exact hchannel
    · exact hstandalone
  rw [offeredTo, startedOf, log_eq_of_deeds _ hdeeds, log_eq_of_deeds _ hdeeds, hqueue]
  exact h name

/-- Noting something else leaves the order as it is. -/
theorem InOrder.note {d : Deed κ} (h : w.InOrder) (hd : d.isQueueing = false) :
    (w.note d).InOrder := by
  intro name
  rw [offeredTo, startedOf, log_note, log_note, Deed.offeredTo_eq_nil hd,
    Deed.startedOf_eq_nil hd, List.append_nil, List.append_nil]
  cases name <;> exact h _

/-- The two queues are kept apart. -/
theorem queue_setQueue (w : World κ ε) (name other : QueueName) (q : Queue κ) :
    (w.setQueue name q).queue other = if name = other then q else w.queue other := by
  cases name <;> cases other <;> rfl

theorem queue_note (w : World κ ε) (d : Deed κ) (name : QueueName) :
    (w.note d).queue name = w.queue name := by
  cases name <;> rfl

/-- What is offered comes to the end of the queue and to the end of the offers. -/
theorem InOrder.offer (h : w.InOrder) (name : QueueName) (tasks : List (Task κ)) :
    (w.offer name tasks).InOrder := by
  intro other
  have hold := h other
  rw [offeredTo, startedOf, World.offer, log_note, log_note, queue_note, queue_setQueue,
    log_eq_of_deeds _ (deeds_setQueue ..), log_eq_of_deeds _ (deeds_setQueue ..)]
  show w.offeredTo other ++ _ = w.startedOf other ++ [] ++ _
  rw [hold, List.append_nil, List.append_assoc]
  by_cases hname : name = other
  · subst hname
    simp [Deed.offeredTo, Queue.tasks_offer]
  · simp [Deed.offeredTo, hname]

/-- What is started was the first that waited. -/
theorem InOrder.nextTask (h : w.InOrder) (name : QueueName) :
    (Engine.nextTask name w).2.InOrder := by
  intro other
  have hold := h other
  rcases hq : (w.queue name).tasks with _ | ⟨task, rest⟩
  · -- the queue is empty, and becomes idle
    rw [Engine.nextTask_of_nil hq, offeredTo, startedOf, queue_setQueue,
      log_eq_of_deeds _ (deeds_setQueue ..), log_eq_of_deeds _ (deeds_setQueue ..)]
    show w.offeredTo other = w.startedOf other ++ _
    rw [hold]
    by_cases hname : name = other
    · subst hname
      simp [hq, Queue.idle]
    · simp [hname]
  · -- the first task moves from those that wait to those that were started
    rw [Engine.nextTask_of_cons hq, offeredTo, startedOf, log_note, log_note, queue_note,
      queue_setQueue, log_eq_of_deeds _ (deeds_setQueue ..), log_eq_of_deeds _ (deeds_setQueue ..)]
    show w.offeredTo other ++ [] = w.startedOf other ++ _ ++ _
    rw [hold, List.append_nil, List.append_assoc]
    by_cases hname : name = other
    · subst hname
      simp [Deed.startedOf, hq]
    · simp [Deed.startedOf, hname]

/-- Taking a task offers none. -/
theorem offeredTo_nextTask (w : World κ ε) (name other : QueueName) :
    (Engine.nextTask name w).2.offeredTo other = w.offeredTo other := by
  rcases hq : (w.queue name).tasks with _ | ⟨task, rest⟩
  · rw [Engine.nextTask_of_nil hq]
    exact log_eq_of_deeds _ (deeds_setQueue ..)
  · rw [Engine.nextTask_of_cons hq, offeredTo, log_note, log_eq_of_deeds _ (deeds_setQueue ..)]
    exact List.append_nil _

theorem InOrder.dropWrite (h : w.InOrder) (e : ExchangeRef) : (w.dropWrite e).InOrder := by
  unfold World.dropWrite
  split
  · exact h.same rfl rfl rfl
  · exact h

theorem InOrder.answer (h : w.InOrder) (e : ExchangeRef) (ref : SendRef) (result : Result) :
    (w.answer e ref result).InOrder := by
  refine InOrder.note ?_ rfl
  exact h.same rfl rfl rfl

/-- Fixing a head has nothing to do with the queues. -/
theorem HeadFixed.inOrder {e : ExchangeRef} {last commits : Bool} {head : Option ResponseHead}
    (hfix : w.HeadFixed e last commits w' head) (h : w.InOrder) : w'.InOrder := by
  cases hfix with
  | before => exact h
  | now => exact h.same rfl rfl rfl

theorem InOrder.modifyExchange (h : w.InOrder) (e : ExchangeRef) (f : Exchange → Exchange) :
    (w.modifyExchange e f).InOrder := h.same rfl rfl rfl

theorem InOrder.modifyChannel (h : w.InOrder) (f : Channel κ → Channel κ) :
    (w.modifyChannel f).InOrder := h.same rfl rfl rfl

theorem InOrder.enter (h : w.InOrder) (entry : Entry κ) : (w.enter entry).InOrder :=
  h.same rfl rfl rfl

theorem InOrder.enterWrote (h : w.InOrder) (e : ExchangeRef) (callback : Callback κ) (last : Bool)
    (chunks : List Octets) : (w.enterWrote e callback last chunks).InOrder := h.enter _

theorem InOrder.tell (h : w.InOrder) (p : PromiseRef) (state : PromiseState) :
    (w.tell p state).InOrder := by
  unfold World.tell
  split
  · exact (h.enter (.told p state)).same rfl rfl rfl
  · exact h

theorem InOrder.accept (h : w.InOrder) (e : ExchangeRef) (last : Bool) (callback : Callback κ)
    (chunks : List Octets) : (w.accept e last callback chunks).InOrder :=
  ((h.enterWrote e callback last chunks).modifyExchange _ _).modifyChannel _

/-- A refusal is an offer. -/
theorem InOrder.refuse (h : w.InOrder) (callback : Callback κ) (why : ExchangeError) :
    (w.refuse callback why).InOrder := by
  refine InOrder.offer (InOrder.enter ?_ _) _ _
  exact h.same rfl rfl rfl

theorem InOrder.detach (h : w.InOrder) (e : ExchangeRef) (cause : Option FailureRef) :
    (w.detach e cause).InOrder := by
  have hnoted := h.note (d := .ended e w.channel.stream cause) rfl
  exact hnoted.same rfl rfl rfl

/-- Every step keeps the order of both queues. -/
theorem Step.inOrder {A : ExchangeRef → Prop} (hstep : Step A w w') (h : w.InOrder) :
    w'.InOrder := by
  cases hstep with
  | aside | addFailure | suppress | ignore => exact h.same rfl rfl rfl
  | tell p state => exact h.tell p state
  | offer tasks => exact h.offer .standalone tasks
  | next name => exact h.nextTask name
  | attach => exact (h.modifyChannel _).note rfl
  | wrap | listen | unpersist | count => exact h.modifyChannel _
  | demand job => exact (h.enter (.demanded _ job)).modifyChannel _
  | demandNow g job => exact (h.enter (.demanded g job)).offer _ _
  | close | contentAvailable => exact (h.modifyChannel _).offer _ _
  | activate =>
    refine InOrder.modifyChannel ?_ _
    exact h.same rfl rfl rfl
  | storeFailure => exact ((h.modifyExchange _ _).modifyChannel _).offer _ _
  | enable => exact (h.modifyChannel _).modifyExchange _ _
  | listenForError listener =>
    exact ((h.note rfl).enter (.listened _ listener)).modifyChannel _
  | listenLate listener => exact ((h.note rfl).enter (.listened _ listener)).offer _ _
  | flush g callback => exact (h.enter (.wrote g callback false [] true)).offer _ _
  | refuse g callback last chunks committed why =>
    exact (h.enter (.wrote g callback last chunks committed)).refuse callback why
  | refuseFailed callback last chunks => exact (h.enterWrote _ callback last chunks).offer _ _
  | edit | complete => exact h.modifyExchange _ _
  | recycle => exact (h.modifyExchange _ _).modifyExchange _ _
  | conclude => exact (h.modifyExchange _ _).note rfl
  | send callback _ _ _ hfix =>
    refine InOrder.note ?_ rfl
    have hfixed := hfix.inOrder (h.accept _ _ callback _)
    exact hfixed.same rfl rfl rfl
  | withhold callback hstream ha hadm hfix hfault =>
    rename_i e stream active last commits chunks w₁ head fault
    have hfixed : w₁.InOrder := hfix.inOrder (h.accept _ _ callback _)
    have hdropped := (hfixed.note (d := .mismatched e) rfl).dropWrite e
    exact hdropped.refuse callback fault
  | stick callback _ _ _ hfix => exact hfix.inOrder (h.accept _ _ callback _)
  | answerWrite => exact ((h.answer _ _ _).dropWrite _).offer _ _
  | answerLate => exact h.answer _ _ _
  | answerFinal result =>
    refine (h.answer _ _ result).note ?_
    cases result <;> rfl
  | answerError result =>
    refine InOrder.note ?_ rfl
    exact (h.answer _ _ result).same rfl rfl rfl
  | succeed => exact h.detach _ none
  | fail cause => exact h.detach _ (some cause)
  | tellFailure => exact h.note rfl
  | mismatch hc hend hphase hfix hfault =>
    rename_i e stream w₁ head fault
    have hfixed : w₁.InOrder := hfix.inOrder (h.modifyExchange _ _)
    have hbroken := hfixed.note (d := .mismatched e) rfl
    refine InOrder.note ?_ rfl
    exact hbroken.same rfl rfl rfl
  | tellSuccess _ _ _ hfix => exact (hfix.inOrder (h.modifyExchange _ _)).note rfl
  | sendFinal _ _ _ hfix | sendError _ _ _ _ _ _ hfix =>
    refine InOrder.note ?_ rfl
    have hfixed := hfix.inOrder (h.modifyExchange _ _)
    exact hfixed.same rfl rfl rfl
  | stickFinal _ _ _ _ hfix | stickError _ _ _ _ _ _ hfix =>
    exact hfix.inOrder (h.modifyExchange _ _)

/-- In every state of a run the tasks that were started, with those that wait, are those that were
offered. -/
theorem Possible.inOrder (h : w.Possible) : w.InOrder := by
  refine h.induct (fun id version config persistent outside name => ?_)
    fun _ _ _ hq hstep => hstep.inOrder hq
  cases name <;> rfl

/-- Tasks are started in the order in which they were offered. -/
theorem Possible.started_in_order (h : w.Possible) (name : QueueName) :
    w.startedOf name <+: w.offeredTo name :=
  ⟨_, (h.inOrder name).symm⟩

end World

/-! ## Working a queue off -/

namespace Queue

variable {host : Host κ ε}

/-- A queue that was worked off is empty, and nobody works it off any more. -/
theorem idle_of_drainedWithin {name : QueueName} {rounds : Nat} {w w' : World κ ε}
    (hrun : drainWithin host name rounds w = (.done (), w')) : w'.queue name = .idle := by
  induction rounds generalizing w with
  | zero => cases hrun
  | succ rounds ih =>
    obtain ⟨task, w₁, hnext, hrun⟩ := Effect.bind_eq_done.1 hrun
    cases task with
    | none =>
      -- there was no further task, and that is how the round ended
      cases hrun
      rcases hq : (w.queue name).tasks with _ | ⟨task, rest⟩
      · rw [Engine.nextTask_of_nil hq] at hnext
        cases hnext
        rw [World.queue_setQueue, if_pos rfl]
      · rw [Engine.nextTask_of_cons hq] at hnext
        cases hnext
    | some task =>
      obtain ⟨ended, w₂, -, hrun⟩ := Effect.bind_eq_done.1 hrun
      cases ended with
      | ok _ => exact ih hrun
      | error p =>
        obtain ⟨failure, w₃, -, hrun⟩ := Effect.bind_eq_done.1 hrun
        obtain ⟨_, w₄, -, hrun⟩ := Effect.bind_eq_done.1 hrun
        exact ih hrun

end Queue

/-- After working a queue off, all tasks that were offered to it were started. -/
theorem World.Possible.started_of_drainedWithin {host : Host κ ε} {w w' : World κ ε}
    (h : w.Possible) (hh : host.Lawful) {name : QueueName} {rounds : Nat}
    (hrun : Queue.drainWithin host name rounds w = (.done (), w')) :
    w'.startedOf name = w'.offeredTo name := by
  have hcourse := Queue.runs_drainWithin hh name rounds w h.sound
  rw [hrun] at hcourse
  have horder := (h.course hcourse).inOrder name
  rw [Queue.idle_of_drainedWithin hrun] at horder
  exact (horder.trans (List.append_nil _)).symm

/-- Whoever comes back from working a queue off leaves nothing that was offered undone. -/
theorem World.Possible.started_of_drained {host : Host κ ε} {w w' : World κ ε} (h : w.Possible)
    (hh : host.Lawful) {name : QueueName} (hrun : Queue.drain host name w = (.done (), w')) :
    w'.startedOf name = w'.offeredTo name :=
  h.started_of_drainedWithin hh hrun

/-- A computation that does not panic. -/
def Calm (m : Engine κ ε α) : Prop := ∀ w p, (m w).1 ≠ .panicked p

namespace Calm

theorem pure (a : α) : Calm (pure a : Engine κ ε α) := fun _ _ => nofun

theorem halt : Calm (Effect.halt : Engine κ ε α) := fun _ _ => nofun

theorem modifyGet (f : World κ ε → α × World κ ε) : Calm (Effect.modifyGet f) := fun _ _ => nofun

theorem gets (f : World κ ε → α) : Calm (Effect.gets f) := fun _ _ => nofun

theorem modify (f : World κ ε → World κ ε) : Calm (Effect.modify f) := fun _ _ => nofun

/-- If the first part ends in a value, the second part must not panic after it. -/
theorem bind {m : Engine κ ε α} {f : α → Engine κ ε β} (hm : Calm m)
    (hf : ∀ a w w', m w = (.done a, w') → Calm (f a)) : Calm (m >>= f) := by
  intro w p
  have h := hm w p
  rw [Effect.bind_run]
  rcases hmw : m w with ⟨a | _ | _, w₁⟩
  · exact hf a w w₁ hmw w₁ p
  · rw [hmw] at h
    rintro ⟨⟩
    exact h rfl
  · nofun

/-- A panic that is caught does not get out. -/
theorem attempt (m : Engine κ ε α) : Calm (Effect.attempt m) := by
  intro w p
  unfold Effect.attempt
  rcases m w with ⟨_ | _ | _, _⟩ <;> exact nofun

end Calm

namespace Channel

variable {host : Host κ ε}

/-- A task that failed leads to no panic, if working the queue off does not. -/
theorem calm_taskFailed (hdrain : Calm (host.perform (.drain .channel))) (failure : FailureRef) :
    Calm (taskFailed host failure) := by
  refine .bind (.gets _) fun stored _ _ _ => ?_
  cases stored with
  | some stored => exact .modify _
  | none =>
    refine .bind ?_ fun task w w' hrun => ?_
    · exact .bind (.gets _) fun _ _ _ _ => .bind (.modify _) fun _ _ _ _ => .modifyGet _
    · cases task with
      | none => exact .pure ()
      | some task =>
        -- a task that is left to whoever closes is that of working the queue off
        rw [onClose_run] at hrun
        split at hrun <;> cases hrun
        exact hdrain

end Channel

namespace Queue

variable {host : Host κ ε}

/-- Working the queue of a channel off does not panic: panics of tasks are caught, and reporting one
does not panic. -/
theorem calm_drainWithin (hdrain : Calm (host.perform (.drain .channel))) (rounds : Nat) :
    Calm (drainWithin host .channel rounds) := by
  induction rounds with
  | zero => exact .halt
  | succ rounds ih =>
    refine .bind ?_ fun task _ _ _ => ?_
    · exact fun w p => nofun
    · cases task with
      | none => exact .pure ()
      | some task =>
        refine .bind (.attempt _) fun ended _ _ _ => ?_
        cases ended with
        | ok _ => exact ih
        | error p =>
          refine .bind (.modifyGet _) fun failure _ _ _ => ?_
          exact .bind (Channel.calm_taskFailed hdrain failure) fun _ _ _ _ => ih

end Queue

/-- No panic comes out of working off the channel's queue. -/
theorem Surroundings.calm_drain {depth : Nat} {host : Host κ ε} (hh : Surroundings depth host) :
    Calm (Queue.drain host .channel) := by
  -- reporting a panic may work the queue off once more, with the host of the level below
  induction depth generalizing host with
  | zero =>
    refine Queue.calm_drainWithin ?_ _
    rw [hh.2]
    exact .halt
  | succ depth ih =>
    obtain ⟨-, inner, hinner, hperform⟩ := hh
    refine Queue.calm_drainWithin ?_ _
    rw [hperform]
    exact ih hinner

/-! ## A queue that nobody works off is empty -/

/-- A queue that nobody works off is empty. -/
def Queue.Settled (q : Queue κ) : Prop := q.draining = false → q.tasks = []

namespace Queue.Settled

variable {q : Queue κ}

theorem idle : (Queue.idle : Queue κ).Settled := fun _ => rfl

/-- Who offers to a queue that nobody works off has to do it. -/
theorem offer (h : q.Settled) (tasks : List (Task κ)) : (q.offer tasks).2.Settled := by
  unfold Queue.offer
  split
  · exact h
  · exact nofun

/-- A queue that is found empty is idle. -/
theorem next (h : q.Settled) : q.next.2.Settled := by
  cases hq : q.tasks with
  | nil =>
    have hnext : q.next.2 = .idle := by rw [Queue.next, hq]
    rw [hnext]
    exact idle
  | cons task rest =>
    have hnext : q.next.2 = { q with tasks := rest } := by rw [Queue.next, hq]
    rw [hnext]
    intro hdraining
    cases hq.symm.trans (h hdraining)

end Queue.Settled

namespace World

variable {w w' : World κ ε} {e : ExchangeRef}

@[simp] theorem channelQueue_dropWrite (w : World κ ε) (e : ExchangeRef) :
    (w.dropWrite e).channelQueue = w.channelQueue := by
  unfold dropWrite
  split <;> rfl

@[simp] theorem channelQueue_tell (w : World κ ε) (p : PromiseRef) (state : PromiseState) :
    (w.tell p state).channelQueue = w.channelQueue := by
  unfold tell
  split <;> rfl

/-- Fixing a head leaves the queues alone. -/
theorem HeadFixed.settled {last commits : Bool} {head : Option ResponseHead}
    (hfix : w.HeadFixed e last commits w' head) (h : w.channelQueue.Settled) :
    w'.channelQueue.Settled := by
  cases hfix <;> exact h

/-- No step leaves tasks in a queue that nobody works off. -/
theorem Step.queue_settled {A : ExchangeRef → Prop} (hstep : Step A w w') (h : w.channelQueue.Settled) :
    w'.channelQueue.Settled := by
  cases hstep with
  | aside | addFailure | suppress | offer | attach | wrap | listen | unpersist | count | activate
  | enable | demand | listenForError | ignore | edit | answerLate | answerFinal | answerError
  | succeed | fail | complete | recycle | tellFailure | conclude => exact h
  | tell p state =>
    rw [channelQueue_tell]
    exact h
  | next name =>
    simp only [Engine.nextTask, Effect.modifyGet]
    cases name with
    | channel =>
      have hnext := h.next
      split
      next q hq =>
        rw [show w.channelQueue.next = (none, q) from hq] at hnext
        exact hnext
      next task q hq =>
        rw [show w.channelQueue.next = (some task, q) from hq] at hnext
        exact hnext
    | standalone => split <;> exact h
  | close | contentAvailable | storeFailure | demandNow | listenLate | flush | refuse
  | refuseFailed => exact h.offer _
  | send _ _ _ _ hfix | stick _ _ _ _ hfix => exact hfix.settled h
  | withhold callback hstream ha hadm hfix hfault =>
    rename_i g stream active last commits chunks w₁ head fault
    refine Queue.Settled.offer ?_ _
    show ((w₁.note (.mismatched g)).dropWrite g).channelQueue.Settled
    rw [channelQueue_dropWrite]
    exact hfix.settled h
  | answerWrite result hcb ha hwrite =>
    rename_i ref g active callback
    refine Queue.Settled.offer ?_ _
    show ((w.answer g ref result).dropWrite g).channelQueue.Settled
    rw [channelQueue_dropWrite]
    exact h
  | mismatch _ _ _ hfix | tellSuccess _ _ _ hfix | sendFinal _ _ _ hfix
  | stickFinal _ _ _ _ hfix | sendError _ _ _ _ _ _ hfix | stickError _ _ _ _ _ _ hfix =>
    exact hfix.settled h

/-- In every state of a run tasks wait only while somebody works the queue off. -/
theorem Possible.queue_settled (h : w.Possible) : w.channelQueue.Settled :=
  h.induct (fun _ _ _ _ _ => .idle) fun _ _ _ hsettled hstep => hstep.queue_settled hsettled

/-- When nobody works the queue off, all that was offered to it was started. -/
theorem Possible.started_of_idle (h : w.Possible) (hidle : w.channelQueue.draining = false) :
    w.startedOf .channel = w.offeredTo .channel := by
  have horder := h.inOrder .channel
  rw [show (w.queue .channel).tasks = [] from h.queue_settled hidle] at horder
  exact (horder.trans (List.append_nil _)).symm

end World

end HttpExchange
