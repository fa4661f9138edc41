import HttpExchange.Proofs.Fifo
import HttpExchange.Proofs.Queueing
import Mathlib.Algebra.Ring.Nat
import Mathlib.Data.List.ReduceOption

/-!
# Programs around a queue

A program offers tasks to the queue that stands alone, has tasks run, and works the queue off when
that is left to it; tasks take such steps themselves, and so does the hook that hears of panics
(`Step.play`, `Work.play`, `hooked`). Offers that others make meanwhile are in no way different
from offers that the running task makes. Every program is finite, so it gives finitely many tasks in
all (`Step.weight`).

While somebody works the queue off, all that a program can do is to append tasks (`Appends`). The
state of the queue follows that of the machine of `Proofs.Fifo` (`Follows`): at a step of a program,
at a task, at a call of the hook, and then, by induction on the rounds, at a whole drain. A drain
ends with the queue at rest, unless a call of the hook panics; then it is `Stuck`. Which of the two
a step of a program comes to is said by `Ends`.
-/

namespace HttpExchange.Serial

/-! ## Programs -/

/-- What programs keep for themselves. -/
structure Play where
  /-- What has happened, in this order. -/
  trace : List Event
  /-- The tasks of working the queue off that were left to the program. -/
  held : List (Task Work)
  /-- How often the hook was called. -/
  reports : Nat

def Play.fresh : Play := ⟨[], [], 0⟩

def Work.task (work : Work) : Task Work := ⟨work.name, .code work .ready⟩

/-- Writes down what happens. -/
def log (event : Event) : Engine Work Play Unit :=
  .modify fun w => { w with outside := { w.outside with trace := w.outside.trace ++ [event] } }

/-- Writes down what is left of a queue that was worked off. -/
def logDrained : Engine Work Play Unit := do
  log (.drained (← Effect.gets fun w => w.queue .standalone))

/-- Keeps the task of working the queue off for later. -/
def hold (drainer : Option (Task Work)) : Engine Work Play Unit :=
  .modify fun w => { w with outside := { w.outside with held := w.outside.held ++ drainer.toList } }

/-- Takes the first task that was kept. -/
def takeHeld : Engine Work Play (Option (Task Work)) :=
  .modifyGet fun w =>
    (w.outside.held.head?, { w with outside := { w.outside with held := w.outside.held.tail } })

/-- Offers the tasks of a batch. -/
def offerBatch (batch : List (Option Work)) : Engine Work Play Unit := do
  let given := batch.reduceOption
  let drainer ← Engine.offer .standalone (given.map Work.task)
  log (.offered given drainer.isSome)
  hold drainer

/-- Has a task run. -/
def runTask (host : Host Work Play) (work : Work) : Engine Work Play Unit := do
  let drains ← Effect.gets fun w => ((w.queue .standalone).offer [work.task]).1
  log (.offered [work] drains)
  Queue.run host .standalone work.task
  if drains then logDrained else pure ()

/-- Works the queue off, if that was left to the program. -/
def drainHeld (host : Host Work Play) : Engine Work Play Unit := do
  match ← takeHeld with
  | none => pure ()
  | some drainer =>
    host.perform drainer.job
    logDrained

/-- Takes one step of a program. -/
def Step.play (host : Host Work Play) : Step → Engine Work Play Unit
  | .offer batch => offerBatch batch
  | .run work => runTask host work
  | .drain => drainHeld host

/-- Takes the steps of a program. -/
def play (host : Host Work Play) : List Step → Engine Work Play Unit := Effect.forEach (·.play host)

/-- Executes a task. -/
def Work.play (host : Host Work Play) (work : Work) : Engine Work Play Unit := do
  log (.began work)
  Serial.play host work.steps
  log (.ended work work.panic)
  Effect.unwindWith work.panic

/-- What the hook does when it hears of a panic: it takes steps, and may panic after them. -/
structure Reaction where
  steps : List Step
  panic : Option Panic

/-- A reaction that does not panic. -/
def Reaction.quiet (steps : List Step) : Reaction := ⟨steps, none⟩

/-- What the `n`-th call of the hook does: nothing, if there are not so many reactions. -/
def reactionAt (reactions : List Reaction) (n : Nat) : Reaction :=
  (reactions[n]?).getD (.quiet [])

/-- Hears of a panic. -/
def hear (host : Host Work Play) (reactions : List Reaction) (task : String) (cause : FailureRef) :
    Engine Work Play Unit := do
  log (.reported task (← Engine.errorOf cause))
  let count ← Effect.modifyGet fun w =>
    (w.outside.reports, { w with outside := { w.outside with reports := w.outside.reports + 1 } })
  play host (reactionAt reactions count).steps
  Effect.unwindWith (reactionAt reactions count).panic
  log .handled

/-- Surroundings that execute tasks, with a hook that reacts. -/
def hooked (reactions : List Reaction) (patience : Nat) : Nat → Host Work Play
  | 0 => (Host.idleWith fun _ => Effect.halt).patient patience
  | depth + 1 =>
    let inner := hooked reactions patience depth
    { (Host.idleWith fun job => job.perform inner).patient patience with
      run := fun work _ => work.play inner
      taskFailed := hear inner reactions }

/-- None of the first calls of the hook panics. -/
def Spared (reactions : List Reaction) (calls : Nat) : Prop :=
  ∀ n < calls, (reactionAt reactions n).panic = none

mutual

/-- How many tasks there are in a task, itself included. -/
def Work.weight : Work → Nat
  | .mk _ steps _ => 1 + weight steps

/-- How many tasks there are in a step. -/
def Step.weight : Step → Nat
  | .offer batch => batchWeight batch
  | .run work => work.weight
  | .drain => 0

/-- How many tasks there are in a program. -/
def weight : List Step → Nat
  | [] => 0
  | step :: rest => step.weight + weight rest

/-- How many tasks there are in a batch. -/
def batchWeight : List (Option Work) → Nat
  | [] => 0
  | none :: rest => batchWeight rest
  | some work :: rest => work.weight + batchWeight rest

end

/-- The tasks that a step gives to the queue. -/
def Step.gives : Step → List Work
  | .offer batch => batch.reduceOption
  | .run work => [work]
  | .drain => []

/-- The number of tasks in a list of tasks. -/
def load (works : List Work) : Nat := (works.map Work.weight).sum

/-! ## Counting tasks -/

theorem load_append (works more : List Work) : load (works ++ more) = load works + load more := by
  simp [load]

theorem load_cons (work : Work) (works : List Work) :
    load (work :: works) = work.weight + load works := by
  simp [load]

theorem weight_append (steps more : List Step) :
    weight (steps ++ more) = weight steps + weight more := by
  induction steps with
  | nil => simp [weight]
  | cons step rest ih =>
    rw [List.cons_append, weight, weight, ih]
    omega

theorem Work.weight_eq (work : Work) : work.weight = 1 + Serial.weight work.steps := by
  cases work
  rw [Work.weight, Work.steps]

/-- The gaps of a batch hold no tasks. -/
theorem load_reduceOption (batch : List (Option Work)) :
    load batch.reduceOption = batchWeight batch := by
  induction batch with
  | nil => rfl
  | cons entry rest ih =>
    cases entry with
    | none => rw [List.reduceOption_cons_of_none, batchWeight, ih]
    | some work => rw [List.reduceOption_cons_of_some, load_cons, batchWeight, ih]

/-- A step gives all the tasks that there are in it. -/
theorem Step.load_gives (step : Step) : load step.gives = step.weight := by
  cases step with
  | offer batch =>
    rw [Step.gives, Step.weight]
    exact load_reduceOption batch
  | run work =>
    rw [Step.gives, Step.weight]
    simp [load]
  | drain =>
    rw [Step.gives, Step.weight]
    rfl

/-- The tasks that a program gives to the queue. -/
def gives (steps : List Step) : List Work := steps.flatMap Step.gives

theorem load_gives (steps : List Step) : load (gives steps) = weight steps := by
  induction steps with
  | nil => rfl
  | cons step rest ih =>
    rw [gives, List.flatMap_cons, load_append, step.load_gives, weight]
    exact congrArg (step.weight + ·) ih

/-- How many tasks the hook may still give, after so many calls. -/
def supply (reactions : List Reaction) (reports : Nat) : Nat :=
  weight ((reactions.drop reports).flatMap Reaction.steps)

/-- What one call of the hook gives is taken from its supply. -/
theorem supply_eq (reactions : List Reaction) (reports : Nat) :
    supply reactions reports =
      weight (reactionAt reactions reports).steps + supply reactions (reports + 1) := by
  unfold supply reactionAt
  by_cases h : reports < reactions.length
  · rw [List.drop_eq_getElem_cons h, List.flatMap_cons, weight_append, List.getElem?_eq_getElem h]
    rfl
  · have hle : reactions.length ≤ reports := Nat.le_of_not_lt h
    rw [List.drop_eq_nil_of_le hle, List.drop_eq_nil_of_le (Nat.le_succ_of_le hle),
      List.getElem?_eq_none hle]
    rfl

theorem Spared.succ {reactions : List Reaction} {calls : Nat} (h : Spared reactions calls)
    (hnone : (reactionAt reactions calls).panic = none) : Spared reactions (calls + 1) := by
  intro n hn
  by_cases hlast : n = calls
  · rw [hlast]
    exact hnone
  · exact h n (by omega)

/-! ## Steps that are taken while somebody works the queue off -/

/-- Tasks were appended to a queue that somebody works off, and nothing else happened. -/
structure Appends (w : World Work Play) (works : List Work) (w' : World Work Play) : Prop where
  queue : w'.queue .standalone = ⟨(w.queue .standalone).tasks ++ works.map Work.task, true⟩
  held : w'.outside.held = w.outside.held
  reports : w'.outside.reports = w.outside.reports
  /-- They were offered, and working the queue off was left to nobody. -/
  trace : ∃ offers : List (List Work), offers.flatten = works ∧
    w'.outside.trace = w.outside.trace ++ offers.map (.offered · false)

section

variable {w w₁ w' : World Work Play} {works more : List Work}

theorem Appends.refl (hdraining : (w.queue .standalone).draining = true) : Appends w [] w := by
  refine ⟨?_, rfl, rfl, [], rfl, ?_⟩
  · rw [List.map_nil, List.append_nil, ← hdraining]
  · rw [List.map_nil, List.append_nil]

theorem Appends.trans (h : Appends w works w₁) (h' : Appends w₁ more w') :
    Appends w (works ++ more) w' := by
  obtain ⟨offers, hoffers, htrace⟩ := h.trace
  obtain ⟨offers', hoffers', htrace'⟩ := h'.trace
  refine ⟨?_, h'.held.trans h.held, h'.reports.trans h.reports, offers ++ offers', ?_, ?_⟩
  · rw [h'.queue, h.queue, List.map_append, List.append_assoc]
  · rw [List.flatten_append, hoffers, hoffers']
  · rw [htrace', htrace, List.map_append, List.append_assoc]

theorem Appends.draining (h : Appends w works w') : (w'.queue .standalone).draining = true := by
  rw [h.queue]

/-- No task begins by that. -/
theorem Appends.begun_eq (h : Appends w works w') :
    begun w'.outside.trace = begun w.outside.trace := by
  obtain ⟨offers, -, htrace⟩ := h.trace
  have hnone : begun (offers.map (.offered · false)) = [] := by
    simp [begun, Event.begun]
  rw [htrace, begun, List.flatMap_append]
  show begun w.outside.trace ++ begun _ = _
  rw [hnone, List.append_nil]

/-- Offering changes the queue, and tells whether the offerer works it off. -/
theorem offer_eq {tasks : List (Task Work)} {drains : Bool} {q : Queue Work}
    (hoffer : (w.queue .standalone).offer tasks = (drains, q)) :
    Engine.offer .standalone tasks w =
        (.done (if drains then some (.drain .standalone) else none), w.offer .standalone tasks) ∧
      (w.offer .standalone tasks).queue .standalone = q ∧
      (w.offer .standalone tasks).outside = w.outside := by
  refine ⟨?_, congrArg Prod.snd hoffer, rfl⟩
  rw [Engine.offer, Effect.modifyGet, World.offer, hoffer]

theorem offerBatch_appends (hdraining : (w.queue .standalone).draining = true)
    (batch : List (Option Work)) :
    ∃ w', offerBatch batch w = (.done (), w') ∧ Appends w batch.reduceOption w' := by
  obtain ⟨hoffer, hqueue, -⟩ :=
    offer_eq (Queue.offer_of_draining hdraining (batch.reduceOption.map Work.task))
  let w₁ := w.offer .standalone (batch.reduceOption.map Work.task)
  let w₂ : World Work Play :=
    { w₁ with outside :=
      { w₁.outside with trace := w₁.outside.trace ++ [.offered batch.reduceOption false] } }
  have hlog : log (.offered batch.reduceOption false) w₁ = (.done (), w₂) := rfl
  -- nothing is added to what is held
  have hhold : hold none w₂ = (.done (), w₂) := by
    rw [hold, Effect.modify, Option.toList_none, List.append_nil]
  refine ⟨w₂, ?_, hqueue, rfl, rfl, [batch.reduceOption], List.append_nil _, rfl⟩
  unfold offerBatch
  rw [Effect.bind_of_done hoffer]
  exact (Effect.bind_of_done hlog).trans hhold

theorem runTask_appends (hdraining : (w.queue .standalone).draining = true)
    (host : Host Work Play) (work : Work) :
    ∃ w', runTask host work w = (.done (), w') ∧ Appends w [work] w' := by
  have hoffer := Queue.offer_of_draining hdraining [work.task]
  -- the event is written down first, and then the queue changes
  let w₁ : World Work Play :=
    { w with outside := { w.outside with trace := w.outside.trace ++ [.offered [work] false] } }
  have hlog : log (.offered [work] false) w = (.done (), w₁) := rfl
  refine ⟨w₁.offer .standalone [work.task], ?_, (offer_eq (w := w₁) hoffer).2.1, rfl, rfl,
    [[work]], rfl, rfl⟩
  have hgets : Effect.gets (fun w : World Work Play =>
      ((w.queue .standalone).offer [work.task]).1) w = (.done false, w) :=
    congrArg (fun drains => (Outcome.done drains, w)) (congrArg Prod.fst hoffer)
  have hrun : Queue.run host .standalone work.task w₁ =
      (.done (), w₁.offer .standalone [work.task]) :=
    Queue.run_of_draining (show (w₁.queue .standalone).draining = true from hdraining) work.task
  unfold runTask
  rw [Effect.bind_of_done hgets, Effect.bind_of_done hlog, Effect.bind_of_done hrun]
  rfl

theorem drainHeld_of_nil (hheld : w.outside.held = []) (host : Host Work Play) :
    drainHeld host w = (.done (), w) := by
  have htake : takeHeld w = (.done none, w) := by
    rw [takeHeld, Effect.modifyGet, hheld, List.head?_nil, List.tail_nil, ← hheld]
  unfold drainHeld
  exact Effect.bind_of_done htake

/-- Without anything held, all that a step can do is to append tasks. -/
theorem Step.play_appends (hdraining : (w.queue .standalone).draining = true)
    (hheld : w.outside.held = []) (host : Host Work Play) (step : Step) :
    ∃ w', step.play host w = (.done (), w') ∧ Appends w step.gives w' := by
  cases step with
  | offer batch => exact offerBatch_appends hdraining batch
  | run work => exact runTask_appends hdraining host work
  | drain => exact ⟨w, drainHeld_of_nil hheld host, .refl hdraining⟩

theorem play_appends (hdraining : (w.queue .standalone).draining = true)
    (hheld : w.outside.held = []) (host : Host Work Play) (steps : List Step) :
    ∃ w', play host steps w = (.done (), w') ∧ Appends w (gives steps) w' := by
  induction steps generalizing w with
  | nil => exact ⟨w, rfl, .refl hdraining⟩
  | cons step rest ih =>
    obtain ⟨w₁, hfirst, h₁⟩ := step.play_appends hdraining hheld host
    obtain ⟨w₂, hrest, h₂⟩ := ih h₁.draining (h₁.held.trans hheld)
    refine ⟨w₂, ?_, ?_⟩
    · show (step.play host >>= fun _ => play host rest) w = _
      rw [Effect.bind_of_done hfirst]
      exact hrest
    · rw [gives, List.flatMap_cons]
      exact h₁.trans h₂

end

/-! ## The queue follows the machine -/

/-- The trace takes the machine to this state, and the queue is in it. The program holds these
tasks, and the hook was called so often. -/
structure Follows (w : World Work Play) (s : Fifo) (held : List (Task Work)) (reports : Nat) :
    Prop where
  accepted : Accepts w.outside.trace s
  queue : w.queue .standalone = ⟨s.waiting.map Work.task, s.stage.draining⟩
  held : w.outside.held = held
  reports : w.outside.reports = reports

variable {w w' : World Work Play} {s s' : Fifo} {held : List (Task Work)} {reports : Nat}
  {event : Event} {work : Work} {works waiting : List Work} {stage : Stage}
  {reactions : List Reaction}

/-- An event that the machine takes is written down once the queue is in the state it leads to. -/
theorem follows_log (haccepted : Accepts w.outside.trace s) (hnext : s.Next event s')
    (hqueue : w.queue .standalone = ⟨s'.waiting.map Work.task, s'.stage.draining⟩)
    (hheld : w.outside.held = held) (hreports : w.outside.reports = reports) :
    ∃ w', log event w = (.done (), w') ∧ Follows w' s' held reports :=
  ⟨_, rfl, haccepted.snoc hnext, hqueue, hheld, hreports⟩

/-- Before anything happened the queue is at rest. -/
theorem follows_fresh (hidle : w.standaloneQueue = .idle) (hfresh : w.outside = .fresh) :
    Follows w .rest [] 0 := by
  refine ⟨?_, hidle, ?_, ?_⟩
  · rw [hfresh]
    exact .nil
  · rw [hfresh]
    rfl
  · rw [hfresh]
    rfl

/-- The machine takes offers that only append tasks. -/
theorem Accepts.offers {trace : List Event} (h : Accepts trace s)
    (hlistens : s.stage.listens = true) (offers : List (List Work)) :
    Accepts (trace ++ offers.map (.offered · false)) ⟨s.waiting ++ offers.flatten, s.stage⟩ := by
  induction offers generalizing trace s with
  | nil =>
    rw [List.map_nil, List.append_nil, List.flatten_nil, List.append_nil]
    exact h
  | cons works rest ih =>
    have happended : Accepts (trace ++ [.offered works false]) ⟨s.waiting ++ works, s.stage⟩ :=
      h.snoc (.append works hlistens)
    have hrest := ih happended hlistens
    rw [List.append_assoc, List.append_assoc] at hrest
    exact hrest

namespace Follows

/-- An event that leaves the queue alone. -/
theorem log (h : Follows w s held reports) (hnext : s.Next event s')
    (hwaiting : s'.waiting = s.waiting) (hdraining : s'.stage.draining = s.stage.draining) :
    ∃ w', Serial.log event w = (.done (), w') ∧ Follows w' s' held reports := by
  refine follows_log h.accepted hnext ?_ h.held h.reports
  rw [h.queue, hwaiting, hdraining]

theorem draining (h : Follows w s held reports) (hlistens : s.stage.listens = true) :
    (w.queue .standalone).draining = true := by
  rw [h.queue]
  exact Stage.draining_of_listens hlistens

/-- The machine follows whoever appends tasks. -/
theorem append (h : Follows w s held reports) (hlistens : s.stage.listens = true)
    (happends : Appends w works w') : Follows w' ⟨s.waiting ++ works, s.stage⟩ held reports := by
  obtain ⟨offers, rfl, htrace⟩ := happends.trace
  refine ⟨?_, ?_, happends.held.trans h.held, happends.reports.trans h.reports⟩
  · rw [htrace]
    exact h.accepted.offers hlistens offers
  · rw [happends.queue, h.queue, List.map_append, Stage.draining_of_listens hlistens]

/-- A program that holds nothing only appends tasks. -/
theorem play_listening (h : Follows w s [] reports) (hlistens : s.stage.listens = true)
    (host : Host Work Play) (steps : List Step) :
    ∃ w', play host steps w = (.done (), w') ∧
      Follows w' ⟨s.waiting ++ gives steps, s.stage⟩ [] reports := by
  obtain ⟨w', hrun, happends⟩ := play_appends (h.draining hlistens) h.held host steps
  exact ⟨w', hrun, h.append hlistens happends⟩

end Follows

/-! ## Tasks and reports -/

/-- A task that was taken from the queue is executed. -/
theorem play_task (host : Host Work Play)
    (haccepted : Accepts w.outside.trace ⟨work :: waiting, stage⟩)
    (hstage : stage = .called ∨ stage = .between)
    (hqueue : w.queue .standalone = ⟨waiting.map Work.task, true⟩) (hheld : w.outside.held = [])
    (hreports : w.outside.reports = reports) :
    ∃ w', work.play host w = Effect.unwindWith work.panic w' ∧
      Follows w'
        ⟨waiting ++ gives work.steps,
          match work.panic with
          | none => .between
          | some panic => .failed work panic⟩ [] reports := by
  obtain ⟨w₁, hbegan, h₁⟩ := follows_log haccepted (.begin hstage) hqueue hheld hreports
  obtain ⟨w₂, hsteps, h₂⟩ := h₁.play_listening rfl host work.steps
  have hplay : work.play host w =
      (log (.ended work work.panic) >>= fun _ => Effect.unwindWith work.panic) w₂ := by
    unfold Work.play
    rw [Effect.bind_of_done hbegan, Effect.bind_of_done hsteps]
  rw [hplay]
  cases hpanic : work.panic with
  | none =>
    obtain ⟨w₃, hended, h₃⟩ := h₂.log .finish rfl rfl
    exact ⟨w₃, Effect.bind_of_done hended, h₃⟩
  | some panic =>
    obtain ⟨w₃, hended, h₃⟩ := h₂.log (.fail panic) rfl rfl
    exact ⟨w₃, Effect.bind_of_done hended, h₃⟩

/-- A panic is reported, and the hook reacts. If it panics, it is left where it is. -/
theorem Follows.hear (host : Host Work Play) (reactions : List Reaction) {panic : Panic}
    {cause : FailureRef} (h : Follows w ⟨waiting, .failed work panic⟩ [] reports)
    (hcause : (w.failures.get cause).error = .application panic.message) :
    ∃ w', Serial.hear host reactions work.name cause w =
        Effect.unwindWith (reactionAt reactions reports).panic w' ∧
      Follows w'
        ⟨waiting ++ gives (reactionAt reactions reports).steps,
          match (reactionAt reactions reports).panic with
          | none => .between
          | some _ => .reporting⟩ [] (reports + 1) := by
  obtain ⟨w₁, hlog, h₁⟩ := h.log .report rfl rfl
  have herror : Engine.errorOf cause w = (.done (.application panic.message), w) := by
    rw [Engine.errorOf, Effect.gets, hcause]
  let w₂ : World Work Play :=
    { w₁ with outside := { w₁.outside with reports := w₁.outside.reports + 1 } }
  have hcount : Effect.modifyGet (fun w : World Work Play => (w.outside.reports,
      { w with outside := { w.outside with reports := w.outside.reports + 1 } })) w₁ =
      (.done reports, w₂) :=
    congrArg (fun count => (Outcome.done count, w₂)) h₁.reports
  have h₂ : Follows w₂ ⟨waiting, .reporting⟩ [] (reports + 1) :=
    ⟨h₁.accepted, h₁.queue, h₁.held, congrArg (· + 1) h₁.reports⟩
  obtain ⟨w₃, hsteps, h₃⟩ := h₂.play_listening rfl host (reactionAt reactions reports).steps
  have hhear : Serial.hear host reactions work.name cause w =
      (Effect.unwindWith (reactionAt reactions reports).panic >>= fun _ => Serial.log .handled)
        w₃ := by
    unfold Serial.hear
    rw [Effect.bind_of_done herror, Effect.bind_of_done hlog, Effect.bind_of_done hcount,
      Effect.bind_of_done hsteps]
  rw [hhear]
  cases (reactionAt reactions reports).panic with
  | none =>
    obtain ⟨w₄, hhandled, h₄⟩ := h₃.log .handle rfl rfl
    exact ⟨w₄, hhandled, h₄⟩
  | some panic => exact ⟨w₃, rfl, h₃⟩

/-! ## Working the queue off -/

/-- A call of the hook has panicked: tasks may wait, nobody works them off any more, and the queue
does not know. -/
structure Stuck (reactions : List Reaction) (w : World Work Play) : Prop where
  panicked : ¬Spared reactions w.outside.reports
  follows : ∃ waiting, Follows w ⟨waiting, .reporting⟩ [] w.outside.reports

theorem Follows.nextTask (h : Follows w ⟨work :: waiting, stage⟩ held reports)
    (hdraining : stage.draining = true) :
    ∃ w', Engine.nextTask .standalone w = (.done (some work.task), w') ∧
      w'.outside = w.outside ∧ w'.queue .standalone = ⟨waiting.map Work.task, true⟩ := by
  have hcons : (w.queue .standalone).tasks = work.task :: waiting.map Work.task := by
    rw [h.queue]
    rfl
  refine ⟨_, Engine.nextTask_of_cons hcons, rfl, ?_⟩
  rw [World.queue_note, World.queue_setQueue, if_pos rfl, h.queue, hdraining]

/-- One round of working a queue off: the first task is executed, and reported if it panics. It
counts for one task; those that it gives, and those that the hook gives, are only moved. If the hook
panics, the round is the last one. -/
theorem Follows.round (h : Follows w ⟨work :: waiting, stage⟩ [] reports)
    (hstage : stage = .called ∨ stage = .between) (hspared : Spared reactions reports)
    (patience depth rounds : Nat) :
    (∃ w' waiting' reports',
      Queue.drainWithin (hooked reactions patience (depth + 2)) .standalone (rounds + 1) w =
        Queue.drainWithin (hooked reactions patience (depth + 2)) .standalone rounds w' ∧
      Follows w' ⟨waiting', .between⟩ [] reports' ∧ Spared reactions reports' ∧
      load waiting' + supply reactions reports' + 1 =
        load (work :: waiting) + supply reactions reports) ∨
    ∃ w' p,
      Queue.drainWithin (hooked reactions patience (depth + 2)) .standalone (rounds + 1) w =
        (.panicked p, w') ∧ Stuck reactions w' := by
  have hdraining : stage.draining = true := by rcases hstage with rfl | rfl <;> rfl
  obtain ⟨w₁, hnext, houtside, hqueue⟩ := h.nextTask hdraining
  have haccepted : Accepts w₁.outside.trace ⟨work :: waiting, stage⟩ := by
    rw [houtside]
    exact h.accepted
  have hheld : w₁.outside.held = [] := by
    rw [houtside]
    exact h.held
  have hreports : w₁.outside.reports = reports := by
    rw [houtside]
    exact h.reports
  obtain ⟨w₂, hplay, h₂⟩ :=
    play_task (hooked reactions patience depth) haccepted hstage hqueue hheld hreports
  have hperform : (hooked reactions patience (depth + 2)).perform work.task.job w₁ =
      Effect.unwindWith work.panic w₂ := hplay
  have hload : load (waiting ++ gives work.steps) + 1 = load (work :: waiting) := by
    rw [load_append, load_gives, load_cons, work.weight_eq]
    omega
  cases hpanic : work.panic with
  | none =>
    rw [hpanic] at hperform h₂
    left
    refine ⟨w₂, waiting ++ gives work.steps, reports, ?_, h₂, hspared, ?_⟩
    · have hattempt : Effect.attempt
          ((hooked reactions patience (depth + 2)).perform work.task.job) w₁ =
          (.done (.ok ()), w₂) := by
        rw [Effect.attempt, hperform]
        rfl
      rw [Queue.drainWithin, Effect.bind_of_done hnext]
      exact Effect.bind_of_done hattempt
    · omega
  | some panic =>
    rw [hpanic] at hperform h₂
    let w₃ := w₂.addFailure (.application panic.message)
    have h₃ : Follows w₃ ⟨waiting ++ gives work.steps, .failed work panic⟩ [] reports :=
      ⟨h₂.accepted, h₂.queue, h₂.held, h₂.reports⟩
    have hcause : (w₃.failures.get w₂.failures.next).error = .application panic.message :=
      congrArg Failure.error (Failures.get_add_next _ _)
    obtain ⟨w₄, hhear, h₄⟩ := h₃.hear (hooked reactions patience (depth + 1)) reactions hcause
    have hattempt : Effect.attempt
        ((hooked reactions patience (depth + 2)).perform work.task.job) w₁ =
        (.done (.error panic), w₂) := by
      rw [Effect.attempt, hperform]
      rfl
    have hfailure : Engine.panicFailure panic w₂ = (.done w₂.failures.next, w₃) := rfl
    have hround :
        Queue.drainWithin (hooked reactions patience (depth + 2)) .standalone (rounds + 1) w =
          (do
            Serial.hear (hooked reactions patience (depth + 1)) reactions work.name w₂.failures.next
            Queue.drainWithin (hooked reactions patience (depth + 2)) .standalone rounds) w₃ := by
      rw [Queue.drainWithin, Effect.bind_of_done hnext]
      exact (Effect.bind_of_done hattempt).trans (Effect.bind_of_done hfailure)
    rw [hround]
    cases hreaction : (reactionAt reactions reports).panic with
    | none =>
      rw [hreaction] at hhear h₄
      left
      refine ⟨w₄, _, reports + 1, Effect.bind_of_done hhear, h₄, hspared.succ hreaction, ?_⟩
      have hsupply := supply_eq reactions reports
      rw [load_append, load_gives]
      omega
    | some p =>
      rw [hreaction] at hhear h₄
      have hcalls : w₄.outside.reports = reports + 1 := h₄.reports
      right
      refine ⟨w₄, p, ?_, fun hall => ?_, _, hcalls ▸ h₄⟩
      · rw [Effect.bind_run, hhear]
        rfl
      · rw [hcalls] at hall
        have hnone := hall reports (Nat.lt_succ_self _)
        rw [hreaction] at hnone
        cases hnone

/-- How a part of a program ends: the queue and what is held are of this kind, no call of the hook
has panicked, and so many tasks are still to come at most; or a call of the hook has panicked. -/
inductive Ends (reactions : List Reaction) (kind : Fifo → List (Task Work) → Prop) (budget : Nat) :
    Outcome Unit × World Work Play → Prop
  | done {w : World Work Play} {s : Fifo} {held : List (Task Work)} {reports : Nat} :
      Follows w s held reports → kind s held → Spared reactions reports →
      load s.waiting + supply reactions reports ≤ budget →
      Ends reactions kind budget (.done (), w)
  | stuck {w : World Work Play} {p : Panic} : Stuck reactions w →
      Ends reactions kind budget (.panicked p, w)

theorem Ends.mono {kind kind' : Fifo → List (Task Work) → Prop} {budget budget' : Nat}
    {ended : Outcome Unit × World Work Play} (h : Ends reactions kind budget ended)
    (hkind : ∀ s held, kind s held → kind' s held) (hbudget : budget ≤ budget') :
    Ends reactions kind' budget' ended := by
  cases h with
  | done h hk hspared hle => exact .done h (hkind _ _ hk) hspared (Nat.le_trans hle hbudget)
  | stuck h => exact .stuck h

/-- Nobody works the queue off, and nobody was left with that. -/
def AtRest (s : Fifo) (held : List (Task Work)) : Prop := s = .rest ∧ held = []

/-- Working the queue off takes at most one round for each task that there still is, and one more.
What is left is written down. -/
theorem Follows.drainWithin {rounds : Nat} (patience depth : Nat) (h : Follows w s [] reports)
    (hstage : s.stage = .called ∨ s.stage = .between)
    (hwaiting : s.stage = .called → s.waiting ≠ []) (hspared : Spared reactions reports)
    (hrounds : load s.waiting + supply reactions reports < rounds) :
    Ends reactions AtRest (load s.waiting + supply reactions reports)
      ((do
        Queue.drainWithin (hooked reactions patience (depth + 2)) .standalone rounds
        logDrained) w) := by
  induction rounds generalizing w s reports with
  | zero => omega
  | succ rounds ih =>
    obtain ⟨waiting, stage⟩ := s
    cases waiting with
    | nil =>
      -- nothing is left, so this is not the first round
      have hbetween : stage = .between := hstage.resolve_left fun hcalled => hwaiting hcalled rfl
      subst hbetween
      have hempty : (w.queue .standalone).tasks = [] := by
        rw [h.queue]
        rfl
      have hdone : Queue.drainWithin (hooked reactions patience (depth + 2)) .standalone
          (rounds + 1) w = (.done (), w.setQueue .standalone .idle) := by
        rw [Queue.drainWithin, Effect.bind_of_done (Engine.nextTask_of_nil hempty)]
        rfl
      have hdismiss : Fifo.Next ⟨[], .between⟩ (.drained .idle) .rest := .dismiss
      obtain ⟨w', hlog, h'⟩ := follows_log (w := w.setQueue .standalone .idle) h.accepted
        hdismiss rfl h.held h.reports
      rw [Effect.bind_of_done hdone]
      show Ends reactions AtRest _ (Serial.log (.drained .idle) (w.setQueue .standalone .idle))
      rw [hlog]
      exact .done h' ⟨rfl, rfl⟩ hspared (Nat.le_refl _)
    | cons work waiting =>
      rcases h.round hstage hspared patience depth rounds with
        ⟨w₁, waiting₁, reports₁, hround, h₁, hspared₁, hcount⟩ | ⟨w₁, p, hround, hstuck⟩
      · have hrounds₁ : load waiting₁ + supply reactions reports₁ < rounds := by
          have hlt : load (work :: waiting) + supply reactions reports < rounds + 1 := hrounds
          omega
        have hrest := ih h₁ (.inr rfl) (fun hcalled => nomatch hcalled) hspared₁ hrounds₁
        rw [Effect.bind_run, hround, ← Effect.bind_run]
        refine hrest.mono (fun _ _ hk => hk) ?_
        show load waiting₁ + supply reactions reports₁ ≤
          load (work :: waiting) + supply reactions reports
        omega
      · rw [Effect.bind_run, hround]
        exact .stuck hstuck

/-- Whoever was left with working the queue off does it. -/
theorem Follows.drain {patience : Nat} (depth : Nat) (h : Follows w s [] reports)
    (hstage : s.stage = .called) (hwaiting : s.waiting ≠ []) (hspared : Spared reactions reports)
    (hpatience : load s.waiting + supply reactions reports < patience) :
    Ends reactions AtRest (load s.waiting + supply reactions reports)
      ((do
        Queue.drain (hooked reactions patience (depth + 2)) .standalone
        logDrained) w) :=
  h.drainWithin patience depth (.inl hstage) (fun _ => hwaiting) hspared hpatience

/-! ## Steps of a program -/

/-- Between the steps of a program the queue is at rest, or the program was left with it. -/
def Ready (s : Fifo) (held : List (Task Work)) : Prop :=
  s = .rest ∧ held = [] ∨ s.stage = .called ∧ s.waiting ≠ [] ∧ held = [.drain .standalone]

/-- What a queue at rest makes of an offer. -/
theorem offer_resting (hqueue : w.queue .standalone = .idle) {works : List Work}
    (hworks : works ≠ []) :
    (w.queue .standalone).offer (works.map Work.task) = (true, ⟨works.map Work.task, true⟩) := by
  rw [hqueue]
  cases works with
  | nil => exact absurd rfl hworks
  | cons work works => rfl

namespace Follows

/-- A batch that is offered to a queue at rest leaves the program with it, unless it is empty. -/
theorem offerBatch_resting (h : Follows w .rest [] reports) (batch : List (Option Work)) :
    ∃ w' s' held', offerBatch batch w = (.done (), w') ∧ Follows w' s' held' reports ∧
      Ready s' held' ∧ s'.waiting = batch.reduceOption := by
  by_cases hworks : batch.reduceOption = []
  · have hnone : (w.queue .standalone).offer (batch.reduceOption.map Work.task) =
        (false, .idle) := by
      rw [hworks, h.queue]
      rfl
    obtain ⟨hoffer, hqueue, -⟩ := offer_eq hnone
    have hnothing : Fifo.Next .rest (.offered [] false) .rest := .nothing
    obtain ⟨w₁, hlog, h₁⟩ :=
      follows_log (w := w.offer .standalone _) h.accepted hnothing hqueue h.held h.reports
    have hhold : hold none w₁ = (.done (), w₁) := by
      rw [hold, Effect.modify, Option.toList_none, List.append_nil]
    refine ⟨w₁, .rest, [], ?_, h₁, .inl ⟨rfl, rfl⟩, hworks.symm⟩
    rw [← hworks] at hlog
    unfold offerBatch
    rw [Effect.bind_of_done hoffer]
    exact (Effect.bind_of_done hlog).trans hhold
  · obtain ⟨hoffer, hqueue, -⟩ := offer_eq (offer_resting h.queue hworks)
    have hengage : Fifo.Next .rest (.offered batch.reduceOption true)
        ⟨batch.reduceOption, .called⟩ := .engage hworks
    obtain ⟨w₁, hlog, h₁⟩ :=
      follows_log (w := w.offer .standalone _) h.accepted hengage hqueue h.held h.reports
    let w₂ : World Work Play :=
      { w₁ with outside := { w₁.outside with held := w₁.outside.held ++ [.drain .standalone] } }
    have hhold : hold (some (.drain .standalone)) w₁ = (.done (), w₂) := rfl
    refine ⟨w₂, ⟨batch.reduceOption, .called⟩, [.drain .standalone], ?_, ?_,
      .inr ⟨rfl, hworks, rfl⟩, rfl⟩
    · unfold offerBatch
      rw [Effect.bind_of_done hoffer]
      exact (Effect.bind_of_done hlog).trans hhold
    · exact ⟨h₁.accepted, h₁.queue, congrArg (· ++ [.drain .standalone]) h₁.held, h₁.reports⟩

/-- A task that is run on a queue at rest is executed before anything else happens. -/
theorem runTask_resting {patience : Nat} (depth : Nat) (h : Follows w .rest [] reports)
    (hspared : Spared reactions reports) (work : Work)
    (hpatience : work.weight + supply reactions reports < patience) :
    Ends reactions AtRest (work.weight + supply reactions reports)
      (runTask (hooked reactions patience (depth + 2)) work w) := by
  have hworks : [work] ≠ [] := List.cons_ne_nil work []
  have hdrains := offer_resting h.queue hworks
  have hload : load [work] = work.weight := by
    rw [load_cons]
    rfl
  let w₁ : World Work Play :=
    { w with outside := { w.outside with trace := w.outside.trace ++ [.offered [work] true] } }
  have hlog : Serial.log (.offered [work] true) w = (.done (), w₁) := rfl
  obtain ⟨hoffer, hqueue, -⟩ := offer_eq (w := w₁) hdrains
  have h₂ : Follows (w₁.offer .standalone [work.task]) ⟨[work], .called⟩ [] reports :=
    ⟨h.accepted.snoc (.engage hworks), hqueue, h.held, h.reports⟩
  have hends := h₂.drain depth rfl hworks hspared (hload.symm ▸ hpatience)
  rw [hload] at hends
  have hgets : Effect.gets (fun w : World Work Play =>
      ((w.queue .standalone).offer [work.task]).1) w = (.done true, w) :=
    congrArg (fun drains => (Outcome.done drains, w)) (congrArg Prod.fst hdrains)
  have hrun : Queue.run (hooked reactions patience (depth + 2)) .standalone work.task w₁ =
      Queue.drain (hooked reactions patience (depth + 2)) .standalone
        (w₁.offer .standalone [work.task]) := by
    unfold Queue.run
    exact Effect.bind_of_done hoffer
  unfold runTask
  rw [Effect.bind_of_done hgets, Effect.bind_of_done hlog, Effect.bind_run, hrun,
    ← Effect.bind_run]
  exact hends

/-- A program that was left with the queue works it off. -/
theorem drainHeld_ready {patience : Nat} (depth : Nat) (h : Follows w s held reports)
    (hready : Ready s held) (hspared : Spared reactions reports)
    (hpatience : load s.waiting + supply reactions reports < patience) :
    Ends reactions AtRest (load s.waiting + supply reactions reports)
      (drainHeld (hooked reactions patience (depth + 3)) w) := by
  rcases hready with ⟨rfl, rfl⟩ | ⟨hstage, hwaiting, rfl⟩
  · rw [drainHeld_of_nil h.held]
    exact .done h ⟨rfl, rfl⟩ hspared (Nat.le_refl _)
  · let w₁ : World Work Play := { w with outside := { w.outside with held := [] } }
    have htake : takeHeld w = (.done (some (.drain .standalone)), w₁) := by
      rw [takeHeld, Effect.modifyGet, h.held]
      rfl
    have h₁ : Follows w₁ s [] reports := ⟨h.accepted, h.queue, rfl, h.reports⟩
    have hends := h₁.drain depth hstage hwaiting hspared hpatience
    unfold drainHeld
    rw [Effect.bind_of_done htake]
    exact hends

/-- A step of a program, at rest or left with the queue. -/
theorem play_ready {patience : Nat} (depth : Nat) (h : Follows w s held reports)
    (hready : Ready s held) (hspared : Spared reactions reports) (step : Step)
    (hpatience : load s.waiting + step.weight + supply reactions reports < patience) :
    Ends reactions Ready (load s.waiting + step.weight + supply reactions reports)
      (step.play (hooked reactions patience (depth + 3)) w) := by
  have hresting : ∀ s held, AtRest s held → Ready s held := fun _ _ => .inl
  cases step with
  | drain =>
    have hweight : Step.drain.weight = 0 := by rw [Step.weight]
    have hfits : load s.waiting + supply reactions reports < patience := by omega
    exact (h.drainHeld_ready depth hready hspared hfits).mono hresting (by omega)
  | offer batch =>
    have hbatch : load batch.reduceOption = (Step.offer batch).weight := by
      rw [load_reduceOption, Step.weight]
    rcases hready with ⟨rfl, rfl⟩ | ⟨hstage, hwaiting, rfl⟩
    · obtain ⟨w', s', held', hrun, h', hready', hgiven⟩ := h.offerBatch_resting batch
      show Ends _ _ _ (offerBatch batch w)
      rw [hrun]
      refine .done h' hready' hspared ?_
      rw [hgiven]
      omega
    · have hlistens : s.stage.listens = true := by
        rw [hstage]
        rfl
      obtain ⟨w', hrun, happends⟩ := offerBatch_appends (h.draining hlistens) batch
      show Ends _ _ _ (offerBatch batch w)
      rw [hrun]
      refine .done (h.append hlistens happends) (.inr ⟨hstage, ?_, rfl⟩) hspared ?_
      · exact List.append_ne_nil_of_left_ne_nil hwaiting _
      · rw [load_append]
        omega
  | run work =>
    have hwork : work.weight = (Step.run work).weight := by rw [Step.weight]
    rcases hready with ⟨rfl, rfl⟩ | ⟨hstage, hwaiting, rfl⟩
    · have hrest : load Fifo.rest.waiting = 0 := rfl
      have hfits : work.weight + supply reactions reports < patience := by omega
      exact (h.runTask_resting (depth + 1) hspared work hfits).mono hresting (by omega)
    · have hlistens : s.stage.listens = true := by
        rw [hstage]
        rfl
      obtain ⟨w', hrun, happends⟩ := runTask_appends (h.draining hlistens)
        (hooked reactions patience (depth + 3)) work
      show Ends _ _ _ (runTask (hooked reactions patience (depth + 3)) work w)
      rw [hrun]
      refine .done (h.append hlistens happends) (.inr ⟨hstage, ?_, rfl⟩) hspared ?_
      · exact List.append_ne_nil_of_left_ne_nil hwaiting _
      · have hload : load [work] = work.weight := by
          rw [load_cons]
          rfl
        rw [load_append, hload]
        omega

end Follows

end HttpExchange.Serial
