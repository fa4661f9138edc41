import HttpExchange.Proofs.Queueing
import Mathlib.Logic.Function.Basic

/-!
# Demands and phases at a glance

`World.Step` leaves two things open: what happens to request bodies, and when the phase of an
exchange follows that it was detached. Both are seen at a closer look. `World.glance` reads off a
state what has to do with them, and `Glance.Shift` lists what can happen to that between two calls
of the surroundings. A demand is registered, moves to the queue of the channel, and is taken from it
to be done, in one go with what doing it does to the body that waits. An exchange that is detached
moves to its next phase in one go with that, unless somebody waits for a promise of its pending
write.

`Proofs.Shifting` and `Proofs.ShiftingRuns` show that every run goes by shifts. A run may be cut off
between taking a task and doing it; `Glance.CutOff` is the state then.
-/

namespace HttpExchange

variable {κ ε : Type}

/-- The running part of an exchange as far as demands go. -/
structure Running (κ : Type) where
  exchange : ExchangeRef
  failed : Bool
  demand : Option (Job κ)

def Active.running (a : Active κ) : Running κ := ⟨a.exchange, a.error.isSome, a.demand⟩

/-- Somebody who still waited when an exchange was failed. -/
structure Loss (κ : Type) where
  waiter : Waiter κ
  exchange : ExchangeRef
  cause : FailureRef

def Entry.loss? : Entry κ → Option (Loss κ)
  | .dropped waiter e (some cause) => some ⟨waiter, e, cause⟩
  | _ => none

/-- The part of the state that demands and phases have to do with. -/
@[ext] structure Glance (κ : Type) where
  attached : Bool
  size : Nat
  phase : ExchangeRef → Phase
  failed : ExchangeRef → Bool
  current : Option (Running κ)
  bodies : Array (RequestBody κ)
  queue : Queue κ
  losses : List (Loss κ)

def World.glance (w : World κ ε) : Glance κ where
  attached := w.channel.stream.isSome
  size := w.exchanges.size
  phase e := (w.exchange e).phase
  failed e := (w.exchange e).failure.isSome
  current := w.channel.active.map Active.running
  bodies := w.bodies
  queue := w.channelQueue
  losses := w.ledger.filterMap Entry.loss?

namespace Glance

def enterPhase (g : Glance κ) (e : ExchangeRef) (phase : Phase) : Glance κ :=
  { g with phase := Function.update g.phase e phase }

def offer (g : Glance κ) (tasks : List (Task κ)) : Glance κ :=
  { g with queue := (g.queue.offer tasks).2 }

/-- A task was taken, and these are left. -/
def leave (g : Glance κ) (tasks : List (Task κ)) : Glance κ :=
  { g with queue := { g.queue with tasks } }

def modifyBody (g : Glance κ) (b : BodyRef) (f : RequestBody κ → RequestBody κ) : Glance κ :=
  { g with bodies := g.bodies.modify b.index f }

/-- The exchange is detached, and those who waited on it are lost. -/
def detach (g : Glance κ) (losses : List (Loss κ)) : Glance κ :=
  { g with attached := false, current := none, losses := losses ++ g.losses }

end Glance

/-- The task of having a demand answered. -/
def Task.demand (job : Job κ) : Task κ := ⟨"demand", job⟩

/-- An exchange that completes, or is over. -/
def Phase.Late (phase : Phase) : Prop := phase = .completing ∨ phase = .terminal

namespace RequestBody

/-- A body that sets out to demand content. -/
def demanding (x : RequestBody κ) : RequestBody κ := { x with inFlight := true }

/-- A body whose demand was answered. -/
def answered (x : RequestBody κ) : RequestBody κ := { x with inFlight := false, waker := none }

/-- A change that does not let a body set out to demand content. -/
structure Touched (f : RequestBody κ → RequestBody κ) : Prop where
  exchange : ∀ x, (f x).exchange = x.exchange
  inFlight : ∀ x, (f x).inFlight = true → x.inFlight = true

end RequestBody

namespace Glance

/-- What can happen to demands and phases between two calls of the surroundings. -/
inductive Shift (g : Glance κ) : Glance κ → Prop
  -- events of the connection
  | attach : Shift g { g with attached := true }
  | activate : g.attached = true → g.current = none →
      Shift g { g with size := g.size + 1, current := some ⟨⟨g.size⟩, false, none⟩ }
  | contentAvailable {c : Running κ} : g.current = some c →
      Shift g ({ g with current := some { c with demand := none } }.offer
        (c.demand.toList.map Task.demand))
  | storeFailure {c : Running κ} (phase : Phase) (others : List (Task κ)) : g.current = some c →
      Shift g (({ g with
        failed := Function.update g.failed c.exchange true
        current := some { c with failed := true, demand := none } }.enterPhase c.exchange
          phase).offer (c.demand.toList.map Task.demand ++ others))
  | offer (tasks : List (Task κ)) : Shift g (g.offer tasks)
  -- the application on the active exchange
  | enable {c : Running κ} : g.current = some c → Shift g (g.enterPhase c.exchange .processing)
  | demand {c : Running κ} (job : Job κ) : g.current = some c → c.failed = false →
      c.demand = none → Shift g { g with current := some { c with demand := some job } }
  -- request bodies
  | newBody (e : ExchangeRef) : Shift g { g with bodies := g.bodies.push ⟨e, none, false, false⟩ }
  | touchBody (b : BodyRef) {f : RequestBody κ → RequestBody κ} : RequestBody.Touched f →
      Shift g (g.modifyBody b f)
  | demandForBody {c : Running κ} (b : BodyRef) {body : RequestBody κ} :
      g.bodies[b.index]? = some body → g.current = some c → c.exchange = body.exchange →
      c.failed = false → c.demand = none →
      Shift g ({ g with current := some { c with demand := some (.wakeBody b) } }.modifyBody b
        RequestBody.demanding)
  | demandForBodyNow (b : BodyRef) :
      Shift g ((g.modifyBody b RequestBody.demanding).offer [Task.demand (.wakeBody b)])
  -- the queue of the channel
  | rest : g.queue.tasks = [] → Shift g { g with queue := .idle }
  | take {task : Task κ} {rest : List (Task κ)} : g.queue.tasks = task :: rest →
      (∀ b, task.job ≠ .wakeBody b) → Shift g (g.leave rest)
  | wake {task : Task κ} {rest : List (Task κ)} {b : BodyRef} : g.queue.tasks = task :: rest →
      task.job = .wakeBody b →
      Shift g ((g.leave rest).modifyBody b RequestBody.answered)
  -- the end of an exchange
  | succeed {c : Running κ} : g.current = some c → c.demand = none →
      Shift g ((g.detach []).enterPhase c.exchange .completing)
  | fail {c : Running κ} {losses : List (Loss κ)} (cause : FailureRef) : g.current = some c →
      (∀ job, c.demand = some job → ⟨.demand job, c.exchange, cause⟩ ∈ losses) →
      Shift g ((g.detach losses).enterPhase c.exchange .completing)
  | failAwaited {c : Running κ} {losses : List (Loss κ)} (cause : FailureRef) (p : PromiseRef) :
      g.current = some c →
      (∀ job, c.demand = some job → ⟨.demand job, c.exchange, cause⟩ ∈ losses) →
      ⟨.write (.promise p), c.exchange, cause⟩ ∈ losses → Shift g (g.detach losses)
  | settle (e : ExchangeRef) {phase : Phase} : phase.Late → Shift g (g.enterPhase e phase)

/-- A sequence of shifts. -/
abbrev Shifts : Glance κ → Glance κ → Prop := Relation.ReflTransGen Shift

/-- A task was taken that wakes a body, and everything was cut off before it was done. -/
structure CutOff (g : Glance κ) (w : World κ ε) : Prop where
  taken : ∃ task b, g.queue.tasks = task :: w.channelQueue.tasks ∧ task.job = .wakeBody b ∧
    w.deeds.head? = some (.started .channel task)
  same : w.glance = g.leave w.channelQueue.tasks

/-- What is always true of the active exchange, and of the queue, at a glance. -/
structure Proper (g : Glance κ) : Prop where
  attached : ∀ c, g.current = some c → g.attached = true
  newest : ∀ c, g.current = some c → c.exchange.index + 1 = g.size
  failed_eq : ∀ c, g.current = some c → g.failed c.exchange = c.failed
  unfailed_of_demand : ∀ c, g.current = some c → c.demand.isSome = true → c.failed = false
  unfailed_of_le : ∀ e, g.size ≤ e.index → g.failed e = false
  settled : g.queue.Settled

/-! ## What shifts keep -/

variable {g g' : Glance κ}

/-- The exchange that is running is the last one that was made. -/
theorem Proper.index_lt (h : g.Proper) {c : Running κ} (hc : g.current = some c) :
    c.exchange.index < g.size := Nat.lt_of_succ_le (Nat.le_of_eq (h.newest c hc))

/-- A demand is registered with the active exchange, or taken from it. -/
theorem Proper.demand (h : g.Proper) {c : Running κ} (hc : g.current = some c)
    (demand : Option (Job κ)) (hdemand : demand.isSome = true → c.failed = false)
    (bodies : Array (RequestBody κ)) {queue : Queue κ} (hqueue : queue.Settled) :
    Proper { g with current := some { c with demand }, bodies, queue } where
  attached _ _ := h.attached c hc
  newest := by
    rintro _ ⟨⟩
    exact h.newest c hc
  failed_eq := by
    rintro _ ⟨⟩
    exact h.failed_eq c hc
  unfailed_of_demand := by
    rintro _ ⟨⟩ hsome
    exact hdemand hsome
  unfailed_of_le := h.unfailed_of_le
  settled := hqueue

/-- Without an active exchange there is little to say. -/
theorem Proper.detach (h : g.Proper) (losses : List (Loss κ)) : (g.detach losses).Proper :=
  ⟨nofun, nofun, nofun, nofun, h.unfailed_of_le, h.settled⟩

/-- Request bodies and the queue may be anything that is in order. -/
theorem Proper.beside (h : g.Proper) (bodies : Array (RequestBody κ)) {queue : Queue κ}
    (hqueue : queue.Settled) : Proper { g with bodies, queue } :=
  ⟨h.attached, h.newest, h.failed_eq, h.unfailed_of_demand, h.unfailed_of_le, hqueue⟩

/-- Somebody works off what is left when a task is taken. -/
theorem Proper.settled_leave (h : g.Proper) {task : Task κ} {rest : List (Task κ)}
    (htasks : g.queue.tasks = task :: rest) : (g.leave rest).queue.Settled := by
  intro hidle
  rw [h.settled hidle] at htasks
  cases htasks

/-- While tasks are taken from the queue of the channel, somebody works it off. -/
theorem CutOff.draining {w : World κ ε} (hcut : g.CutOff w) (h : g.Proper) :
    w.channelQueue.draining = true := by
  obtain ⟨task, b, htasks, -⟩ := hcut.taken
  have hsame : w.channelQueue.draining = g.queue.draining :=
    congrArg (fun g : Glance κ => g.queue.draining) hcut.same
  rw [hsame]
  cases hidle : g.queue.draining with
  | true => rfl
  | false =>
    rw [h.settled hidle] at htasks
    cases htasks

/-- Phases have nothing to do with which exchange is running. -/
theorem Proper.enterPhase (h : g.Proper) (e : ExchangeRef) (phase : Phase) :
    (g.enterPhase e phase).Proper :=
  ⟨h.attached, h.newest, h.failed_eq, h.unfailed_of_demand, h.unfailed_of_le, h.settled⟩

/-- A shift comes to a proper state. -/
theorem Shift.proper (hs : g.Shift g') (h : g.Proper) : g'.Proper := by
  cases hs with
  | attach =>
    exact ⟨fun _ _ => rfl, h.newest, h.failed_eq, h.unfailed_of_demand, h.unfailed_of_le,
      h.settled⟩
  | activate hattached _ =>
    refine ⟨fun _ _ => hattached, ?_, ?_, ?_, fun e he => ?_, h.settled⟩
    · rintro _ ⟨⟩
      rfl
    · rintro _ ⟨⟩
      exact h.unfailed_of_le _ (Nat.le_refl _)
    · rintro _ ⟨⟩ hsome
      cases hsome
    · exact h.unfailed_of_le e (Nat.le_of_succ_le he)
  | contentAvailable hc => exact h.demand hc none nofun _ (h.settled.offer _)
  | @storeFailure c phase others hc =>
    have hlt := h.index_lt hc
    refine Proper.beside (Proper.enterPhase ?_ _ _) _ (h.settled.offer _)
    refine ⟨fun _ _ => h.attached c hc, ?_, ?_, ?_, fun e he => ?_, h.settled⟩
    · rintro _ ⟨⟩
      exact h.newest c hc
    · rintro _ ⟨⟩
      exact Function.update_self ..
    · rintro _ ⟨⟩ hsome
      cases hsome
    · have hne : e ≠ c.exchange := by
        rintro rfl
        exact absurd hlt (Nat.not_lt.2 he)
      exact (Function.update_of_ne hne _ _).trans (h.unfailed_of_le e he)
  | offer | demandForBodyNow => exact h.beside _ (h.settled.offer _)
  | newBody | touchBody => exact h.beside _ h.settled
  | rest => exact h.beside _ .idle
  | take htasks | wake htasks => exact h.beside _ (h.settled_leave htasks)
  | enable | settle => exact h.enterPhase _ _
  | demand _ hc hfailed => exact h.demand hc (some _) (fun _ => hfailed) _ h.settled
  | demandForBody _ _ hc _ hfailed =>
    exact h.demand hc (some _) (fun _ => hfailed) _ h.settled
  | succeed | fail => exact (h.detach _).enterPhase _ _
  | failAwaited => exact h.detach _

theorem Shifts.proper (hs : g.Shifts g') (h : g.Proper) : g'.Proper := by
  induction hs with
  | refl => exact h
  | tail _ hstep ih => exact hstep.proper ih

/-- No exchange disappears. -/
theorem Shift.size_le (hs : g.Shift g') : g.size ≤ g'.size := by
  cases hs with
  | activate => exact Nat.le_succ _
  | attach | contentAvailable | storeFailure | offer | enable | demand | newBody | touchBody
  | demandForBody | demandForBodyNow | rest | take | wake | succeed | fail | failAwaited | settle =>
    exact Nat.le_refl _

theorem Shifts.size_le (hs : g.Shifts g') : g.size ≤ g'.size := by
  induction hs with
  | refl => exact Nat.le_refl _
  | tail _ hstep ih => exact Nat.le_trans ih hstep.size_le

end Glance

/-! ## Changes of the state at a glance -/

namespace World

variable (w : World κ ε)

/-- Deeds are not seen at a glance. -/
@[simp] theorem glance_note (d : Deed κ) : (w.note d).glance = w.glance := rfl

/-- Of the ledger only losses are seen. -/
theorem glance_enter {entry : Entry κ} (h : entry.loss? = none) :
    (w.enter entry).glance = w.glance := by
  have hlosses : (w.enter entry).ledger.filterMap Entry.loss? = w.ledger.filterMap Entry.loss? :=
    List.filterMap_cons_none h
  rw [glance, hlosses]
  rfl

/-- Nor are promises. -/
theorem glance_tell (p : PromiseRef) (state : PromiseState) :
    (w.tell p state).glance = w.glance := by
  unfold tell
  split
  · exact w.glance_enter rfl
  · rfl

theorem glance_offer (tasks : List (Task κ)) :
    (w.offer .channel tasks).glance = w.glance.offer tasks := rfl

/-- Of an exchange only the phase and the failure are seen. -/
theorem glance_modifyExchange (e : ExchangeRef) {f : Exchange → Exchange}
    (hphase : ∀ x, (f x).phase = x.phase) (hfailure : ∀ x, (f x).failure = x.failure) :
    (w.modifyExchange e f).glance = w.glance := by
  refine Glance.ext rfl (w.size_modifyExchange e f) ?_ ?_ rfl rfl rfl rfl
  · funext g
    show ((w.modifyExchange e f).exchange g).phase = (w.exchange g).phase
    rw [exchange_modifyExchange]
    split
    · exact hphase _
    · rfl
  · funext g
    show ((w.modifyExchange e f).exchange g).failure.isSome = (w.exchange g).failure.isSome
    rw [exchange_modifyExchange]
    split
    · rw [hfailure]
    · rfl

theorem glance_modifyResponse (e : ExchangeRef) (f : Response → Response) :
    (w.modifyResponse e f).glance = w.glance := by
  refine w.glance_modifyExchange e ?_ ?_ <;> exact fun _ => rfl

/-- A changed exchange shows in its phase and its failure. -/
theorem glance_modifyExchange_of_lt {e : ExchangeRef} (h : e.index < w.exchanges.size)
    (f : Exchange → Exchange) :
    (w.modifyExchange e f).glance = { w.glance with
      phase := Function.update w.glance.phase e (f (w.exchange e)).phase
      failed := Function.update w.glance.failed e (f (w.exchange e)).failure.isSome } := by
  refine Glance.ext rfl (w.size_modifyExchange e f) ?_ ?_ rfl rfl rfl rfl <;> funext g
  · show ((w.modifyExchange e f).exchange g).phase = Function.update w.glance.phase e _ g
    by_cases hg : g = e
    · subst hg
      rw [exchange_modifyExchange_self w h, Function.update_self]
    · rw [exchange_modifyExchange_of_ne w hg, Function.update_of_ne hg]
      rfl
  · show ((w.modifyExchange e f).exchange g).failure.isSome =
      Function.update w.glance.failed e _ g
    by_cases hg : g = e
    · subst hg
      rw [exchange_modifyExchange_self w h, Function.update_self]
    · rw [exchange_modifyExchange_of_ne w hg, Function.update_of_ne hg]
      rfl

/-- An exchange that exists enters a phase. -/
theorem glance_setPhase {e : ExchangeRef} (h : e.index < w.exchanges.size) (phase : Phase) :
    (w.setPhase e phase).glance = w.glance.enterPhase e phase := by
  have hfailed : Function.update w.glance.failed e (w.exchange e).failure.isSome =
      w.glance.failed := Function.update_eq_self e w.glance.failed
  rw [setPhase, glance_modifyExchange_of_lt w h, hfailed]
  rfl

/-- An exchange that does not exist has no phase to change. -/
theorem glance_setPhase_of_le {e : ExchangeRef} (h : w.exchanges.size ≤ e.index) (phase : Phase) :
    (w.setPhase e phase).glance = w.glance := by
  have hsame : ∀ g, (w.setPhase e phase).exchange g = w.exchange g := fun g => by
    rw [setPhase, exchange_modifyExchange, if_neg]
    rintro ⟨rfl, hlt⟩
    exact absurd hlt (Nat.not_lt.2 h)
  refine Glance.ext rfl (w.size_modifyExchange e _) ?_ ?_ rfl rfl rfl rfl <;> funext g
  · exact congrArg (·.phase) (hsame g)
  · exact congrArg (·.failure.isSome) (hsame g)

/-- Of the running part only some fields are seen. -/
theorem glance_modifyActive {f : Active κ → Active κ} (h : ∀ a, (f a).running = a.running) :
    (w.modifyActive f).glance = w.glance := by
  refine Glance.ext rfl rfl rfl rfl ?_ rfl rfl rfl
  show (w.channel.active.map f).map Active.running = w.channel.active.map Active.running
  rw [Option.map_map]
  exact congrArg (w.channel.active.map ·) (funext h)

theorem glance_modifyActive_of_some {a : Active κ} (ha : w.channel.active = some a)
    (f : Active κ → Active κ) :
    (w.modifyActive f).glance = { w.glance with current := some (f a).running } := by
  refine Glance.ext rfl rfl rfl rfl ?_ rfl rfl rfl
  show (w.channel.active.map f).map Active.running = _
  rw [ha]
  rfl

theorem current_glance {a : Active κ} (ha : w.channel.active = some a) :
    w.glance.current = some a.running := congrArg (Option.map Active.running) ha

/-- A pending write is not seen. -/
theorem glance_dropWrite (e : ExchangeRef) : (w.dropWrite e).glance = w.glance := by
  unfold dropWrite
  split
  · exact w.glance_modifyActive fun _ => rfl
  · rfl

/-- Those who are lost when an exchange is detached. -/
def leaving (e : ExchangeRef) (cause : Option FailureRef) : List (Loss κ) :=
  ((w.channel.active.toList.flatMap (·.waiters)).map (.dropped · e cause)).filterMap Entry.loss?

/-- When an exchange is detached nothing is running, and what waited is lost. -/
theorem glance_detach (e : ExchangeRef) (cause : Option FailureRef) :
    (w.detach e cause).glance = w.glance.detach (w.leaving e cause) := by
  refine Glance.ext rfl rfl rfl rfl rfl rfl rfl ?_
  exact List.filterMap_append

/-- Nobody is lost with a success. -/
theorem leaving_none (e : ExchangeRef) : w.leaving e none = [] := by
  refine List.filterMap_eq_nil_iff.2 fun entry hentry => ?_
  obtain ⟨waiter, -, rfl⟩ := List.mem_map.1 hentry
  rfl

/-- What waits when an exchange fails is lost to the cause. -/
theorem mem_leaving {a : Active κ} (ha : w.channel.active = some a) {waiter : Waiter κ}
    (hwaiter : waiter ∈ a.waiters) (e : ExchangeRef) (cause : FailureRef) :
    ⟨waiter, e, cause⟩ ∈ w.leaving e (some cause) := by
  refine List.mem_filterMap.2
    ⟨.dropped waiter e (some cause), List.mem_map.2 ⟨waiter, ?_, rfl⟩, rfl⟩
  rw [ha]
  exact List.mem_flatMap.2 ⟨a, List.mem_singleton.2 rfl, hwaiter⟩

/-- A loss that is seen was entered in the ledger. -/
theorem loss_of_mem {w : World κ ε} {waiter : Waiter κ} {e : ExchangeRef} {cause : FailureRef}
    (h : ⟨waiter, e, cause⟩ ∈ w.glance.losses) : .dropped waiter e (some cause) ∈ w.ledger := by
  obtain ⟨entry, hentry, hloss⟩ := List.mem_filterMap.1 h
  cases entry with
  | dropped waiter' e' cause' =>
    cases cause' with
    | none => cases hloss
    | some cause' =>
      cases hloss
      exact hentry
  | wrote | demanded | listened | ignored | sending | refused | told => cases hloss

/-- A failure that is stored takes the demand, and the exchange is running. -/
theorem glance_storeFailure {a : Active κ} (ha : w.channel.active = some a)
    (hlt : a.exchange.index < w.exchanges.size) (cause : FailureRef) :
    ∃ phase others, (w.storeFailure a cause).glance =
      (({ w.glance with
        failed := Function.update w.glance.failed a.exchange true
        current := some ⟨a.exchange, true, none⟩ }.enterPhase a.exchange phase).offer
          (a.demand.toList.map Task.demand ++ others)) := by
  refine ⟨if a.processing then (w.exchange a.exchange).phase else .processing,
    a.write.toList.map (fun callback => ⟨"write-failure", .complete callback (.error cause)⟩) ++
    a.errorListeners.map (.errorListener a.exchange · cause) ++
    [⟨"completion-failure", .fail a.exchange cause⟩], ?_⟩
  have hdeliveries : Channel.deliveries a cause = a.demand.toList.map Task.demand ++
      (a.write.toList.map (fun callback => ⟨"write-failure", .complete callback (.error cause)⟩) ++
      a.errorListeners.map (.errorListener a.exchange · cause) ++
      [⟨"completion-failure", .fail a.exchange cause⟩]) := by
    rw [Channel.deliveries, List.append_assoc, List.append_assoc, List.append_assoc]
    rfl
  have hfailed : ((w.exchange a.exchange).failure.or (some cause)).isSome = true := by
    cases (w.exchange a.exchange).failure <;> rfl
  rw [World.storeFailure, glance_offer, ← hdeliveries,
    glance_modifyActive_of_some (w.modifyExchange a.exchange _) (show _ = some a from ha),
    glance_modifyExchange_of_lt w hlt, hfailed]
  rfl

end World

end HttpExchange
