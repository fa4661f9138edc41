import HttpExchange.Engine.Queue
import Mathlib.Data.List.Induction

/-!
# First in, first out, one at a time

What can be seen of a queue of tasks from outside is a trace: tasks are offered, they begin and end,
their panics are reported, and whoever works the queue off is done. `Serialized` says what is
expected of a trace.

`Fifo` is the plain machine behind it: a list of tasks that wait, and what happens at the moment. It
accepts a trace event by event (`Accepts`), so facts about it are proved by induction on the trace.
Whatever it accepts from one rest to the next is serialized (`Accepts.serialized`).
-/

namespace HttpExchange.Serial

mutual

/-- A task: it takes steps, and may panic after them. -/
inductive Work
  | mk (name : String) (steps : List Step) (panic : Option Panic)

/-- What a program does with a queue: it offers a batch with gaps in it, has one task run, or works
the queue off if that was left to it. -/
inductive Step
  | offer (batch : List (Option Work))
  | run (work : Work)
  | drain

end

def Work.name : Work → String
  | mk name _ _ => name

def Work.steps : Work → List Step
  | mk _ steps _ => steps

def Work.panic : Work → Option Panic
  | mk _ _ panic => panic

/-- What can be seen of a queue. -/
inductive Event
  /-- Tasks were offered; whether the offerer was left with working the queue off. -/
  | offered (given : List Work) (drainer : Bool)
  | began (work : Work)
  | ended (work : Work) (panic : Option Panic)
  /-- The hook was called with the name of a task and an error. -/
  | reported (task : String) (error : ExchangeError)
  /-- The hook returned. -/
  | handled
  /-- Whoever worked the queue off is done, and left this queue. -/
  | drained (queue : Queue Work)

namespace Event

def given : Event → List Work
  | offered given _ => given
  | _ => []

def begun : Event → List Work
  | began work => [work]
  | _ => []

/-- A task or the hook starts to execute. -/
def opens : Event → Bool
  | began _ | reported _ _ => true
  | _ => false

/-- A task or the hook is done. -/
def closes : Event → Bool
  | ended _ _ | handled => true
  | _ => false

/-- Somebody has to work the queue off from now on. -/
def engages : Event → Bool
  | offered _ drainer => drainer
  | _ => false

/-- Nobody has to any more. -/
def dismisses : Event → Bool
  | drained _ => true
  | _ => false

end Event

/-- The tasks that were offered, in this order. -/
def given (trace : List Event) : List Work := trace.flatMap Event.given

/-- The tasks that began, in this order. -/
def begun (trace : List Event) : List Work := trace.flatMap Event.begun

/-- No task is executing, and neither is the hook. -/
def Still (trace : List Event) : Prop :=
  trace.countP Event.opens = trace.countP Event.closes

/-- Nobody works the queue off, or has been left with it. -/
def Unattended (trace : List Event) : Prop :=
  trace.countP Event.engages = trace.countP Event.dismisses

/-- The tasks of a queue are executed one at a time, in the order of the offers. -/
structure Serialized (trace : List Event) : Prop where
  /-- Every task that was offered is executed, once, in the order of the offers. -/
  complete : begun trace = given trace
  /-- A task begins after it was offered. -/
  inOrder : ∀ before after, trace = before ++ after → begun before <+: given before
  /-- What ends is the task that began last. -/
  whole : ∀ before work panic after, trace = before ++ .ended work panic :: after →
    ¬Still before ∧ ∃ earlier, begun before = earlier ++ [work]
  /-- A task begins, and the hook is called, while nothing else is executing. -/
  alone : ∀ before event after, trace = before ++ event :: after → event.opens = true →
    Still before
  /-- Working the queue off is left to whoever gives tasks while nobody does that. -/
  drainer : ∀ before given drainer after, trace = before ++ .offered given drainer :: after →
    (drainer = true ↔ given ≠ [] ∧ Unattended before)
  /-- A panic is reported at once, with the name of its task. -/
  reported : ∀ before work panic after, trace = before ++ .ended work (some panic) :: after →
    ∃ rest, after = .reported work.name (.application panic.message) :: rest
  /-- Nothing else is reported. -/
  told : ∀ before task error after, trace = before ++ .reported task error :: after →
    ∃ earlier work panic, before = earlier ++ [.ended work (some panic)] ∧
      task = work.name ∧ error = .application panic.message
  /-- A queue that was worked off is empty, nobody works it off, and everything offered was
  executed. -/
  drained : ∀ before queue after, trace = before ++ .drained queue :: after →
    queue = .idle ∧ Still before ∧ begun before = given before

/-! ## The machine -/

/-- What happens to a queue at the moment. -/
inductive Stage
  | idle
  /-- Somebody was left with working it off. -/
  | called
  /-- It is worked off, and no task is executing. -/
  | between
  | running (work : Work)
  /-- A task ended with a panic. -/
  | failed (work : Work) (panic : Panic)
  /-- The hook is executing. -/
  | reporting

namespace Stage

def draining : Stage → Bool
  | idle => false
  | _ => true

/-- Whether others than the queue itself have their turn, so that they can offer tasks. -/
def listens : Stage → Bool
  | called | running _ | reporting => true
  | idle | between | failed _ _ => false

/-- How many tasks and hooks are executing. -/
def executing : Stage → Nat
  | running _ | reporting => 1
  | _ => 0

theorem draining_of_listens {stage : Stage} (h : stage.listens = true) : stage.draining = true := by
  cases stage <;> first | rfl | cases h

end Stage

/-- A queue as the tasks that wait in it, and what happens at the moment. -/
structure Fifo where
  waiting : List Work
  stage : Stage

namespace Fifo

def rest : Fifo := ⟨[], .idle⟩

/-- What an event makes of a queue. -/
inductive Next : Fifo → Event → Fifo → Prop
  | nothing : Next rest (.offered [] false) rest
  | engage {given : List Work} : given ≠ [] → Next rest (.offered given true) ⟨given, .called⟩
  | append {waiting : List Work} {stage : Stage} (given : List Work) : stage.listens = true →
      Next ⟨waiting, stage⟩ (.offered given false) ⟨waiting ++ given, stage⟩
  | begin {work : Work} {waiting : List Work} {stage : Stage} :
      stage = .called ∨ stage = .between →
      Next ⟨work :: waiting, stage⟩ (.began work) ⟨waiting, .running work⟩
  | finish {waiting : List Work} {work : Work} :
      Next ⟨waiting, .running work⟩ (.ended work none) ⟨waiting, .between⟩
  | fail {waiting : List Work} {work : Work} (panic : Panic) :
      Next ⟨waiting, .running work⟩ (.ended work (some panic)) ⟨waiting, .failed work panic⟩
  | report {waiting : List Work} {work : Work} {panic : Panic} :
      Next ⟨waiting, .failed work panic⟩ (.reported work.name (.application panic.message))
        ⟨waiting, .reporting⟩
  | handle {waiting : List Work} : Next ⟨waiting, .reporting⟩ .handled ⟨waiting, .between⟩
  | dismiss : Next ⟨[], .between⟩ (.drained .idle) rest

end Fifo

/-- A trace takes the machine from its rest to this state. -/
inductive Accepts : List Event → Fifo → Prop
  | nil : Accepts [] .rest
  | snoc {trace : List Event} {s s' : Fifo} {event : Event} : Accepts trace s → s.Next event s' →
      Accepts (trace ++ [event]) s'

variable {trace before after : List Event} {s s' : Fifo} {event : Event} {work : Work}

theorem given_concat (trace : List Event) (event : Event) :
    given (trace ++ [event]) = given trace ++ event.given := by
  simp [given]

theorem begun_concat (trace : List Event) (event : Event) :
    begun (trace ++ [event]) = begun trace ++ event.begun := by
  simp [begun]

namespace Accepts

/-- The last event is one that the machine takes. -/
theorem of_concat (h : Accepts (trace ++ [event]) s') : ∃ s, Accepts trace s ∧ s.Next event s' := by
  generalize htrace : trace ++ [event] = whole at h
  cases h with
  | nil => exact absurd htrace (by simp)
  | snoc haccepts hnext =>
    obtain ⟨rfl, heq⟩ := List.append_inj' htrace rfl
    cases heq
    exact ⟨_, haccepts, hnext⟩

/-- Every event of an accepted trace is one that the machine takes. -/
theorem split (h : Accepts (before ++ event :: after) s') :
    ∃ s s₁, Accepts before s ∧ s.Next event s₁ ∧ Accepts (before ++ [event]) s₁ := by
  induction after using List.reverseRecOn generalizing s' with
  | nil =>
    obtain ⟨s, haccepts, hnext⟩ := h.of_concat
    exact ⟨s, s', haccepts, hnext, h⟩
  | append_singleton after last ih =>
    rw [← List.cons_append, ← List.append_assoc] at h
    obtain ⟨s, haccepts, -⟩ := h.of_concat
    exact ih haccepts

/-- The tasks that were offered are those that began, and then those that wait. -/
theorem given_eq (h : Accepts trace s) : given trace = begun trace ++ s.waiting := by
  induction h with
  | nil => rfl
  | snoc _ hnext ih =>
    rw [given_concat, begun_concat, ih]
    cases hnext with
    | nothing | engage | append | begin | finish | fail | report | handle | dismiss =>
      simp [Event.given, Event.begun, Fifo.rest]

theorem count_opens (h : Accepts trace s) :
    trace.countP Event.opens = trace.countP Event.closes + s.stage.executing := by
  induction h with
  | nil => rfl
  | snoc _ hnext ih =>
    rw [List.countP_append, List.countP_append, ih]
    cases hnext with
    | begin hstage =>
      rcases hstage with rfl | rfl <;> simp [Event.opens, Event.closes, Stage.executing]
    | nothing | engage | append | finish | fail | report | handle | dismiss =>
      simp [Event.opens, Event.closes, Stage.executing, Fifo.rest]

theorem count_engages (h : Accepts trace s) :
    trace.countP Event.engages = trace.countP Event.dismisses + s.stage.draining.toNat := by
  induction h with
  | nil => rfl
  | snoc _ hnext ih =>
    rw [List.countP_append, List.countP_append, ih]
    cases hnext with
    | begin hstage =>
      rcases hstage with rfl | rfl <;> simp [Event.engages, Event.dismisses, Stage.draining]
    | nothing | engage | append | finish | fail | report | handle | dismiss =>
      simp [Event.engages, Event.dismisses, Stage.draining, Fifo.rest]

/-- The task that is running is the one that began last. -/
theorem begun_of_running (h : Accepts trace s) (hstage : s.stage = .running work) :
    ∃ earlier, begun trace = earlier ++ [work] := by
  induction h with
  | nil => cases hstage
  | snoc _ hnext ih =>
    rw [begun_concat]
    cases hnext with
    | begin =>
      cases hstage
      exact ⟨_, rfl⟩
    | append =>
      obtain ⟨earlier, hearlier⟩ := ih hstage
      exact ⟨earlier, by rw [hearlier]; exact List.append_nil _⟩
    | nothing | engage | finish | fail | report | handle | dismiss => cases hstage

/-- A panic that was not reported yet is the last thing that happened. -/
theorem concat_of_failed (h : Accepts trace s) {panic : Panic}
    (hstage : s.stage = .failed work panic) :
    ∃ earlier, trace = earlier ++ [.ended work (some panic)] := by
  cases h with
  | nil => cases hstage
  | snoc _ hnext =>
    cases hnext with
    | fail =>
      cases hstage
      exact ⟨_, rfl⟩
    | append given hlistens =>
      obtain rfl : _ = Stage.failed work panic := hstage
      cases hlistens
    | nothing | engage | begin | finish | report | handle | dismiss => cases hstage

theorem still_iff (h : Accepts trace s) : Still trace ↔ s.stage.executing = 0 := by
  have hcount := h.count_opens
  unfold Still
  omega

theorem unattended_iff (h : Accepts trace s) : Unattended trace ↔ s.stage.draining = false := by
  have hcount := h.count_engages
  unfold Unattended
  cases hdraining : s.stage.draining with
  | false =>
    rw [hdraining, Bool.toNat_false] at hcount
    simp [hcount]
  | true =>
    rw [hdraining, Bool.toNat_true] at hcount
    simp [hcount]

/-- Whatever the machine takes from one rest to the next is serialized. -/
theorem serialized (h : Accepts trace .rest) : Serialized trace where
  complete := by
    rw [h.given_eq]
    exact (List.append_nil _).symm
  inOrder before after htrace := by
    obtain ⟨s, hs⟩ : ∃ s, Accepts before s := by
      cases after with
      | nil => exact ⟨_, (List.append_nil before) ▸ htrace ▸ h⟩
      | cons event after =>
        subst htrace
        obtain ⟨s, s₁, hs, -⟩ := h.split
        exact ⟨s, hs⟩
    exact ⟨s.waiting, hs.given_eq.symm⟩
  whole before work panic after htrace := by
    subst htrace
    obtain ⟨s, s₁, hs, hnext, -⟩ := h.split
    have hrunning : s.stage = .running work := by cases hnext <;> rfl
    refine ⟨?_, hs.begun_of_running hrunning⟩
    rw [hs.still_iff, hrunning]
    exact Nat.one_ne_zero
  alone before event after htrace hopens := by
    subst htrace
    obtain ⟨s, s₁, hs, hnext, -⟩ := h.split
    rw [hs.still_iff]
    cases hnext with
    | begin hstage => rcases hstage with rfl | rfl <;> rfl
    | report => rfl
    | nothing | engage | append | finish | fail | handle | dismiss => cases hopens
  drainer before given drainer after htrace := by
    subst htrace
    obtain ⟨s, s₁, hs, hnext, -⟩ := h.split
    rw [hs.unattended_iff]
    cases hnext with
    | nothing => simp
    | engage hgiven => simp [hgiven, Fifo.rest, Stage.draining]
    | append _ hlistens => simp [Stage.draining_of_listens hlistens]
  reported before work panic after htrace := by
    subst htrace
    have hfailed : ∀ s, Accepts (before ++ [.ended work (some panic)]) s →
        s.stage = .failed work panic := by
      intro s hs
      obtain ⟨s₀, -, hlast⟩ := hs.of_concat
      cases hlast
      rfl
    cases after with
    | nil => cases hfailed _ h
    | cons event rest =>
      -- the machine takes nothing else in this state
      rw [← List.singleton_append, ← List.append_assoc] at h
      obtain ⟨s, s₂, hs, hreport, -⟩ := h.split
      have hstage := hfailed s hs
      cases hreport with
      | report =>
        cases hstage
        exact ⟨rest, rfl⟩
      | append given hlistens =>
        obtain rfl : _ = Stage.failed work panic := hstage
        cases hlistens
      | begin hbegin => rcases hbegin with rfl | rfl <;> cases hstage
      | nothing | engage | finish | fail | handle | dismiss => cases hstage
  told before task error after htrace := by
    subst htrace
    obtain ⟨s, s₁, hs, hnext, -⟩ := h.split
    cases hnext with
    | report =>
      obtain ⟨earlier, hearlier⟩ := hs.concat_of_failed rfl
      exact ⟨earlier, _, _, hearlier, rfl, rfl⟩
  drained before queue after htrace := by
    subst htrace
    obtain ⟨s, s₁, hs, hnext, -⟩ := h.split
    rw [hs.still_iff]
    cases hnext with
    | dismiss =>
      refine ⟨rfl, rfl, ?_⟩
      rw [hs.given_eq]
      exact (List.append_nil _).symm

end Accepts

end HttpExchange.Serial
