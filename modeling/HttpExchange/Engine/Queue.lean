import HttpExchange.Engine.Host

/-!
# Queues of deferred tasks

Tasks are appended in the order in which they are offered. Whoever offers to an idle queue is
given the task of working it off; everybody else leaves that to the one who was. So tasks of one
queue never overlap, and a task that offers another one is not nested in it.
-/

namespace HttpExchange

variable {κ ε : Type}

namespace Queue

/-- Appends tasks; also whether the offerer has to work the queue off. -/
def offer (q : Queue κ) (tasks : List (Task κ)) : Bool × Queue κ :=
  if tasks.isEmpty then (false, q) else (!q.draining, ⟨q.tasks ++ tasks, true⟩)

/-- Takes the first task; a queue found empty is idle again. -/
def next (q : Queue κ) : Option (Task κ) × Queue κ :=
  match q.tasks with
  | [] => (none, .idle)
  | task :: rest => (some task, { q with tasks := rest })

theorem tasks_offer (q : Queue κ) (tasks : List (Task κ)) :
    (q.offer tasks).2.tasks = q.tasks ++ tasks := by
  unfold offer
  split <;> simp_all

/-- Offering to a queue that somebody works off only appends. -/
theorem offer_of_draining {q : Queue κ} (h : q.draining = true) (tasks : List (Task κ)) :
    q.offer tasks = (false, ⟨q.tasks ++ tasks, true⟩) := by
  obtain ⟨waiting, draining⟩ := q
  subst h
  unfold offer
  by_cases hempty : tasks.isEmpty = true
  · rw [if_pos hempty, List.isEmpty_iff.1 hempty, List.append_nil]
  · rw [if_neg hempty]
    rfl

/-- The offerer works the queue off exactly if it gave a task and nobody else does. -/
theorem fst_offer_iff (q : Queue κ) (tasks : List (Task κ)) :
    (q.offer tasks).1 = true ↔ tasks ≠ [] ∧ q.draining = false := by
  unfold offer
  split <;> simp_all

end Queue

/-- The task of working a queue off. -/
def Task.drain (name : QueueName) : Task κ := ⟨"serialized", .drain name⟩

/-- The task of telling an error listener of an exchange its failure. -/
def Task.errorListener (e : ExchangeRef) (run : κ) (cause : FailureRef) : Task κ :=
  ⟨"error-listener", .errorListener e run cause⟩

namespace Engine

/-- Appends tasks to a queue, and gives the task of working it off to whoever has to do that. -/
def offer (name : QueueName) (tasks : List (Task κ)) : Engine κ ε (Option (Task κ)) :=
  .modifyGet fun w =>
    let (drains, q) := (w.queue name).offer tasks
    (if drains then some (.drain name) else none,
      (w.setQueue name q).note (.offered name tasks))

/-- Takes the first task of a queue. -/
def nextTask (name : QueueName) : Engine κ ε (Option (Task κ)) :=
  .modifyGet fun w =>
    match (w.queue name).next with
    | (none, q) => (none, w.setQueue name q)
    | (some task, q) => (some task, (w.setQueue name q).note (.started name task))

end Engine

end HttpExchange
