import HttpExchange.Proofs.Programs

/-!
# A hook that panics

Whoever works a queue off catches the panics of its tasks, and calls the hook with each of them. The
panic of the hook itself is caught by nobody on the way: it unwinds the working off, and leaves the
queue as it was meanwhile, marked as being worked off, with the tasks that waited.

Such a queue is `Wedged`. Nobody works it off or was left with that, and as it is marked nobody will
be, so what is offered to it waits for ever. The main statement is `hook_panic_wedges`: after a
program the queue is wedged exactly if a call of the hook has panicked, and otherwise it is at rest.
-/

namespace HttpExchange.Serial

/-- Takes a step of a program, and catches its panic. -/
def Step.caught (host : Host Work Play) (step : Step) : Engine Work Play Unit := do
  let _ ← Effect.attempt (step.play host)

/-- Takes the steps of a program, each of which may panic. -/
def caught (host : Host Work Play) : List Step → Engine Work Play Unit :=
  Effect.forEach (·.caught host)

/-- The queue is marked as being worked off, but nobody does that, and nobody will. -/
structure Wedged (w : World Work Play) : Prop where
  marked : w.standaloneQueue.draining = true
  /-- Nobody was left with working the queue off. -/
  unheld : w.outside.held = []
  /-- What waits are the tasks that were offered and did not begin. -/
  waiting : ∃ works, given w.outside.trace = begun w.outside.trace ++ works ∧
    w.standaloneQueue.tasks = works.map Work.task
  /-- Whatever steps are taken from now on, with whatever hook: the tasks that they give wait behind
  those, working the queue off is left to nobody, and no task begins. -/
  forever : ∀ host steps, ∃ w', caught host steps w = (.done (), w') ∧
    Appends w (gives steps) w' ∧ begun w'.outside.trace = begun w.outside.trace

variable {w w' : World Work Play} {s : Fifo} {held : List (Task Work)} {reports : Nat}
  {reactions : List Reaction} {host : Host Work Play} {steps : List Step}

/-- After a step that ends, panic or not, the program goes on with the rest. -/
theorem caught_cons {step : Step} {ended : Outcome Unit}
    (hrun : step.play host w = (ended, w')) (hended : ended ≠ .halted) (rest : List Step) :
    caught host (step :: rest) w = caught host rest w' := by
  have hstep : step.caught host w = (.done (), w') := by
    unfold Step.caught
    rw [Effect.bind_run, Effect.attempt, hrun]
    cases ended with
    | done _ => rfl
    | panicked p => rfl
    | halted => exact absurd rfl hended
  exact Effect.bind_of_done hstep

/-- Where no step panics there is nothing to catch. -/
theorem caught_of_play (hrun : play host steps w = (.done (), w')) :
    caught host steps w = (.done (), w') := by
  induction steps generalizing w with
  | nil => exact hrun
  | cons step rest ih =>
    obtain ⟨_, w₁, hstep, hrest⟩ := Effect.bind_eq_done.1 hrun
    rw [caught_cons hstep nofun]
    exact ih hrest

/-! ## A queue that is stuck -/

/-- A queue that is stuck stays so: whatever a program does, it only appends tasks. -/
theorem Stuck.caught (h : Stuck reactions w) (host : Host Work Play) (steps : List Step) :
    ∃ w', Serial.caught host steps w = (.done (), w') ∧ Stuck reactions w' := by
  obtain ⟨waiting, hfollows⟩ := h.follows
  obtain ⟨w', hrun, happends⟩ := play_appends (hfollows.draining rfl) hfollows.held host steps
  have hfollows' := hfollows.append rfl happends
  have hcalls : w'.outside.reports = w.outside.reports := happends.reports
  refine ⟨w', caught_of_play hrun, ?_, _, hcalls ▸ hfollows'⟩
  rw [hcalls]
  exact h.panicked

theorem Stuck.wedged (h : Stuck reactions w) : Wedged w := by
  obtain ⟨waiting, hfollows⟩ := h.follows
  have hmarked : (w.queue .standalone).draining = true := hfollows.draining rfl
  refine ⟨hmarked, hfollows.held, ⟨waiting, hfollows.accepted.given_eq, ?_⟩, fun host steps => ?_⟩
  · exact congrArg Queue.tasks hfollows.queue
  · obtain ⟨w', hrun, happends⟩ := play_appends hmarked hfollows.held host steps
    exact ⟨w', caught_of_play hrun, happends, happends.begun_eq⟩

/-- A queue at rest is not wedged. -/
theorem Follows.not_wedged (h : Follows w .rest [] reports) : ¬Wedged w := by
  intro hwedged
  have hidle : w.standaloneQueue.draining = false := congrArg Queue.draining h.queue
  cases hidle.symm.trans hwedged.marked

/-! ## Whole programs -/

/-- A program that works the queue off at last leaves it at rest, unless a call of the hook panics
on the way. -/
theorem Follows.caught_program {patience : Nat} (depth : Nat) (h : Follows w s held reports)
    (hready : Ready s held) (hspared : Spared reactions reports) (program : List Step)
    (hpatience : load s.waiting + weight program + supply reactions reports < patience) :
    ∃ w', caught (hooked reactions patience (depth + 3)) (program ++ [.drain]) w = (.done (), w') ∧
      (Spared reactions w'.outside.reports ∧ Follows w' .rest [] w'.outside.reports ∨
        Stuck reactions w') := by
  induction program generalizing w s held reports with
  | nil =>
    have hends := h.drainHeld_ready depth hready hspared hpatience
    change Ends _ _ _ (Step.drain.play (hooked reactions patience (depth + 3)) w) at hends
    rcases hrun : Step.drain.play (hooked reactions patience (depth + 3)) w with ⟨ended, w'⟩
    rw [hrun] at hends
    cases hends with
    | done h' hrest hspared' =>
      obtain ⟨rfl, rfl⟩ := hrest
      have hcalls := h'.reports
      exact ⟨w', caught_cons hrun nofun [], .inl ⟨hcalls ▸ hspared', hcalls ▸ h'⟩⟩
    | stuck hstuck => exact ⟨w', caught_cons hrun nofun [], .inr hstuck⟩
  | cons step rest ih =>
    rw [weight] at hpatience
    have hfits : load s.waiting + step.weight + supply reactions reports < patience := by omega
    have hends := h.play_ready depth hready hspared step hfits
    rcases hrun : step.play (hooked reactions patience (depth + 3)) w with ⟨ended, w₁⟩
    rw [hrun] at hends
    cases hends with
    | done h₁ hready₁ hspared₁ hle =>
      rw [List.cons_append, caught_cons hrun nofun]
      exact ih h₁ hready₁ hspared₁ (by omega)
    | stuck hstuck =>
      -- the panic is caught, and what the rest of the program gives waits for ever
      obtain ⟨w', hrest, hstuck'⟩ :=
        hstuck.caught (hooked reactions patience (depth + 3)) (rest ++ [.drain])
      exact ⟨w', (caught_cons hrun nofun _).trans hrest, .inr hstuck'⟩

/-- **A hook that panics wedges the queue.** Take any program around a queue that is idle, with a
hook that may panic, where what gets out of a step of the program is caught. If no call of the hook
panicked, then whoever worked the queue off left it empty and idle, and the trace is serialized. If
one has, then the queue is wedged: it is marked as being worked off, which nobody does or was left
with, the tasks that had not begun wait in it, and those that are offered later are never
executed. -/
theorem hook_panic_wedges (program : List Step) (reactions : List Reaction) {w : World Work Play}
    (hidle : w.standaloneQueue = .idle) (hfresh : w.outside = .fresh) (depth : Nat) {patience : Nat}
    (hpatience : weight program + weight (reactions.flatMap Reaction.steps) < patience) :
    ∃ w', caught (hooked reactions patience (depth + 3)) (program ++ [.drain]) w =
        (.done (), w') ∧
      (Spared reactions w'.outside.reports →
        Serialized w'.outside.trace ∧ w'.standaloneQueue = .idle ∧ w'.outside.held = []) ∧
      (Wedged w' ↔ ¬Spared reactions w'.outside.reports) := by
  have h := follows_fresh hidle hfresh
  have hspared : Spared reactions 0 := fun n hn => absurd hn (Nat.not_lt_zero n)
  have hload : load Fifo.rest.waiting = 0 := rfl
  have hsupply : supply reactions 0 = weight (reactions.flatMap Reaction.steps) := by
    rw [supply, List.drop_zero]
  have hfits : load Fifo.rest.waiting + weight program + supply reactions 0 < patience := by omega
  obtain ⟨w', hrun, hended⟩ := h.caught_program depth (.inl ⟨rfl, rfl⟩) hspared program hfits
  refine ⟨w', hrun, fun hall => ?_, fun hwedged hall => ?_, fun hpanicked => ?_⟩
  · rcases hended with ⟨-, h'⟩ | hstuck
    · exact ⟨h'.accepted.serialized, h'.queue, h'.held⟩
    · exact absurd hall hstuck.panicked
  · rcases hended with ⟨-, h'⟩ | hstuck
    · exact h'.not_wedged hwedged
    · exact hstuck.panicked hall
  · rcases hended with ⟨hall, -⟩ | hstuck
    · exact absurd hall hpanicked
    · exact hstuck.wedged

/-- A task that panics, as the hook does that hears of it, and then a task that nobody executes. -/
theorem hook_panic_wedges_next :
    ∃ w', caught (hooked [⟨[], some .silent⟩] 9 3)
        ([.run (.mk "a" [] (some .silent)), .run (.mk "b" [] none)] ++ [.drain])
        (.start (.fresh "" .http11 {} true) .fresh) = (.done (), w') ∧
      Wedged w' ∧ (begun w'.outside.trace).map Work.name = ["a"] ∧
      w'.standaloneQueue.tasks.map (·.name) = ["b"] := by
  let program : List Step := [.run (.mk "a" [] (some .silent)), .run (.mk "b" [] none)]
  let reactions : List Reaction := [⟨[], some .silent⟩]
  let w : World Work Play := .start (.fresh "" .http11 {} true) .fresh
  have hreports :
      (caught (hooked reactions 9 3) (program ++ [.drain]) w).2.outside.reports = 1 := by
    decide +kernel
  have hnames : (begun (caught (hooked reactions 9 3) (program ++ [.drain]) w).2.outside.trace).map
      Work.name = ["a"] := by decide +kernel
  have htasks : (caught (hooked reactions 9 3) (program ++
      [.drain]) w).2.standaloneQueue.tasks.map (·.name) = ["b"] := by decide +kernel
  have hpatience : weight program + weight (reactions.flatMap Reaction.steps) < 9 := by decide
  obtain ⟨w', hrun, -, hwedged⟩ :=
    hook_panic_wedges program reactions (w := w) rfl rfl 0 hpatience
  rw [Nat.zero_add] at hrun
  rw [hrun] at hreports hnames htasks
  refine ⟨w', hrun, hwedged.2 fun hall => ?_, hnames, htasks⟩
  rw [hreports] at hall
  cases hall 0 Nat.one_pos

end HttpExchange.Serial
