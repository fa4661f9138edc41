import HttpExchange.Proofs.Programs

/-!
# A serialized queue

With a hook that does not panic, every program around a queue comes to its end, and its trace is
serialized: this is `programs_serialized`. Such a hook is a case of those of `Proofs.Programs`
(`playing_eq_hooked`), none of whose calls panics, so that the queue is never stuck.

A program is any sequence of steps that offer tasks to the queue, have one run, or work the queue off,
and the tasks are made of the same steps. So tasks are nested in tasks to any depth, and so are the reactions of the
hook, which takes steps of its own when it hears of a panic. What all these do together is bounded by
what is written in them, and that is what a loop needs patience for (`reserve`).

Whether a trace is serialized is a question about its events alone. `Proofs.Fifo` answers it with a
machine that reads the trace, so here it is enough that the machine accepts what a program leaves.
-/

namespace HttpExchange.Serial

/-- Hears of a panic: the `n`-th call takes the `n`-th list of steps, as long as there are any. -/
def react (host : Host Work Play) (reactions : List (List Step)) (task : String)
    (cause : FailureRef) : Engine Work Play Unit := do
  log (.reported task (← Engine.errorOf cause))
  let count ← Effect.modifyGet fun w =>
    (w.outside.reports, { w with outside := { w.outside with reports := w.outside.reports + 1 } })
  play host ((reactions[count]?).getD [])
  log .handled

/-- Surroundings that execute tasks, with a hook that reacts. -/
def playing (reactions : List (List Step)) (patience : Nat) :
    Nat → Host Work Play
  | 0 => (Host.idleWith fun _ => Effect.halt).patient patience
  | depth + 1 =>
    let inner := playing reactions patience depth
    { (Host.idleWith fun job => job.perform inner).patient patience with
      run := fun work _ => work.play inner
      taskFailed := react inner reactions }

/-- How many tasks the hook may still give, after so many calls. -/
def reserve (reactions : List (List Step)) (reports : Nat) : Nat :=
  weight (reactions.drop reports).flatten

/-! ## A hook that does not panic -/

theorem reactionAt_quiet (reactions : List (List Step)) (n : Nat) :
    reactionAt (reactions.map .quiet) n = .quiet ((reactions[n]?).getD []) := by
  unfold reactionAt
  rw [List.getElem?_map]
  cases reactions[n]? <;> rfl

theorem spared_quiet (reactions : List (List Step)) (calls : Nat) :
    Spared (reactions.map .quiet) calls := by
  intro n _
  rw [reactionAt_quiet]
  rfl

theorem react_eq_hear (host : Host Work Play) (reactions : List (List Step)) :
    react host reactions = hear host (reactions.map .quiet) := by
  funext task cause
  unfold react hear
  simp only [reactionAt_quiet]
  rfl

theorem playing_eq_hooked (reactions : List (List Step)) (patience depth : Nat) :
    playing reactions patience depth = hooked (reactions.map .quiet) patience depth := by
  induction depth with
  | zero => rfl
  | succ depth ih => rw [playing, hooked, ih, react_eq_hear]

theorem supply_quiet (reactions : List (List Step)) (reports : Nat) :
    supply (reactions.map .quiet) reports = reserve reactions reports := by
  unfold supply reserve
  rw [← List.map_drop, List.flatMap_map]
  exact congrArg weight List.flatMap_id

/-- No part of a program panics. -/
theorem Ends.of_quiet {reactions : List (List Step)} {kind : Fifo → List (Task Work) → Prop}
    {budget : Nat} {ended : Outcome Unit × World Work Play}
    (h : Ends (reactions.map .quiet) kind budget ended) :
    ∃ w' s' held' reports', ended = (.done (), w') ∧ Follows w' s' held' reports' ∧
      kind s' held' ∧ load s'.waiting + reserve reactions reports' ≤ budget := by
  cases h with
  | done h hkind _ hle =>
    rw [supply_quiet] at hle
    exact ⟨_, _, _, _, rfl, h, hkind, hle⟩
  | stuck h => exact absurd (spared_quiet reactions _) h.panicked

/-! ## Whole programs -/

/-- A program that works the queue off at last leaves it at rest. -/
theorem Follows.play_program {reactions : List (List Step)} {patience : Nat} (depth : Nat)
    {w : World Work Play} {s : Fifo} {held : List (Task Work)} {reports : Nat}
    (h : Follows w s held reports) (hready : Ready s held) (program : List Step)
    (hpatience : load s.waiting + weight program + reserve reactions reports < patience) :
    ∃ w' reports',
      play (playing reactions patience (depth + 3)) (program ++ [.drain]) w = (.done (), w') ∧
      Follows w' .rest [] reports' := by
  have hspared := spared_quiet reactions
  induction program generalizing w s held reports with
  | nil =>
    have hfits : load s.waiting + supply (reactions.map .quiet) reports < patience := by
      rw [supply_quiet]
      exact hpatience
    have hends := h.drainHeld_ready depth hready (hspared reports) hfits
    rw [← playing_eq_hooked] at hends
    obtain ⟨w', s', held', reports', hrun, h', ⟨rfl, rfl⟩, -⟩ := hends.of_quiet
    refine ⟨w', reports', ?_, h'⟩
    show (Step.drain.play _ >>= fun _ => play _ []) w = _
    exact Effect.bind_of_done hrun
  | cons step rest ih =>
    rw [weight] at hpatience
    have hfits : load s.waiting + step.weight + supply (reactions.map .quiet) reports <
        patience := by
      rw [supply_quiet]
      omega
    have hends := h.play_ready depth hready (hspared reports) step hfits
    rw [← playing_eq_hooked] at hends
    rw [supply_quiet] at hends
    obtain ⟨w₁, s₁, held₁, reports₁, hstep, h₁, hready₁, hle⟩ := hends.of_quiet
    obtain ⟨w', reports', hrest, h'⟩ := ih h₁ hready₁ (by omega)
    refine ⟨w', reports', ?_, h'⟩
    show (step.play _ >>= fun _ => play _ (rest ++ [.drain])) w = _
    rw [Effect.bind_of_done hstep]
    exact hrest

/-- **One at a time.** Take any program around a queue that is idle, with tasks that take steps
themselves and may panic, and with a hook that takes steps when it hears of a panic. Let the loop
that works a queue off be patient enough for all tasks that there are in them. Then the program comes
to its end. Its trace is serialized: the tasks are executed, each once, in the order in which they
were offered, none while another one or the hook is executing; working the queue off is left to
whoever gives tasks while nobody does that; every panic is reported, once, with the name of its task,
before the next task begins; and whoever worked the queue off leaves it empty and idle. -/
theorem programs_serialized (program : List Step) (reactions : List (List Step))
    {w : World Work Play} (hidle : w.standaloneQueue = .idle) (hfresh : w.outside = .fresh)
    (depth : Nat) {patience : Nat} (hpatience : weight program + weight reactions.flatten < patience) :
    ∃ w', play (playing reactions patience (depth + 3)) (program ++ [.drain]) w =
        (.done (), w') ∧
      Serialized w'.outside.trace ∧ w'.standaloneQueue = .idle ∧ w'.outside.held = [] := by
  have h : Follows w .rest [] 0 := by
    refine ⟨?_, hidle, ?_, ?_⟩
    · rw [hfresh]
      exact .nil
    · rw [hfresh]
      rfl
    · rw [hfresh]
      rfl
  have hload : load Fifo.rest.waiting = 0 := rfl
  have hreserve : reserve reactions 0 = weight reactions.flatten := by
    rw [reserve, List.drop_zero]
  have hfits : load Fifo.rest.waiting + weight program + reserve reactions 0 < patience := by omega
  obtain ⟨w', reports', hrun, h'⟩ := h.play_program depth (.inl ⟨rfl, rfl⟩) program hfits
  exact ⟨w', hrun, h'.accepted.serialized, h'.queue, h'.held⟩

/-- A batch with a gap, whose first task offers another one and panics, and then a task that is to
run at once, while the program has not worked the queue off yet. -/
def nested : List Step :=
  [.offer [some (.mk "a" [.offer [some (.mk "c" [] none)]] (some .silent)), none,
      some (.mk "b" [] none)],
    .run (.mk "d" [] none)]

/-- The tasks are executed in the order of the offers, and behind them the one that the hook
offers. -/
theorem programs_serialized_nested :
    ∃ w', play (playing [[.offer [some (.mk "e" [] none)]]] 9 3) (nested ++ [.drain])
        (.start (.fresh "" .http11 {} true) .fresh) = (.done (), w') ∧
      Serialized w'.outside.trace ∧
      (begun w'.outside.trace).map Work.name = ["a", "b", "d", "c", "e"] := by
  have hnames : (begun (play (playing [[.offer [some (.mk "e" [] none)]]] 9 3)
      (nested ++ [.drain]) (.start (.fresh "" .http11 {} true) .fresh)).2.outside.trace).map
      Work.name = ["a", "b", "d", "c", "e"] := by decide +kernel
  have hpatience : weight nested +
      weight (List.flatten [[.offer [some (.mk "e" [] none)]]]) < 9 := by decide
  obtain ⟨w', hrun, hserialized, -, -⟩ :=
    programs_serialized nested [[.offer [some (.mk "e" [] none)]]]
      (w := .start (.fresh "" .http11 {} true) .fresh) rfl rfl 0 hpatience
  rw [Nat.zero_add] at hrun
  rw [hrun] at hnames
  exact ⟨w', hrun, hserialized, hnames⟩

end HttpExchange.Serial
