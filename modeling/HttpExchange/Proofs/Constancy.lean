import HttpExchange.Proofs.RejectedTarget

/-!
# What stays as it is

Much of what goes into a response is there before anything is prepared of it. The settings of a
connection and the errors of the failures never change. As long as an exchange is active, neither
does its request, and a stream that takes the place of the attached one wraps it: the stream lies
over it (`Stream.Over`).

These facts are about all runs, so each of them is shown for a step first and then along a course.
What is kept is put as an equation where that can be (`Course.settings_eq`), for then it can be
rewritten with. The failures can only be kept so far: a failure that is there keeps its error, while
causes may be added to it and new failures come behind it (`Failures.Keep`).

Statements that compare a response with the state in which its preparation began rest on this. What
they leave open is what the application prepared in between.
-/

namespace HttpExchange

variable {κ ε : Type}

/-! ## Settings -/

/-- What a connection is set up with. -/
def Channel.settings (c : Channel κ) : Version × Config := (c.version, c.config)

/-- The same, and whether the connection can be used again. -/
def Channel.prospects (c : Channel κ) : (Version × Config) × Bool := (c.settings, c.persistent)

namespace World

variable {A : ExchangeRef → Prop} {w w' : World κ ε}

theorem channel_offer (w : World κ ε) (name : QueueName) (tasks : List (Task κ)) :
    (w.offer name tasks).channel = w.channel := by
  cases name <;> rfl

theorem prospects_dropWrite (w : World κ ε) (e : ExchangeRef) :
    (w.dropWrite e).channel.prospects = w.channel.prospects := by
  unfold dropWrite
  split <;> rfl

theorem prospects_offer (w : World κ ε) (name : QueueName) (tasks : List (Task κ)) :
    (w.offer name tasks).channel.prospects = w.channel.prospects :=
  congrArg Channel.prospects (channel_offer w name tasks)

/-- A step leaves the settings of the connection alone, and whether it can be used again, unless that
is all it changes. -/
theorem Step.prospects_cases (h : Step A w w') :
    w'.channel.prospects = w.channel.prospects ∨
      w' = w.modifyChannel fun c => { c with persistent := false } := by
  cases h with
  | unpersist => exact .inr rfl
  | aside | addFailure | suppress | attach | wrap | listen | count | activate | enable
  | demand | listenForError | ignore | edit | answerLate | answerFinal | answerError | succeed
  | fail | complete | recycle | tellFailure | conclude => exact .inl rfl
  | tell p state =>
    left
    unfold World.tell
    split <;> rfl
  | next name =>
    left
    simp only [Engine.nextTask, Effect.modifyGet]
    split <;> cases name <;> rfl
  | offer | close | contentAvailable | storeFailure | demandNow | listenLate | flush | refuse
  | refuseFailed => exact .inl (prospects_offer _ _ _)
  | send _ _ _ _ hfix | stick _ _ _ _ hfix | sendFinal _ _ _ hfix | stickFinal _ _ _ _ hfix
  | tellSuccess _ _ _ hfix | mismatch _ _ _ hfix | sendError _ _ _ _ _ _ hfix
  | stickError _ _ _ _ _ _ hfix =>
    have hkept := congrArg Channel.prospects hfix.channel_eq
    exact .inl hkept
  | withhold _ _ _ _ hfix =>
    have hkept := congrArg Channel.prospects hfix.channel_eq
    exact .inl ((prospects_offer _ _ _).trans ((prospects_dropWrite _ _).trans hkept))
  | answerWrite => exact .inl ((prospects_offer _ _ _).trans (prospects_dropWrite _ _))

/-- No step changes the settings of a channel. -/
theorem Step.settings_eq (h : Step A w w') : w'.channel.settings = w.channel.settings := by
  rcases h.prospects_cases with hkept | rfl
  · exact congrArg Prod.fst hkept
  · rfl

/-- No run does. -/
theorem Course.settings_eq (h : Course A w w') : w'.channel.settings = w.channel.settings := by
  induction h with
  | refl => rfl
  | tail _ hstep ih => exact hstep.settings_eq.trans ih

/-- A connection that cannot be used again stays so. -/
theorem Step.persistent_eq_false (h : Step A w w') (hp : w.channel.persistent = false) :
    w'.channel.persistent = false := by
  rcases h.prospects_cases with hkept | rfl
  · exact (congrArg Prod.snd hkept).trans hp
  · rfl

/-- A connection that is not to be used again stays so. -/
theorem Course.persistent_eq_false (h : Course A w w') (hp : w.channel.persistent = false) :
    w'.channel.persistent = false := by
  induction h with
  | refl => exact hp
  | tail _ hstep ih => exact hstep.persistent_eq_false ih

end World

/-! ## Failures -/

/-- The failures that there were are still there, with the errors that they had. -/
def Failures.Keep (fs fs' : Failures) : Prop :=
  ∀ f, f.index < fs.entries.size →
    f.index < fs'.entries.size ∧ (fs'.get f).error = (fs.get f).error

namespace Failures

variable {fs fs' fs'' : Failures}

theorem Keep.of_eq (h : fs' = fs) : fs.Keep fs' := by
  subst h
  exact fun _ hf => ⟨hf, rfl⟩

/-- Failures are kept from state to state. -/
theorem Keep.trans (h : fs.Keep fs') (h' : fs'.Keep fs'') : fs.Keep fs'' := by
  intro f hf
  obtain ⟨hsize, herror⟩ := h f hf
  obtain ⟨hsize', herror'⟩ := h' f hsize
  exact ⟨hsize', herror'.trans herror⟩

/-- A new failure changes none of the old ones. -/
theorem keep_add (fs : Failures) (error : ExchangeError) : fs.Keep (fs.add error) :=
  fun _ hf => ⟨lt_size_add hf error, by rw [get_add_of_lt hf]⟩

/-- Nor does suppressing one, but for what it suppresses. -/
theorem keep_suppress (fs : Failures) (f other : FailureRef) : fs.Keep (fs.suppress f other) := by
  intro g hg
  refine ⟨by rwa [size_suppress], ?_⟩
  unfold suppress
  split
  · rfl
  · by_cases hindex : f.index = g.index
    · simp [get, Array.getElem_modify, hindex, hg]
    · simp [get, Array.getElem?_modify, hindex]

end Failures

namespace World

variable {A : ExchangeRef → Prop} {w w' : World κ ε}

/-- Every step keeps the failures that there are. -/
theorem Step.keep_failures (h : Step A w w') : w.failures.Keep w'.failures := by
  rcases h.failures_cases with heq | ⟨error, heq⟩ | ⟨f, other, heq⟩ <;> rw [heq]
  · exact .of_eq rfl
  · exact Failures.keep_add _ error
  · exact Failures.keep_suppress _ f other

theorem Course.keep_failures (h : Course A w w') : w.failures.Keep w'.failures := by
  induction h with
  | refl => exact .of_eq rfl
  | tail _ hstep ih => exact ih.trans hstep.keep_failures

end World

/-! ## While an exchange is active -/

open World Record

/-- A move of an exchange that is active leaves its request alone. -/
theorem Record.Move.request_eq {e : ExchangeRef} {closing : Prop} {ρ ρ' : Record κ}
    {a : Active κ} (hm : ρ.Move e closing ρ') (ha : ρ.active = some a) :
    ρ'.state.request = ρ.state.request := by
  cases hm with
  | create _ _ _ hnone => cases hnone.symm.trans ha
  | edit hedit => rw [hedit.same]
  | stay | contentAvailable | storeFailure | enable | demand | listenForError | send | withhold
  | stick | answer | answerFinal | succeed | fail | complete | recycle | mismatch | tellSuccess
  | sendFinal | stickFinal | tellFailure | sendError | stickError | conclude => rfl

/-- A stream lies over another one if following what wrappers report to wrap leads from it to that
one. -/
def Stream.Over : Stream → Stream → Prop :=
  Relation.ReflTransGen fun outer inner => outer.wrapped? = some inner

/-- Wrappers are over the same base. -/
theorem Stream.Over.base_eq {outer inner : Stream} (h : outer.Over inner) :
    outer.base = inner.base := by
  induction h with
  | refl => rfl
  | tail _ hstep ih => exact ih.trans (base_of_wrapped hstep)

namespace World

variable {A : ExchangeRef → Prop} {w w' : World κ ε} {e : ExchangeRef} {stream : Stream}

/-- What every step keeps between two states with the exchange active holds at the end of a course
on which it stays active. -/
theorem Course.induct_active {P : World κ ε → Prop} (hc : Course A w w') (h : w.Possible)
    (hactive : (w.activeFor? e).isSome = true) (hactive' : (w'.activeFor? e).isSome = true)
    (hstart : P w)
    (hstep : ∀ w₁ w₂ : World κ ε, w₁.Possible → (w₁.activeFor? e).isSome = true →
      (w₂.activeFor? e).isSome = true → P w₁ → Step A w₁ w₂ → P w₂) : P w' := by
  obtain ⟨a, ha⟩ := Option.isSome_iff_exists.1 hactive
  have hlt := h.sound.index_lt_of_active ha
  induction hc with
  | refl => exact hstart
  | tail hc hlast ih =>
    -- an exchange that is active in the end was never detached on the way
    have h₁ := h.course hc
    obtain ⟨a', ha'⟩ := Option.isSome_iff_exists.1 hactive'
    have hopen := hlast.open_anti h₁.sound (open_of_active ha')
    have hactive₁ := hopen (Nat.lt_of_lt_of_le hlt (Course.size_le hc h))
    exact hstep _ _ h₁ hactive₁ hactive' (ih hactive₁) hlast

/-- The request of an exchange is the same as long as it is active. -/
theorem Course.request_eq (hc : Course A w w') (h : w.Possible)
    (hactive : (w.activeFor? e).isSome = true) (hactive' : (w'.activeFor? e).isSome = true) :
    (w'.exchange e).request = (w.exchange e).request := by
  refine Course.induct_active (P := fun v => (v.exchange e).request = (w.exchange e).request)
    hc h hactive hactive' rfl fun w₁ w₂ h₁ hactive₁ _ hsame hstep => ?_
  obtain ⟨a, ha⟩ := Option.isSome_iff_exists.1 hactive₁
  have hkept := (hstep.move h₁.sound e).request_eq ha
  exact hkept.trans hsame

theorem stream_dropWrite (w : World κ ε) (e : ExchangeRef) :
    (w.dropWrite e).channel.stream = w.channel.stream := by
  unfold dropWrite
  split <;> rfl

theorem stream_offer (w : World κ ε) (name : QueueName) (tasks : List (Task κ)) :
    (w.offer name tasks).channel.stream = w.channel.stream :=
  congrArg Channel.stream (channel_offer w name tasks)

/-- After a step with an exchange active at its end the attached stream is still there, or a wrapper
of it is. -/
theorem Step.stream_cases (h : Step A w w') (hactive' : w'.channel.active.isSome = true)
    (hstream : w.channel.stream = some stream) : w'.channel.stream = some stream ∨
      ∃ wrapper : Stream, w'.channel.stream = some wrapper ∧ wrapper.wrapped? = some stream := by
  cases h with
  | aside | addFailure | suppress | listen | unpersist | count | activate | enable | demand
  | listenForError | ignore | edit | answerLate | answerFinal | answerError | complete | recycle
  | tellFailure | conclude => exact .inl hstream
  | attach _ hnone => cases hnone.symm.trans hstream
  | wrap wrapper hcurrent hwrapped =>
    cases hcurrent.symm.trans hstream
    exact .inr ⟨wrapper, rfl, hwrapped⟩
  | succeed | fail => cases hactive'
  | tell p state =>
    left
    unfold World.tell
    split <;> exact hstream
  | next name =>
    left
    simp only [Engine.nextTask, Effect.modifyGet]
    split <;> cases name <;> exact hstream
  | offer | close | contentAvailable | storeFailure | demandNow | listenLate | flush | refuse
  | refuseFailed => exact .inl ((stream_offer _ _ _).trans hstream)
  | send _ _ _ _ hfix | stick _ _ _ _ hfix | sendFinal _ _ _ hfix | stickFinal _ _ _ _ hfix
  | tellSuccess _ _ _ hfix | mismatch _ _ _ hfix | sendError _ _ _ _ _ _ hfix
  | stickError _ _ _ _ _ _ hfix =>
    have hkept := congrArg Channel.stream hfix.channel_eq
    exact .inl (hkept.trans hstream)
  | withhold _ _ _ _ hfix =>
    have hkept := congrArg Channel.stream hfix.channel_eq
    exact .inl ((stream_offer _ _ _).trans ((stream_dropWrite _ _).trans (hkept.trans hstream)))
  | answerWrite =>
    exact .inl ((stream_offer _ _ _).trans ((stream_dropWrite _ _).trans hstream))

/-- As long as an exchange is active, what is attached lies over what was attached before. -/
theorem Course.over (hc : Course A w w') (h : w.Possible)
    (hactive : (w.activeFor? e).isSome = true) (hactive' : (w'.activeFor? e).isSome = true)
    (hstream : w.channel.stream = some stream) :
    ∃ stream', w'.channel.stream = some stream' ∧ stream'.Over stream := by
  refine Course.induct_active (e := e)
    (P := fun v => ∃ stream', v.channel.stream = some stream' ∧ stream'.Over stream)
    hc h hactive hactive' ⟨stream, hstream, .refl⟩ ?_
  rintro w₁ w₂ - - hactive₂ ⟨stream₁, hstream₁, hover⟩ hstep
  obtain ⟨a, ha⟩ := Option.isSome_iff_exists.1 hactive₂
  have hsome : w₂.channel.active.isSome = true := by rw [((activeFor?_eq_some w₂).1 ha).1]; rfl
  rcases hstep.stream_cases hsome hstream₁ with hkept | ⟨wrapper, hwrapper, hwrapped⟩
  · exact ⟨stream₁, hkept, hover⟩
  · exact ⟨wrapper, hwrapper, .head hwrapped hover⟩

end World

end HttpExchange
