import HttpExchange.Proofs.Announcing
import HttpExchange.Proofs.Refusals

/-!
# Wrapped streams

The stream of the active exchange is replaced only by a wrapper of it, so what is attached later
lies over what was attached before (`Course.over`), and so does the stream that the exchange ends
with. A call that wraps the stream may run code before the replacement, and that code may wrap the
stream itself. Then the wrapper is made once more, over what is attached by then: in a call that
succeeds the last wrapper that was made replaces the stream that it wraps
(`Channel.replaced_of_done`).

`World.Later` relates the moments of a run in which streams are made tidily (`Craft.tidy`), and
`World.Adds` collects what successful calls of such a run added, nested ones included. By induction
on it everything that was added stays in the line of wrappers (`Adds.holds`), and every listener
waits in the slot of its wrapper (`Adds.enlisted`).
-/

namespace HttpExchange

variable {κ ε α : Type}

open World

/-! ## Streams over streams -/

namespace Stream

variable {stream inner target : Stream} {newer older : List Stream}

/-- A stream lies over another one, with these wrappers in between, outermost first. -/
def Holds (stream target : Stream) (wrappers : List Stream) : Prop :=
  stream.Over target ∧ ∃ above, stream.chain = above ++ target.chain ∧ wrappers.Sublist above

theorem Holds.of_over (h : stream.Over target) : stream.Holds target [] := by
  obtain ⟨above, habove⟩ := h.exists_above
  exact ⟨h, above, habove, List.nil_sublist _⟩

theorem Holds.of_wrapped (h : stream.wrapped? = some inner) : stream.Holds inner [stream] :=
  ⟨.single h, [stream], chain_of_wrapped h, .refl _⟩

theorem Holds.trans (h : stream.Holds inner newer) (h' : inner.Holds target older) :
    stream.Holds target (newer ++ older) := by
  obtain ⟨hover, above, habove, hsub⟩ := h
  obtain ⟨hover', above', habove', hsub'⟩ := h'
  refine ⟨hover.trans hover', above ++ above', ?_, hsub.append hsub'⟩
  rw [habove, habove', List.append_assoc]

end Stream

namespace World

variable {A : ExchangeRef → Prop} {w w₁ w' v : World κ ε} {e : ExchangeRef} {stream : Stream}

/-- Only the attached stream of an active exchange goes when that ends. -/
theorem Step.ended_cases (h : Step A w w') {ended : Option Stream} {cause : Option FailureRef}
    (hmem : .ended e ended cause ∈ w'.deeds) : .ended e ended cause ∈ w.deeds ∨
      (w.activeFor? e).isSome = true ∧ w.channel.stream = ended := by
  have hcons : ∀ {d : Deed κ} {deeds : List (Deed κ)}, Deed.ended e ended cause ∈ d :: deeds →
      d ≠ .ended e ended cause → Deed.ended e ended cause ∈ deeds :=
    fun hmem hne => List.mem_of_ne_of_mem hne.symm hmem
  cases h with
  | succeed ha | fail _ ha =>
    rcases List.mem_cons.1 hmem with heq | hmem
    · cases heq
      exact .inr ⟨by rw [ha]; rfl, rfl⟩
    · exact .inl hmem
  | aside | addFailure | suppress | wrap | listen | unpersist | count | activate | enable
  | demand | ignore | edit | complete | recycle => exact .inl hmem
  | tell p state =>
    rw [deeds_tell] at hmem
    exact .inl hmem
  | next name =>
    left
    simp only [Engine.nextTask, Effect.modifyGet] at hmem
    split at hmem
    · rwa [deeds_setQueue] at hmem
    · have hold := hcons hmem (by simp)
      rwa [deeds_setQueue] at hold
  | attach | listenForError | answerLate | tellFailure | conclude | offer | close
  | contentAvailable | storeFailure | demandNow | flush | refuseFailed | refuse =>
    exact .inl (hcons hmem (by simp))
  | listenLate => exact .inl (hcons (hcons hmem (by simp)) (by simp))
  | stick _ _ _ _ hfix | stickFinal _ _ _ _ hfix | stickError _ _ _ _ _ _ hfix =>
    exact .inl ((congrArg (_ ∈ ·) hfix.deeds_eq).mp hmem)
  | send _ _ _ _ hfix | sendFinal _ _ _ hfix | sendError _ _ _ _ _ _ hfix
  | tellSuccess _ _ _ hfix =>
    exact .inl ((congrArg (_ ∈ ·) hfix.deeds_eq).mp (hcons hmem (by simp)))
  | mismatch _ _ _ hfix =>
    exact .inl ((congrArg (_ ∈ ·) hfix.deeds_eq).mp (hcons (hcons hmem (by simp)) (by simp)))
  | withhold _ _ _ _ hfix =>
    have hold := (congrArg (_ ∈ ·) (deeds_dropWrite _)).mp (hcons hmem (by simp))
    exact .inl ((congrArg (_ ∈ ·) hfix.deeds_eq).mp (hcons hold (by simp)))
  | answerWrite =>
    have hold := (congrArg (_ ∈ ·) (deeds_dropWrite _)).mp (hcons hmem (by simp))
    exact .inl (hcons hold (by simp))
  | answerFinal result =>
    refine .inl (hcons (hcons hmem ?_) (by simp))
    cases result <;> simp
  | answerError result => exact .inl (hcons (hcons hmem (by simp)) (by simp))

/-- The stream that an exchange ends with lies over what was attached when it was active. -/
theorem Course.over_of_ended (hc : Course A w w') (h : w.Possible)
    (hactive : (w.activeFor? e).isSome = true) (hstream : w.channel.stream = some stream)
    {last : Stream} {cause : Option FailureRef} (hmem : .ended e (some last) cause ∈ w'.deeds) :
    last.Over stream := by
  induction hc with
  | refl =>
    obtain ⟨a, ha⟩ := Option.isSome_iff_exists.1 hactive
    refine absurd ?_ ((h.orderly e).not_ended_of_active ha (some last) cause)
    exact List.mem_filter.2 ⟨hmem, by simp [Deed.exchange?]⟩
  | tail hc hlast ih =>
    rcases hlast.ended_cases hmem with hold | ⟨hactive₁, hended⟩
    · exact ih hold
    · obtain ⟨stream₁, hstream₁, hover⟩ := Course.over hc h hactive hactive₁ hstream
      cases hstream₁.symm.trans hended
      exact hover

/-- An exchange that is active before and after is active in between. -/
theorem Course.active_between (hc : Course A w w₁) (hc' : Course A w₁ w') (h : w.Possible)
    (hactive : (w.activeFor? e).isSome = true) (hactive' : (w'.activeFor? e).isSome = true) :
    (w₁.activeFor? e).isSome = true := by
  obtain ⟨a, ha⟩ := Option.isSome_iff_exists.1 hactive
  obtain ⟨a', ha'⟩ := Option.isSome_iff_exists.1 hactive'
  have hopen := Course.open_anti hc' (h.course hc).sound (open_of_active ha')
  exact hopen (Nat.lt_of_lt_of_le (h.sound.index_lt_of_active ha) (Course.size_le hc h))

/-! ## Moments of a run -/

/-- One moment of a run comes after another one: in between code was run that makes streams tidily. -/
def Later (w w' : World κ ε) : Prop :=
  Relation.ReflTransGen
    (fun w w' => ∃ (β : Type) (m : Engine κ ε β), PermittedOf Craft.tidy m ∧ (m w).2 = w') w w'

theorem later_of_permitted {m : Engine κ ε α} (hm : PermittedOf Craft.tidy m) (w : World κ ε) :
    w.Later (m w).2 := .single ⟨α, m, hm, rfl⟩

theorem later_of_run {m : Engine κ ε α} (hm : PermittedOf Craft.tidy m) {ended : Outcome α}
    (hrun : m w = (ended, w')) : w.Later w' := by
  have hlater := later_of_permitted hm w
  rwa [hrun] at hlater

namespace Later

theorem course (h : w.Later w') (hw : w.Possible) : Course (fun _ => True) w w' := by
  induction h with
  | refl => exact .refl
  | tail _ hlast ih =>
    obtain ⟨β, m, hm, rfl⟩ := hlast
    exact ih.trans (Course.mono (fun _ _ => trivial) (hm.runs _ (hw.course ih).sound))

theorem possible (h : w.Later w') (hw : w.Possible) : w'.Possible := hw.course (h.course hw)

theorem heeds (h : w.Later w') : w.Heeds w' := by
  induction h with
  | refl => exact Minds.heeds (.of_hearing_eq rfl)
  | tail _ hlast ih =>
    obtain ⟨β, m, hm, rfl⟩ := hlast
    exact ih.trans (hm.minding _).heeds

theorem tidy (h : w.Later w') (hw : w.Tidy) : w'.Tidy := by
  induction h with
  | refl => exact hw
  | tail _ hlast ih =>
    obtain ⟨β, m, hm, rfl⟩ := hlast
    exact KeepsTidy.pervasive.permitted hm _ ih

end Later

end World

/-! ## Wrappers that are put over the stream -/

/-- A wrapper that was put over the attached stream, and the listener that it was made for. -/
structure Addition (κ : Type) where
  wrapper : Stream
  listener : Option (Callback κ)

namespace World

/-- The attached stream is replaced. -/
def replaceStream (w : World κ ε) (stream : Stream) : World κ ε :=
  w.modifyChannel fun c => { c with stream := some stream }

/-- Successful calls that wrap the stream of an exchange, one after the other, and what each of them
added, latest first. Anything may happen before, between and after the calls. The code that makes a
wrapper may make such calls itself; then what they added comes before the wrapper that it makes. -/
inductive Adds (e : ExchangeRef) : World κ ε → List (Addition κ) → World κ ε → Prop
  | later {w w' : World κ ε} : w.Later w' → Adds e w [] w'
  | trans {w w₁ w' : World κ ε} {older newer : List (Addition κ)} :
      Adds e w older w₁ → Adds e w₁ newer w' → Adds e w (newer ++ older) w'
  /-- A completion listener was added. -/
  | listener {w w' : World κ ε} {host : Host κ ε} {wrapper : Stream} (listener : Callback κ) :
      (∃ depth, SurroundingsOf Craft.tidy depth host) →
      e.addCompletionListener host listener w = (.done (.ok ()), w') →
      w'.channel.stream = some wrapper → Adds e w [⟨wrapper, some listener⟩] w'
  /-- A wrapper was added. -/
  | wrapper {w w' : World κ ε} {host : Host κ ε} {transform : Stream → Engine κ ε Stream}
      {wrapper : Stream} :
      (∃ depth, SurroundingsOf Craft.tidy depth host) →
      (∀ stream, PermittedOf Craft.tidy (transform stream)) →
      (∀ stream, Craft.tidy (some stream) (transform stream)) →
      Channel.wrapStream host transform w = (.done (.ok ()), w') →
      w'.channel.stream = some wrapper → Adds e w [⟨wrapper, none⟩] w'
  /-- The same with what was added while the wrapper was made, before it replaced the stream. -/
  | around {w w₁ w' : World κ ε} {host : Host κ ε} {transform : Stream → Engine κ ε Stream}
      {current wrapper : Stream} {inner : List (Addition κ)} :
      (∃ depth, SurroundingsOf Craft.tidy depth host) →
      (∀ stream, PermittedOf Craft.tidy (transform stream)) →
      (∀ stream, Craft.tidy (some stream) (transform stream)) →
      Channel.wrapStream host transform w = (.done (.ok ()), w') →
      Adds e w inner w₁ → w₁.channel.stream = some current → wrapper.wrapped? = some current →
      w' = w₁.replaceStream wrapper → Adds e w (⟨wrapper, none⟩ :: inner) w'

end World

/-- If a wrapper is added, its code was run in some rounds, and then the wrapper replaced the stream
that was attached by then, and that it wraps. -/
theorem Channel.replaced_of_done {transform : Stream → Engine κ ε Stream} {w w' : World κ ε}
    (rounds : Nat) (hrun : wrapStreamWithin transform rounds w = (.done (.ok ()), w')) :
    ∃ w₁ current wrapper, Relation.ReflTransGen (Transforms transform) w w₁ ∧
      w₁.channel.stream = some current ∧ wrapper.wrapped? = some current ∧
      w' = w₁.replaceStream wrapper := by
  induction rounds generalizing w with
  | zero => cases hrun
  | succ rounds ih =>
    obtain ⟨before, w₁, hlook, hrun⟩ := Effect.bind_eq_done.1 hrun
    cases hlook
    cases hstream : w.channel.stream with
    | none =>
      simp only [hstream] at hrun
      cases hrun
    | some current =>
      simp only [hstream] at hrun
      obtain ⟨wrapper, w₁, htransform, hrun⟩ := Effect.bind_eq_done.1 hrun
      have hround : Transforms transform w w₁ := ⟨current, hstream, by rw [htransform]⟩
      split at hrun
      · cases hrun
      next hwrapped =>
        obtain ⟨after, w₂, hlook, hrun⟩ := Effect.bind_eq_done.1 hrun
        cases hlook
        cases hafter : w₁.channel.stream with
        | none =>
          simp only [hafter] at hrun
          cases hrun
        | some active =>
          simp only [hafter] at hrun
          split at hrun
          next heq =>
            have hcurrent : w₁.channel.stream = some current := by rw [hafter, heq]
            cases hrun
            exact ⟨w₁, current, wrapper, .single hround, hcurrent, not_not.1 hwrapped, rfl⟩
          · -- the stream was replaced meanwhile, so the wrapper is made once more
            obtain ⟨w₂, current', wrapper', hrounds, hrest⟩ := ih hrun
            exact ⟨w₂, current', wrapper', .head hround hrounds, hrest⟩

/-- The first try to listen succeeds, because nobody replaces the stream while it is made. -/
theorem Channel.listen_done {current : Stream} {slot : SlotRef} {rounds : Nat} {w w' : World κ ε}
    (hstream : w.channel.stream = some current)
    (hrun : wrapStreamWithin (·.listen slot) rounds w = (.done (.ok ()), w')) :
    w' = { w with streamCount := w.streamCount + 1 }.replaceStream
      (.listening ⟨w.streamCount⟩ slot current) := by
  cases rounds with
  | zero => cases hrun
  | succ rounds =>
    obtain ⟨before, w₁, hlook, hrun⟩ := Effect.bind_eq_done.1 hrun
    cases hlook
    simp only [hstream] at hrun
    obtain ⟨wrapper, w₁, hlisten, hrun⟩ := Effect.bind_eq_done.1 hrun
    cases hlisten
    rw [if_neg (by simp [Stream.wrapped?])] at hrun
    obtain ⟨after, w₁, hlook, hrun⟩ := Effect.bind_eq_done.1 hrun
    cases hlook
    simp only [hstream, if_true] at hrun
    cases hrun
    rfl

/-- A listener that was added waits in the slot of the new outermost wrapper. -/
theorem ExchangeRef.addCompletionListener_done {e : ExchangeRef} {host : Host κ ε}
    {listener : Callback κ} {current : Stream} {w w' : World κ ε}
    (hstream : w.channel.stream = some current)
    (hrun : e.addCompletionListener host listener w = (.done (.ok ()), w')) :
    w'.channel.stream = some (.listening ⟨w.streamCount⟩ ⟨w.slots.size⟩ current) ∧
      w'.listener? ⟨w.slots.size⟩ = some listener := by
  obtain ⟨active, w₁, hlook, hrun⟩ := Effect.bind_eq_done.1 hrun
  cases hlook
  split at hrun
  · cases hrun
  · obtain ⟨slot, w₁, hslot, hrun⟩ := Effect.bind_eq_done.1 hrun
    cases hslot
    have hlistens := Channel.listen_done (w := { w with slots := w.slots.push (some listener) })
      hstream hrun
    rw [hlistens]
    exact ⟨rfl, by simp [listener?, replaceStream, modifyChannel]⟩

namespace World

variable {w w' v : World κ ε} {e : ExchangeRef} {attached : Stream} {added : List (Addition κ)}

theorem later_of_transforms {transform : Stream → Engine κ ε Stream}
    (ht : ∀ stream, PermittedOf Craft.tidy (transform stream))
    (h : Relation.ReflTransGen (Transforms transform) w w') : w.Later w' := by
  induction h with
  | refl => exact .refl
  | tail _ hround ih =>
    obtain ⟨stream, -, rfl⟩ := hround
    exact ih.tail ⟨_, _, ht stream, rfl⟩

/-- The calls and what is between them lead on. -/
theorem Adds.later_of_added (h : Adds e w added v) : w.Later v := by
  induction h with
  | later hlater => exact hlater
  | trans _ _ ih ih' => exact ih.trans ih'
  | listener listener hh hrun => exact later_of_run (.addCompletionListener e listener hh) hrun
  | wrapper hh ht hmakes hrun | around hh ht hmakes hrun =>
    exact later_of_run (.wrapStream hh ht hmakes) hrun

/-- **The line of wrappers.** The stream of an exchange that stays active lies over the one that was
attached before, with everything in between that was added. -/
theorem Adds.holds (h : Adds e w added v) (hw : w.Possible)
    (hactive : (w.activeFor? e).isSome = true) (hactive' : (v.activeFor? e).isSome = true)
    (hattached : w.channel.stream = some attached) :
    ∃ stream, v.channel.stream = some stream ∧ stream.Holds attached (added.map (·.wrapper)) := by
  induction h generalizing attached with
  | later hlater =>
    obtain ⟨stream, hstream, hover⟩ :=
      Course.over (hlater.course hw) hw hactive hactive' hattached
    exact ⟨stream, hstream, .of_over hover⟩
  | trans hadds hadds' ih ih' =>
    have hlater := hadds.later_of_added
    have hw₁ := hlater.possible hw
    have hbetween := Course.active_between (hlater.course hw) (hadds'.later_of_added.course hw₁) hw
      hactive hactive'
    obtain ⟨stream₁, hstream₁, hholds⟩ := ih hw hactive hbetween hattached
    obtain ⟨stream, hstream, hholds'⟩ := ih' hw₁ hbetween hactive' hstream₁
    rw [List.map_append]
    exact ⟨stream, hstream, hholds'.trans hholds⟩
  | listener listener hh hrun hwrapper =>
    obtain ⟨hstream, -⟩ := ExchangeRef.addCompletionListener_done hattached hrun
    cases hstream.symm.trans hwrapper
    exact ⟨_, hwrapper, .of_wrapped rfl⟩
  | wrapper hh ht hmakes hrun hwrapper =>
    obtain ⟨w₁, current, wrapper, hrounds, hcurrent, hwrapped, rfl⟩ :=
      Channel.replaced_of_done _ hrun
    cases hwrapper
    have hlater := later_of_transforms ht hrounds
    obtain ⟨stream, hstream, hover⟩ :=
      Course.over (hlater.course hw) hw hactive hactive' hattached
    cases hcurrent.symm.trans hstream
    exact ⟨_, rfl, (Stream.Holds.of_wrapped hwrapped).trans (.of_over hover)⟩
  | around hh ht hmakes hrun hadds hcurrent hwrapped heq ih =>
    subst heq
    obtain ⟨stream, hstream, hholds⟩ := ih hw hactive hactive' hattached
    cases hcurrent.symm.trans hstream
    exact ⟨_, rfl, (Stream.Holds.of_wrapped hwrapped).trans hholds⟩

/-- Every listener that was added waited in the slot of its wrapper at some moment, and was not
forgotten since. -/
theorem Adds.enlisted (h : Adds e w added v) (hw : w.Possible)
    (hactive : (w.activeFor? e).isSome = true) (hactive' : (v.activeFor? e).isSome = true)
    (hattached : w.channel.stream = some attached) {a : Addition κ} (ha : a ∈ added)
    {listener : Callback κ} (hlistener : a.listener = some listener) :
    ∃ slot u, a.wrapper.slot? = some slot ∧ World.listener? u slot = some listener ∧ u.Heeds v := by
  induction h generalizing attached with
  | later => cases ha
  | trans hadds hadds' ih ih' =>
    have hlater := hadds.later_of_added
    have hw₁ := hlater.possible hw
    have hlater' := hadds'.later_of_added
    have hbetween := Course.active_between (hlater.course hw) (hlater'.course hw₁) hw hactive
      hactive'
    rcases List.mem_append.1 ha with hnewer | holder
    · obtain ⟨stream₁, hstream₁, -⟩ := hadds.holds hw hactive hbetween hattached
      exact ih' hw₁ hbetween hactive' hstream₁ hnewer
    · obtain ⟨slot, u, hslot, hwaits, hheeds⟩ := ih hw hactive hbetween hattached holder
      exact ⟨slot, u, hslot, hwaits, hheeds.trans hlater'.heeds⟩
  | @listener w w' _ _ _ hh hrun hwrapper =>
    cases List.mem_singleton.1 ha
    cases hlistener
    obtain ⟨hstream, hwaits⟩ := ExchangeRef.addCompletionListener_done hattached hrun
    cases hstream.symm.trans hwrapper
    exact ⟨_, w', rfl, hwaits, Minds.heeds (.of_hearing_eq rfl)⟩
  | wrapper =>
    cases List.mem_singleton.1 ha
    cases hlistener
  | @around _ w₁ _ _ _ _ wrapper _ hh ht hmakes hrun hadds hcurrent hwrapped heq ih =>
    subst heq
    rcases List.mem_cons.1 ha with rfl | ha
    · cases hlistener
    · obtain ⟨slot, u, hslot, hwaits, hheeds⟩ := ih hw hactive hactive' hattached ha
      have hreplaced : w₁.Heeds (w₁.replaceStream wrapper) := Minds.heeds (.of_hearing_eq rfl)
      exact ⟨slot, u, hslot, hwaits, hheeds.trans hreplaced⟩

end World

end HttpExchange
