import HttpExchange.Proofs.Constancy
import Mathlib.Data.List.Induction
import Mathlib.Data.List.Nodup

/-!
# What a failure has suppressed

A failure collects the failures that it suppressed: each once, in the order in which they were first
given to it, and never itself. What was given to whom is a history of calls, between which new
failures arise (`Failures.History`). The failures of every run have one, wherever the calls come
from: later failures of an exchange, panics of tasks and of the renderer, error responses that could
not be sent, and the application.

The main statement is `suppressed_once`. For an exchange that has failed it follows that further
reports do nothing but to be collected, those that are new.
-/

namespace HttpExchange

variable {κ ε α : Type}

/-! ## Histories -/

namespace Failures

/-- What was given to a failure: each call names a failure and then what it suppresses. -/
def givenTo (f : FailureRef) (calls : List (FailureRef × FailureRef)) : List FailureRef :=
  calls.filterMap fun call => if call.1 = f then some call.2 else none

/-- The failures after these calls, in which failures that existed by then were given others as
suppressed. -/
inductive History : List (FailureRef × FailureRef) → Failures → Prop
  | start : History [] empty
  | arise {calls : List (FailureRef × FailureRef)} {fs : Failures} (error : ExchangeError) :
      History calls fs → History calls (fs.add error)
  | give {calls : List (FailureRef × FailureRef)} {fs : Failures} {f : FailureRef}
      (other : FailureRef) : History calls fs → f.index < fs.entries.size →
      History (calls ++ [(f, other)]) (fs.suppress f other)

/-- What a failure collects of what is given to it: the first of each, itself left out. -/
def collected (f : FailureRef) (given : List FailureRef) : List FailureRef :=
  (given.filter (· ≠ f)).eraseDups

variable {fs : Failures} {calls more : List (FailureRef × FailureRef)} {f other : FailureRef}
  {given : List FailureRef}

/-- What is given in two lots is given in one. -/
theorem givenTo_append (f : FailureRef) (calls more : List (FailureRef × FailureRef)) :
    givenTo f (calls ++ more) = givenTo f calls ++ givenTo f more := List.filterMap_append

/-- All of what is given to one failure is given to it. -/
theorem givenTo_map (f : FailureRef) (causes : List FailureRef) :
    givenTo f (causes.map (f, ·)) = causes := by
  simp [givenTo, List.filterMap_map]

/-- A failure collects what it is given, but not itself. -/
theorem mem_collected : other ∈ collected f given ↔ other ∈ given ∧ other ≠ f := by
  simp [collected, List.mem_eraseDups]

/-- Later causes are collected if they are new. -/
theorem collected_append (f : FailureRef) (given later : List FailureRef) :
    collected f (given ++ later) =
      collected f given ++ (later.filter fun a => a ≠ f ∧ a ∉ collected f given).eraseDups := by
  rw [collected, List.filter_append, List.eraseDups_append, ← collected, List.removeAll,
    List.filter_filter]
  congr 2
  refine List.filter_congr fun a _ => ?_
  rw [Bool.eq_iff_iff]
  simp [mem_collected, and_comm]

/-- One more cause is collected at the end, if it is new and not the failure itself. -/
theorem collected_concat (f : FailureRef) (given : List FailureRef) (other : FailureRef) :
    collected f (given ++ [other]) =
      if f ≠ other ∧ other ∉ collected f given then collected f given ++ [other]
      else collected f given := by
  rw [collected_append]
  by_cases h : f ≠ other ∧ other ∉ collected f given
  · simp [h, Ne.symm h.1, List.eraseDups_cons]
  · have hnone : ¬(other ≠ f ∧ other ∉ collected f given) := fun hn => h ⟨hn.1.symm, hn.2⟩
    simp [h, hnone]

/-- Nothing is collected twice. -/
theorem nodup_collected (f : FailureRef) (given : List FailureRef) : (collected f given).Nodup := by
  induction given using List.reverseRecOn with
  | nil => exact .nil
  | append_singleton given other ih =>
    rw [collected_concat]
    split
    next h =>
      rw [← List.concat_eq_append]
      exact List.Nodup.concat h.2 ih
    next => exact ih

/-- A failure that does not exist collects nothing. -/
theorem suppress_of_size_le (h : fs.entries.size ≤ f.index) (other : FailureRef) :
    fs.suppress f other = fs := by
  unfold suppress
  split
  · rfl
  · have hsame : fs.entries.modify f.index
        (fun x => { x with suppressed := x.suppressed ++ [other] }) = fs.entries := by
      ext i hi hi'
      · exact Array.size_modify
      · rw [Array.getElem_modify, if_neg fun heq => ?_]
        exact Nat.not_le_of_lt hi' (heq ▸ h)
    rw [hsame]

/-- Only failures that exist are given something. -/
theorem History.givenTo_eq_nil (h : History calls fs) (hf : fs.entries.size ≤ f.index) :
    givenTo f calls = [] := by
  induction h with
  | start => rfl
  | arise error h ih =>
    rw [add, Array.size_push] at hf
    exact ih (Nat.le_of_succ_le hf)
  | @give calls fs g other h hg ih =>
    rw [size_suppress] at hf
    have hne : g ≠ f := by
      rintro rfl
      exact Nat.not_le_of_lt hg hf
    rw [givenTo_append, ih hf]
    simp [givenTo, hne]

/-- The suppressed failures are those that were given, the first of each, without the failure
itself. -/
theorem History.suppressed_eq (h : History calls fs) (hf : f.index < fs.entries.size) :
    fs.suppressed f = collected f (givenTo f calls) := by
  induction h with
  | start => cases hf
  | @arise calls fs error h ih =>
    by_cases hold : f.index < fs.entries.size
    · rw [suppressed_add_of_lt hold]
      exact ih hold
    · have hnext : f = fs.next := by
        rw [add, Array.size_push] at hf
        have hindex : f.index = fs.entries.size := by omega
        cases f
        exact congrArg FailureRef.mk hindex
      rw [h.givenTo_eq_nil (Nat.le_of_not_lt hold), suppressed, hnext, get_add_next]
      rfl
  | @give calls fs g other h hg ih =>
    rw [size_suppress] at hf
    rw [suppressed_suppress hg, givenTo_append]
    by_cases hself : f = g
    · subst hself
      have hgiven : givenTo f [(f, other)] = [other] := by simp [givenTo]
      rw [hgiven, collected_concat, ← ih hf]
      simp
    · have hgiven : givenTo f [(g, other)] = [] := by simp [givenTo, Ne.symm hself]
      rw [hgiven, List.append_nil, ← ih hf]
      simp [hself]

/-- What is already known as suppressed, or is the failure itself, is not suppressed again. -/
theorem suppress_of_known (h : other = f ∨ other ∈ fs.suppressed f) : fs.suppress f other = fs :=
  if_pos (h.imp_left Eq.symm)

/-- A failure is given all of these, one after the other. -/
def suppressAll (fs : Failures) (f : FailureRef) (causes : List FailureRef) : Failures :=
  causes.foldl (fun fs cause => fs.suppress f cause) fs

/-- A history goes on with all that is given at once. -/
theorem History.giveAll (h : History calls fs) (hf : f.index < fs.entries.size)
    (causes : List FailureRef) :
    History (calls ++ causes.map (f, ·)) (fs.suppressAll f causes) := by
  induction causes generalizing fs calls with
  | nil => rwa [List.map_nil, List.append_nil]
  | cons cause causes ih =>
    have hnext := ih (h.give cause hf) (by rwa [size_suppress])
    rwa [List.append_assoc] at hnext

/-- Nobody else is concerned. -/
theorem get_suppressAll_of_ne {g : FailureRef} (h : g ≠ f) (causes : List FailureRef) :
    (fs.suppressAll f causes).get g = fs.get g := by
  induction causes generalizing fs with
  | nil => rfl
  | cons cause causes ih => exact ih.trans (get_suppress_of_ne h cause)

/-- Giving a list of causes changes nothing but what is suppressed. -/
theorem keep_suppressAll (fs : Failures) (f : FailureRef) (causes : List FailureRef) :
    fs.Keep (fs.suppressAll f causes) := by
  induction causes generalizing fs with
  | nil => exact .of_eq rfl
  | cons cause causes ih => exact (keep_suppress fs f cause).trans (ih _)

/-- Behind what was suppressed before stand those that are new. -/
theorem History.suppressed_suppressAll (h : History calls fs) (hf : f.index < fs.entries.size)
    (causes : List FailureRef) :
    (fs.suppressAll f causes).suppressed f = fs.suppressed f ++
      (causes.filter fun cause => cause ≠ f ∧ cause ∉ fs.suppressed f).eraseDups := by
  have hexists : f.index < (fs.suppressAll f causes).entries.size :=
    (keep_suppressAll fs f causes f hf).1
  have hlater := (h.giveAll hf causes).suppressed_eq hexists
  rw [givenTo_append, givenTo_map, collected_append, ← h.suppressed_eq hf] at hlater
  exact hlater

/-- The text of a failure counts what it suppressed. -/
theorem text_eq (fs : Failures) (f : FailureRef) :
    fs.text f =
      if fs.suppressed f = [] then (fs.get f).error.message
      else (fs.get f).error.message ++ " (+" ++ toString (fs.suppressed f).length ++
        " suppressed)" := by
  unfold text suppressed
  simp only [List.isEmpty_iff]

end Failures

/-! ## The failures of a run -/

namespace World

open Failures

variable {A : ExchangeRef → Prop} {w w' : World κ ε} {calls : List (FailureRef × FailureRef)}

/-- A step continues the history. -/
theorem Step.history (hstep : Step A w w') (h : History calls w.failures) :
    ∃ more, History (calls ++ more) w'.failures := by
  rcases hstep.failures_cases with heq | ⟨error, heq⟩ | ⟨f, other, heq⟩ <;> rw [heq]
  · exact ⟨[], by rwa [List.append_nil]⟩
  · exact ⟨[], by rw [List.append_nil]; exact h.arise error⟩
  · by_cases hf : f.index < w.failures.entries.size
    · exact ⟨[(f, other)], h.give other hf⟩
    · rw [suppress_of_size_le (Nat.le_of_not_lt hf)]
      exact ⟨[], by rwa [List.append_nil]⟩

/-- So does whatever others do. -/
theorem Course.history (hc : Course A w w') (h : History calls w.failures) :
    ∃ more, History (calls ++ more) w'.failures := by
  induction hc with
  | refl => exact ⟨[], by rwa [List.append_nil]⟩
  | tail _ hstep ih =>
    obtain ⟨more, hmore⟩ := ih
    obtain ⟨later, hlater⟩ := hstep.history hmore
    exact ⟨more ++ later, by rwa [← List.append_assoc]⟩

/-- The failures of every state have a history. -/
theorem Possible.exists_history (h : w.Possible) : ∃ calls, History calls w.failures := by
  refine h.induct (P := fun v => ∃ calls, History calls v.failures) ?_ ?_
  · exact fun _ _ _ _ _ => ⟨[], .start⟩
  rintro w w' - ⟨calls, hcalls⟩ hstep
  obtain ⟨more, hmore⟩ := hstep.history hcalls
  exact ⟨calls ++ more, hmore⟩

end World

variable {w : World κ ε} {e : ExchangeRef} {f : FailureRef} {host : Host κ ε}

/-- A client may give a failure as many causes as it likes. -/
theorem World.Possible.suppressAll (h : w.Possible) (f : FailureRef) (causes : List FailureRef) :
    World.Possible { w with failures := w.failures.suppressAll f causes } := by
  induction causes generalizing w with
  | nil => exact h
  | cons cause causes ih =>
    have hstep : World.Step w.Open w { w with failures := w.failures.suppress f cause } :=
      .suppress f cause
    exact ih (h.course (.single hstep))

/-- The failures that are reported for a failed exchange are given to its stored failure. -/
theorem Channel.mapM_onError_of_failed (h : w.Possible) {active : Active κ}
    (ha : w.activeFor? e = some active) (herror : active.error = some f)
    (causes : List FailureRef) :
    causes.mapM (Channel.onError host) w = (.done (causes.map fun _ => none),
      { w with failures := w.failures.suppressAll f causes }) := by
  induction causes generalizing w with
  | nil => rfl
  | cons cause causes ih =>
    have hrun : Channel.onError host cause w =
        (.done none, { w with failures := w.failures.suppress f cause }) :=
      Channel.onError_of_failed h.sound ha herror
    have hrest := ih (h.suppressAll f [cause]) ha
    rw [List.mapM_cons]
    exact (Effect.bind_of_done hrun).trans (Effect.bind_of_done hrest)

/-- **Suppressed once.** What a failure has suppressed are the failures that were given to it, the
first of each, without the failure itself, and its text counts them. Everything that runs only adds
to the history of what was given. When failures are reported for an exchange that has failed and is
still active, nobody gets anything to do, and all that changes is that its stored failure collects
those that are new to it; reporting one of them again changes nothing at all. -/
theorem suppressed_once :
    (∀ calls fs, Failures.History calls fs → ∀ f : FailureRef, f.index < fs.entries.size →
      fs.suppressed f = Failures.collected f (Failures.givenTo f calls) ∧
      f ∉ fs.suppressed f ∧ (fs.suppressed f).Nodup ∧
      fs.text f = if fs.suppressed f = [] then (fs.get f).error.message
        else (fs.get f).error.message ++ " (+" ++ toString (fs.suppressed f).length ++
          " suppressed)") ∧
    ∀ (κ ε : Type) (w : World κ ε), Reachable w →
      (∃ calls, Failures.History calls w.failures ∧ ∀ (β : Type) (m : Engine κ ε β), Permitted m →
        ∃ more, Failures.History (calls ++ more) (m w).2.failures) ∧
      ∀ e f, w.Stored e f → (w.activeFor? e).isSome = true →
        ∀ (host : Host κ ε) (causes : List FailureRef),
        ∃ fs, causes.mapM (Channel.onError host) w =
            (.done (causes.map fun _ => none), { w with failures := fs }) ∧
          fs.suppressed f = w.failures.suppressed f ++
            (causes.filter fun cause => cause ≠ f ∧ cause ∉ w.failures.suppressed f).eraseDups ∧
          (fs.get f).error = (w.failures.get f).error ∧
          (∀ other, other ≠ f → fs.get other = w.failures.get other) ∧
          ∀ cause, (cause = f ∨ cause ∈ w.failures.suppressed f ∨ cause ∈ causes) →
            Channel.onError host cause { w with failures := fs } =
              (.done none, { w with failures := fs }) := by
  refine ⟨fun calls fs h f hf => ?_, fun κ ε w hw => ⟨?_, fun e f hf hactive host causes => ?_⟩⟩
  · have hlist := h.suppressed_eq hf
    refine ⟨hlist, ?_, ?_, fs.text_eq f⟩
    · rw [hlist]
      exact fun hself => (Failures.mem_collected.1 hself).2 rfl
    · rw [hlist]
      exact Failures.nodup_collected f _
  · obtain ⟨calls, hcalls⟩ := hw.possible.exists_history
    exact ⟨calls, hcalls, fun β m hm => World.Course.history (hm.runs w hw.possible.sound) hcalls⟩
  · have h := hw.possible
    obtain ⟨calls, hcalls⟩ := h.exists_history
    obtain ⟨active, ha⟩ := Option.isSome_iff_exists.1 hactive
    have herror : active.error = some f := ((h.marked e).stored active ha).trans hf.failure
    have hcollected := hcalls.suppressed_suppressAll hf.known causes
    have hrun : causes.mapM (Channel.onError host) w = _ :=
      Channel.mapM_onError_of_failed h ha herror causes
    refine ⟨w.failures.suppressAll f causes, hrun, hcollected,
      (Failures.keep_suppressAll _ _ _ f hf.known).2,
      fun other hne => Failures.get_suppressAll_of_ne hne causes, fun cause hcause => ?_⟩
    have hknown : cause = f ∨ cause ∈ (w.failures.suppressAll f causes).suppressed f := by
      rw [hcollected, List.mem_append, List.mem_eraseDups, List.mem_filter]
      by_cases hself : cause = f
      · exact .inl hself
      · by_cases hold : cause ∈ w.failures.suppressed f
        · exact .inr (.inl hold)
        · have hnew := (hcause.resolve_left hself).resolve_left hold
          exact .inr (.inr ⟨hnew, decide_eq_true ⟨hself, hold⟩⟩)
    rw [Channel.onError_of_failed (h.suppressAll f causes).sound ha herror,
      Failures.suppress_of_known hknown]

/-- Three failures, of which the first one fails an exchange. It is given the second one, and the
second one is given the first and itself. -/
def suppressedInCycle : Engine Unit Unit Unit := do
  firstFailure
  let _ ← Engine.newFailure (.transport "third")
  Engine.suppress ⟨0⟩ ⟨1⟩
  Engine.suppress ⟨1⟩ ⟨0⟩
  Engine.suppress ⟨1⟩ ⟨1⟩

theorem permitted_suppressedInCycle : Permitted suppressedInCycle :=
  .bind permitted_firstFailure fun _ => .bind (.newFailure _) fun _ =>
    .bind (.suppress _ _) fun _ => .bind (.suppress _ _) fun _ => .suppress _ _

theorem history_suppressedInCycle :
    Failures.History [(⟨0⟩, ⟨1⟩), (⟨1⟩, ⟨0⟩), (⟨1⟩, ⟨1⟩)]
      (World.after suppressedInCycle).failures := by
  have h₀ : Failures.History [] (((Failures.empty.add (.transport "first")).add
      (.transport "second")).add (.transport "third")) :=
    ((Failures.History.start.arise _).arise _).arise _
  have h₁ := h₀.give (f := ⟨0⟩) ⟨1⟩ (by decide)
  have h₂ := h₁.give (f := ⟨1⟩) ⟨0⟩ (by decide)
  exact h₂.give (f := ⟨1⟩) ⟨1⟩ (by decide)

/-- Of the failures that are reported then, the third is the only new one. -/
theorem suppressed_once_cyclic :
    (World.after suppressedInCycle).failures.suppressed ⟨1⟩ = [⟨0⟩] ∧
    ∃ fs, [⟨1⟩, ⟨2⟩, ⟨0⟩, ⟨2⟩].mapM (Channel.onError (Host.idle 2))
        (World.after suppressedInCycle) =
      (.done [none, none, none, none], { World.after suppressedInCycle with failures := fs }) ∧
      fs.suppressed ⟨0⟩ = [⟨1⟩, ⟨2⟩] ∧ fs.get ⟨1⟩ = ⟨.transport "second", [⟨0⟩]⟩ := by
  obtain ⟨hlaw, hruns⟩ := suppressed_once
  have hknown : (World.after suppressedInCycle).failures.entries.size = 3 := by decide +kernel
  obtain ⟨hgiven, -⟩ := hlaw _ _ history_suppressedInCycle ⟨1⟩ (by rw [hknown]; decide)
  have hcollected : Failures.collected ⟨1⟩ (Failures.givenTo ⟨1⟩
      [(⟨0⟩, ⟨1⟩), (⟨1⟩, ⟨0⟩), (⟨1⟩, ⟨1⟩)]) = [⟨0⟩] := by decide
  have hstored : (World.after suppressedInCycle).Stored ⟨0⟩ ⟨0⟩ :=
    ⟨by decide +kernel, by decide +kernel⟩
  have hactive : ((World.after suppressedInCycle).activeFor? ⟨0⟩).isSome = true := by
    decide +kernel
  have hbefore : (World.after suppressedInCycle).failures.suppressed ⟨0⟩ = [⟨1⟩] := by
    decide +kernel
  have hsecond : (World.after suppressedInCycle).failures.get ⟨1⟩ =
      ⟨.transport "second", [⟨0⟩]⟩ := by decide +kernel
  obtain ⟨-, hreports⟩ := hruns Unit Unit _ permitted_suppressedInCycle.reachable
  obtain ⟨fs, hrun, hnew, -, hothers, -⟩ :=
    hreports ⟨0⟩ ⟨0⟩ hstored hactive (Host.idle 2) [⟨1⟩, ⟨2⟩, ⟨0⟩, ⟨2⟩]
  rw [hbefore] at hnew
  exact ⟨hgiven.trans hcollected, fs, hrun, hnew, (hothers ⟨1⟩ (by decide)).trans hsecond⟩

end HttpExchange
