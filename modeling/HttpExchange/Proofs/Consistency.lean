import HttpExchange.Proofs.FirstFailure
import HttpExchange.Proofs.Length

/-!
# The flags of an exchange

Some twenty operations set a few flags each, in the running part of an exchange and in its response.
`Active.Consistent` and `Response.Consistent` say what the flags have to do with each other. The
other guarantees rest on that: one write at a time, no failure lost, one head.

`Record.Coherent` is the part of it that every move keeps by itself. The rest is known already: the
number of bytes is `Record.Measured`, and the two places of a failure are `Record.Marked`.

Each field of `Record.Coherent` is shown by cases on the move, and the cases that do not set one of
its flags are gone with the invariant itself. What is left are the few moves that do: an admitted
write, which sets two flags and fixes the head in one go, the storing of a failure, which takes away
everything that waits, and the demand, which is registered only if there is none and nothing failed.
A response goes on to be edited after the end of its exchange, so its consistency is claimed of ended
exchanges as well.
-/

namespace HttpExchange

variable {κ ε : Type}

/-- What the flags of a response say about each other. -/
structure Response.Consistent (r : Response) : Prop where
  /-- Before the head is fixed nothing is counted, no length is fixed, and no write was the last. -/
  open_fresh : r.committed = false →
    r.written = 0 ∧ r.committedLength = none ∧ r.lastWritten = false
  /-- The last write fixes the head, if no write before it has. -/
  committed_of_last : r.lastWritten = true → r.committed = true

/-- What the running part of an exchange and the rest of it say about each other. -/
structure Active.Consistent (a : Active κ) (x : Exchange) : Prop where
  /-- Only an exchange that is processing, and did not fail, waits for content. -/
  demand : a.demand.isSome = true → a.processing = true ∧ a.error = none
  /-- The same goes for a pending write, which has fixed the head. -/
  write : a.write.isSome = true →
    a.processing = true ∧ a.error = none ∧ x.response.committed = true
  /-- In a failed exchange nobody waits for anything any more, and what handles report is the
  failure that the running part has. -/
  failed : ∀ f, a.error = some f →
    a.processing = true ∧ a.demand = none ∧ a.write = none ∧ a.errorListeners = [] ∧
    x.failure = some f

/-- What is admitted as a send finds the exchange processing. -/
theorem Active.processing_of_admission {a : Active κ} {r : Response} {last commits : Bool}
    {chunks : List Octets} (h : a.admission r last chunks = .send commits) :
    a.processing = true := by
  unfold admission at h
  split at h
  · cases h
  · split at h
    · cases h
    next hprocessing => simpa using hprocessing

namespace Record

variable {e : ExchangeRef} {closing : Prop} {ρ ρ' : Record κ}

/-- The part of the consistency of an exchange that no other invariant has. -/
structure Coherent (ρ : Record κ) : Prop where
  demand : ∀ a, ρ.active = some a → a.demand.isSome = true → a.processing = true ∧ a.error = none
  write : ∀ a, ρ.active = some a → a.write.isSome = true →
    a.processing = true ∧ a.error = none ∧ ρ.state.response.committed = true
  failed : ∀ a, ρ.active = some a → a.error.isSome = true →
    a.processing = true ∧ a.demand = none ∧ a.write = none ∧ a.errorListeners = []
  fresh : ρ.state.response.committed = false →
    ρ.state.response.committedLength = none ∧ ρ.state.response.lastWritten = false

/-- A demand waits only with an exchange that is handled and has not failed. -/
theorem Move.coherent_demand (hm : ρ.Move e closing ρ') (hk : ρ.Coherent) {a' : Active κ}
    (ha' : ρ'.active = some a') (hd : a'.demand.isSome = true) :
    a'.processing = true ∧ a'.error = none := by
  cases hm with
  | stay | edit | answerFinal | complete | recycle | stickFinal | tellFailure | stickError
  | conclude => exact hk.demand a' ha' hd
  | create | contentAvailable | storeFailure =>
    cases ha'
    cases hd
  | enable ha =>
    cases ha'
    exact ⟨rfl, (hk.demand _ ha hd).2⟩
  | demand job ha herror hprocessing =>
    cases ha'
    exact ⟨hprocessing, herror⟩
  | listenForError _ ha | send _ _ ha | withhold ha | stick _ ha =>
    cases ha'
    have hold := hk.demand _ ha
    exact hold hd
  | answer =>
    obtain ⟨a, ha, rfl⟩ := Option.map_eq_some_iff.1 ha'
    exact hk.demand a ha hd
  | succeed | fail | mismatch | tellSuccess | sendFinal | sendError => cases ha'

/-- So does a write, and the head is fixed by then. -/
theorem Move.coherent_write (hm : ρ.Move e closing ρ') (hk : ρ.Coherent) {a' : Active κ}
    (ha' : ρ'.active = some a') (hw : a'.write.isSome = true) :
    a'.processing = true ∧ a'.error = none ∧ ρ'.state.response.committed = true := by
  cases hm with
  | stay | answerFinal | complete | tellFailure | conclude => exact hk.write a' ha' hw
  | edit hedit =>
    rw [hedit.same]
    exact hk.write a' ha' hw
  | create | storeFailure | withhold =>
    cases ha'
    cases hw
  | contentAvailable ha | demand _ ha | listenForError _ ha =>
    cases ha'
    have hold := hk.write _ ha
    exact hold hw
  | enable ha =>
    cases ha'
    exact ⟨rfl, (hk.write _ ha hw).2⟩
  | send _ _ ha hadm hfix | stick _ ha hadm hfix =>
    -- the write that is pending now was admitted, and has fixed the head
    cases ha'
    obtain ⟨-, herror, -⟩ := Active.admission_eq_send hadm
    have hprocessing := Active.processing_of_admission hadm
    exact ⟨hprocessing, herror, hfix.committed_eq⟩
  | answer =>
    obtain ⟨a, ha, rfl⟩ := Option.map_eq_some_iff.1 ha'
    cases hw
  | succeed | fail | mismatch | tellSuccess | sendFinal | sendError => cases ha'
  | recycle _ _ _ hend | stickFinal _ hend | stickError _ _ _ hend =>
    cases hend.detached.symm.trans ha'

/-- With an exchange that failed nothing waits. -/
theorem Move.coherent_failed (hm : ρ.Move e closing ρ') (hk : ρ.Coherent) {a' : Active κ}
    (ha' : ρ'.active = some a') (hf : a'.error.isSome = true) :
    a'.processing = true ∧ a'.demand = none ∧ a'.write = none ∧ a'.errorListeners = [] := by
  cases hm with
  | stay | edit | answerFinal | complete | recycle | stickFinal | tellFailure | stickError
  | conclude => exact hk.failed a' ha' hf
  | create =>
    cases ha'
    cases hf
  | contentAvailable ha =>
    cases ha'
    obtain ⟨hprocessing, -, hrest⟩ := hk.failed _ ha hf
    exact ⟨hprocessing, rfl, hrest⟩
  | storeFailure =>
    cases ha'
    exact ⟨rfl, rfl, rfl, rfl⟩
  | enable ha =>
    cases ha'
    exact ⟨rfl, (hk.failed _ ha hf).2⟩
  | demand _ ha herror | listenForError _ ha herror =>
    cases ha'
    rw [herror] at hf
    cases hf
  | send _ _ ha hadm | withhold ha hadm | stick _ ha hadm =>
    cases ha'
    rw [(Active.admission_eq_send hadm).2.1] at hf
    cases hf
  | answer =>
    obtain ⟨a, ha, rfl⟩ := Option.map_eq_some_iff.1 ha'
    obtain ⟨hprocessing, hdemand, -, hlisteners⟩ := hk.failed a ha hf
    exact ⟨hprocessing, hdemand, rfl, hlisteners⟩
  | succeed | fail | mismatch | tellSuccess | sendFinal | sendError => cases ha'

/-- As long as the head is not fixed no length is, and no last write was made. -/
theorem Move.coherent_fresh (hm : ρ.Move e closing ρ') (hk : ρ.Coherent)
    (hc : ρ'.state.response.committed = false) :
    ρ'.state.response.committedLength = none ∧ ρ'.state.response.lastWritten = false := by
  cases hm with
  | stay | contentAvailable | enable | demand | listenForError | complete | storeFailure | answer
  | answerFinal | succeed | fail | tellFailure | conclude => exact hk.fresh hc
  | create | recycle => exact ⟨rfl, rfl⟩
  | edit hedit =>
    rw [hedit.same] at hc ⊢
    exact hk.fresh hc
  | send _ _ _ _ hfix | withhold _ _ hfix | stick _ _ _ hfix | mismatch _ _ _ _ hfix
  | tellSuccess _ _ _ hfix | sendFinal _ _ _ hfix | stickFinal _ _ _ _ hfix
  | sendError _ _ _ _ _ _ hfix | stickError _ _ _ _ _ _ hfix =>
    exact absurd hc (hfix.not_uncommitted rfl)

theorem Move.coherent (hm : ρ.Move e closing ρ') (hk : ρ.Coherent) : ρ'.Coherent where
  demand _ := hm.coherent_demand hk
  write _ := hm.coherent_write hk
  failed _ := hm.coherent_failed hk
  fresh := hm.coherent_fresh hk

theorem coherent_new : Coherent (⟨default, none, []⟩ : Record κ) where
  demand _ h := nomatch h
  write _ h := nomatch h
  failed _ h := nomatch h
  fresh _ := ⟨rfl, rfl⟩

end Record

namespace World

open Record

variable {w : World κ ε}

/-- The record of every exchange is coherent in every state of a run. -/
theorem Possible.coherent (h : w.Possible) (e : ExchangeRef) : (w.record e).Coherent :=
  h.record_induct e coherent_new fun _ _ hk hm => hm.coherent hk

theorem Possible.response_consistent (h : w.Possible) (e : ExchangeRef) :
    (w.exchange e).response.Consistent := by
  have hopen : (w.exchange e).response.committed = false →
      (w.exchange e).response.written = 0 ∧ (w.exchange e).response.committedLength = none ∧
      (w.exchange e).response.lastWritten = false :=
    fun hc => ⟨(h.measured e).fresh hc, (h.coherent e).fresh hc⟩
  refine ⟨hopen, fun hlast => ?_⟩
  cases hc : (w.exchange e).response.committed with
  | true => rfl
  | false => cases hlast.symm.trans (hopen hc).2.2

theorem Possible.active_consistent (h : w.Possible) {e : ExchangeRef} {a : Active κ}
    (ha : w.activeFor? e = some a) : a.Consistent (w.exchange e) where
  demand := (h.coherent e).demand a ha
  write := (h.coherent e).write a ha
  failed f hf := by
    obtain ⟨hprocessing, hdemand, hwrite, hlisteners⟩ := (h.coherent e).failed a ha (by rw [hf]; rfl)
    exact ⟨hprocessing, hdemand, hwrite, hlisteners, (h.failure_eq ha).trans hf⟩

end World

/-- **The flags of an exchange.** An exchange that is active has a stream, and its flags are
consistent, those of its running part and those of its response. The response of an exchange that
ended is consistent too. -/
theorem flags_consistent {w : World κ ε} (hw : Reachable w) :
    (∀ e a, w.activeFor? e = some a →
      (∃ stream, w.channel.stream = some stream) ∧ a.Consistent (w.exchange e)) ∧
    ∀ e, (w.exchange e).response.Consistent := by
  have h := hw.possible
  exact ⟨fun e a ha => ⟨h.sound.exists_stream ha, h.active_consistent ha⟩,
    h.response_consistent⟩

/-- An exchange that waits for content and for the end of a write has not failed, and its head is
fixed. -/
theorem flags_consistent_allWaiting :
    ∃ a, (World.afterNumbered allWaiting).activeFor? ⟨0⟩ = some a ∧ a.demand.isSome = true ∧
      a.write.isSome = true ∧ a.processing = true ∧ a.error = none ∧
      ((World.afterNumbered allWaiting).exchange ⟨0⟩).response.committed = true ∧
      ∃ stream, (World.afterNumbered allWaiting).channel.stream = some stream := by
  have hactive : ((World.afterNumbered allWaiting).activeFor? ⟨0⟩).isSome = true := by
    decide +kernel
  have hwaits : ((World.afterNumbered allWaiting).activeFor? ⟨0⟩).all
      (fun a => a.demand.isSome && a.write.isSome) = true := by decide +kernel
  obtain ⟨a, ha⟩ := Option.isSome_iff_exists.1 hactive
  rw [ha, Option.all_some, Bool.and_eq_true] at hwaits
  obtain ⟨hstream, hflags⟩ := (flags_consistent permitted_allWaiting.reachable_numbered).1 ⟨0⟩ a ha
  obtain ⟨hprocessing, herror, hcommitted⟩ := hflags.write hwaits.2
  exact ⟨a, ha, hwaits.1, hwaits.2, hprocessing, herror, hcommitted, hstream⟩

end HttpExchange
