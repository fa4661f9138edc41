import HttpExchange.Proofs.Step

/-!
# What a change of the state leaves alone

Each change of `World` in terms of the four views that statements about exchanges use: the exchange
itself, its running part, its history, and the callbacks of sends that were not called yet.

A step of the engine is made of a few such changes, and most of what is claimed of it is that it
leaves something alone. So each change has a lemma for each view, which says what becomes of it, and
the proofs about steps rewrite with these and never open the changes. Where a view is not touched at
all the lemma is for `simp`.

The views of one exchange make up its record. What is known of the records after a change is put
together in the second half, in two lemmas where it matters: one for the record of the exchange that
is changed (`record_note_self` and its like), and one for those of all others
(`record_modifyExchange_of_ne`).
-/

namespace HttpExchange.World

variable {κ ε : Type} (w : World κ ε)

/-! ## Exchanges -/

/-- A changed exchange is the only one that is different, if there is such an exchange at all. -/
theorem exchange_modifyExchange (e : ExchangeRef) (f : Exchange → Exchange) (g : ExchangeRef) :
    (w.modifyExchange e f).exchange g =
      if g = e ∧ g.index < w.exchanges.size then f (w.exchange g) else w.exchange g := by
  obtain ⟨i⟩ := e
  obtain ⟨j⟩ := g
  simp only [exchange, modifyExchange, Array.getD_eq_getD_getElem?, Array.getElem?_modify,
    ExchangeRef.mk.injEq]
  by_cases hij : i = j
  · subst hij
    by_cases hi : i < w.exchanges.size
    · simp [hi]
    · simp [hi]
  · rw [if_neg hij, if_neg fun h => hij h.1.symm]

/-- An exchange that exists is changed as asked. -/
theorem exchange_modifyExchange_self {e : ExchangeRef} (h : e.index < w.exchanges.size)
    (f : Exchange → Exchange) : (w.modifyExchange e f).exchange e = f (w.exchange e) := by
  rw [exchange_modifyExchange, if_pos ⟨rfl, h⟩]

/-- The other exchanges are not. -/
theorem exchange_modifyExchange_of_ne {e g : ExchangeRef} (h : g ≠ e) (f : Exchange → Exchange) :
    (w.modifyExchange e f).exchange g = w.exchange g := by
  rw [exchange_modifyExchange, if_neg fun hg => h hg.1]

/-- Changes that agree on an exchange change it alike. -/
theorem modifyExchange_congr (e : ExchangeRef) {f g : Exchange → Exchange}
    (h : f (w.exchange e) = g (w.exchange e)) : w.modifyExchange e f = w.modifyExchange e g := by
  obtain ⟨i⟩ := e
  simp only [modifyExchange, World.mk.injEq, true_and, and_true]
  refine Array.ext (by simp) fun j hj _ => ?_
  have hj' : j < w.exchanges.size := by simpa using hj
  by_cases hij : i = j
  · subst hij
    have hx : w.exchange ⟨i⟩ = w.exchanges[i] := by simp [exchange, hj']
    rw [hx] at h
    simp [Array.getElem_modify, h]
  · simp [Array.getElem_modify, hij]

/-- A change that leaves the exchange as it is changes nothing. -/
theorem modifyExchange_eq_self (e : ExchangeRef) {f : Exchange → Exchange}
    (h : f (w.exchange e) = w.exchange e) : w.modifyExchange e f = w := by
  rw [modifyExchange_congr w e (g := id) h]
  have hsame : w.exchanges.modify e.index id = w.exchanges := by
    refine Array.ext (by simp) fun j hj hj' => ?_
    rw [Array.getElem_modify]
    split <;> rfl
  rw [modifyExchange, hsame]

/-- Two changes of an exchange are one. -/
theorem modifyExchange_modifyExchange (e : ExchangeRef) (f g : Exchange → Exchange) :
    (w.modifyExchange e f).modifyExchange e g = w.modifyExchange e fun x => g (f x) := by
  obtain ⟨i⟩ := e
  simp only [modifyExchange, World.mk.injEq, true_and, and_true]
  refine Array.ext (by simp) fun j hj hj' => ?_
  by_cases hij : i = j
  · simp [Array.getElem_modify, hij]
  · simp [Array.getElem_modify, hij]

@[simp] theorem size_modifyExchange (e : ExchangeRef) (f : Exchange → Exchange) :
    (w.modifyExchange e f).exchanges.size = w.exchanges.size := by
  simp [modifyExchange]

@[simp] theorem size_modifyResponse (e : ExchangeRef) (f : Response → Response) :
    (w.modifyResponse e f).exchanges.size = w.exchanges.size :=
  size_modifyExchange w e _

@[simp] theorem size_accept (e : ExchangeRef) (last : Bool) (callback : Callback κ)
    (chunks : List Octets) :
    (w.accept e last callback chunks).exchanges.size = w.exchanges.size :=
  size_modifyResponse (w.enterWrote e callback last chunks) e (·.accept last chunks)

/-- The phase is no part of the response. -/
theorem response_setPhase (e : ExchangeRef) (phase : Phase) :
    ((w.setPhase e phase).exchange e).response = (w.exchange e).response := by
  rw [setPhase, exchange_modifyExchange]
  split <;> rfl

/-- A new exchange comes behind the others. -/
theorem exchange_push (x : Exchange) (e : ExchangeRef) :
    { w with exchanges := w.exchanges.push x }.exchange e =
      if e.index = w.exchanges.size then x else w.exchange e := by
  simp only [exchange, Array.getD_eq_getD_getElem?, Array.getElem?_push]
  split <;> rfl

/-! ## The running part -/

/-- At most one exchange is active. -/
theorem activeFor?_eq_some {e : ExchangeRef} {a : Active κ} :
    w.activeFor? e = some a ↔ w.channel.active = some a ∧ a.exchange = e := by
  simp [activeFor?, Option.filter_eq_some_iff]

/-- A change that leaves it alone which exchange is active changes the running part of that. -/
theorem activeFor?_modifyActive {f : Active κ → Active κ} (hf : ∀ a, (f a).exchange = a.exchange)
    (e : ExchangeRef) : (w.modifyActive f).activeFor? e = (w.activeFor? e).map f := by
  simp only [activeFor?, modifyActive, modifyChannel]
  cases w.channel.active with
  | none => rfl
  | some a =>
    by_cases h : a.exchange = e
    · simp [Option.filter, hf, h]
    · simp [Option.filter, hf, h]

/-- At most one exchange is active. -/
theorem activeFor?_of_ne {e g : ExchangeRef} {a : Active κ} (h : w.activeFor? e = some a)
    (hne : g ≠ e) : w.activeFor? g = none := by
  obtain ⟨ha, rfl⟩ := (activeFor?_eq_some w).1 h
  simp [activeFor?, ha, Option.filter, Ne.symm hne]

/-! ## The history -/

/-- A deed enters the history of the exchange that it was done for. -/
theorem history_note (d : Deed κ) (e : ExchangeRef) :
    (w.note d).history e = if d.exchange? = some e then d :: w.history e else w.history e := by
  simp only [history, note, List.filter_cons]
  split <;> simp_all

theorem history_note_self {d : Deed κ} {e : ExchangeRef} (h : d.exchange? = some e) :
    (w.note d).history e = d :: w.history e := by
  rw [history_note, if_pos h]

theorem history_note_of_ne {d : Deed κ} {e : ExchangeRef} (h : d.exchange? ≠ some e) :
    (w.note d).history e = w.history e := by
  rw [history_note, if_neg h]

/-- The history of an exchange are the deeds that were done for it. -/
theorem mem_history {d : Deed κ} {e : ExchangeRef} :
    d ∈ w.history e ↔ d ∈ w.deeds ∧ d.exchange? = some e := by
  simp [history]

/-! ## Records -/

/-- A record is the data of an exchange, its running part and its history. -/
theorem record_eq_of_views {w w' : World κ ε} {e : ExchangeRef}
    (hx : w'.exchange e = w.exchange e) (ha : w'.activeFor? e = w.activeFor? e)
    (hh : w'.history e = w.history e) : w'.record e = w.record e := by
  rw [record, record, hx, ha, hh]

/-- Deeds that were done for another exchange do not count. -/
theorem record_note_of_ne {d : Deed κ} {e : ExchangeRef} (h : d.exchange? ≠ some e) :
    (w.note d).record e = w.record e :=
  record_eq_of_views rfl rfl (history_note_of_ne w h)

/-- Whoever listens to an exchange has no part in it. -/
theorem record_note_listening (g : ExchangeRef) (listener : κ) (e : ExchangeRef) :
    (w.note (.listening g listener)).record e = w.record e :=
  record_note_of_ne w (by simp [Deed.exchange?])

/-- What is noted for one exchange is none of the others' business. -/
theorem record_note_beside {d : Deed κ} {e g : ExchangeRef} (hd : d.exchange? = some e)
    (hne : g ≠ e) : (w.note d).record g = w.record g := by
  refine record_note_of_ne w ?_
  rw [hd]
  exact fun h => hne (Option.some.inj h).symm

/-- Another exchange does not count. -/
theorem record_modifyExchange_of_ne {e g : ExchangeRef} (h : g ≠ e) (f : Exchange → Exchange) :
    (w.modifyExchange e f).record g = w.record g :=
  record_eq_of_views (exchange_modifyExchange_of_ne w h f) rfl rfl

/-- A change of the active exchange is none for the others. -/
theorem record_modifyActive_of_none {f : Active κ → Active κ}
    (hf : ∀ a, (f a).exchange = a.exchange) {e : ExchangeRef} (h : w.activeFor? e = none) :
    (w.modifyActive f).record e = w.record e :=
  record_eq_of_views rfl (by rw [activeFor?_modifyActive w hf, h]; rfl) rfl

@[simp] theorem record_setQueue (name : QueueName) (q : Queue κ) (e : ExchangeRef) :
    (w.setQueue name q).record e = w.record e := by
  cases name <;> rfl

@[simp] theorem record_offer (name : QueueName) (tasks : List (Task κ)) (e : ExchangeRef) :
    (w.offer name tasks).record e = w.record e := by
  rw [offer, record_note_of_ne _ (by simp [Deed.exchange?]), record_setQueue]

@[simp] theorem record_addFailure (error : ExchangeError) (e : ExchangeRef) :
    (w.addFailure error).record e = w.record e := rfl

/-- Starting a task is done for no exchange. -/
theorem record_nextTask (name : QueueName) (e : ExchangeRef) :
    (Engine.nextTask name w).2.record e = w.record e := by
  simp only [Engine.nextTask, Effect.modifyGet]
  split
  · exact record_setQueue ..
  · show ((w.setQueue name _).note _).record e = w.record e
    rw [record_note_of_ne _ (by simp [Deed.exchange?]), record_setQueue]

theorem record_enter (entry : Entry κ) (e : ExchangeRef) :
    (w.enter entry).record e = w.record e := rfl

theorem record_tell (p : PromiseRef) (state : PromiseState) (e : ExchangeRef) :
    (w.tell p state).record e = w.record e := by
  unfold tell
  split <;> rfl

@[simp] theorem record_refuse (callback : Callback κ) (why : ExchangeError) (e : ExchangeRef) :
    (w.refuse callback why).record e = w.record e := by
  rw [refuse, record_offer, record_enter, record_addFailure]

/-- A change of the channel that keeps the active exchange is none for the records. -/
theorem record_modifyChannel {f : Channel κ → Channel κ}
    (h : (f w.channel).active = w.channel.active) (e : ExchangeRef) :
    (w.modifyChannel f).record e = w.record e :=
  record_eq_of_views rfl (by simp only [activeFor?, modifyChannel, h]) rfl

/-- A deed is put before those that were done earlier. -/
theorem record_note_self {d : Deed κ} {e : ExchangeRef} (h : d.exchange? = some e) :
    (w.note d).record e = { w.record e with history := d :: w.history e } := by
  simp only [record, history_note_self w h]
  rfl

/-- Only the data of the exchange changes. -/
theorem record_modifyExchange_self {e : ExchangeRef} (h : e.index < w.exchanges.size)
    (f : Exchange → Exchange) :
    (w.modifyExchange e f).record e = { w.record e with state := f (w.exchange e) } := by
  simp only [record, exchange_modifyExchange_self w h]
  rfl

/-- Only the running part changes, if the change keeps whose it is. -/
theorem record_modifyActive_self {f : Active κ → Active κ}
    (hf : ∀ a, (f a).exchange = a.exchange) (e : ExchangeRef) :
    (w.modifyActive f).record e = { w.record e with active := (w.activeFor? e).map f } := by
  simp only [record, activeFor?_modifyActive w hf]
  rfl

/-- An accepted write is counted in the response and waits for its end. -/
theorem record_accept_self {e : ExchangeRef} (h : e.index < w.exchanges.size) (last : Bool)
    (callback : Callback κ) (chunks : List Octets) :
    (w.accept e last callback chunks).record e =
      ⟨{ w.exchange e with response := (w.exchange e).response.accept last chunks },
        (w.activeFor? e).map fun a => { a with write := some callback }, w.history e⟩ := by
  rw [accept, record_modifyActive_self]
  · rw [modifyResponse, record_modifyExchange_self (w.enterWrote e callback last chunks) h]
    rfl
  · exact fun _ => rfl

theorem record_handOver_of_ne {e g : ExchangeRef} (h : g ≠ e) (s : Sending κ) :
    (w.handOver e s).record g = w.record g := by
  rw [handOver, record_note_beside _ rfl h]
  rfl

/-- A send is put before what was done earlier. -/
theorem record_handOver_self (e : ExchangeRef) (s : Sending κ) :
    (w.handOver e s).record e = { w.record e with history := .sent e s :: w.history e } := by
  rw [handOver, record_note_self _ rfl]
  rfl

theorem record_answer_of_ne {e g : ExchangeRef} (h : g ≠ e) (ref : SendRef) (result : Result) :
    (w.answer e ref result).record g = w.record g := by
  rw [answer, record_note_beside _ rfl h]
  rfl

/-- The end of a send is put before what was done earlier. -/
theorem record_answer_self (e : ExchangeRef) (ref : SendRef) (result : Result) :
    (w.answer e ref result).record e =
      { w.record e with history := .sendEnded e ref result :: w.history e } := by
  rw [answer, record_note_self _ rfl]
  rfl

@[simp] theorem failures_dropWrite (e : ExchangeRef) : (w.dropWrite e).failures = w.failures := by
  unfold dropWrite
  split <;> rfl

/-- A callback that is not there need not be taken out. -/
theorem dropWrite_of_none {e : ExchangeRef}
    (h : ∀ active, w.activeFor? e = some active → active.write = none) :
    w.dropWrite e = w := by
  unfold dropWrite
  split
  next hsome =>
    obtain ⟨active, ha⟩ := Option.isSome_iff_exists.1 hsome
    have hnone := h active ha
    obtain ⟨hactive, -⟩ := (activeFor?_eq_some w).1 ha
    have hsame : w.channel.active.map (fun a => { a with write := none }) = w.channel.active := by
      rw [hactive]
      obtain ⟨_, _, _, _, _, _⟩ := active
      cases hnone
      rfl
    exact congrArg (fun active : Option (Active κ) =>
      { w with channel := { w.channel with active } }) hsame
  next => rfl

/-- The pending write is dropped from the running part. -/
theorem record_dropWrite_self (e : ExchangeRef) :
    (w.dropWrite e).record e =
      { w.record e with active := (w.activeFor? e).map fun a => { a with write := none } } := by
  unfold dropWrite
  split
  next =>
    rw [record_modifyActive_self]
    exact fun _ => rfl
  next h =>
    have hn : w.activeFor? e = none := by simpa using h
    rw [record, hn]
    rfl

theorem record_dropWrite_of_ne {e g : ExchangeRef} (h : g ≠ e) :
    (w.dropWrite e).record g = w.record g := by
  unfold dropWrite
  split
  next hs =>
    obtain ⟨a, ha⟩ := Option.isSome_iff_exists.1 hs
    refine record_modifyActive_of_none w ?_ (activeFor?_of_ne w ha h)
    exact fun _ => rfl
  next => rfl

/-- A detached exchange has no running part any more. -/
theorem record_detach_self (e : ExchangeRef) (cause : Option FailureRef) :
    (w.detach e cause).record e =
      ⟨w.exchange e, none, .ended e w.channel.stream cause :: w.history e⟩ := by
  have h : (w.detach e cause).history e = .ended e w.channel.stream cause :: w.history e :=
    history_note_self w rfl
  rw [record, h]
  rfl

/-- The records of the others stay as they are, because at most one exchange is active. -/
theorem record_detach_of_ne {e g : ExchangeRef} {a : Active κ} (ha : w.activeFor? e = some a)
    (h : g ≠ e) (cause : Option FailureRef) : (w.detach e cause).record g = w.record g :=
  record_eq_of_views rfl (by rw [activeFor?_of_ne w ha h]; rfl)
    (history_note_of_ne w (by simpa [Deed.exchange?] using Ne.symm h))

/-- A first failure is stored, and nothing waits any more. -/
theorem record_storeFailure_self {a : Active κ} (h : a.exchange.index < w.exchanges.size)
    (ha : w.activeFor? a.exchange = some a) (cause : FailureRef) :
    (w.storeFailure a cause).record a.exchange =
      ⟨{ w.exchange a.exchange with
          failure := (w.exchange a.exchange).failure.or (some cause),
          phase := if a.processing then (w.exchange a.exchange).phase else .processing },
        some { a with
          error := some cause, processing := true, demand := none, write := none,
          errorListeners := [] },
        w.history a.exchange⟩ := by
  rw [storeFailure, record_offer, record_modifyActive_self, record_modifyExchange_self w h]
  · show Record.mk _ ((w.activeFor? _).map _) _ = _
    rw [ha]
    rfl
  · exact fun _ => rfl

theorem record_storeFailure_of_ne {a : Active κ} {e : ExchangeRef} (h : e ≠ a.exchange)
    (ha : w.activeFor? e = none) (cause : FailureRef) :
    (w.storeFailure a cause).record e = w.record e := by
  rw [storeFailure, record_offer, record_modifyActive_of_none]
  · exact record_modifyExchange_of_ne w h _
  · exact fun _ => rfl
  · exact ha

/-! ## The head -/

namespace HeadFixed

variable {w} {w' : World κ ε} {e : ExchangeRef} {last commits : Bool} {head : Option ResponseHead}

/-- Only the exchange whose head is fixed changes. -/
theorem record_of_ne (h : w.HeadFixed e last commits w' head) {g : ExchangeRef} (hne : g ≠ e) :
    w'.record g = w.record g := by
  cases h with
  | before => rfl
  | now outside fields => exact record_modifyExchange_of_ne w hne _

theorem size_eq (h : w.HeadFixed e last commits w' head) :
    w'.exchanges.size = w.exchanges.size := by
  cases h with
  | before => rfl
  | now outside fields => exact size_modifyExchange w e _

/-- The channel does not take part in fixing a head. -/
theorem channel_eq (h : w.HeadFixed e last commits w' head) : w'.channel = w.channel := by
  cases h <;> rfl

/-- Fixing a head is no deed. -/
theorem deeds_eq (h : w.HeadFixed e last commits w' head) : w'.deeds = w.deeds := by
  cases h <;> rfl

/-- Nothing is sent by fixing a head. -/
theorem sends_eq (h : w.HeadFixed e last commits w' head) : w'.sends = w.sends := by
  cases h <;> rfl

theorem ledger_eq (h : w.HeadFixed e last commits w' head) : w'.ledger = w.ledger := by
  cases h <;> rfl

theorem failures_eq (h : w.HeadFixed e last commits w' head) : w'.failures = w.failures := by
  cases h <;> rfl

end HeadFixed

end HttpExchange.World
