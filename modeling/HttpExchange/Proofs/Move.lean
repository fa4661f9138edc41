import HttpExchange.Proofs.Record

/-!
# Steps of the engine as moves of an exchange

Every step of the engine moves the record of every exchange (`Step.move`), and keeps what ties the
records to the state (`Step.sound`). The step of one exchange leaves the records of the others
alone, except that at most one exchange can be active.

Invariants of an exchange are proved of moves, which know nothing of the other exchanges, of the
queue or of streams (`Proofs.Record`). This module is what makes that enough. There is one lemma for
each kind of step (`World.Moves`), and it has two halves: the exchange that the step is about makes
the move of this name, and the record of any other exchange is as it was.

Records do not say everything. That an active exchange exists and has a stream, that callbacks of
sends belong to the exchange that made the send, and that nothing was done for exchanges that are
still to come are facts about the whole state. They are `World.Sound`, and the second half of the
module shows that a step keeps them, by what it does to the callbacks of sends (`World.Calls`) and
to the active exchange (`World.Bounded`).
-/

namespace HttpExchange

variable {κ ε : Type}

open World Record

/-! ## Every step moves every record -/

/-- A move may come to a record that is written in another way. -/
theorem Record.Move.trans_eq {e : ExchangeRef} {closing : Prop} {ρ ρ₁ ρ₂ : Record κ}
    (h : Move e closing ρ ρ₁) (heq : ρ₂ = ρ₁) : Move e closing ρ ρ₂ := heq ▸ h

/-- A record that is as it was has not moved. -/
theorem Record.Move.of_eq {e : ExchangeRef} {closing : Prop} {ρ ρ' : Record κ} (h : ρ' = ρ) :
    Move e closing ρ ρ' := .trans_eq .stay h

/-- Whether a deed is about the callback of a send. -/
def Deed.isCall : Deed κ → Bool
  | .sent _ _ | .sendEnded _ _ _ => true
  | _ => false

namespace World

variable {w w' : World κ ε} {e : ExchangeRef}

/-- The active exchange exists. -/
theorem Sound.index_lt_of_active (hs : w.Sound) {a : Active κ} (h : w.activeFor? e = some a) :
    e.index < w.exchanges.size := by
  obtain ⟨ha, rfl⟩ := (activeFor?_eq_some w).1 h
  exact (hs.exists_active a ha).1

/-- An active exchange has a stream. -/
theorem Sound.exists_stream (hs : w.Sound) {a : Active κ} (h : w.activeFor? e = some a) :
    ∃ stream, w.channel.stream = some stream :=
  Option.isSome_iff_exists.1 (hs.exists_active a ((activeFor?_eq_some w).1 h).1).2

/-- An exchange for which something was done exists. -/
theorem Sound.index_lt_of_mem (hs : w.Sound) {d : Deed κ} (h : d ∈ w.history e) :
    e.index < w.exchanges.size := by
  refine Nat.lt_of_not_le fun hle => ?_
  rw [hs.unborn e hle] at h
  exact List.not_mem_nil h

/-- An exchange that is about to end exists. -/
theorem Sound.index_lt_of_ending (hs : w.Sound) {stream : Option Stream}
    {cause : Option FailureRef} (h : (w.record e).Ending e stream cause) :
    e.index < w.exchanges.size := by
  obtain ⟨late, earlier, hh, -⟩ := h.latest
  refine hs.index_lt_of_mem (d := .ended e stream cause) ?_
  show _ ∈ (w.record e).history
  rw [hh]
  simp

/-- The number that the next send gets was not used before. -/
theorem Sound.ref_ne (hs : w.Sound) {s : Sending κ} (hmem : .sent e s ∈ w.deeds) :
    s.ref ≠ ⟨w.sends.size⟩ := by
  intro href
  have hlt := hs.numbered e s hmem
  rw [href] at hlt
  exact Nat.lt_irrefl _ hlt

/-- No send with the next number has ended. -/
theorem Sound.not_answered (hs : w.Sound) (result : Result) :
    .sendEnded e ⟨w.sends.size⟩ result ∉ w.deeds :=
  fun hmem => Nat.lt_irrefl _ (hs.answered e _ result hmem)

/-- The next number tells a send apart from those before. -/
theorem Sound.newSend (hs : w.Sound) (e : ExchangeRef) :
    NewSend e (w.history e) ⟨w.sends.size⟩ where
  unused _ hmem := hs.ref_ne ((mem_history w).1 hmem).1
  unanswered result hmem := hs.not_answered result ((mem_history w).1 hmem).1

/-- What fixing the head of a response makes of its record. -/
theorem HeadFixed.record_self {last commits : Bool} {head : Option ResponseHead}
    (h : w.HeadFixed e last commits w' head) (hlt : e.index < w.exchanges.size) :
    ∃ r, (w.exchange e).response.HeadFixed last commits r head ∧
      (w'.exchange e).response = r ∧
      w'.record e = { w.record e with state := { w.exchange e with response := r } } := by
  cases h with
  | before => exact ⟨_, .before, rfl, rfl⟩
  | now outside fields =>
    have hr : (w.fixHead e last outside fields).record e =
        { w.record e with
          state := { w.exchange e with
            response := { (w.exchange e).response.freeze last with fields } } } :=
      record_modifyExchange_self w hlt _
    have hx : ((w.fixHead e last outside fields).exchange e).response =
        { (w.exchange e).response.freeze last with fields } :=
      congrArg (·.state.response) hr
    refine ⟨_, ?_, hx, hr⟩
    rw [headOf, hx]
    exact .now _ fields

/-- An accepted write has its record with the head fixed if it is the first. -/
theorem HeadFixed.record_accept {last commits : Bool} {head : Option ResponseHead}
    {callback : Callback κ} {chunks : List Octets} {a : Active κ}
    (h : (w.accept e last callback chunks).HeadFixed e last commits w' head)
    (hlt : e.index < w.exchanges.size) (ha : w.activeFor? e = some a) :
    ∃ r, ((w.exchange e).response.accept last chunks).HeadFixed last commits r head ∧
      (w'.exchange e).response = r ∧
      w'.record e = ⟨{ w.exchange e with response := r }, some { a with write := some callback },
        w.history e⟩ := by
  have hrec := record_accept_self w hlt last callback chunks
  have hlt' : e.index < (w.accept e last callback chunks).exchanges.size := by
    rwa [size_accept]
  obtain ⟨r, hr, hx, hw'⟩ := h.record_self hlt'
  have hacc : (w.accept e last callback chunks).exchange e =
      { w.exchange e with response := (w.exchange e).response.accept last chunks } :=
    congrArg (·.state) hrec
  rw [hacc] at hr hw'
  refine ⟨r, hr, hx, ?_⟩
  rw [hw', hrec, ha]
  rfl

/-- An accepted write of one exchange is none of another. -/
theorem record_accept_of_ne {g : ExchangeRef} {a : Active κ} (ha : w.activeFor? e = some a)
    (h : g ≠ e) (last : Bool) (callback : Callback κ) (chunks : List Octets) :
    (w.accept e last callback chunks).record g = w.record g := by
  rw [accept, record_modifyActive_of_none]
  · exact record_modifyExchange_of_ne (w.enterWrote e callback last chunks) h _
  · exact fun _ => rfl
  · exact activeFor?_of_ne w ha h

/-- Nor does fixing its head change another. -/
theorem HeadFixed.record_accept_of_ne {last commits : Bool} {head : Option ResponseHead}
    {callback : Callback κ} {chunks : List Octets} {a : Active κ} {g : ExchangeRef}
    (h : (w.accept e last callback chunks).HeadFixed e last commits w' head)
    (ha : w.activeFor? e = some a) (hne : g ≠ e) : w'.record g = w.record g :=
  (h.record_of_ne hne).trans (World.record_accept_of_ne ha hne last callback chunks)

/-- A response that is changed and then has its head fixed changes nothing else of its record. -/
theorem HeadFixed.record_modifyResponse {f : Response → Response} {last commits : Bool}
    {head : Option ResponseHead}
    (h : (w.modifyResponse e f).HeadFixed e last commits w' head)
    (hlt : e.index < w.exchanges.size) :
    ∃ r, (f (w.exchange e).response).HeadFixed last commits r head ∧
      (w'.exchange e).response = r ∧
      w'.record e = { w.record e with state := { w.exchange e with response := r } } := by
  have hlt' : e.index < (w.modifyResponse e f).exchanges.size := by
    rwa [size_modifyResponse]
  obtain ⟨r, hr, hx, hw'⟩ := h.record_self hlt'
  have hexc : (w.modifyResponse e f).exchange e =
      { w.exchange e with response := f (w.exchange e).response } :=
    exchange_modifyExchange_self w hlt _
  rw [hexc] at hr hw'
  exact ⟨r, hr, hx, hw'⟩

/-- The same for a response that was changed first. -/
theorem HeadFixed.record_modifyResponse_of_ne {f : Response → Response} {last commits : Bool}
    {head : Option ResponseHead} {g : ExchangeRef}
    (h : (w.modifyResponse e f).HeadFixed e last commits w' head) (hne : g ≠ e) :
    w'.record g = w.record g :=
  (h.record_of_ne hne).trans (record_modifyExchange_of_ne w hne _)

/-- The head of a detached exchange is fixed, and something is noted for it. -/
theorem HeadFixed.record_note {f : Response → Response} {last commits : Bool}
    {head : Option ResponseHead} {d : Deed κ}
    (h : (w.modifyResponse e f).HeadFixed e last commits w' head)
    (hlt : e.index < w.exchanges.size) (hdetached : w.activeFor? e = none)
    (hd : d.exchange? = some e) :
    ∃ r, (f (w.exchange e).response).HeadFixed last commits r head ∧
      (w'.exchange e).response = r ∧
      (w'.note d).record e = ⟨{ w.exchange e with response := r }, none, d :: w.history e⟩ := by
  obtain ⟨r, hr, hx, hw'⟩ := h.record_modifyResponse hlt
  refine ⟨r, hr, hx, ?_⟩
  rw [record_note_self _ hd]
  show Record.mk _ (w'.record e).active (d :: (w'.record e).history) = _
  rw [hw']
  exact congrArg (Record.mk _ · _) hdetached

/-- The end of a send enters the history. -/
theorem history_answer_self (ref : SendRef) (result : Result) :
    (w.answer e ref result).history e = .sendEnded e ref result :: w.history e :=
  congrArg (·.history) (record_answer_self w e ref result)

/-- The record of the exchange that a callback belongs to says so. -/
theorem Sound.unanswered_of_waiting (hs : w.Sound) {ref : SendRef} {callback : SendCallback κ}
    (h : w.sendCallback? ref = some callback)
    (he : callback.IsFor e) :
    ∃ s, .sent e s ∈ w.history e ∧ s.ref = ref ∧ s.callback = callback ∧
      Unanswered e (w.history e) ref := by
  obtain ⟨g, s, hmem, href, hcb, hg, hno⟩ := hs.waiting ref callback h
  have hge : g = e := hg.unique he
  subst hge
  exact ⟨s, (mem_history w).2 ⟨hmem, rfl⟩, href, hcb,
    fun result hr => hno g result ((mem_history w).1 hr).1⟩

/-- Every record is moved. -/
def Moves (A : ExchangeRef → Prop) (w w' : World κ ε) : Prop :=
  ∀ e, (w.record e).Move e (A e) (w'.record e)

namespace Moves

variable {A : ExchangeRef → Prop} {a : Active κ} {callback : Callback κ} {chunks : List Octets}
  {last commits : Bool} {head : Option ResponseHead} {ref : SendRef} {stream : Stream}
  {cause : FailureRef} {result : Result} {fault : ExchangeError}

/-- Nothing is done for any exchange. -/
theorem still (h : ∀ e, w'.record e = w.record e) : w.Moves A w' := fun e => .of_eq (h e)

/-- Something is done for one exchange, and nothing for the others. -/
theorem about (e : ExchangeRef) (hself : (w.record e).Move e (A e) (w'.record e))
    (hother : ∀ g, g ≠ e → w'.record g = w.record g) : w.Moves A w' := by
  intro g
  by_cases hg : g = e
  · subst hg
    exact hself
  · exact .of_eq (hother g hg)

/-! ### Events of the connection -/

/-- The new exchange comes after the last one, and nothing was done for it before. -/
theorem activate (hs : w.Sound) (id : String) (request : RequestHead) (standard : Fields)
    (hactive : w.channel.active = none) :
    w.Moves A ({ w with exchanges := w.exchanges.push (.fresh id request standard) }.modifyChannel
      fun c => { c with active := some (.fresh ⟨w.exchanges.size⟩) }) := by
  refine .about ⟨w.exchanges.size⟩ ?_ fun g hg => record_eq_of_views ?_ ?_ rfl
  · have hnone : w.activeFor? ⟨w.exchanges.size⟩ = none := by simp [activeFor?, hactive]
    have hunborn : w.history ⟨w.exchanges.size⟩ = [] := hs.unborn _ (Nat.le_refl _)
    refine .trans_eq (.create id request standard hnone hunborn) ?_
    simp only [record, activeFor?, modifyChannel]
    congr 1
    · exact (exchange_push w _ _).trans (if_pos rfl)
    · simp [Active.fresh, Option.filter]
  · exact (exchange_push w _ g).trans (if_neg fun h => hg (by rw [← h]))
  · simp [activeFor?, modifyChannel, Active.fresh, Option.filter, hactive, Ne.symm hg]

/-- The demand of the active exchange is taken, whoever that is. -/
theorem contentAvailable (tasks : List (Task κ)) :
    w.Moves A ((w.modifyActive fun a => { a with demand := none }).offer .channel tasks) := by
  intro e
  rw [record_offer]
  cases ha : w.activeFor? e with
  | none =>
    refine .of_eq (record_modifyActive_of_none w ?_ ha)
    exact fun _ => rfl
  | some a =>
    rw [record_modifyActive_self, ha]
    · exact .contentAvailable ha
    · exact fun _ => rfl

/-- Only the active exchange can fail in this way. -/
theorem storeFailure (hs : w.Sound) (cause : FailureRef) (hactive : w.channel.active = some a)
    (herror : a.error = none) : w.Moves A (w.storeFailure a cause) := by
  have ha : w.activeFor? a.exchange = some a := (activeFor?_eq_some w).2 ⟨hactive, rfl⟩
  refine .about a.exchange ?_ fun g hg => ?_
  · refine .trans_eq (.storeFailure cause ha herror) ?_
    exact record_storeFailure_self w (hs.index_lt_of_active ha) ha cause
  · have hnone : w.activeFor? g = none := activeFor?_of_ne w ha hg
    exact record_storeFailure_of_ne w hg hnone cause

/-! ### The application on the active exchange -/

/-- The active exchange is handled from now on. -/
theorem enable (hs : w.Sound) (ha : w.activeFor? e = some a) :
    w.Moves A ((w.modifyActive fun a => { a with processing := true }).setPhase e .processing) := by
  refine .about e (.trans_eq (.enable ha) ?_) fun g hg => ?_
  · rw [setPhase, record_modifyExchange_self, record_modifyActive_self, ha]
    · rfl
    · exact fun _ => rfl
    · exact hs.index_lt_of_active ha
  · rw [setPhase, record_modifyExchange_of_ne _ hg, record_modifyActive_of_none]
    · exact fun _ => rfl
    · exact activeFor?_of_ne w ha hg

/-- A demand waits with the active exchange. -/
theorem demand (job : Job κ) (ha : w.activeFor? e = some a) (herror : a.error = none)
    (hprocessing : a.processing = true) (hdemand : a.demand = none) :
    w.Moves A ((w.enter (.demanded e job)).modifyActive fun a => { a with demand := some job }) := by
  have hactive : (w.enter (.demanded e job)).activeFor? e = some a := ha
  refine .about e (.trans_eq (.demand job ha herror hprocessing hdemand) ?_) fun g hg => ?_
  · rw [record_modifyActive_self, hactive]
    · rfl
    · exact fun _ => rfl
  · refine record_modifyActive_of_none _ ?_ (activeFor?_of_ne w ha hg)
    exact fun _ => rfl

/-- A listener waits with the active exchange. -/
theorem listenForError (listener : κ) (ha : w.activeFor? e = some a) (herror : a.error = none) :
    w.Moves A (((w.note (.listening e listener)).enter (.listened e listener)).modifyActive
      fun a => { a with errorListeners := a.errorListeners ++ [listener] }) := by
  have hactive : ((w.note (.listening e listener)).enter (.listened e listener)).activeFor? e =
    some a := ha
  refine .about e (.trans_eq (.listenForError listener ha herror) ?_) fun g hg => ?_
  · rw [record_modifyActive_self, record_enter, record_note_listening, hactive]
    · rfl
    · exact fun _ => rfl
  · refine (record_modifyActive_of_none _ ?_ (activeFor?_of_ne w ha hg)).trans ?_
    · exact fun _ => rfl
    · exact record_note_listening w e listener g

/-- What is edited of an exchange that does not exist is lost. -/
theorem edit {f : Exchange → Exchange} (hedit : (w.exchange e).Edited (f (w.exchange e))) :
    w.Moves A (w.modifyExchange e f) := by
  refine .about e ?_ fun g hg => record_modifyExchange_of_ne w hg f
  by_cases hlt : e.index < w.exchanges.size
  · rw [record_modifyExchange_self w hlt]
    exact .edit hedit
  · refine .of_eq (record_eq_of_views ?_ rfl rfl)
    rw [exchange_modifyExchange, if_neg fun h => hlt h.2]

/-! ### Admitted writes -/

/-- An admitted write whose bytes fit is handed to the stream. -/
theorem send (hs : w.Sound) (ha : w.activeFor? e = some a)
    (hadm : a.admission (w.exchange e).response last chunks = .send commits)
    (hfix : (w.accept e last callback chunks).HeadFixed e last commits w' head)
    (hfits : (w'.exchange e).response.lengthFault last = none) :
    w.Moves A ((w'.enterSending callback).handOver e
      ⟨⟨w.sends.size⟩, stream, head, last, .pendingWrite e, chunks⟩) := by
  obtain ⟨r, hr, hx, hw'⟩ := hfix.record_accept (hs.index_lt_of_active ha) ha
  rw [hx] at hfits
  refine .about e ?_ fun g hg =>
    (record_handOver_of_ne _ hg _).trans (hfix.record_accept_of_ne ha hg)
  refine .trans_eq (.send callback stream ha hadm hr hfits (hs.newSend e)) ?_
  have hentered : (w'.enterSending callback).record e = w'.record e := rfl
  rw [record_handOver_self, hentered, hw']
  show Record.mk _ _ (_ :: (w'.record e).history) = _
  rw [hw']
  rfl

/-- An admitted write whose bytes do not fit is refused, and the mismatch is noted. -/
theorem withhold (hs : w.Sound) (ha : w.activeFor? e = some a)
    (hadm : a.admission (w.exchange e).response last chunks = .send commits)
    (hfix : (w.accept e last callback chunks).HeadFixed e last commits w' head)
    (hfault : (w'.exchange e).response.lengthFault last = some fault) :
    w.Moves A (((w'.note (.mismatched e)).dropWrite e).refuse callback fault) := by
  obtain ⟨r, hr, hx, hw'⟩ := hfix.record_accept (hs.index_lt_of_active ha) ha
  rw [hx] at hfault
  refine .about e ?_ fun g hg => ?_
  · rw [record_refuse]
    refine .trans_eq (.withhold ha hadm hr hfault) ?_
    rw [record_dropWrite_self, record_note_self _ rfl]
    show Record.mk _ ((w'.record e).active.map _) (_ :: (w'.record e).history) = _
    rw [hw']
    rfl
  · rw [record_refuse, record_dropWrite_of_ne _ hg, record_note_beside _ rfl hg]
    exact hfix.record_accept_of_ne ha hg

/-- A panic of the stream that prepares the head leaves the write pending. -/
theorem stick (hs : w.Sound) (ha : w.activeFor? e = some a)
    (hadm : a.admission (w.exchange e).response last chunks = .send true)
    (hfix : (w.accept e last callback chunks).HeadFixed e last true w' head) : w.Moves A w' := by
  obtain ⟨r, hr, hx, hw'⟩ := hfix.record_accept (hs.index_lt_of_active ha) ha
  refine .about e ?_ fun g hg => hfix.record_accept_of_ne ha hg
  exact .trans_eq (.stick callback ha hadm hr) hw'

/-! ### Sends that end -/

/-- The end of a send frees the exchange for the next write. -/
theorem answerWrite (hs : w.Sound) (result : Result)
    (hcb : w.sendCallback? ref = some (.pendingWrite e)) :
    w.Moves A ((w.answer e ref result).dropWrite e) := by
  obtain ⟨s, hmem, rfl, hs', hun⟩ := hs.unanswered_of_waiting hcb (.inl rfl)
  refine .about e ?_ fun g hg =>
    (record_dropWrite_of_ne _ hg).trans (record_answer_of_ne w hg s.ref result)
  refine .trans_eq (.answer result hmem hun hs') ?_
  rw [record_dropWrite_self, record_answer_self]
  rfl

/-- The end of the last send tells the outcome. -/
theorem answerFinal (hs : w.Sound) (result : Result)
    (hcb : w.sendCallback? ref = some (.finalFrame e stream)) :
    w.Moves A ((w.answer e ref result).note (finalOutcome e stream none result)) := by
  obtain ⟨s, hmem, rfl, hs', hun⟩ := hs.unanswered_of_waiting hcb (.inr ⟨stream, none, rfl⟩)
  have hcall : s.callback = finalCallback e stream none := hs'
  have hexchange : (finalOutcome (κ := κ) e stream none result).exchange? = some e := by
    cases result <;> rfl
  refine .about e (.trans_eq (.answerFinal result hmem hun hcall) ?_) fun g hg => ?_
  · rw [record_note_self _ hexchange, record_answer_self, history_answer_self]
    rfl
  · exact (record_note_beside _ hexchange hg).trans (record_answer_of_ne w hg s.ref result)

/-- The end of an error response tells the failure, whatever became of the bytes. -/
theorem answerError (hs : w.Sound) (result : Result) (failures : Failures)
    (hcb : w.sendCallback? ref = some (.errorResponse e stream cause)) :
    w.Moves A ({ w.answer e ref result with failures }.note (.failed e stream cause)) := by
  obtain ⟨s, hmem, rfl, hs', hun⟩ :=
    hs.unanswered_of_waiting hcb (.inr ⟨stream, some cause, rfl⟩)
  have hcall : s.callback = finalCallback e stream (some cause) := hs'
  refine .about e (.trans_eq (.answerFinal result hmem hun hcall) ?_)
    fun g hg => (record_note_beside _ rfl hg).trans (record_answer_of_ne w hg s.ref result)
  rw [record_note_self _ rfl]
  show Record.mk _ _ (_ :: (w.answer e s.ref result).history e) = _
  rw [history_answer_self]
  rfl

/-! ### The call that ends the exchange -/

/-- The exchange is detached by one of the two calls that end it. -/
theorem detach {cause : Option FailureRef} (ha : w.activeFor? e = some a)
    (hmove : (w.record e).Move e (A e)
      ⟨w.exchange e, none, .ended e w.channel.stream cause :: w.history e⟩) :
    w.Moves A (w.detach e cause) := by
  refine .about e ?_ fun g hg => record_detach_of_ne w ha hg cause
  rw [record_detach_self]
  exact hmove

theorem complete {cause : Option FailureRef} (hs : w.Sound) (hc : A e)
    (hend : (w.record e).Ending e (some stream) cause) : w.Moves A (w.setPhase e .completing) := by
  refine .about e ?_ fun g hg => record_modifyExchange_of_ne w hg _
  rw [setPhase, record_modifyExchange_self w (hs.index_lt_of_ending hend)]
  exact .complete hc hend

/-- A response that is not fixed starts over before the error response. -/
theorem recycle (hs : w.Sound) (standard : Fields) (hc : A e)
    (hend : (w.record e).Ending e (some stream) (some cause))
    (hcommitted : (w.exchange e).response.committed = false) :
    w.Moves A ((w.modifyExchange e fun x =>
      { x with
        response := .recycled (w.failures.get cause).error.status standard,
        trailers := none }).setPhase e .completing) := by
  have hlt := hs.index_lt_of_ending hend
  refine .about e ?_ fun g hg => ?_
  · refine .trans_eq (.recycle (w.failures.get cause).error.status standard hc hend hcommitted) ?_
    rw [setPhase, record_modifyExchange_self, record_modifyExchange_self w hlt,
      exchange_modifyExchange_self w hlt]
    · rfl
    · rwa [size_modifyExchange]
  · exact (record_modifyExchange_of_ne _ hg _).trans (record_modifyExchange_of_ne w hg _)

/-- A response that is too short when it ends makes the exchange fail. -/
theorem mismatch (hs : w.Sound) (hc : A e) (hend : (w.record e).Ending e (some stream) none)
    (hphase : (w.exchange e).phase = .completing)
    (hfix : (w.modifyResponse e (·.close)).HeadFixed e true (!(w.exchange e).response.committed) w'
      head)
    (hfault : (w'.exchange e).response.lengthFault true = some fault) :
    w.Moves A (((w'.note (.mismatched e)).addFailure fault).note
      (.failed e stream w.failures.next)) := by
  obtain ⟨r, hr, hx, hw'⟩ := hfix.record_note (hs.index_lt_of_ending hend) hend.detached
    (d := .mismatched e) rfl
  rw [hx] at hfault
  refine .about e (.trans_eq (.mismatch w.failures.next hc hend hphase hr hfault) ?_) fun g hg => ?_
  · rw [record_note_self _ rfl]
    show Record.mk ((w'.note _).record e).state ((w'.note _).record e).active
      (_ :: ((w'.note _).record e).history) = _
    rw [hw']
    rfl
  · rw [record_note_beside _ rfl hg, record_addFailure, record_note_beside _ rfl hg]
    exact hfix.record_modifyResponse_of_ne hg

/-- If the last bytes were written, success is told at once. -/
theorem tellSuccess (hs : w.Sound) (hc : A e) (hend : (w.record e).Ending e (some stream) none)
    (hphase : (w.exchange e).phase = .completing)
    (hfix : (w.modifyResponse e (·.close)).HeadFixed e true (!(w.exchange e).response.committed) w'
      head)
    (hfits : (w'.exchange e).response.lengthFault true = none)
    (hlast : (w'.exchange e).response.lastWritten = true) :
    w.Moves A (w'.note (.succeeded e stream)) := by
  obtain ⟨r, hr, hx, hw'⟩ := hfix.record_note (hs.index_lt_of_ending hend) hend.detached
    (d := .succeeded e stream) rfl
  rw [hx] at hfits hlast
  refine .about e (.trans_eq (.tellSuccess hc hend hphase hr hfits hlast) hw') fun g hg => ?_
  exact (record_note_beside _ rfl hg).trans (hfix.record_modifyResponse_of_ne hg)

/-- If not, the last frame is sent, and success is told when it ended. -/
theorem sendFinal (hs : w.Sound) (hc : A e) (hend : (w.record e).Ending e (some stream) none)
    (hphase : (w.exchange e).phase = .completing)
    (hfix : (w.modifyResponse e (·.close)).HeadFixed e true (!(w.exchange e).response.committed) w'
      head)
    (hfits : (w'.exchange e).response.lengthFault true = none)
    (hlast : (w'.exchange e).response.lastWritten = false) :
    w.Moves A
      (w'.handOver e ⟨⟨w.sends.size⟩, stream, head, true, .finalFrame e stream, []⟩) := by
  obtain ⟨r, hr, hx, hw'⟩ := hfix.record_note (hs.index_lt_of_ending hend) hend.detached
    (d := .sent e _) rfl
  rw [hx] at hfits hlast
  have hmove := Move.sendFinal hc hend hphase hr hfits hlast (hs.newSend e)
  refine .about e (.trans_eq hmove hw') fun g hg => ?_
  exact (record_handOver_of_ne _ hg _).trans (hfix.record_modifyResponse_of_ne hg)

/-- A panic of the stream leaves the response closed. -/
theorem stickFinal (hs : w.Sound) (hc : A e) (hend : (w.record e).Ending e (some stream) none)
    (hphase : (w.exchange e).phase = .completing)
    (hcommitted : (w.exchange e).response.committed = false)
    (hfix : (w.modifyResponse e (·.close)).HeadFixed e true true w' head) : w.Moves A w' := by
  obtain ⟨r, hr, hx, hw'⟩ := hfix.record_modifyResponse (hs.index_lt_of_ending hend)
  refine .about e ?_ fun g hg => hfix.record_modifyResponse_of_ne hg
  exact .trans_eq (.stickFinal hc hend hphase hcommitted hr) hw'

theorem sendError (hs : w.Sound) (body : Octets) (fields : Fields) (hc : A e)
    (hend : (w.record e).Ending e (some stream) (some cause))
    (hphase : (w.exchange e).phase = .completing)
    (hcommitted : (w.exchange e).response.committed = false)
    (hfix : (w.modifyResponse e (·.overlaid body fields)).HeadFixed e true true w' head) :
    w.Moves A (w'.handOver e
      ⟨⟨w.sends.size⟩, stream, head, true, .errorResponse e stream cause, [body]⟩) := by
  obtain ⟨r, hr, hx, hw'⟩ := hfix.record_note (hs.index_lt_of_ending hend) hend.detached
    (d := .sent e _) rfl
  have hmove := Move.sendError body fields hc hend hphase hcommitted hr (hs.newSend e)
  refine .about e (.trans_eq hmove hw') fun g hg => ?_
  exact (record_handOver_of_ne _ hg _).trans (hfix.record_modifyResponse_of_ne hg)

theorem stickError (hs : w.Sound) (body : Octets) (fields : Fields) (hc : A e)
    (hend : (w.record e).Ending e (some stream) (some cause))
    (hphase : (w.exchange e).phase = .completing)
    (hcommitted : (w.exchange e).response.committed = false)
    (hfix : (w.modifyResponse e (·.overlaid body fields)).HeadFixed e true true w' head) :
    w.Moves A w' := by
  obtain ⟨r, hr, hx, hw'⟩ := hfix.record_modifyResponse (hs.index_lt_of_ending hend)
  refine .about e ?_ fun g hg => hfix.record_modifyResponse_of_ne hg
  exact .trans_eq (.stickError body fields hc hend hphase hcommitted hr) hw'

/-- The exchange is over once its outcome was told or its last bytes are out. -/
theorem conclude {d : Deed κ} (hs : w.Sound) (hc : A e) (hdetached : w.activeFor? e = none)
    (hphase : (w.exchange e).phase = .completing) (hmem : d ∈ w.history e)
    (hcloses : d.closes = true) : w.Moves A ((w.setPhase e .terminal).note (.concluded e)) := by
  refine .about e (.trans_eq (.conclude hc hdetached hphase hmem hcloses) ?_) fun g hg => ?_
  · rw [record_note_self _ rfl, setPhase, record_modifyExchange_self w (hs.index_lt_of_mem hmem)]
    rfl
  · exact (record_note_beside _ rfl hg).trans (record_modifyExchange_of_ne w hg _)

end Moves

/-- Every step moves every record. -/
theorem Step.move {A : ExchangeRef → Prop} (h : Step A w w') (hs : w.Sound) (e : ExchangeRef) :
    (w.record e).Move e (A e) (w'.record e) := by
  revert e
  -- a step is about one exchange at most: its record moves as the step says, the others stay
  show w.Moves A w'
  cases h with
  | aside | addFailure | suppress | ignore => exact .still fun _ => rfl
  | tell p state => exact .still (record_tell w p state)
  | offer tasks => exact .still (record_offer w .standalone tasks)
  | next name => exact .still (record_nextTask w name)
  | attach stream _ =>
    refine .still fun e => ?_
    rw [record_note_of_ne _ (by simp [Deed.exchange?]), record_modifyChannel]
    rfl
  | wrap | listen | unpersist | count => exact .still (record_modifyChannel w rfl)
  | close cause =>
    refine .still fun e => ?_
    rw [record_offer, record_modifyChannel]
    rfl
  | activate id request standard _ hactive => exact .activate hs id request standard hactive
  | contentAvailable => exact .contentAvailable _
  | storeFailure cause _ hactive herror => exact .storeFailure hs cause hactive herror
  | enable ha => exact .enable hs ha
  | demand job ha herror hprocessing hdemand => exact .demand job ha herror hprocessing hdemand
  | demandNow g job => exact .still (record_offer _ .channel _)
  | listenForError listener ha herror => exact .listenForError listener ha herror
  | listenLate =>
    refine .still fun e => ?_
    rw [record_offer, record_enter, record_note_listening]
  | flush => exact .still (record_offer _ .channel _)
  | refuse g callback last chunks committed why => exact .still (record_refuse _ callback why)
  | refuseFailed => exact .still (record_offer _ .channel _)
  | edit g f hedit => exact .edit hedit
  | send callback _ ha hadm hfix hfits => exact .send hs ha hadm hfix hfits
  | withhold callback _ ha hadm hfix hfault => exact .withhold hs ha hadm hfix hfault
  | stick callback _ ha hadm hfix => exact .stick hs ha hadm hfix
  | answerWrite result hcb =>
    intro e
    rw [record_offer]
    exact Moves.answerWrite hs result hcb e
  | answerLate result hcb hwrite =>
    rename_i ref g
    -- without a pending write there is nothing to drop, so this is the move of an answered one
    have hsame : (w.answer g ref result).dropWrite g = w.answer g ref result :=
      dropWrite_of_none _ hwrite
    rw [← hsame]
    exact .answerWrite hs result hcb
  | answerFinal result hcb =>
    have hmoves := Moves.answerFinal (A := A) hs result hcb
    cases result <;> exact hmoves
  | answerError result hcb => exact .answerError hs result _ hcb
  | succeed ha hprocessing hdemand hwrite herror =>
    exact .detach ha (.succeed _ ha hprocessing hdemand hwrite herror)
  | fail cause ha => exact .detach ha (.fail _ cause ha)
  | complete hc hend => exact .complete hs hc hend
  | recycle standard hc hend hcommitted => exact .recycle hs standard hc hend hcommitted
  | mismatch hc hend hphase hfix hfault => exact .mismatch hs hc hend hphase hfix hfault
  | tellSuccess hc hend hphase hfix hfits hlast =>
    exact .tellSuccess hs hc hend hphase hfix hfits hlast
  | sendFinal hc hend hphase hfix hfits hlast => exact .sendFinal hs hc hend hphase hfix hfits hlast
  | stickFinal hc hend hphase hcommitted hfix => exact .stickFinal hs hc hend hphase hcommitted hfix
  | tellFailure told hc hend hphase htold =>
    refine .about _ ?_ fun g hg => record_note_beside w rfl hg
    rw [record_note_self _ rfl]
    exact .tellFailure told hc hend hphase htold
  | sendError body fields hc hend hphase hcommitted hfix =>
    exact .sendError hs body fields hc hend hphase hcommitted hfix
  | stickError body fields hc hend hphase hcommitted hfix =>
    exact .stickError hs body fields hc hend hphase hcommitted hfix
  | conclude hc hdetached hphase hmem hcloses => exact .conclude hs hc hdetached hphase hmem hcloses

/-! ## Every step keeps the ties -/

/-- How a step can use the callbacks of sends. -/
inductive Calls (w w' : World κ ε) : Prop
  | rest (deeds : List (Deed κ)) : w'.deeds = deeds ++ w.deeds →
      (∀ d ∈ deeds, d.isCall = false) → w'.sends = w.sends → Calls w w'
  | handOver (e : ExchangeRef) (s : Sending κ) : w'.deeds = .sent e s :: w.deeds →
      w'.sends = w.sends.push (some s.callback) → s.ref = ⟨w.sends.size⟩ →
      s.callback.IsFor e → Calls w w'
  | answer (e : ExchangeRef) (ref : SendRef) (result : Result) (callback : SendCallback κ)
      (deeds : List (Deed κ)) : w'.deeds = deeds ++ .sendEnded e ref result :: w.deeds →
      (∀ d ∈ deeds, d.isCall = false) →
      w'.sends = w.sends.modify ref.index (fun _ => none) →
      w.sendCallback? ref = some callback → callback.IsFor e → Calls w w'

/-- Steps that note nothing and send nothing. -/
theorem Calls.none (hd : w'.deeds = w.deeds) (hs : w'.sends = w.sends) : Calls w w' :=
  .rest [] hd (by simp) hs

/-- Steps that note one thing and send nothing. -/
theorem Calls.one {d : Deed κ} (hd : w'.deeds = d :: w.deeds) (hs : w'.sends = w.sends)
    (hc : d.isCall = false) : Calls w w' := by
  refine .rest [d] hd (fun d' hd' => ?_) hs
  cases List.mem_singleton.1 hd'
  exact hc

/-- Steps that send. -/
theorem Calls.send {s : Sending κ} (hd : w'.deeds = w.deeds) (hs : w'.sends = w.sends)
    (href : s.ref = ⟨w.sends.size⟩)
    (hc : s.callback.IsFor e) : Calls w (w'.handOver e s) :=
  .handOver e s (congrArg (_ :: ·) hd) (congrArg (Array.push · _) hs) href hc

@[simp] theorem deeds_dropWrite (e : ExchangeRef) : (w.dropWrite e).deeds = w.deeds := by
  unfold dropWrite
  split <;> rfl

@[simp] theorem sends_dropWrite (e : ExchangeRef) : (w.dropWrite e).sends = w.sends := by
  unfold dropWrite
  split <;> rfl

@[simp] theorem ledger_dropWrite (e : ExchangeRef) : (w.dropWrite e).ledger = w.ledger := by
  unfold dropWrite
  split <;> rfl

@[simp] theorem deeds_tell (p : PromiseRef) (state : PromiseState) :
    (w.tell p state).deeds = w.deeds := by
  unfold tell
  split <;> rfl

@[simp] theorem sends_tell (p : PromiseRef) (state : PromiseState) :
    (w.tell p state).sends = w.sends := by
  unfold tell
  split <;> rfl

@[simp] theorem deeds_setQueue (name : QueueName) (q : Queue κ) :
    (w.setQueue name q).deeds = w.deeds := by
  cases name <;> rfl

@[simp] theorem sends_setQueue (name : QueueName) (q : Queue κ) :
    (w.setQueue name q).sends = w.sends := by
  cases name <;> rfl

@[simp] theorem deeds_offer (name : QueueName) (tasks : List (Task κ)) :
    (w.offer name tasks).deeds = .offered name tasks :: w.deeds := by
  cases name <;> rfl

@[simp] theorem sends_offer (name : QueueName) (tasks : List (Task κ)) :
    (w.offer name tasks).sends = w.sends := by
  cases name <;> rfl

@[simp] theorem ledger_offer (name : QueueName) (tasks : List (Task κ)) :
    (w.offer name tasks).ledger = w.ledger := by
  cases name <;> rfl

/-- Steps that offer tasks. -/
theorem Calls.offer {name : QueueName} {tasks : List (Task κ)} (hd : w'.deeds = w.deeds)
    (hs : w'.sends = w.sends) : Calls w (w'.offer name tasks) :=
  .one (by rw [deeds_offer, hd]) (by rw [sends_offer, hs]) rfl

/-- The step that starts a task. -/
theorem Calls.nextTask (name : QueueName) : Calls w (Engine.nextTask name w).2 := by
  simp only [Engine.nextTask, Effect.modifyGet]
  split
  · exact .none (deeds_setQueue ..) (sends_setQueue ..)
  next task q _ =>
    have hd : ((w.setQueue name q).note (.started name task)).deeds =
        .started name task :: w.deeds := congrArg (_ :: ·) (deeds_setQueue ..)
    exact .one hd (sends_setQueue ..) rfl

/-- Every step uses the callbacks of sends in one of three ways. -/
theorem Step.calls {A : ExchangeRef → Prop} (h : Step A w w') : Calls w w' := by
  cases h with
  | aside | addFailure | suppress | wrap | listen | unpersist | count | activate | enable
  | demand | ignore | edit | complete | recycle => exact .none rfl rfl
  | tell p state => exact .none (deeds_tell p state) (sends_tell p state)
  | listenForError => exact .one rfl rfl rfl
  | listenLate listener =>
    refine .rest [_, .listening _ listener] (deeds_offer ..) ?_ (sends_offer ..)
    simp [Deed.isCall]
  | offer | close | contentAvailable | storeFailure | demandNow | flush | refuse
  | refuseFailed => exact .offer rfl rfl
  | next name => exact .nextTask name
  | attach | succeed | fail | tellFailure | conclude => exact .one rfl rfl rfl
  | send callback _ _ _ hfix => exact .send hfix.deeds_eq hfix.sends_eq rfl (.inl rfl)
  | withhold callback hstream ha hadm hfix hfault =>
    rename_i g stream active last commits chunks w₁ head fault
    refine .rest [.offered .channel [⟨"write-failure", .complete callback
      (.error w.failures.next)⟩], .mismatched g] ?_ ?_ ?_
    · rw [World.refuse, failures_dropWrite, deeds_offer]
      show _ :: (dropWrite _ g).deeds = _
      rw [deeds_dropWrite]
      show Deed.offered .channel [⟨"write-failure", .complete callback (.error w₁.failures.next)⟩]
        :: .mismatched g :: w₁.deeds = _
      rw [hfix.failures_eq, hfix.deeds_eq]
      rfl
    · simp [Deed.isCall]
    · rw [World.refuse, sends_offer]
      exact (sends_dropWrite g).trans hfix.sends_eq
  | stick callback _ _ _ hfix => exact .none hfix.deeds_eq hfix.sends_eq
  | answerWrite result hcb ha hwrite =>
    rename_i ref g active callback
    refine .answer g ref result _ [.offered .channel [⟨"write-complete", .complete callback
      result⟩]] ?_ ?_ ?_ hcb (.inl rfl)
    · rw [deeds_offer, deeds_dropWrite]
      rfl
    · simp [Deed.isCall]
    · rw [sends_offer, sends_dropWrite]
      rfl
  | answerLate result hcb => exact .answer _ _ result _ [] rfl (by simp) rfl hcb (.inl rfl)
  | answerFinal result hcb =>
    refine .answer _ _ result _ [_] rfl ?_ rfl hcb (.inr ⟨_, none, rfl⟩)
    cases result <;> simp [Deed.isCall]
  | answerError result hcb =>
    refine .answer _ _ result _ [_] rfl ?_ rfl hcb (.inr ⟨_, some _, rfl⟩)
    simp [Deed.isCall]
  | mismatch _ _ _ hfix =>
    refine .rest [_, _] (congrArg (_ :: _ :: ·) hfix.deeds_eq) ?_ hfix.sends_eq
    simp [Deed.isCall]
  | tellSuccess _ _ _ hfix => exact .one (congrArg (_ :: ·) hfix.deeds_eq) hfix.sends_eq rfl
  | sendFinal _ _ _ hfix =>
    exact .send hfix.deeds_eq hfix.sends_eq rfl (.inr ⟨_, none, rfl⟩)
  | sendError body fields _ _ _ _ hfix =>
    exact .send hfix.deeds_eq hfix.sends_eq rfl (.inr ⟨_, some _, rfl⟩)
  | stickFinal _ _ _ _ hfix => exact .none hfix.deeds_eq hfix.sends_eq
  | stickError _ _ _ _ _ _ hfix => exact .none hfix.deeds_eq hfix.sends_eq

/-- What was done stays done. -/
theorem Step.deeds_suffix {A : ExchangeRef → Prop} (h : Step A w w') : w.deeds <:+ w'.deeds := by
  cases h.calls with
  | rest deeds hd => exact ⟨deeds, hd.symm⟩
  | handOver e s hd => exact ⟨[.sent e s], hd.symm⟩
  | answer e ref result callback deeds hd =>
    rw [hd]
    exact (List.suffix_cons _ _).trans (List.suffix_append _ _)

/-- What was done stays done in a run. -/
theorem Course.deeds_suffix {A : ExchangeRef → Prop} (h : Course A w w') :
    w.deeds <:+ w'.deeds := by
  induction h with
  | refl => exact List.suffix_refl _
  | tail _ hstep ih => exact ih.trans hstep.deeds_suffix

/-- What is about sends was there before. -/
theorem mem_deeds_of_rest {deeds : List (Deed κ)} {d : Deed κ}
    (hnew : ∀ d ∈ deeds, d.isCall = false) (hc : d.isCall = true) {old : List (Deed κ)}
    (h : d ∈ deeds ++ old) : d ∈ old := by
  rcases List.mem_append.1 h with h | h
  · exact absurd (hnew d h) (by simp [hc])
  · exact h

/-- A new send has its own callback, and the others keep theirs. -/
theorem sendCallback?_handOver {callback : SendCallback κ}
    (h : w'.sends = w.sends.push (some callback)) (ref : SendRef) :
    w'.sendCallback? ref =
      if ref = ⟨w.sends.size⟩ then some callback else w.sendCallback? ref := by
  obtain ⟨i⟩ := ref
  simp only [sendCallback?, h, Array.getElem?_push, SendRef.mk.injEq]
  split <;> rfl

/-- The callback of a send that ended is taken, and the others keep theirs. -/
theorem sendCallback?_answer {ref : SendRef} (h : w'.sends = w.sends.modify ref.index fun _ => none)
    (other : SendRef) :
    w'.sendCallback? other = if other = ref then none else w.sendCallback? other := by
  obtain ⟨i⟩ := ref
  obtain ⟨j⟩ := other
  simp only [sendCallback?, h, Array.getElem?_modify, SendRef.mk.injEq]
  by_cases hij : i = j
  · subst hij
    cases w.sends[i]? <;> simp
  · rw [if_neg hij, if_neg (Ne.symm hij)]

/-- Who waits for the end of a send has the number of one. -/
theorem Sound.index_lt_of_waiting (hs : w.Sound) {ref : SendRef} {callback : SendCallback κ}
    (h : w.sendCallback? ref = some callback) : ref.index < w.sends.size := by
  obtain ⟨e, s, hmem, rfl, -⟩ := hs.waiting ref callback h
  exact hs.numbered e s hmem

/-- The ties between the sends and the history, after a step. -/
theorem Calls.waiting (hc : Calls w w') (hs : w.Sound) {ref : SendRef}
    {callback : SendCallback κ} (h : w'.sendCallback? ref = some callback) : ∃ e s,
    .sent e s ∈ w'.deeds ∧ s.ref = ref ∧ s.callback = callback ∧
    callback.IsFor e ∧ ∀ g result, .sendEnded g ref result ∉ w'.deeds := by
  cases hc with
  | rest deeds hd hnew hsends =>
    rw [sendCallback?, hsends] at h
    obtain ⟨e, s, hmem, href, hcb, hkind, hno⟩ := hs.waiting ref callback h
    refine ⟨e, s, hd ▸ List.mem_append_right _ hmem, href, hcb, hkind, fun g result hr => ?_⟩
    rw [hd] at hr
    exact hno g result (mem_deeds_of_rest hnew rfl hr)
  | handOver e s hd hsends href hkind =>
    rw [sendCallback?_handOver hsends] at h
    split at h
    next hnew =>
      cases h
      refine ⟨e, s, hd ▸ List.mem_cons_self, href.trans hnew.symm, rfl, hkind, fun g r hr => ?_⟩
      rw [hd] at hr
      rcases List.mem_cons.1 hr with hr | hr
      · cases hr
      · rw [hnew] at hr
        exact hs.not_answered r hr
    next =>
      obtain ⟨e', s', hmem, href', hcb, hkind', hno⟩ := hs.waiting ref callback h
      refine ⟨e', s', hd ▸ List.mem_cons_of_mem _ hmem, href', hcb, hkind', fun g r hr => ?_⟩
      rw [hd] at hr
      rcases List.mem_cons.1 hr with hr | hr
      · cases hr
      · exact hno g r hr
  | answer e r result taken deeds hd hnew hsends htaken hfor =>
    rw [sendCallback?_answer hsends] at h
    split at h
    next => cases h
    next hne =>
      obtain ⟨e', s', hmem, href', hcb, hkind', hno⟩ := hs.waiting ref callback h
      refine ⟨e', s', ?_, href', hcb, hkind', fun g r' hr => ?_⟩
      · rw [hd]
        exact List.mem_append_right _ (List.mem_cons_of_mem _ hmem)
      · rw [hd] at hr
        rcases List.mem_cons.1 (mem_deeds_of_rest hnew rfl hr) with hr | hr
        · cases hr
          exact hne rfl
        · exact hno g r' hr

/-- Who waits keeps waiting until the send ends. -/
theorem Calls.answerable (hc : Calls w w') (hs : w.Sound) {e : ExchangeRef} {s : Sending κ}
    (hmem : .sent e s ∈ w'.deeds) (hno : ∀ result, .sendEnded e s.ref result ∉ w'.deeds) :
    w'.sendCallback? s.ref = some s.callback := by
  cases hc with
  | rest deeds hd hnew hsends =>
    rw [hd] at hmem hno
    rw [sendCallback?, hsends]
    exact hs.answerable e s (mem_deeds_of_rest hnew rfl hmem)
      fun result hr => hno result (List.mem_append_right _ hr)
  | handOver e' s' hd hsends href hkind =>
    rw [hd] at hmem hno
    rw [sendCallback?_handOver hsends]
    rcases List.mem_cons.1 hmem with heq | hold
    · cases heq
      rw [if_pos href]
    · rw [if_neg]
      · exact hs.answerable e s hold fun result hr => hno result (List.mem_cons_of_mem _ hr)
      · exact hs.ref_ne hold
  | answer g r result taken deeds hd hnew hsends htaken hfor =>
    rw [hd] at hmem hno
    have hold : .sent e s ∈ w.deeds := by
      rcases List.mem_cons.1 (mem_deeds_of_rest hnew rfl hmem) with heq | hold
      · cases heq
      · exact hold
    rw [sendCallback?_answer hsends, if_neg]
    · exact hs.answerable e s hold fun result' hr =>
        hno result' (List.mem_append_right _ (List.mem_cons_of_mem _ hr))
    · -- a send with the number of the callback that was taken is the one that was answered
      rintro rfl
      obtain ⟨e', s', hmem', href, -, hfor', -⟩ := hs.waiting _ _ htaken
      have he := (hs.distinct e e' s s' hold hmem' href.symm).1
      have hg := hfor.unique hfor'
      subst he hg
      exact hno result (List.mem_append_right _ List.mem_cons_self)

/-- A send that is made gets a number of its own. -/
theorem Calls.distinct (hc : Calls w w') (hs : w.Sound) {e g : ExchangeRef} {s s' : Sending κ}
    (hmem : .sent e s ∈ w'.deeds) (hmem' : .sent g s' ∈ w'.deeds) (href : s.ref = s'.ref) :
    e = g ∧ s = s' := by
  have hold : .sent e s ∈ w.deeds → .sent g s' ∈ w.deeds → e = g ∧ s = s' :=
    fun h h' => hs.distinct e g s s' h h' href
  cases hc with
  | rest deeds hd hnew hsends =>
    rw [hd] at hmem hmem'
    exact hold (mem_deeds_of_rest hnew rfl hmem) (mem_deeds_of_rest hnew rfl hmem')
  | handOver e' s'' hd hsends hnew hkind =>
    have hfresh : ∀ {e s}, .sent e s ∈ w.deeds → s.ref ≠ s''.ref := by
      intro e s hmem
      rw [hnew]
      exact hs.ref_ne hmem
    rw [hd] at hmem hmem'
    rcases List.mem_cons.1 hmem with heq | h <;> rcases List.mem_cons.1 hmem' with heq' | h'
    · cases heq
      cases heq'
      exact ⟨rfl, rfl⟩
    · cases heq
      exact absurd href.symm (hfresh h')
    · cases heq'
      exact absurd href (hfresh h)
    · exact hold h h'
  | answer e' ref result taken deeds hd hnew hsends htaken hfor =>
    have hback : ∀ {e s}, .sent e s ∈ w'.deeds → .sent e s ∈ w.deeds := by
      intro e s hmem
      rw [hd] at hmem
      rcases List.mem_cons.1 (mem_deeds_of_rest hnew rfl hmem) with heq | h
      · cases heq
      · exact h
    exact hold (hback hmem) (hback hmem')

/-- The next number is behind all that were used. -/
theorem Calls.numbered (hc : Calls w w') (hs : w.Sound) {d : Deed κ} (hmem : d ∈ w'.deeds) :
    (∀ e s, d = .sent e s → s.ref.index < w'.sends.size) ∧
    ∀ e ref result, d = .sendEnded e ref result → ref.index < w'.sends.size := by
  have hold : d ∈ w.deeds → (∀ e s, d = .sent e s → s.ref.index < w.sends.size) ∧
      ∀ e ref result, d = .sendEnded e ref result → ref.index < w.sends.size := by
    intro hmem
    refine ⟨?_, ?_⟩
    · rintro e s rfl
      exact hs.numbered e s hmem
    · rintro e ref result rfl
      exact hs.answered e ref result hmem
  have hrest : d.isCall = false → (∀ e s, d = .sent e s → s.ref.index < w'.sends.size) ∧
      ∀ e ref result, d = .sendEnded e ref result → ref.index < w'.sends.size := by
    intro hd
    refine ⟨?_, ?_⟩
    · rintro e s rfl
      cases hd
    · rintro e ref result rfl
      cases hd
  cases hc with
  | rest deeds hd hnew hsends =>
    rw [hd] at hmem
    rcases List.mem_append.1 hmem with h | h
    · exact hrest (hnew d h)
    · rw [hsends]
      exact hold h
  | handOver e s hd hsends href hkind =>
    rw [hd] at hmem
    have hsize : w'.sends.size = w.sends.size + 1 := by rw [hsends, Array.size_push]
    rcases List.mem_cons.1 hmem with rfl | h
    · refine ⟨?_, nofun⟩
      rintro e' s' heq
      cases heq
      rw [href, hsize]
      exact Nat.lt_succ_self _
    · rw [hsize]
      exact ⟨fun e s h' => Nat.lt_succ_of_lt ((hold h).1 e s h'),
        fun e ref result h' => Nat.lt_succ_of_lt ((hold h).2 e ref result h')⟩
  | answer e ref result taken deeds hd hnew hsends htaken hfor =>
    rw [hd] at hmem
    have hsize : w'.sends.size = w.sends.size := by rw [hsends, Array.size_modify]
    rcases List.mem_append.1 hmem with h | h
    · exact hrest (hnew d h)
    · rw [hsize]
      rcases List.mem_cons.1 h with rfl | h
      · refine ⟨nofun, ?_⟩
        rintro e' ref' result' heq
        cases heq
        exact hs.index_lt_of_waiting htaken
      · exact hold h

/-- There are at least so many exchanges, and the active one is among them and has a stream. If it
is one of the first, it has the property. -/
def Bounded (n : Nat) (P : ExchangeRef → Prop) (w : World κ ε) : Prop :=
  n ≤ w.exchanges.size ∧ ∀ a, w.channel.active = some a →
    a.exchange.index < w.exchanges.size ∧ (P a.exchange ∨ n ≤ a.exchange.index) ∧
      w.channel.stream.isSome = true

section Bounded

variable {n : Nat} {P : ExchangeRef → Prop}

/-- It depends on nothing but the exchanges and the channel. -/
theorem Bounded.same (h : Bounded n P w) (hsize : w'.exchanges.size = w.exchanges.size)
    (hchannel : w'.channel = w.channel) : Bounded n P w' := by
  rw [Bounded, hsize, hchannel]
  exact h

theorem Bounded.modifyActive {f : Active κ → Active κ} (h : Bounded n P w)
    (hf : ∀ a, (f a).exchange = a.exchange) : Bounded n P (w.modifyActive f) := by
  refine ⟨h.1, fun a' ha' => ?_⟩
  obtain ⟨a, ha, rfl⟩ := Option.map_eq_some_iff.1 ha'
  rw [hf]
  exact h.2 a ha

theorem Bounded.offer (h : Bounded n P w) (name : QueueName) (tasks : List (Task κ)) :
    Bounded n P (w.offer name tasks) := by
  cases name <;> exact h

theorem Bounded.nextTask (h : Bounded n P w) (name : QueueName) :
    Bounded n P (Engine.nextTask name w).2 := by
  simp only [Engine.nextTask, Effect.modifyGet]
  cases name <;> split <;> exact h

theorem Bounded.dropWrite (h : Bounded n P w) (e : ExchangeRef) : Bounded n P (w.dropWrite e) := by
  unfold World.dropWrite
  split
  · refine h.modifyActive ?_
    exact fun _ => rfl
  · exact h

theorem Bounded.modifyExchange (h : Bounded n P w) (e : ExchangeRef) (f : Exchange → Exchange) :
    Bounded n P (w.modifyExchange e f) := h.same (size_modifyExchange w e f) rfl

theorem Bounded.accept (h : Bounded n P w) (e : ExchangeRef) (last : Bool) (callback : Callback κ)
    (chunks : List Octets) : Bounded n P (w.accept e last callback chunks) := by
  refine Bounded.modifyActive (Bounded.modifyExchange ?_ e _) ?_
  · exact h
  · exact fun _ => rfl

theorem Bounded.tell (h : Bounded n P w) (p : PromiseRef) (state : PromiseState) :
    Bounded n P (w.tell p state) := by
  unfold World.tell
  split <;> exact h

theorem Bounded.refuse (h : Bounded n P w) (callback : Callback κ) (why : ExchangeError) :
    Bounded n P (w.refuse callback why) := by
  refine .offer ?_ _ _
  exact h

theorem Bounded.fixHead (h : Bounded n P w) {last commits : Bool} {head : Option ResponseHead}
    (hfix : w.HeadFixed e last commits w' head) : Bounded n P w' :=
  h.same hfix.size_eq hfix.channel_eq

/-- A step keeps the active exchange, ends it, or makes a new one active. -/
theorem Step.bounded {A : ExchangeRef → Prop} (hstep : Step A w w') (h : Bounded n P w) :
    Bounded n P w' := by
  cases hstep with
  | aside | addFailure | suppress | listen | unpersist | count | ignore | tellFailure
  | answerLate | answerFinal | answerError => exact h
  | attach | wrap => exact ⟨h.1, fun a ha => ⟨(h.2 a ha).1, (h.2 a ha).2.1, rfl⟩⟩
  | tell p state => exact h.tell p state
  | offer tasks => exact h.offer .standalone tasks
  | next name => exact h.nextTask name
  | close | listenLate | demandNow | flush | refuseFailed =>
    refine .offer ?_ _ _
    exact h
  | refuse g callback last chunks committed why =>
    refine .refuse ?_ callback why
    exact h
  | activate id request standard hstream =>
    have hsize : (w.exchanges.push (.fresh id request standard)).size = w.exchanges.size + 1 :=
      Array.size_push _
    -- the new exchange is none of the first `n`
    refine ⟨?_, fun a' ha' => ?_⟩
    · exact Nat.le_trans h.1 (Nat.le_of_lt (hsize ▸ Nat.lt_succ_self _))
    · cases ha'
      exact ⟨hsize ▸ Nat.lt_succ_self _, .inr h.1, hstream⟩
  | contentAvailable =>
    refine .offer (h.modifyActive ?_) _ _
    exact fun _ => rfl
  | storeFailure cause =>
    refine .offer (.modifyActive (h.modifyExchange _ _) ?_) _ _
    exact fun _ => rfl
  | enable =>
    refine .modifyExchange (h.modifyActive ?_) _ _
    exact fun _ => rfl
  | demand | listenForError =>
    refine Bounded.modifyActive ?_ ?_
    · exact h
    · exact fun _ => rfl
  | edit | complete => exact h.modifyExchange _ _
  | recycle => exact (h.modifyExchange _ _).modifyExchange _ _
  | conclude => exact h.modifyExchange _ _
  | send callback _ _ _ hfix | stick callback _ _ _ hfix =>
    have hb := (h.accept _ _ callback _).fixHead hfix
    exact hb
  | withhold callback hstream ha hadm hfix hfault =>
    rename_i g stream active last commits chunks w₁ head fault
    have hb := (h.accept _ _ callback _).fixHead hfix
    have hd : Bounded n P ((w₁.note (.mismatched g)).dropWrite g) := by
      refine Bounded.dropWrite ?_ g
      exact hb
    exact hd.refuse callback fault
  | answerWrite result hcb ha hwrite =>
    rename_i ref g active callback
    refine .offer (Bounded.dropWrite ?_ g) _ _
    exact h
  | succeed | fail => exact ⟨h.1, nofun⟩
  | mismatch _ _ _ hfix | tellSuccess _ _ _ hfix | sendFinal _ _ _ hfix
  | stickFinal _ _ _ _ hfix | stickError _ _ _ _ _ _ hfix | sendError _ _ _ _ _ _ hfix =>
    have hb := Bounded.fixHead (h.modifyExchange _ _) hfix
    exact hb

end Bounded

end World

namespace Record

variable {e : ExchangeRef} {closing : Prop} {ρ ρ' : Record κ}

theorem Ending.history_ne_nil {stream : Option Stream} {cause : Option FailureRef}
    (h : ρ.Ending e stream cause) : ρ.history ≠ [] := by
  obtain ⟨late, earlier, heq, -⟩ := h.latest
  rw [heq]
  exact List.append_ne_nil_of_right_ne_nil _ (List.cons_ne_nil _ _)

/-- Nothing is done for an exchange before it is active. -/
theorem Move.history_eq_nil (h : ρ.Move e closing ρ') (ha : ρ.active = none)
    (hh : ρ.history = []) : ρ'.history = [] := by
  have hnone : ∀ d, d ∉ ρ.history := by
    rw [hh]
    exact fun _ => List.not_mem_nil
  cases h with
  | stay | edit => exact hh
  | create => rfl
  | contentAvailable h | storeFailure _ h | enable h | demand _ h | listenForError _ h
  | send _ _ h | withhold h | stick _ h | succeed _ h | fail _ _ h => cases ha.symm.trans h
  | answer _ hmem | answerFinal _ hmem | conclude _ _ _ hmem => exact absurd hmem (hnone _)
  | complete _ h | recycle _ _ _ h | mismatch _ _ h | tellSuccess _ h | sendFinal _ h
  | stickFinal _ h | tellFailure _ _ h | sendError _ _ _ h | stickError _ _ _ h =>
    exact absurd hh h.history_ne_nil

/-- What is done for an active exchange does not end it. -/
theorem Move.going (h : ρ.Move e closing ρ') (hρ : ρ.Unended e) (ha' : ρ'.active.isSome = true) :
    ∀ d ∈ ρ'.history, d.closes = false ∧ ∀ stream cause, d ≠ .ended e stream cause := by
  have hsame : ρ.active.isSome = true → ρ'.history = ρ.history →
      ∀ d ∈ ρ'.history, d.closes = false ∧ ∀ stream cause, d ≠ .ended e stream cause :=
    fun ha heq d hd => hρ.going ha d (heq ▸ hd)
  have hcons : ∀ d, ρ.active.isSome = true → ρ'.history = d :: ρ.history → d.closes = false →
      (∀ stream cause, d ≠ .ended e stream cause) →
      ∀ d ∈ ρ'.history, d.closes = false ∧ ∀ stream cause, d ≠ .ended e stream cause := by
    intro d ha heq hc hd d' hd'
    rw [heq] at hd'
    rcases List.mem_cons.1 hd' with rfl | hd'
    · exact ⟨hc, hd⟩
    · exact hρ.going ha d' hd'
  cases h with
  | stay | edit => exact hρ.going ha'
  | create => exact fun _ hd => absurd hd List.not_mem_nil
  | contentAvailable ha | storeFailure _ ha | enable ha | demand _ ha | listenForError _ ha
  | stick _ ha => exact hsame (by simp [ha]) rfl
  | send _ _ ha => exact hcons _ (by simp [ha]) rfl rfl nofun
  | withhold ha => exact hcons _ (by simp [ha]) rfl rfl nofun
  | answer result => exact hcons _ (by simpa using ha') rfl rfl nofun
  | answerFinal result hmem hun hcb =>
    -- an active exchange has not sent its last bytes, so there is no such callback
    have hc := (hρ.going ha' _ hmem).1
    rename_i s stream cause
    cases cause <;> simp [Deed.closes, hcb, finalCallback, SendCallback.isFinal] at hc
  | succeed | fail | mismatch | tellSuccess | sendFinal | sendError => cases ha'
  | complete _ hend | recycle _ _ _ hend | stickFinal _ hend | tellFailure _ _ hend
  | stickError _ _ _ hend =>
    have hsome : ρ.active.isSome = true := ha'
    simp [hend.detached] at hsome
  | conclude _ hnone =>
    have hsome : ρ.active.isSome = true := ha'
    simp [hnone] at hsome

/-- The head of a response is fixed on the occasion of a use. -/
theorem Move.used (h : ρ.Move e closing ρ') (hρ : ρ.Unended e) {a : Active κ}
    (ha' : ρ'.active = some a) (hw : a.write = none) (he : a.error = none)
    (hc : ρ'.state.response.committed = true) : HeadUsed e ρ'.history := by
  cases h with
  | stay => exact hρ.used a ha' hw he hc
  | edit hedit =>
    refine hρ.used a ha' hw he ?_
    rw [hedit.same] at hc
    exact hc
  | create => cases hc
  | contentAvailable ha =>
    cases ha'
    exact hρ.used _ ha hw he hc
  | storeFailure =>
    cases ha'
    cases he
  | enable ha | demand _ ha | listenForError _ ha =>
    cases ha'
    exact hρ.used _ ha hw he hc
  | send => exact .inl ⟨_, List.mem_cons_self⟩
  | withhold => exact .inr List.mem_cons_self
  | stick =>
    cases ha'
    cases hw
  | answer result hmem => exact .inl ⟨_, List.mem_cons_of_mem _ hmem⟩
  | answerFinal result hmem =>
    exact .inl ⟨_, List.mem_cons_of_mem _ (List.mem_cons_of_mem _ hmem)⟩
  | succeed | fail | mismatch | tellSuccess | sendFinal | sendError => cases ha'
  | complete _ hend | recycle _ _ _ hend | stickFinal _ hend | tellFailure _ _ hend
  | stickError _ _ _ hend => simp [hend.detached] at ha'
  | conclude _ hnone => simp [hnone] at ha'

/-- A move keeps what is known of an exchange that has not ended. -/
theorem Move.unended (h : ρ.Move e closing ρ') (hρ : ρ.Unended e) : ρ'.Unended e :=
  ⟨h.going hρ, fun _ => h.used hρ⟩

end Record

namespace World

variable {w w' : World κ ε}

theorem Sound.bounded (hs : w.Sound) :
    Bounded w.exchanges.size (fun e => (w.activeFor? e).isSome = true) w := by
  refine ⟨Nat.le_refl _, fun a ha => ⟨(hs.exists_active a ha).1, .inl ?_, ?_⟩⟩
  · show (w.activeFor? a.exchange).isSome = true
    rw [(activeFor?_eq_some w).2 ⟨ha, rfl⟩]
    rfl
  · exact (hs.exists_active a ha).2

/-- The ties between the records and the state hold after each step. -/
theorem Step.sound {A : ExchangeRef → Prop} (h : Step A w w') (hs : w.Sound) : w'.Sound := by
  have hb := h.bounded hs.bounded
  exact
    { exists_active := fun a ha => ⟨(hb.2 a ha).1, (hb.2 a ha).2.2⟩
      unborn := fun e he => by
        -- an exchange that does not exist after the step did not exist before it
        have hle := Nat.le_trans hb.1 he
        refine (h.move hs e).history_eq_nil ?_ (hs.unborn e hle)
        refine Option.eq_none_iff_forall_ne_some.2 fun a ha => ?_
        exact Nat.not_le_of_lt (hs.index_lt_of_active ha) hle
      unended := fun e => (h.move hs e).unended (hs.unended e)
      waiting := fun _ _ => h.calls.waiting hs
      answerable := fun _ _ => h.calls.answerable hs
      distinct := fun _ _ _ _ => h.calls.distinct hs
      numbered := fun e s hmem => (h.calls.numbered hs hmem).1 e s rfl
      answered := fun e ref result hmem => (h.calls.numbered hs hmem).2 e ref result rfl }

/-- The ties hold in every state of a run. -/
theorem Course.sound {A : ExchangeRef → Prop} (h : Course A w w') (hs : w.Sound) : w'.Sound := by
  induction h with
  | refl => exact hs
  | tail _ hstep ih => exact hstep.sound ih

/-- Nothing was done yet. -/
theorem sound_start (channel : Channel κ) (hc : channel.active = none) (outside : ε) :
    (start channel outside).Sound where
  exists_active _ ha := absurd ha (by simp [start, hc])
  unborn _ _ := rfl
  unended _ := ⟨fun _ _ hd => absurd hd List.not_mem_nil, fun _ _ _ _ h => by cases h⟩
  waiting _ _ h := absurd h (by simp [start, sendCallback?])
  answerable _ _ h := absurd h List.not_mem_nil
  distinct _ _ _ _ h := absurd h List.not_mem_nil
  numbered _ _ h := absurd h List.not_mem_nil
  answered _ _ _ h := absurd h List.not_mem_nil

end World

end HttpExchange
