import HttpExchange.Proofs.Attribution
import HttpExchange.Proofs.Preparing
import HttpExchange.Proofs.Refusals

/-!
# Writes from end to end

A write goes through an admission, the fixing of the head on the first occasion, the check of the
length, and the call of the stream. `World.writeFate` says in one place which way out a call takes,
and `Response.after` what an admitted write leaves of the response; neither speaks of the order in
which the engine gets there. `write_meets_fate` says that the engine does just that.

`World.Meets` says for each way out what has to come of it: the state that is left, the one task
that is offered or done there, and what doing it tells the callback (`Engine.Entrusts`). A write that
is refused, fails, has nothing to send or breaks the length is told so by a task of its own. A write
whose bytes are sent is told later, when the stream says how the send ended, whatever was done in
between (`World.SendsWrite`).

The callback of a send takes whatever callback is pending when the stream calls it. That this is the
one of the same write rests on `Possible.owned`.
-/

namespace HttpExchange

variable {κ ε : Type} {host : Host κ ε}

open World

/-! ## The response after a write -/

namespace Response

variable {r : Response} {last : Bool} {chunks : List Octets}

/-- The fixed body length once the bytes are so many: it stays what it was, or else it is the
declared one, or for a last write the number of the bytes. -/
def lengthAfter (r : Response) (last : Bool) (written : Nat) : Option Nat :=
  if r.committed = true then r.committedLength
  else (ContentLength.ofFields? r.fields).or (if last = true then some written else none)

/-- The fields once the bytes are so many: a last write that fixes the head declares them, if nothing
else is declared. -/
def fieldsAfter (r : Response) (last : Bool) (written : Nat) : Fields :=
  if r.committed = false ∧ last = true ∧ ContentLength.ofFields? r.fields = none then
    r.fields.insert .contentLength (.ofNat written)
  else r.fields

/-- The response after an admitted write. -/
def after (r : Response) (last : Bool) (chunks : List Octets) : Response where
  status := if r.committed = true then r.status else some (r.status.getD .ok)
  fields := r.fieldsAfter last (r.written + chunks.flatten.length)
  committed := true
  written := r.written + chunks.flatten.length
  committedLength := r.lengthAfter last (r.written + chunks.flatten.length)
  lastWritten := last

/-- A write that finds the head fixed only counts its bytes. -/
theorem accept_of_fixed (hfixed : r.committed = true) :
    r.accept last chunks = r.after last chunks := by
  have hfields : r.fieldsAfter last (r.written + chunks.flatten.length) = r.fields := by
    unfold fieldsAfter
    rw [if_neg]
    intro h
    cases hfixed.symm.trans h.1
  unfold accept after lengthAfter
  rw [hfields, if_pos hfixed, if_pos hfixed]

/-- A write that finds the head open fixes it. -/
theorem freeze_of_open (hopen : r.committed = false) :
    (r.accept last chunks).freeze last = r.after last chunks := by
  have hne : ¬r.committed = true := by
    rw [hopen]
    exact Bool.false_ne_true
  unfold after lengthAfter fieldsAfter
  rw [if_neg hne, if_neg hne]
  cases hdeclared : ContentLength.ofFields? r.fields with
  | some n =>
    have hkept : ContentLength.ofFields? (r.accept last chunks).fields = some n := hdeclared
    rw [freeze_of_declared hkept, if_neg (by simp)]
    rfl
  | none =>
    have hkept : ContentLength.ofFields? (r.accept last chunks).fields = none := hdeclared
    cases last with
    | true =>
      rw [freeze_of_undeclared hkept, if_pos ⟨hopen, rfl, rfl⟩]
      rfl
    | false =>
      rw [if_neg (by simp)]
      unfold freeze
      rw [hkept]
      rfl

end Response

/-! ## The ways out -/

/-- What a write comes to. -/
inductive WriteFate
  /-- It is refused for a new reason. -/
  | refused (why : ExchangeError)
  /-- It is told the failure of the exchange. -/
  | failed (cause : FailureRef)
  /-- There is nothing to send, so it succeeds. -/
  | flushed
  /-- Its bytes count, but then they break the fixed body length. -/
  | misfit (length written : Nat)
  /-- Its bytes are sent. -/
  | sent
  deriving DecidableEq

/-- What a write comes to that the response has counted. -/
def Response.fate (r : Response) (last : Bool) : WriteFate :=
  match r.committedLength with
  | none => .sent
  | some n =>
    if n < r.written ∨ last = true ∧ r.written < n then .misfit n r.written else .sent

namespace World

/-- Which way out a write takes. The conditions are in the order of their precedence. -/
def writeFate (w : World κ ε) (e : ExchangeRef) (last : Bool) (chunks : List Octets) :
    WriteFate :=
  match w.activeFor? e with
  | none => .refused .completed
  | some a =>
    let r := (w.exchange e).response
    if a.write.isSome = true then .refused .writePending
    else if a.processing = false then .refused .notProcessing
    else match a.error with
      | some cause => .failed cause
      | none =>
        if r.lastWritten = true then .refused .completed
        else if chunks = [] ∧ last = false ∧ r.committed = true then .flushed
        else (r.after last chunks).fate last

/-- A write is entered and pending, and the response has counted it. -/
def counted (w : World κ ε) (e : ExchangeRef) (last : Bool) (callback : Callback κ)
    (chunks : List Octets) (fields : Fields) (outside : ε) : World κ ε :=
  { (w.accept e last callback chunks).modifyResponse e fun _ =>
      { (w.exchange e).response.after last chunks with fields } with outside }

/-- The state `u` has counted a write, and is otherwise what `w` was. The fields are the ones that the
stream made of those that it was shown, if the write has fixed the head. -/
structure Counts (w : World κ ε) (host : Host κ ε) (e : ExchangeRef) (stream : Stream)
    (last : Bool) (callback : Callback κ) (chunks : List Octets) (u : World κ ε) : Prop where
  state : u = w.counted e last callback chunks (u.exchange e).response.fields u.outside
  exchange : ∃ fields, u.exchange e =
    { w.exchange e with
      response := { (w.exchange e).response.after last chunks with fields } }
  fixed : (w.exchange e).response.committed = true →
    (u.exchange e).response.fields = (w.exchange e).response.fields ∧ u.outside = w.outside
  prepared : (w.exchange e).response.committed = false →
    let v := (w.accept e last callback chunks).modifyResponse e fun _ =>
      (w.exchange e).response.after last chunks
    stream.prepare host ((w.exchange e).response.after last chunks).fields v =
      (.done ((u.exchange e).response.fields, none), { v with outside := u.outside })

/-- The bytes of a write are handed to the stream once, with the head if the write has fixed it, and
whenever the stream then says how the send ended, the callback of this write is told just that. -/
structure SendsWrite (w : World κ ε) (host : Host κ ε) (e : ExchangeRef) (stream : Stream)
    (last : Bool) (callback : Callback κ) (chunks : List Octets) (s : Sending κ)
    (u : World κ ε) : Prop where
  counts : ∃ w₁, w.Counts host e stream last callback chunks w₁ ∧
    u = (w₁.enterSending callback).handOver e s
  sending : s = ⟨⟨w.sends.size⟩, stream,
    if (w.exchange e).response.committed = true then none else some (u.headOf e), last,
    .pendingWrite e, chunks⟩
  once : u.deeds = .sent e s :: w.deeds
  run : e.write host last callback chunks w =
    stream.send host (s.head.map (·, e)) last s.ref chunks u
  waits : u.sendCallback? s.ref = some (.pendingWrite e) ∧
    (u.activeFor? e).bind (·.write) = some callback
  told : ∀ {β : Type} {m : Engine κ ε β}, Permitted m →
    (m u).2.sendCallback? s.ref = some (.pendingWrite e) →
    ∀ pending, ((m u).2.activeFor? e).bind (·.write) = some pending → pending = callback ∧
      ∀ (host' : Host κ ε) result, (s.ref.complete host' result).Entrusts host' (m u).2
        (((m u).2.answer e s.ref result).dropWrite e)
        ⟨"write-complete", .complete callback result⟩

/-- What a write has to do that takes this way out: whom it has told what, and the state in which it
does so. -/
def Meets (w : World κ ε) (host : Host κ ε) (e : ExchangeRef) (last : Bool)
    (callback : Callback κ) (chunks : List Octets) : WriteFate → Prop
  | .refused why =>
    let w₀ := w.enterRefused e callback last chunks why
    (w₀.failures.get w.failures.next).error = why ∧
      (e.write host last callback chunks).Entrusts host w w₀
        ⟨"write-failure", .complete callback (.error w.failures.next)⟩
  | .failed cause =>
    (e.write host last callback chunks).Entrusts host w (w.enterWrote e callback last chunks)
      ⟨"write-failure", .complete callback (.error cause)⟩
  | .flushed =>
    (e.write host last callback chunks).Entrusts host w (w.enterWrote e callback last chunks)
      ⟨"write-complete", .complete callback (.ok ())⟩
  | .misfit length written => ∃ stream w₁, w.channel.stream = some stream ∧
      w.Counts host e stream last callback chunks w₁ ∧
      let u := (w₁.note (.mismatched e)).dropWrite e
      u.deeds = .mismatched e :: w.deeds ∧ (u.activeFor? e).bind (·.write) = none ∧
      let w₀ := u.enterFailure callback (.lengthMismatch length written)
      (w₀.failures.get w.failures.next).error = .lengthMismatch length written ∧
        (e.write host last callback chunks).Entrusts host w w₀
          ⟨"write-failure", .complete callback (.error w.failures.next)⟩
  | .sent => ∃ stream s u, w.channel.stream = some stream ∧
      w.SendsWrite host e stream last callback chunks s u

end World

/-! ## From the admission to the stream -/

/-- What is left of an admitted write once the head is fixed. -/
def Engine.sendIfFits (host : Host κ ε) (e : ExchangeRef) (stream : Stream)
    (head : Option ResponseHead) (last : Bool) (callback : Callback κ) (chunks : List Octets) :
    Engine κ ε Unit := do
  match (← Engine.response e).lengthFault last with
  | none =>
    Effect.modify (·.enterSending callback)
    Engine.sendTo host e stream head last (.pendingWrite e) chunks
  | some fault =>
    Engine.note (.mismatched e)
    match ← Engine.takeWrite e with
    | some callback => Engine.refuseWrite host callback fault
    | none => pure ()

variable {w w₁ u : World κ ε} {e : ExchangeRef} {a : Active κ} {stream : Stream} {last commits : Bool}
  {chunks : List Octets} {callback : Callback κ} {head : Option ResponseHead}

/-! ## The fate of an admitted write -/

namespace Response

variable {r : Response}

/-- The check of the length takes no notice of the fields. -/
theorem lengthFault_of_fate (r : Response) (last : Bool) (fields : Fields) :
    { r with fields }.lengthFault last =
    match r.fate last with
    | .misfit length written => some (.lengthMismatch length written)
    | _ => none := by
  unfold fate lengthFault
  cases r.committedLength with
  | none => rfl
  | some n =>
    dsimp only
    by_cases hbroken : n < r.written ∨ last = true ∧ r.written < n
    · rw [if_pos hbroken, if_pos hbroken]
    · rw [if_neg hbroken, if_neg hbroken]

theorem fate_cases (r : Response) (last : Bool) :
    r.fate last = .sent ∨ ∃ length written, r.fate last = .misfit length written := by
  unfold fate
  split
  · exact .inl rfl
  · split
    · exact .inr ⟨_, _, rfl⟩
    · exact .inl rfl

end Response

/-- The fate of a write follows from its admission. -/
theorem World.writeFate_of_active (ha : w.activeFor? e = some a) :
    w.writeFate e last chunks =
      match a.admission (w.exchange e).response last chunks with
      | .refuse why => .refused why
      | .failed cause => .failed cause
      | .flush => .flushed
      | .send _ => ((w.exchange e).response.after last chunks).fate last := by
  unfold writeFate Active.admission
  rw [ha]
  dsimp only
  by_cases hwrite : a.write.isSome = true
  · rw [if_pos hwrite, if_pos hwrite]
  · rw [if_neg hwrite, if_neg hwrite]
    cases a.processing with
    | false => rfl
    | true =>
      cases a.error with
      | some cause => rfl
      | none =>
        cases (w.exchange e).response.lastWritten with
        | true => rfl
        | false =>
          cases chunks <;> cases last <;> cases (w.exchange e).response.committed <;> rfl

namespace ExchangeRef

/-- An admitted write goes on with the head, once that is fixed. -/
theorem write_of_admitted (hstream : w.channel.stream = some stream)
    (ha : w.activeFor? e = some a)
    (hadm : a.admission (w.exchange e).response last chunks = .send commits)
    (callback : Callback κ) :
    e.write host last callback chunks w =
      ((if commits then some <$> Engine.freezeHead host e stream last else pure none) >>= fun head =>
        Engine.sendIfFits host e stream head last callback chunks)
        (w.accept e last callback chunks) := by
  refine (Effect.bind_of_done rfl).trans ((Effect.bind_of_done rfl).trans ?_)
  dsimp only
  rw [hstream, ha]
  dsimp only
  rw [hadm]
  cases commits <;> rfl

/-- An admitted write that finds the head fixed counts its bytes. -/
theorem write_of_fixed (hs : w.Sound) (hstream : w.channel.stream = some stream)
    (ha : w.activeFor? e = some a)
    (hadm : a.admission (w.exchange e).response last chunks = .send false)
    (callback : Callback κ) :
    w.Counts host e stream last callback chunks (w.accept e last callback chunks) ∧
      e.write host last callback chunks w =
        Engine.sendIfFits host e stream none last callback chunks
          (w.accept e last callback chunks) := by
  obtain ⟨-, -, -, hcommits⟩ := Active.admission_eq_send hadm
  have hfixed : (w.exchange e).response.committed = true := by simpa using hcommits
  have haccepted : (w.accept e last callback chunks).exchange e =
      { w.exchange e with response := (w.exchange e).response.after last chunks } := by
    rw [← Response.accept_of_fixed hfixed]
    exact congrArg (·.state)
      (record_accept_self w (hs.index_lt_of_active ha) last callback chunks)
  refine ⟨⟨?_, ⟨_, haccepted⟩, fun _ => ?_, fun hopen => ?_⟩,
    write_of_admitted hstream ha hadm callback⟩
  · -- what the response is set to is what it is
    have hsame := modifyExchange_eq_self (w.accept e last callback chunks) e
      (f := fun x => { x with
        response := { (w.exchange e).response.after last chunks with
          fields := ((w.accept e last callback chunks).exchange e).response.fields } })
      (by rw [haccepted])
    exact (congrArg (fun v : World κ ε =>
      { v with outside := (w.accept e last callback chunks).outside }) hsame).symm
  · rw [haccepted, ← Response.accept_of_fixed hfixed]
    exact ⟨rfl, rfl⟩
  · cases hfixed.symm.trans hopen

/-- An admitted write that finds the head open counts its bytes and fixes the head. -/
theorem write_of_open (hs : w.Sound) (hstream : w.channel.stream = some stream)
    (ha : w.activeFor? e = some a)
    (hadm : a.admission (w.exchange e).response last chunks = .send true)
    (hgives : stream.GivesFields host ((w.exchange e).response.after last chunks).fields w.outside)
    (callback : Callback κ) :
    ∃ w₁, (w.accept e last callback chunks).HeadFixed e last true w₁ (some (w₁.headOf e)) ∧
      w.Counts host e stream last callback chunks w₁ ∧
      e.write host last callback chunks w =
        Engine.sendIfFits host e stream (some (w₁.headOf e)) last callback chunks w₁ := by
  obtain ⟨-, -, -, hcommits⟩ := Active.admission_eq_send hadm
  have hopen : (w.exchange e).response.committed = false := by simpa using hcommits
  have hlt : e.index < (w.accept e last callback chunks).exchanges.size := by
    rw [size_accept]
    exact hs.index_lt_of_active ha
  have haccepted : (w.accept e last callback chunks).exchange e =
      { w.exchange e with response := (w.exchange e).response.accept last chunks } :=
    congrArg (·.state) (record_accept_self w (hs.index_lt_of_active ha) last callback chunks)
  have hafter : ((w.accept e last callback chunks).exchange e).response.freeze last =
      (w.exchange e).response.after last chunks := by
    rw [haccepted]
    exact Response.freeze_of_open hopen
  have hfrozen : (w.accept e last callback chunks).modifyResponse e (·.freeze last) =
      (w.accept e last callback chunks).modifyResponse e fun _ =>
        (w.exchange e).response.after last chunks := by
    refine modifyExchange_congr _ e ?_
    dsimp only
    rw [hafter]
  obtain ⟨fields, outside, hprepared⟩ := hgives
    ((w.accept e last callback chunks).modifyResponse e (·.freeze last)) rfl
  rw [← hafter] at hprepared
  have hexchange : ((w.accept e last callback chunks).fixHead e last outside fields).exchange e =
      { w.exchange e with
        response := { (w.exchange e).response.after last chunks with fields } } := by
    rw [← hafter]
    refine (exchange_modifyExchange_self _ hlt _).trans ?_
    rw [haccepted]
  refine ⟨_, .now outside fields,
    ⟨?_, ⟨fields, hexchange⟩, fun hfixed => ?_, fun _ => ?_⟩, ?_⟩
  · have hsame := modifyExchange_congr (w.accept e last callback chunks) e
      (f := fun x => { x with response := { x.response.freeze last with fields } })
      (g := fun x => { x with
        response := { (w.exchange e).response.after last chunks with fields } })
      (by rw [hafter])
    rw [hexchange]
    exact congrArg (fun v : World κ ε => { v with outside }) hsame
  · cases hopen.symm.trans hfixed
  · rw [hexchange]
    rw [hafter, hfrozen] at hprepared
    exact hprepared
  · rw [write_of_admitted hstream ha hadm, if_pos rfl, bind_map_left]
    exact Effect.bind_of_done (Engine.freezeHead_of_prepared hlt hprepared)

/-- An admitted write counts its bytes, and fixes the head if none did. -/
theorem write_counts (hs : w.Sound) (hstream : w.channel.stream = some stream)
    (ha : w.activeFor? e = some a)
    (hadm : a.admission (w.exchange e).response last chunks = .send commits)
    (hgives : stream.GivesFields host ((w.exchange e).response.after last chunks).fields w.outside)
    (callback : Callback κ) :
    ∃ w₁ head, (w.accept e last callback chunks).HeadFixed e last commits w₁ head ∧
      head = (if (w.exchange e).response.committed = true then none else some (w₁.headOf e)) ∧
      w.Counts host e stream last callback chunks w₁ ∧
      e.write host last callback chunks w =
        Engine.sendIfFits host e stream head last callback chunks w₁ := by
  obtain ⟨-, -, -, hcommits⟩ := Active.admission_eq_send hadm
  cases hcommitted : (w.exchange e).response.committed with
  | true =>
    rw [hcommitted] at hcommits
    subst hcommits
    obtain ⟨hcounts, hrun⟩ := e.write_of_fixed hs hstream ha hadm callback
    exact ⟨_, none, .before, rfl, hcounts, hrun⟩
  | false =>
    rw [hcommitted] at hcommits
    subst hcommits
    obtain ⟨w₁, hfix, hcounts, hrun⟩ := e.write_of_open hs hstream ha hadm hgives callback
    exact ⟨w₁, _, hfix, rfl, hcounts, hrun⟩

end ExchangeRef

/-! ## Sent or withheld -/

namespace World

theorem Counts.lengthFault_eq (h : w.Counts host e stream last callback chunks u) :
    (u.exchange e).response.lengthFault last =
      match ((w.exchange e).response.after last chunks).fate last with
      | .misfit length written => some (.lengthMismatch length written)
      | _ => none := by
  obtain ⟨fields, hexchange⟩ := h.exchange
  rw [hexchange]
  exact Response.lengthFault_of_fate _ last fields

/-- The callback that is pending while a send of an exchange is still to be answered is the one whose
bytes that send has. -/
theorem Possible.pending_unique (h : w.Possible) {ref : SendRef} {pending : Callback κ}
    (hsending : .sending ref callback ∈ w.ledger)
    (hcb : w.sendCallback? ref = some (.pendingWrite e))
    (hpending : (w.activeFor? e).bind (·.write) = some pending) : pending = callback := by
  obtain ⟨active, ha, hwrite⟩ := Option.bind_eq_some_iff.1 hpending
  have howned := h.owned.sending e active pending ref ha hwrite hcb
  have hmem : (ref, pending) ∈ w.sendings := List.mem_filterMap.2 ⟨_, howned, rfl⟩
  have hmem' : (ref, callback) ∈ w.sendings := List.mem_filterMap.2 ⟨_, hsending, rfl⟩
  -- a send occurs once in the ledger
  have hunique := List.inj_on_of_nodup_map h.nodup_sendings hmem hmem' rfl
  exact congrArg Prod.snd hunique

/-- The end of a send is told to the callback that is pending. -/
theorem complete_of_pending {ref : SendRef} {pending : Callback κ}
    (hcb : w.sendCallback? ref = some (.pendingWrite e))
    (hpending : (w.activeFor? e).bind (·.write) = some pending) (result : Result) :
    ref.complete host result w = Engine.runQueued host "write-complete" (.complete pending result)
      ((w.answer e ref result).dropWrite e) := by
  have hkept : ((w.answer e ref result).activeFor? e).bind (·.write) = some pending := hpending
  rw [SendRef.complete_eq hcb]
  refine (Effect.bind_of_done rfl).trans ((Effect.bind_of_done (Engine.takeWrite_run _ e)).trans ?_)
  show (match ((w.answer e ref result).activeFor? e).bind (·.write) with
    | some callback => Engine.runQueued host "write-complete" (.complete callback result)
    | none => pure () : Engine κ ε Unit) ((w.answer e ref result).dropWrite e) = _
  rw [hkept]

end World

namespace Engine

/-- Bytes that fit are handed to the stream. -/
theorem sendIfFits_of_fits (hfits : (w.exchange e).response.lengthFault last = none)
    (host : Host κ ε) (stream : Stream) (head : Option ResponseHead) (callback : Callback κ)
    (chunks : List Octets) :
    sendIfFits host e stream head last callback chunks w =
      stream.send host (head.map (·, e)) last ⟨w.sends.size⟩ chunks
        ((w.enterSending callback).handOver e
          ⟨⟨w.sends.size⟩, stream, head, last, .pendingWrite e, chunks⟩) := by
  refine (Effect.bind_of_done rfl).trans ?_
  dsimp only
  rw [hfits]
  rfl

/-- Bytes that do not fit are not, and the write is not pending any more. -/
theorem sendIfFits_of_misfit {fault : ExchangeError}
    (hfault : (w.exchange e).response.lengthFault last = some fault)
    (hpending : (w.activeFor? e).bind (·.write) = some callback) (host : Host κ ε)
    (stream : Stream) (head : Option ResponseHead) (chunks : List Octets) :
    sendIfFits host e stream head last callback chunks w =
      refuseWrite host callback fault ((w.note (.mismatched e)).dropWrite e) := by
  have hkept : ((w.note (.mismatched e)).activeFor? e).bind (·.write) = some callback := hpending
  refine (Effect.bind_of_done rfl).trans ?_
  dsimp only
  rw [hfault]
  refine (Effect.bind_of_done rfl).trans
    ((Effect.bind_of_done (takeWrite_run _ e)).trans ?_)
  dsimp only
  rw [hkept]

end Engine

namespace World

/-- Bytes that fit are sent. -/
theorem sendsWrite_of_fits (h : w.Possible) (hstream : w.channel.stream = some stream)
    (ha : w.activeFor? e = some a)
    (hadm : a.admission (w.exchange e).response last chunks = .send commits)
    (hfix : (w.accept e last callback chunks).HeadFixed e last commits w₁ head)
    (hhead : head =
      if (w.exchange e).response.committed = true then none else some (w₁.headOf e))
    (hcounts : w.Counts host e stream last callback chunks w₁)
    (hrun : e.write host last callback chunks w =
      Engine.sendIfFits host e stream head last callback chunks w₁)
    (hsent : ((w.exchange e).response.after last chunks).fate last = .sent) :
    let s : Sending κ := ⟨⟨w.sends.size⟩, stream, head, last, .pendingWrite e, chunks⟩
    let u := (w₁.enterSending callback).handOver e s
    u.Possible ∧ w.SendsWrite host e stream last callback chunks s u := by
  intro s u
  have hfits : (w₁.exchange e).response.lengthFault last = none := by
    rw [hcounts.lengthFault_eq, hsent]
  have hsends : w₁.sends = w.sends := hfix.sends_eq
  have hdeeds : w₁.deeds = w.deeds := hfix.deeds_eq
  have hactive : w₁.activeFor? e = some { a with write := some callback } :=
    (hfix.activeFor?_eq e).trans (activeFor?_accept ha last callback chunks)
  have hstep : Step w.Open w u := .send callback hstream ha hadm hfix hfits
  have hu : u.Possible := h.course (.single hstep)
  have hsending : .sending s.ref callback ∈ u.ledger := by
    show _ ∈ Entry.sending ⟨w₁.sends.size⟩ callback :: w₁.ledger
    rw [hsends]
    exact List.mem_cons_self
  refine ⟨hu, ⟨w₁, hcounts, rfl⟩, ?_, ?_, ?_, ?_, fun hm hcb pending hpending => ?_⟩
  · show Sending.mk _ _ head _ _ _ = _
    rw [hhead]
    rfl
  · exact congrArg (List.cons _) hdeeds
  · rw [hrun, Engine.sendIfFits_of_fits hfits, hsends]
  · refine ⟨?_, congrArg (·.bind (·.write)) hactive⟩
    have hcb : u.sendCallback? s.ref = if s.ref = ⟨w₁.sends.size⟩ then some (.pendingWrite e)
        else w₁.sendCallback? s.ref := sendCallback?_handOver rfl s.ref
    rw [hsends] at hcb
    exact hcb.trans (if_pos rfl)
  · have hlater := hm.runs u hu.sound
    have hkept := (Course.ledger_suffix hlater).subset hsending
    have hsame := (hu.course hlater).pending_unique hkept hcb hpending
    rw [hsame] at hpending
    refine ⟨hsame, fun host' result => .of_run ?_ (complete_of_pending hcb hpending result)⟩
    rw [channelQueue_dropWrite]
    exact (hu.course hlater).queue_settled

/-- Bytes that do not fit are withheld, and the write is refused for that. -/
theorem refused_of_misfit {length written : Nat} (ha : w.activeFor? e = some a)
    (hfix : (w.accept e last callback chunks).HeadFixed e last commits w₁ head)
    (hcounts : w.Counts host e stream last callback chunks w₁)
    (hrun : e.write host last callback chunks w =
      Engine.sendIfFits host e stream head last callback chunks w₁)
    (hmisfit : ((w.exchange e).response.after last chunks).fate last = .misfit length written) :
    e.write host last callback chunks w =
      Engine.refuseWrite host callback (.lengthMismatch length written)
        ((w₁.note (.mismatched e)).dropWrite e) := by
  have hfault : (w₁.exchange e).response.lengthFault last =
      some (.lengthMismatch length written) := by
    rw [hcounts.lengthFault_eq, hmisfit]
  have hactive : w₁.activeFor? e = some { a with write := some callback } :=
    (hfix.activeFor?_eq e).trans (activeFor?_accept ha last callback chunks)
  exact hrun.trans (Engine.sendIfFits_of_misfit hfault (congrArg (·.bind (·.write)) hactive) host
    stream head chunks)

/-- A write whose bytes do not fit is not pending any more, and is told so. -/
theorem withholds_of_misfit {length written : Nat} (h : w.Possible)
    (ha : w.activeFor? e = some a)
    (hfix : (w.accept e last callback chunks).HeadFixed e last commits w₁ head)
    (hcounts : w.Counts host e stream last callback chunks w₁)
    (hrun : e.write host last callback chunks w =
      Engine.sendIfFits host e stream head last callback chunks w₁)
    (hmisfit : ((w.exchange e).response.after last chunks).fate last = .misfit length written) :
    let u := (w₁.note (.mismatched e)).dropWrite e
    u.deeds = .mismatched e :: w.deeds ∧ (u.activeFor? e).bind (·.write) = none ∧
      ((u.enterFailure callback (.lengthMismatch length written)).failures.get
        w.failures.next).error = .lengthMismatch length written ∧
      (e.write host last callback chunks).Entrusts host w
        (u.enterFailure callback (.lengthMismatch length written))
        ⟨"write-failure", .complete callback (.error w.failures.next)⟩ := by
  intro u
  have hactive : (w₁.note (.mismatched e)).activeFor? e =
      some { a with write := some callback } :=
    (hfix.activeFor?_eq e).trans (activeFor?_accept ha last callback chunks)
  have hdeeds : w₁.deeds = w.deeds := hfix.deeds_eq
  have hfailures : u.failures = w.failures := by
    show ((w₁.note (.mismatched e)).dropWrite e).failures = w.failures
    rw [failures_dropWrite]
    exact hfix.failures_eq
  refine ⟨?_, ?_, ?_, ?_⟩
  · show ((w₁.note (.mismatched e)).dropWrite e).deeds = _
    rw [deeds_dropWrite]
    exact congrArg (List.cons _) hdeeds
  · show (((w₁.note (.mismatched e)).dropWrite e).activeFor? e).bind (·.write) = none
    rw [dropWrite, if_pos (by rw [hactive]; rfl), activeFor?_modifyActive, hactive]
    · rfl
    · exact fun _ => rfl
  · rw [← hfailures]
    exact Engine.error_enterFailure u callback _
  · have hsettled : u.channelQueue.Settled := by
      show ((w₁.note (.mismatched e)).dropWrite e).channelQueue.Settled
      rw [channelQueue_dropWrite]
      exact hfix.settled h.queue_settled
    rw [← hfailures]
    exact Engine.entrusts_refuseWrite hsettled callback _
      (refused_of_misfit ha hfix hcounts hrun hmisfit)

/-- An admitted write is sent or withheld. -/
theorem meets_of_admitted (h : w.Possible) (hstream : w.channel.stream = some stream)
    (ha : w.activeFor? e = some a)
    (hadm : a.admission (w.exchange e).response last chunks = .send commits)
    (hgives : stream.GivesFields host ((w.exchange e).response.after last chunks).fields w.outside)
    (callback : Callback κ) :
    w.Meets host e last callback chunks
      (((w.exchange e).response.after last chunks).fate last) := by
  obtain ⟨w₁, head, hfix, hhead, hcounts, hrun⟩ :=
    e.write_counts h.sound hstream ha hadm hgives callback
  rcases ((w.exchange e).response.after last chunks).fate_cases last with
    hsent | ⟨length, written, hmisfit⟩
  · rw [hsent]
    exact ⟨stream, _, _, hstream,
      (sendsWrite_of_fits h hstream ha hadm hfix hhead hcounts hrun hsent).2⟩
  · rw [hmisfit]
    exact ⟨stream, w₁, hstream, hcounts, withholds_of_misfit h ha hfix hcounts hrun hmisfit⟩

end World

/-- **What becomes of a write.** In every reachable state, for every exchange, a call of write takes
one way out, which follows from the state (`World.writeFate`): it is refused, it is told the failure
of the exchange, it succeeds with nothing to send, its bytes count but break the fixed length, or
they are sent. A write that is not admitted is only told so. One that is admitted counts its bytes,
and fixes the head if none did; a sent one makes one send, with the head if it has fixed it, and is
told what the stream says about that send. -/
theorem write_meets_fate {w : World κ ε} (hw : Reachable w) (hgives : host.GivesFields)
    (e : ExchangeRef) (last : Bool) (callback : Callback κ) (chunks : List Octets) :
    w.Meets host e last callback chunks (w.writeFate e last chunks) := by
  have h := hw.possible
  have hsettled : (w.enterWrote e callback last chunks).channelQueue.Settled := h.queue_settled
  obtain ⟨hrefuses, hfails⟩ := e.write_of_unadmitted w last chunks host callback
  have hrefused : ∀ why, w.admission e last chunks = .refuse why →
      w.Meets host e last callback chunks (.refused why) := fun why hadm =>
    ⟨Engine.error_enterFailure _ callback why,
      Engine.entrusts_refuseWrite hsettled callback why (hrefuses why hadm)⟩
  cases ha : w.activeFor? e with
  | none =>
    have hfate : w.writeFate e last chunks = .refused .completed := by
      unfold writeFate
      rw [ha]
    rw [hfate]
    apply hrefused
    unfold World.admission
    rw [ha]
    cases w.channel.stream <;> rfl
  | some a =>
    obtain ⟨stream, hstream⟩ := h.sound.exists_stream ha
    have hadmission : w.admission e last chunks =
        a.admission (w.exchange e).response last chunks := by
      unfold World.admission
      rw [ha, hstream]
    rw [writeFate_of_active ha]
    cases hadm : a.admission (w.exchange e).response last chunks with
    | refuse why => exact hrefused why (hadmission.trans hadm)
    | failed cause => exact .of_run hsettled (hfails cause (hadmission.trans hadm))
    | flush =>
      refine .of_run hsettled ?_
      refine (Effect.bind_of_done rfl).trans ((Effect.bind_of_done rfl).trans ?_)
      dsimp only
      rw [hstream, ha]
      dsimp only
      rw [hadm]
      rfl
    | send commits => exact meets_of_admitted h hstream ha hadm (hgives stream _ _) callback

/-- A response whose two bytes were written as declared, but not as the last: there may be a write of
nothing, one more byte is too many, and the last write sends no bytes and no head. -/
theorem write_meets_fate_wholeBody :
    let w := World.after wholeBody
    w.Meets (Host.idle 2) ⟨0⟩ false .ignore [] .flushed ∧
    w.Meets (Host.idle 2) ⟨0⟩ false .ignore [[33]] (.misfit 2 3) ∧
    w.Meets (Host.idle 2) ⟨0⟩ true .ignore [[], []] .sent := by
  intro w
  -- the state is a variable here, lest it be computed to see what is claimed of it
  have hmeets : ∀ v : World Unit Unit, Reachable v → ∀ last chunks fate,
      v.writeFate ⟨0⟩ last chunks = fate →
      v.Meets (Host.idle 2) ⟨0⟩ last .ignore chunks fate := by
    rintro v hv last chunks _ rfl
    exact write_meets_fate hv (Host.prepares_idle 2).givesFields ⟨0⟩ last .ignore chunks
  have hw := permitted_wholeBody.reachable
  have hnothing : w.writeFate ⟨0⟩ false [] = .flushed := by decide +kernel
  have htooMany : w.writeFate ⟨0⟩ false [[33]] = .misfit 2 3 := by decide +kernel
  have hend : w.writeFate ⟨0⟩ true [[], []] = .sent := by decide +kernel
  exact ⟨hmeets w hw _ _ _ hnothing, hmeets w hw _ _ _ htooMany, hmeets w hw _ _ _ hend⟩

end HttpExchange
