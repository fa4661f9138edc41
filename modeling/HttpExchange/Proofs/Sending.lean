import HttpExchange.Proofs.Ending

/-!
# The sends of an exchange

What an exchange hands to its stream follows a grammar: the head goes with the first bytes, the
last bytes are marked, nothing is sent while an earlier send is unanswered, and after the end of
the exchange only the call that ended it sends, once.

The grammar is about what a send finds of what was done before (`Record.Allowed`), so it is a property
of all suffixes of a history that begin with a send (`Record.Regular`). To show that a move keeps it,
one has to know from the flags what the history is like: that nothing was sent if the head is open,
that all sends were answered if no write is pending, and that the last bytes were sent only if they
are marked.

`Record.Orderly` is the invariant of a single exchange. It ties the flags of the response and the
pending write to what was sent, and every move keeps it (`Move.orderly`), one field after the other.
Most fields speak of an exchange whose end was not handed to its stream (`Record.Unclosed`): later the
flags may be anything, because the application can go on with its handles, and nothing is sent
whatever they are.
-/

namespace HttpExchange

variable {κ ε : Type}

/-! ## The response -/

namespace Response

variable {r r' : Response} {last commits : Bool} {head : Option ResponseHead}

/-- Fixing the head changes nothing but the status, the fields and the length that are sent. -/
theorem freeze_eq (r : Response) (last : Bool) :
    r.freeze last = { r with
      status := (r.freeze last).status, committedLength := (r.freeze last).committedLength,
      fields := (r.freeze last).fields } := by
  unfold freeze
  split <;> rfl

theorem HeadFixed.committed_eq (h : r.HeadFixed last commits r' head) :
    r'.committed = r.committed := by
  cases h with
  | before => rfl
  | now version fields =>
    rw [freeze_eq]

/-- A head that was fixed stays fixed. -/
theorem HeadFixed.not_uncommitted (h : r.HeadFixed last commits r' head)
    (hr : r.committed = true) : r'.committed ≠ false := by
  rw [h.committed_eq, hr]
  exact Bool.noConfusion

theorem HeadFixed.written_eq (h : r.HeadFixed last commits r' head) : r'.written = r.written := by
  cases h with
  | before => rfl
  | now version fields => rw [freeze_eq]

theorem HeadFixed.lastWritten_eq (h : r.HeadFixed last commits r' head) :
    r'.lastWritten = r.lastWritten := by
  cases h with
  | before => rfl
  | now version fields => rw [freeze_eq]

/-- There is a head to be sent exactly when it is fixed now. -/
theorem HeadFixed.isSome_eq (h : r.HeadFixed last commits r' head) : head.isSome = commits := by
  cases h <;> rfl

/-- The bytes written fit the fixed length if they are not too many, and at the end not too few. -/
theorem lengthFault_eq_none : r.lengthFault last = none ↔
    ∀ n, r.committedLength = some n → r.written ≤ n ∧ (last = true → n ≤ r.written) := by
  unfold lengthFault
  cases r.committedLength with
  | none => simp
  | some n =>
    simp only [Option.some.injEq, forall_eq', ite_eq_right_iff, reduceCtorEq, imp_false]
    rw [not_or, not_and, Nat.not_lt, Nat.not_lt]

/-- The bytes written break the fixed length for good. -/
structure Faulty (r : Response) : Prop where
  committed : r.committed = true
  broken : ∃ n, r.committedLength = some n ∧
    (n < r.written ∨ r.lastWritten = true ∧ r.written < n)

/-- A length fault that was found is one for good. -/
theorem faulty_of_lengthFault (hc : r.committed = true) (hl : r.lastWritten = last)
    {fault : ExchangeError} (h : r.lengthFault last = some fault) : r.Faulty := by
  refine ⟨hc, ?_⟩
  unfold lengthFault at h
  cases hn : r.committedLength with
  | none => simp [hn] at h
  | some n =>
    simp only [hn] at h
    split at h
    next hbroken =>
      refine ⟨n, rfl, ?_⟩
      rwa [hl]
    next => cases h

end Response

/-- What is admitted as a send finds no pending write and no failure, and the last write is still
to come. -/
theorem Active.admission_eq_send {a : Active κ} {r : Response} {last commits : Bool}
    {chunks : List Octets} (h : a.admission r last chunks = .send commits) :
    a.write = none ∧ a.error = none ∧ r.lastWritten = false ∧ commits = !r.committed := by
  unfold admission at h
  split at h
  · cases h
  next hwrite =>
    split at h
    · cases h
    · cases herror : a.error with
      | some cause => simp [herror] at h
      | none =>
        simp only [herror] at h
        split at h
        · cases h
        next hlast =>
          split at h
          · cases h
          · cases h
            exact ⟨by simpa using hwrite, rfl, by simpa using hlast, rfl⟩

namespace Record

variable {e : ExchangeRef} {closing : Prop} {ρ ρ' : Record κ} {h : List (Deed κ)}

/-! ## The grammar -/

/-- What a send finds of what was done for the exchange before. -/
structure Allowed (e : ExchangeRef) (s : Sending κ) (earlier : List (Deed κ)) : Prop where
  /-- The head goes with the first bytes. -/
  head : s.head.isSome = true ↔ ∀ s', .sent e s' ∉ earlier
  /-- The last bytes are the last. -/
  notLast : ∀ s', .sent e s' ∈ earlier → s'.last = false
  /-- All earlier sends were answered. -/
  answered : ∀ s', .sent e s' ∈ earlier → ∃ result, .sendEnded e s'.ref result ∈ earlier
  /-- After the end only the last bytes are sent, to the stream that was detached and with the
  callback that ends the exchange, and nothing was done since then. -/
  final : ∀ stream cause, .ended e stream cause ∈ earlier →
    s.last = true ∧ stream = some s.stream ∧ s.callback = finalCallback e s.stream cause ∧
    ∃ late before, earlier = late ++ .ended e stream cause :: before ∧
      ∀ d ∈ late, d.isAnswer = true
  /-- No bytes were found not to fit. -/
  fits : .mismatched e ∉ earlier

/-- Every send finds what it has to. -/
def Regular (e : ExchangeRef) (h : List (Deed κ)) : Prop :=
  ∀ s earlier, .sent e s :: earlier <:+ h → Allowed e s earlier

/-- Whatever is not a send finds nothing. -/
theorem Regular.cons_of_ne {d : Deed κ} (hr : Regular e h) (hd : ∀ s, d ≠ .sent e s) :
    Regular e (d :: h) := by
  intro s earlier hsuffix
  rcases List.suffix_cons_iff.1 hsuffix with heq | hsuffix
  · exact absurd (List.cons.inj heq).1.symm (hd s)
  · exact hr s earlier hsuffix

/-- One more send has to find what it has to. -/
theorem Regular.cons_sent {s : Sending κ} (hr : Regular e h) (hs : Allowed e s h) :
    Regular e (.sent e s :: h) := by
  intro s' earlier hsuffix
  rcases List.suffix_cons_iff.1 hsuffix with heq | hsuffix
  · cases heq
    exact hs
  · exact hr s' earlier hsuffix

/-- Of two sends that are not the same one finds the other. -/
theorem Regular.eq_or_before {s s' : Sending κ} (hr : Regular e h) (hs : .sent e s ∈ h)
    (hs' : .sent e s' ∈ h) : s = s' ∨
      (∃ earlier, Allowed e s earlier ∧ .sent e s' ∈ earlier ∧ earlier <:+ h) ∨
      ∃ earlier, Allowed e s' earlier ∧ .sent e s ∈ earlier ∧ earlier <:+ h := by
  -- split the history at the first send; the other stands before it or after it
  obtain ⟨late, earlier, rfl⟩ := List.append_of_mem hs
  have hsuffix : .sent e s :: earlier <:+ late ++ .sent e s :: earlier := List.suffix_append _ _
  rcases List.mem_append.1 hs' with hlate | hearly
  · obtain ⟨late₁, late₂, rfl⟩ := List.append_of_mem hlate
    refine .inr (.inr ⟨late₂ ++ .sent e s :: earlier, hr _ _ ?_, ?_, ?_⟩)
    · rw [List.append_assoc]
      exact List.suffix_append _ _
    · exact List.mem_append_right _ List.mem_cons_self
    · rw [List.append_assoc]
      exact (List.suffix_cons _ _).trans (List.suffix_append _ _)
  · rcases List.mem_cons.1 hearly with heq | hearly
    · cases heq
      exact .inl rfl
    · exact .inr (.inl ⟨earlier, hr _ _ hsuffix, hearly, (List.suffix_cons _ _).trans hsuffix⟩)

/-- At most one send is unanswered. -/
theorem Regular.unanswered_unique {s s' : Sending κ} (hr : Regular e h) (hs : .sent e s ∈ h)
    (hs' : .sent e s' ∈ h) (hu : Unanswered e h s.ref) (hu' : Unanswered e h s'.ref) :
    s = s' := by
  rcases hr.eq_or_before hs hs' with heq | ⟨earlier, ha, hmem, hsuffix⟩ |
    ⟨earlier, ha, hmem, hsuffix⟩
  · exact heq
  · obtain ⟨result, hans⟩ := ha.answered s' hmem
    exact absurd (hsuffix.subset hans) (hu' result)
  · obtain ⟨result, hans⟩ := ha.answered s hmem
    exact absurd (hsuffix.subset hans) (hu result)

/-- At most one send has the last bytes. -/
theorem Regular.last_unique {s s' : Sending κ} (hr : Regular e h) (hs : .sent e s ∈ h)
    (hs' : .sent e s' ∈ h) (hl : s.last = true) (hl' : s'.last = true) : s = s' := by
  rcases hr.eq_or_before hs hs' with heq | ⟨earlier, ha, hmem, -⟩ | ⟨earlier, ha, hmem, -⟩
  · exact heq
  · rw [ha.notLast s' hmem] at hl'
    cases hl'
  · rw [ha.notLast s hmem] at hl
    cases hl

/-! ## The invariant -/

/-- All sends were answered. -/
def AllAnswered (e : ExchangeRef) (h : List (Deed κ)) : Prop :=
  ∀ s, .sent e s ∈ h → ∃ result, .sendEnded e s.ref result ∈ h

/-- Unless something was sent there is nothing new to be answered. -/
theorem AllAnswered.cons_of_ne {d : Deed κ} (ha : AllAnswered e h) (hd : ∀ s, d ≠ .sent e s) :
    AllAnswered e (d :: h) := by
  intro s hs
  rcases List.mem_cons.1 hs with rfl | hs
  · exact absurd rfl (hd s)
  · obtain ⟨result, hr⟩ := ha s hs
    exact ⟨result, List.mem_cons_of_mem _ hr⟩

/-- The end was not handed to the stream. -/
def Unclosed (h : List (Deed κ)) : Prop := ∀ d ∈ h, d.closes = false

/-- What the flags of an exchange and its history say about each other. -/
structure Orderly (e : ExchangeRef) (ρ : Record κ) : Prop where
  unended : ρ.Unended e
  regular : Regular e ρ.history
  /-- An exchange ends once. -/
  once : ∀ stream cause stream' cause', .ended e stream cause ∈ ρ.history →
    .ended e stream' cause' ∈ ρ.history → stream = stream' ∧ cause = cause'
  /-- Nothing is sent before the head is fixed. -/
  uncommitted : ρ.state.response.committed = false → ∀ s, .sent e s ∉ ρ.history
  /-- Without a pending write all sends were answered. -/
  idle : ∀ a, ρ.active = some a → a.write = none → a.error = none → AllAnswered e ρ.history
  /-- A success finds all sends answered. -/
  settled : ∀ stream, .ended e stream none ∈ ρ.history → Unclosed ρ.history →
    AllAnswered e ρ.history
  /-- The last bytes are known as such. -/
  last : Unclosed ρ.history → ∀ s, .sent e s ∈ ρ.history → s.last = true →
    ρ.state.response.lastWritten = true
  /-- What the ending call sends are the last bytes. -/
  final : ∀ s, .sent e s ∈ ρ.history → s.callback.isFinal = true → s.last = true
  /-- Bytes that did not fit never will. -/
  faulty : Unclosed ρ.history → .mismatched e ∈ ρ.history → ρ.state.response.Faulty

/-- An exchange that is ending has ended in its history. -/
theorem Ending.mem_ended {stream : Option Stream} {cause : Option FailureRef}
    (h : ρ.Ending e stream cause) : .ended e stream cause ∈ ρ.history := by
  obtain ⟨late, earlier, heq, -⟩ := h.latest
  rw [heq]
  exact List.mem_append_right _ List.mem_cons_self

section Moves

variable {a : Active κ} {last commits : Bool} {chunks : List Octets} {r : Response}
  {head : Option ResponseHead} {stream : Stream} {cause : FailureRef}

/-- An active exchange was not ended towards its stream. -/
theorem Orderly.unclosed_of_active (ho : ρ.Orderly e) (ha : ρ.active = some a) :
    Unclosed ρ.history :=
  fun d hd => (ho.unended.going (by rw [ha]; rfl) d hd).1

/-- Nor was it detached. -/
theorem Orderly.not_ended_of_active (ho : ρ.Orderly e) (ha : ρ.active = some a)
    (stream : Option Stream) (cause : Option FailureRef) : .ended e stream cause ∉ ρ.history :=
  fun hmem => (ho.unended.going (by rw [ha]; rfl) _ hmem).2 stream cause rfl

/-- An admitted write that fits finds that all bytes before fitted. -/
theorem Orderly.fits_of_send (ho : ρ.Orderly e) (ha : ρ.active = some a)
    (hadm : a.admission ρ.state.response last chunks = .send commits)
    (hfix : (ρ.state.response.accept last chunks).HeadFixed last commits r head)
    (hfits : r.lengthFault last = none) : .mismatched e ∉ ρ.history := by
  intro hmem
  obtain ⟨-, -, hlast, hcommits⟩ := Active.admission_eq_send hadm
  obtain ⟨hcommitted, n, hn, hbroken⟩ := ho.faulty (ho.unclosed_of_active ha) hmem
  rw [hcommitted] at hcommits
  subst hcommits
  cases hfix
  have hle := (Response.lengthFault_eq_none.1 hfits n hn).1
  rcases hbroken with hlt | ⟨hl, -⟩
  · exact Nat.not_lt_of_le (Nat.le_trans (Nat.le_add_right _ _) hle) hlt
  · rw [hlast] at hl
    cases hl

/-- The end of a response that fits finds that all bytes before fitted. -/
theorem Orderly.fits_of_close (ho : ρ.Orderly e) (hu : Unclosed ρ.history)
    (hfix : ρ.state.response.close.HeadFixed true (!ρ.state.response.committed) r head)
    (hfits : r.lengthFault true = none) : .mismatched e ∉ ρ.history := by
  intro hmem
  obtain ⟨hcommitted, n, hn, hbroken⟩ := ho.faulty hu hmem
  rw [hcommitted] at hfix
  cases hfix
  obtain ⟨hle, hge⟩ := Response.lengthFault_eq_none.1 hfits n hn
  rcases hbroken with hlt | ⟨-, hlt⟩
  · exact Nat.not_lt_of_le hle hlt
  · exact Nat.not_lt_of_le (hge rfl) hlt

/-- A head goes with bytes exactly if there were none before. -/
theorem Orderly.head_iff (ho : ρ.Orderly e) (hhead : head.isSome = !ρ.state.response.committed)
    (hused : ρ.state.response.committed = true → HeadUsed e ρ.history)
    (hfits : .mismatched e ∉ ρ.history) :
    head.isSome = true ↔ ∀ s', .sent e s' ∉ ρ.history := by
  rw [hhead]
  cases hcommitted : ρ.state.response.committed with
  | false => exact iff_of_true rfl (ho.uncommitted hcommitted)
  | true =>
    refine iff_of_false Bool.false_ne_true fun hnone => ?_
    rcases hused hcommitted with ⟨s, hs⟩ | hmem
    · exact hnone s hs
    · exact hfits hmem

/-- An admitted write that fits may be sent. -/
theorem Orderly.allowed_send (ho : ρ.Orderly e) (ha : ρ.active = some a)
    (hadm : a.admission ρ.state.response last chunks = .send commits)
    (hfix : (ρ.state.response.accept last chunks).HeadFixed last commits r head)
    (hfits : r.lengthFault last = none) (ref : SendRef) :
    Allowed e ⟨ref, stream, head, last, .pendingWrite e, chunks⟩ ρ.history := by
  obtain ⟨hwrite, herror, hlast, hcommits⟩ := Active.admission_eq_send hadm
  have hfit := ho.fits_of_send ha hadm hfix hfits
  refine ⟨?_, fun s' hs' => ?_, ho.idle a ha hwrite herror, fun st c hmem => ?_, hfit⟩
  · exact ho.head_iff (hfix.isSome_eq.trans hcommits) (ho.unended.used a ha hwrite herror) hfit
  · refine Bool.eq_false_iff.2 fun hl => ?_
    have hl' := ho.last (ho.unclosed_of_active ha) s' hs' hl
    rw [hlast] at hl'
    cases hl'
  · exact absurd hmem (ho.not_ended_of_active ha st c)

/-- The bytes that the ending call sends are all there is between the end and them. -/
theorem Orderly.final_of_ending {ended : Option FailureRef} (ho : ρ.Orderly e)
    (hend : ρ.Ending e (some stream) ended) (ref : SendRef) (chunks : List Octets)
    (st : Option Stream) (c : Option FailureRef) (hmem : .ended e st c ∈ ρ.history) :
    let s : Sending κ := ⟨ref, stream, head, true, finalCallback e stream ended, chunks⟩
    s.last = true ∧ st = some s.stream ∧ s.callback = finalCallback e s.stream c ∧
      ∃ late before, ρ.history = late ++ .ended e st c :: before ∧
        ∀ d ∈ late, d.isAnswer = true := by
  obtain ⟨rfl, rfl⟩ := ho.once _ _ _ _ hmem hend.mem_ended
  exact ⟨rfl, rfl, rfl, hend.latest⟩

/-- The final frame of a success may be sent, unless the last bytes were sent before. -/
theorem Orderly.allowed_sendFinal (ho : ρ.Orderly e) (hend : ρ.Ending e (some stream) none)
    (hfix : ρ.state.response.close.HeadFixed true (!ρ.state.response.committed) r head)
    (hfits : r.lengthFault true = none) (hlast : r.lastWritten = false) (ref : SendRef) :
    Allowed e ⟨ref, stream, head, true, .finalFrame e stream, []⟩ ρ.history := by
  have hfit := ho.fits_of_close hend.unclosed hfix hfits
  refine ⟨?_, fun s' hs' => ?_, ho.settled _ hend.mem_ended hend.unclosed,
    ho.final_of_ending hend ref [], hfit⟩
  · exact ho.head_iff hfix.isSome_eq (hend.used rfl) hfit
  · refine Bool.eq_false_iff.2 fun hl => ?_
    have hl' : r.lastWritten = true :=
      hfix.lastWritten_eq.trans (ho.last hend.unclosed s' hs' hl)
    rw [hlast] at hl'
    cases hl'

/-- The page of an error may be sent if nothing else was. -/
theorem Orderly.allowed_sendError {body : Octets} {fields : Fields} (ho : ρ.Orderly e)
    (hend : ρ.Ending e (some stream) (some cause)) (hcommitted : ρ.state.response.committed = false)
    (hfix : (ρ.state.response.overlaid body fields).HeadFixed true true r head) (ref : SendRef) :
    Allowed e ⟨ref, stream, head, true, .errorResponse e stream cause, [body]⟩ ρ.history := by
  have hnone := ho.uncommitted hcommitted
  refine ⟨iff_of_true hfix.isSome_eq hnone, fun s' hs' => absurd hs' (hnone s'),
    fun s' hs' => absurd hs' (hnone s'), ho.final_of_ending hend ref [body], fun hmem => ?_⟩
  have hfaulty := ho.faulty hend.unclosed hmem
  rw [hfaulty.committed] at hcommitted
  cases hcommitted

end Moves

/-! ## Every move keeps the invariant -/

theorem finalOutcome_ne_sent (stream : Stream) (cause : Option FailureRef) (result : Result)
    (s : Sending κ) : finalOutcome e stream cause result ≠ .sent e s := by
  cases cause <;> cases result <;> simp [finalOutcome]

theorem finalOutcome_ne_ended (stream : Stream) (cause : Option FailureRef) (result : Result)
    (st : Option Stream) (c : Option FailureRef) :
    finalOutcome (κ := κ) e stream cause result ≠ .ended e st c := by
  cases cause <;> cases result <;> simp [finalOutcome]

/-- A move sends only what it may. -/
theorem Move.regular (hm : ρ.Move e closing ρ') (ho : ρ.Orderly e) : Regular e ρ'.history := by
  cases hm with
  | stay | edit | contentAvailable | storeFailure | enable | demand | listenForError | stick
  | complete | recycle | stickFinal | stickError => exact ho.regular
  | create => exact fun s earlier hsuffix => absurd hsuffix (by simp)
  | withhold | answer | succeed | fail | tellSuccess | tellFailure | conclude =>
    exact ho.regular.cons_of_ne fun _ => nofun
  | answerFinal =>
    refine Regular.cons_of_ne ?_ (finalOutcome_ne_sent _ _ _)
    exact ho.regular.cons_of_ne fun _ => nofun
  | mismatch =>
    refine Regular.cons_of_ne ?_ fun _ => nofun
    exact ho.regular.cons_of_ne fun _ => nofun
  | send _ _ ha hadm hfix hfits =>
    exact ho.regular.cons_sent (ho.allowed_send ha hadm hfix hfits _)
  | sendFinal _ hend _ hfix hfits hlast =>
    exact ho.regular.cons_sent (ho.allowed_sendFinal hend hfix hfits hlast _)
  | sendError _ _ _ hend _ hcommitted hfix =>
    exact ho.regular.cons_sent (ho.allowed_sendError hend hcommitted hfix _)

/-- Only an active exchange ends. -/
theorem Move.mem_ended (hm : ρ.Move e closing ρ') {stream : Option Stream}
    {cause : Option FailureRef} (hmem : .ended e stream cause ∈ ρ'.history) :
    .ended e stream cause ∈ ρ.history ∨
      ρ.active.isSome = true ∧ ρ'.history = .ended e stream cause :: ρ.history := by
  cases hm with
  | stay | edit | contentAvailable | storeFailure | enable | demand | listenForError | stick
  | complete | recycle | stickFinal | stickError => exact .inl hmem
  | create => exact absurd hmem List.not_mem_nil
  | withhold | answer | tellSuccess | tellFailure | conclude | send | sendFinal | sendError =>
    exact .inl (List.mem_of_ne_of_mem (by nofun) hmem)
  | answerFinal =>
    have hmem' := List.mem_of_ne_of_mem (finalOutcome_ne_ended _ _ _ _ _).symm hmem
    exact .inl (List.mem_of_ne_of_mem (by nofun) hmem')
  | mismatch =>
    exact .inl (List.mem_of_ne_of_mem (by nofun) (List.mem_of_ne_of_mem (by nofun) hmem))
  | succeed _ ha | fail _ _ ha =>
    rcases List.mem_cons.1 hmem with heq | hmem
    · cases heq
      exact .inr ⟨by rw [ha]; rfl, rfl⟩
    · exact .inl hmem

/-- Only an active exchange is detached, and it is not active any more. -/
theorem Move.once (hm : ρ.Move e closing ρ') (ho : ρ.Orderly e) {stream stream' : Option Stream}
    {cause cause' : Option FailureRef} (hmem : .ended e stream cause ∈ ρ'.history)
    (hmem' : .ended e stream' cause' ∈ ρ'.history) : stream = stream' ∧ cause = cause' := by
  -- an end that is new finds the exchange active, and an active exchange has no end before
  have hnew : ∀ {st c st' c'}, ρ.active.isSome = true → ρ'.history = .ended e st c :: ρ.history →
      .ended e st' c' ∈ ρ'.history → st = st' ∧ c = c' := by
    intro st c st' c' ha heq hmem
    rw [heq] at hmem
    rcases List.mem_cons.1 hmem with heq | hmem
    · cases heq
      exact ⟨rfl, rfl⟩
    · exact absurd rfl ((ho.unended.going ha _ hmem).2 st' c')
  rcases hm.mem_ended hmem with hold | ⟨ha, heq⟩
  · rcases hm.mem_ended hmem' with hold' | ⟨ha, heq⟩
    · exact ho.once _ _ _ _ hold hold'
    · obtain ⟨h1, h2⟩ := hnew ha heq hmem
      exact ⟨h1.symm, h2.symm⟩
  · exact hnew ha heq hmem'

/-- A move that sends fixes the head before, or finds it fixed. -/
theorem Move.uncommitted (hm : ρ.Move e closing ρ') (ho : ρ.Orderly e)
    (hc : ρ'.state.response.committed = false) : ∀ s, .sent e s ∉ ρ'.history := by
  cases hm with
  | stay | contentAvailable | enable | demand | listenForError | complete | storeFailure =>
    exact ho.uncommitted hc
  | create => exact fun _ => List.not_mem_nil
  | edit hedit =>
    rw [hedit.same] at hc
    exact ho.uncommitted hc
  | answer | succeed | fail | tellFailure | conclude =>
    exact fun s hs => ho.uncommitted hc s (List.mem_of_ne_of_mem (by nofun) hs)
  | answerFinal _ hmem => exact absurd hmem (ho.uncommitted hc _)
  | recycle _ _ _ _ hcommitted => exact ho.uncommitted hcommitted
  | send _ _ _ _ hfix | withhold _ _ hfix | stick _ _ _ hfix | mismatch _ _ _ _ hfix
  | tellSuccess _ _ _ hfix | sendFinal _ _ _ hfix | stickFinal _ _ _ _ hfix
  | sendError _ _ _ _ _ _ hfix | stickError _ _ _ _ _ _ hfix =>
    exact absurd hc (hfix.not_uncommitted rfl)

/-- The answer of the one send that was unanswered. -/
theorem Orderly.allAnswered_of_answer (ho : ρ.Orderly e) {s : Sending κ} (result : Result)
    (hs : .sent e s ∈ ρ.history) (hu : Unanswered e ρ.history s.ref) :
    AllAnswered e (.sendEnded e s.ref result :: ρ.history) := by
  intro s' hs'
  have hs'' : .sent e s' ∈ ρ.history := List.mem_of_ne_of_mem (by nofun) hs'
  -- at most one send is unanswered, and that is the one that is answered now
  by_cases hu' : Unanswered e ρ.history s'.ref
  · rw [ho.regular.unanswered_unique hs'' hs hu' hu]
    exact ⟨result, List.mem_cons_self⟩
  · obtain ⟨result', hr⟩ := Classical.not_forall.1 hu'
    exact ⟨result', List.mem_cons_of_mem _ (Classical.not_not.1 hr)⟩

/-- A write that is pending is taken when its send is answered, so without one all were. -/
theorem Move.idle (hm : ρ.Move e closing ρ') (ho : ρ.Orderly e) {a' : Active κ}
    (ha' : ρ'.active = some a') (hw : a'.write = none) (he : a'.error = none) :
    AllAnswered e ρ'.history := by
  cases hm with
  | stay | edit => exact ho.idle a' ha' hw he
  | create => exact fun _ hs => absurd hs List.not_mem_nil
  | contentAvailable ha | enable ha | demand _ ha | listenForError _ ha =>
    cases ha'
    exact ho.idle _ ha hw he
  | storeFailure =>
    cases ha'
    cases he
  | send | stick =>
    cases ha'
    cases hw
  | withhold ha hadm =>
    obtain ⟨hwrite, herror, -⟩ := Active.admission_eq_send hadm
    exact (ho.idle _ ha hwrite herror).cons_of_ne fun _ => nofun
  | answer result hmem hun => exact ho.allAnswered_of_answer result hmem hun
  | answerFinal result hmem hun =>
    exact (ho.allAnswered_of_answer result hmem hun).cons_of_ne (finalOutcome_ne_sent _ _ _)
  | succeed | fail | mismatch | tellSuccess | sendFinal | sendError => cases ha'
  | complete _ hend | recycle _ _ _ hend | stickFinal _ hend | tellFailure _ _ hend
  | stickError _ _ _ hend => simp [hend.detached] at ha'
  | conclude _ hnone => simp [hnone] at ha'

/-- What was closed before is closed now. -/
theorem Unclosed.of_cons {d : Deed κ} (hu : Unclosed (d :: h)) : Unclosed h :=
  fun d' hd' => hu d' (List.mem_cons_of_mem _ hd')

theorem finalOutcome_closes (e : ExchangeRef) (stream : Stream) (cause : Option FailureRef)
    (result : Result) : (finalOutcome (κ := κ) e stream cause result).closes = true := by
  cases cause <;> cases result <;> rfl

/-- One deed is enough to close. -/
theorem not_unclosed {d : Deed κ} (hd : d ∈ h) (hc : d.closes = true) : ¬Unclosed h := by
  intro hu
  rw [hu d hd] at hc
  cases hc

/-- An exchange that succeeds has no write pending, and so no send unanswered. -/
theorem Move.settled (hm : ρ.Move e closing ρ') (ho : ρ.Orderly e) {stream : Option Stream}
    (hend : .ended e stream none ∈ ρ'.history) (hu : Unclosed ρ'.history) :
    AllAnswered e ρ'.history := by
  cases hm with
  | stay | edit | contentAvailable | storeFailure | enable | demand | listenForError | stick
  | complete | recycle | stickFinal | stickError => exact ho.settled stream hend hu
  | create => exact fun _ hs => absurd hs List.not_mem_nil
  | send _ _ ha | withhold ha =>
    have hend' := List.mem_of_ne_of_mem (by nofun) hend
    exact absurd hend' (ho.not_ended_of_active ha _ _)
  | answer result hmem hun => exact ho.allAnswered_of_answer result hmem hun
  | answerFinal result hmem hun =>
    exact (ho.allAnswered_of_answer result hmem hun).cons_of_ne (finalOutcome_ne_sent _ _ _)
  | succeed _ ha _ _ hwrite herror =>
    exact (ho.idle _ ha hwrite herror).cons_of_ne fun _ => nofun
  | fail _ cause ha =>
    have hend' := List.mem_of_ne_of_mem (by nofun) hend
    exact absurd hend' (ho.not_ended_of_active ha _ _)
  | mismatch | tellSuccess | sendFinal | tellFailure | sendError =>
    exact absurd hu (not_unclosed List.mem_cons_self rfl)
  | conclude _ _ _ hd hc => exact absurd hu.of_cons (not_unclosed hd hc)

/-- The last bytes of a write are marked before they are sent. -/
theorem Move.last (hm : ρ.Move e closing ρ') (ho : ρ.Orderly e) (hu : Unclosed ρ'.history)
    {s : Sending κ} (hs : .sent e s ∈ ρ'.history) (hl : s.last = true) :
    ρ'.state.response.lastWritten = true := by
  cases hm with
  | stay | contentAvailable | storeFailure | enable | demand | listenForError | complete =>
    exact ho.last hu s hs hl
  | edit hedit =>
    rw [hedit.same]
    exact ho.last hu s hs hl
  | create => exact absurd hs List.not_mem_nil
  | send _ _ ha hadm hfix =>
    rw [hfix.lastWritten_eq]
    rcases List.mem_cons.1 hs with heq | hs
    · cases heq
      exact hl
    · -- after the last bytes the write would not have been admitted
      have hlast := ho.last hu.of_cons s hs hl
      rw [(Active.admission_eq_send hadm).2.2.1] at hlast
      cases hlast
  | withhold ha hadm =>
    have hlast := ho.last hu.of_cons s (List.mem_of_ne_of_mem (by nofun) hs) hl
    rw [(Active.admission_eq_send hadm).2.2.1] at hlast
    cases hlast
  | stick _ ha hadm =>
    have hlast := ho.last hu s hs hl
    rw [(Active.admission_eq_send hadm).2.2.1] at hlast
    cases hlast
  | answer | succeed | fail =>
    exact ho.last hu.of_cons s (List.mem_of_ne_of_mem (by nofun) hs) hl
  | answerFinal =>
    exact absurd hu (not_unclosed List.mem_cons_self (finalOutcome_closes _ _ _ _))
  | recycle _ _ _ _ hcommitted => exact absurd hs (ho.uncommitted hcommitted s)
  | stickFinal _ _ _ hcommitted => exact absurd hs (ho.uncommitted hcommitted s)
  | stickError _ _ _ _ _ hcommitted => exact absurd hs (ho.uncommitted hcommitted s)
  | mismatch | tellSuccess | sendFinal | tellFailure | sendError =>
    exact absurd hu (not_unclosed List.mem_cons_self rfl)
  | conclude _ _ _ hd hc => exact absurd hu.of_cons (not_unclosed hd hc)

/-- What an ending call sends is marked as the last. -/
theorem Move.final (hm : ρ.Move e closing ρ') (ho : ρ.Orderly e) {s : Sending κ}
    (hs : .sent e s ∈ ρ'.history) (hf : s.callback.isFinal = true) : s.last = true := by
  cases hm with
  | stay | edit | contentAvailable | storeFailure | enable | demand | listenForError | stick
  | complete | recycle | stickFinal | stickError => exact ho.final s hs hf
  | create => exact absurd hs List.not_mem_nil
  | withhold | answer | succeed | fail | tellSuccess | tellFailure | conclude =>
    exact ho.final s (List.mem_of_ne_of_mem (by nofun) hs) hf
  | mismatch =>
    exact ho.final s (List.mem_of_ne_of_mem (by nofun) (List.mem_of_ne_of_mem (by nofun) hs)) hf
  | answerFinal =>
    have hs' := List.mem_of_ne_of_mem (finalOutcome_ne_sent _ _ _ _).symm hs
    exact ho.final s (List.mem_of_ne_of_mem (by nofun) hs') hf
  | send =>
    rcases List.mem_cons.1 hs with heq | hs
    · cases heq
      cases hf
    · exact ho.final s hs hf
  | sendFinal | sendError =>
    rcases List.mem_cons.1 hs with heq | hs
    · cases heq
      rfl
    · exact ho.final s hs hf

/-- Bytes that were found not to fit were marked as written, and a length that is fixed stays. -/
theorem Move.faulty (hm : ρ.Move e closing ρ') (ho : ρ.Orderly e) (hu : Unclosed ρ'.history)
    (hmis : .mismatched e ∈ ρ'.history) : ρ'.state.response.Faulty := by
  have hcommitted : Unclosed ρ.history → .mismatched e ∈ ρ.history →
      ρ.state.response.committed ≠ false := by
    intro hu hmis
    rw [(ho.faulty hu hmis).committed]
    nofun
  cases hm with
  | stay | contentAvailable | storeFailure | enable | demand | listenForError | complete =>
    exact ho.faulty hu hmis
  | edit hedit =>
    have hf := ho.faulty hu hmis
    rw [hedit.fixed hf.committed]
    exact hf
  | create => exact absurd hmis List.not_mem_nil
  | send _ _ ha hadm hfix hfits =>
    have hold := List.mem_of_ne_of_mem (by nofun) hmis
    exact absurd hold (ho.fits_of_send ha hadm hfix hfits)
  | withhold ha hadm hfix hfault =>
    exact Response.faulty_of_lengthFault hfix.committed_eq hfix.lastWritten_eq hfault
  | stick _ ha hadm =>
    -- a write that fixes the head is the first, so nothing was found not to fit before
    have hopen := (Active.admission_eq_send hadm).2.2.2
    exact absurd (by simpa using hopen.symm) (hcommitted hu hmis)
  | answer | succeed | fail =>
    exact ho.faulty hu.of_cons (List.mem_of_ne_of_mem (by nofun) hmis)
  | answerFinal =>
    exact absurd hu (not_unclosed List.mem_cons_self (finalOutcome_closes _ _ _ _))
  | recycle _ _ _ _ hopen => exact absurd hopen (hcommitted hu hmis)
  | stickFinal _ _ _ hopen => exact absurd hopen (hcommitted hu hmis)
  | stickError _ _ _ _ _ hopen => exact absurd hopen (hcommitted hu hmis)
  | mismatch | tellSuccess | sendFinal | tellFailure | sendError =>
    exact absurd hu (not_unclosed List.mem_cons_self rfl)
  | conclude _ _ _ hd hc => exact absurd hu.of_cons (not_unclosed hd hc)

/-- A move keeps the order. -/
theorem Move.orderly (hm : ρ.Move e closing ρ') (ho : ρ.Orderly e) : ρ'.Orderly e where
  unended := hm.unended ho.unended
  regular := hm.regular ho
  once _ _ _ _ := hm.once ho
  uncommitted := hm.uncommitted ho
  idle _ := hm.idle ho
  settled _ := hm.settled ho
  last hu _ := hm.last ho hu
  final _ := hm.final ho
  faulty := hm.faulty ho

/-- A new exchange has sent nothing. -/
theorem orderly_new (e : ExchangeRef) (x : Exchange) : Orderly e (⟨x, none, []⟩ : Record κ) where
  unended := ⟨nofun, nofun⟩
  regular _ _ h := absurd h (by simp)
  once _ _ _ _ h := absurd h List.not_mem_nil
  uncommitted _ _ := List.not_mem_nil
  idle _ h := nomatch h
  settled _ h := absurd h List.not_mem_nil
  last _ _ h := absurd h List.not_mem_nil
  final _ h := absurd h List.not_mem_nil
  faulty _ h := absurd h List.not_mem_nil

end Record

/-- Every exchange is in order at all times. -/
theorem World.Possible.orderly {w : World κ ε} (h : w.Possible) (e : ExchangeRef) :
    (w.record e).Orderly e :=
  h.record_induct e (Record.orderly_new e _) fun _ _ ho hm => hm.orderly ho

/-- **The grammar of sends.** Whatever an exchange hands to its stream: the head goes with the
first bytes and with no others; nothing follows the last bytes; every earlier send was answered;
and a send after the end of the exchange is the one final frame or error response of the call that
ended it, made on the stream that was detached. -/
theorem send_grammar {w : World κ ε} (hw : Reachable w) {e : ExchangeRef} {s : Sending κ}
    {earlier : List (Deed κ)} (hs : .sent e s :: earlier <:+ w.history e) :
    (s.head.isSome = true ↔ ∀ s', .sent e s' ∉ earlier) ∧
    (∀ s', .sent e s' ∈ earlier → s'.last = false) ∧
    (∀ s', .sent e s' ∈ earlier → ∃ result, .sendEnded e s'.ref result ∈ earlier) ∧
    ∀ stream cause, .ended e stream cause ∈ earlier →
      s.last = true ∧ stream = some s.stream ∧ s.callback = finalCallback e s.stream cause ∧
      ∃ late before, earlier = late ++ .ended e stream cause :: before ∧
        ∀ d ∈ late, d.isAnswer = true := by
  have ha := (hw.possible.orderly e).regular s earlier hs
  exact ⟨ha.head, ha.notLast, ha.answered, ha.final⟩

/-- The final frame has no head, so there was a send before, which was answered. -/
theorem send_grammar_finalFrame :
    let h := (World.after wholeResponse).history ⟨0⟩
    let frame : Sending Unit :=
      ⟨⟨1⟩, .transport ⟨0⟩, none, true, .finalFrame ⟨0⟩ (.transport ⟨0⟩), []⟩
    .sent ⟨0⟩ frame :: h.drop 2 <:+ h ∧ ∃ s, .sent ⟨0⟩ s ∈ h.drop 2 ∧ s.last = false ∧
      ∃ result, .sendEnded ⟨0⟩ s.ref result ∈ h.drop 2 := by
  intro h frame
  have hsent : .sent ⟨0⟩ frame :: h.drop 2 <:+ h := by decide +kernel
  obtain ⟨hhead, hlast, hanswered, -⟩ := send_grammar permitted_wholeResponse.reachable hsent
  obtain ⟨s, hs⟩ := Classical.not_forall.1 (mt hhead.2 Bool.false_ne_true)
  have hs' := Classical.not_not.1 hs
  exact ⟨hsent, s, hs', hlast s hs', hanswered s hs'⟩

end HttpExchange
