import HttpExchange.Proofs.Sending
import Mathlib.Data.List.Perm.Subperm

/-!
# The outcome of an exchange

A stream is told at most once how its exchange ended. A call that ends an exchange either tells the
stream itself, or leaves a send with the last bytes behind whose callback does.

`Growth` says what is done for an exchange as far as its outcome is concerned, and `Settled` is what
that keeps. Of all the moves of an exchange only three have to do with the outcome: telling it,
sending the last bytes of the ending call, and the callback of that send. The sends of the application
are told apart from that one by their callbacks, and everything else is `beside`. So the lemmas about
growth see a history and no flags.

Streams are counted along the exchanges that end: each takes the attached stream away
(`World.Docked`), and tells it one outcome. So a stream that is told more outcomes than one was
attached as often. The count goes by the innermost stream, because wrappers come and go while an
exchange is running, and what is told passes through them.

Last come the calls that end an exchange. What is said of them has to hold at any later time, so it is
about deeds, which stay (`World.Delivered`, `World.Outstanding`).
-/

namespace HttpExchange

variable {κ ε α β : Type}

namespace Deed

/-- The stream that was attached. -/
def attached? : Deed κ → Option Stream
  | attached stream => some stream
  | _ => none

/-- The stream that was detached together with its exchange. -/
def detached? : Deed κ → Option Stream
  | ended _ stream _ => stream
  | _ => none

/-- The stream that was told an outcome. -/
def told? : Deed κ → Option Stream
  | succeeded _ stream | failed _ stream _ => some stream
  | _ => none

/-- Whether a stream was attached or detached. -/
def isDocking : Deed κ → Bool
  | attached _ | ended _ _ _ => true
  | _ => false

/-- The outcomes that a stream can be told when its exchange was ended like that: for a failure its
cause, for a success a success, or a failure that prevented it. -/
inductive Tells (e : ExchangeRef) (stream : Stream) : Option FailureRef → Deed κ → Prop
  | succeeded : Tells e stream none (.succeeded e stream)
  | failed {cause : Option FailureRef} (told : FailureRef) :
      (∀ c, cause = some c → told = c) → Tells e stream cause (.failed e stream told)

/-- What tells an outcome says which stream was told. -/
theorem Tells.told_eq {e : ExchangeRef} {stream : Stream} {cause : Option FailureRef}
    {d : Deed κ} (h : d.Tells e stream cause) : d.told? = some stream := by
  cases h <;> rfl

/-- What tells an outcome is one. -/
theorem Tells.isOutcome {e : ExchangeRef} {stream : Stream} {cause : Option FailureRef}
    {d : Deed κ} (h : d.Tells e stream cause) : d.isOutcome = true := by
  cases h <;> rfl

theorem Tells.exchange_eq {e : ExchangeRef} {stream : Stream} {cause : Option FailureRef}
    {d : Deed κ} (h : d.Tells e stream cause) : d.exchange? = some e := by
  cases h <;> rfl

/-- What is told to a stream is an outcome. -/
theorem isOutcome_of_told {d : Deed κ} {stream : Stream} (h : d.told? = some stream) :
    d.isOutcome = true := by
  cases d <;> first | rfl | cases h

end Deed

namespace Record

variable {e : ExchangeRef} {closing : Prop} {ρ ρ' : Record κ} {h h' : List (Deed κ)}
  {stream : Stream} {cause : Option FailureRef}

/-! ## What is done about the outcome -/

/-- The callback of a last send tells the outcome to its stream. -/
theorem tells_finalOutcome (e : ExchangeRef) (stream : Stream) (cause : Option FailureRef)
    (result : Result) : (finalOutcome (κ := κ) e stream cause result).Tells e stream cause := by
  cases cause with
  | none =>
    cases result with
    | ok _ => exact .succeeded
    | error told => exact .failed told nofun
  | some told => exact .failed told fun _ => Option.some.inj

/-- What is done for an exchange, as far as its outcome is concerned. -/
inductive Growth (e : ExchangeRef) (h : List (Deed κ)) : List (Deed κ) → Prop
  /-- Something that neither sends nor tells an outcome. -/
  | beside {d : Deed κ} : d.isCall = false → d.isOutcome = false →
      (d = .concluded e → ∃ d' ∈ h, d'.closes = true) → Growth e h (d :: h)
  /-- A write. -/
  | write {s : Sending κ} : NewSend e h s.ref → s.callback = .pendingWrite e →
      Growth e h (.sent e s :: h)
  /-- A write ended. -/
  | answer {s : Sending κ} (result : Result) : .sent e s ∈ h → s.callback = .pendingWrite e →
      Growth e h (.sendEnded e s.ref result :: h)
  /-- The call that ended the exchange sends the last bytes. -/
  | sendLast {s : Sending κ} {cause : Option FailureRef} : Unclosed h →
      .ended e (some s.stream) cause ∈ h → NewSend e h s.ref →
      s.callback = finalCallback e s.stream cause → Growth e h (.sent e s :: h)
  /-- The call that ended the exchange tells the outcome. -/
  | tell {d : Deed κ} {stream : Stream} {cause : Option FailureRef} : Unclosed h →
      .ended e (some stream) cause ∈ h → d.Tells e stream cause → Growth e h (d :: h)
  /-- The last bytes of the call that ended the exchange are out. -/
  | answerLast {s : Sending κ} {stream : Stream} {cause : Option FailureRef} (result : Result) :
      .sent e s ∈ h → Unanswered e h s.ref → s.callback = finalCallback e stream cause →
      (∀ s', .sent e s' ∈ h → s'.callback.isFinal = true → s' = s) →
      Growth e h (finalOutcome e stream cause result :: .sendEnded e s.ref result :: h)

/-- Everything that was done about the outcome of an exchange. -/
abbrev Grows (e : ExchangeRef) : List (Deed κ) → List (Deed κ) → Prop :=
  Relation.ReflTransGen (Growth e)

/-- That callback is one that ends an exchange. -/
theorem isFinal_finalCallback (e : ExchangeRef) (stream : Stream) (cause : Option FailureRef) :
    (finalCallback (κ := κ) e stream cause).isFinal = true := by
  cases cause <;> rfl

/-- It says which stream and which cause it is about. -/
theorem finalCallback_inj {stream stream' : Stream} {cause cause' : Option FailureRef}
    (heq : finalCallback (κ := κ) e stream cause = finalCallback e stream' cause') :
    stream = stream' ∧ cause = cause' := by
  cases cause <;> cases cause' <;> cases heq <;> exact ⟨rfl, rfl⟩

/-- A move does for an exchange what can be done about its outcome. -/
theorem Move.grows (hm : ρ.Move e closing ρ') (ho : ρ.Orderly e) :
    Grows e ρ.history ρ'.history := by
  cases hm with
  | stay | edit | contentAvailable | storeFailure | enable | demand | listenForError | stick
  | complete | recycle | stickFinal | stickError => exact .refl
  | create _ _ _ _ hnil =>
    rw [hnil]
  | withhold | succeed | fail => exact .single (.beside rfl rfl nofun)
  | send _ _ _ _ _ _ hnew => exact .single (.write hnew rfl)
  | answer result hmem _ hcb => exact .single (.answer result hmem hcb)
  | answerFinal result hmem hun hcb =>
    -- sends of the ending call have the last bytes, and only one send has
    refine .single (.answerLast result hmem hun hcb fun s' hs' hf => ?_)
    have hlast : ∀ s, .sent e s ∈ ρ.history → s.callback.isFinal = true → s.last = true := ho.final
    refine ho.regular.last_unique hs' hmem (hlast s' hs' hf) (hlast _ hmem ?_)
    rw [hcb]
    exact isFinal_finalCallback _ _ _
  | mismatch cause _ hend =>
    have hbroken : Growth e ρ.history (.mismatched e :: ρ.history) := .beside rfl rfl nofun
    have hunclosed : Unclosed (.mismatched e :: ρ.history) :=
      List.forall_mem_cons.2 ⟨rfl, hend.unclosed⟩
    have hended := List.mem_cons_of_mem (.mismatched e) hend.mem_ended
    exact .tail (.single hbroken) (.tell hunclosed hended (.failed _ nofun))
  | tellSuccess _ hend => exact .single (.tell hend.unclosed hend.mem_ended .succeeded)
  | tellFailure told _ hend _ hcause =>
    exact .single (.tell hend.unclosed hend.mem_ended (.failed told hcause))
  | sendFinal _ hend _ _ _ _ hnew | sendError _ _ _ hend _ _ _ hnew =>
    exact .single (.sendLast hend.unclosed hend.mem_ended hnew rfl)
  | conclude _ _ _ hmem hc => exact .single (.beside rfl rfl fun _ => ⟨_, hmem, hc⟩)

/-! ## What that keeps -/

/-- What is known of the outcome of an exchange. -/
structure Settled (e : ExchangeRef) (h : List (Deed κ)) : Prop where
  /-- Sends can be told apart. -/
  distinct : ∀ s s', .sent e s ∈ h → .sent e s' ∈ h → s.ref = s'.ref → s = s'
  /-- The last bytes of the ending call go to the stream that was detached. -/
  final : ∀ s, .sent e s ∈ h → s.callback.isFinal = true →
    ∃ cause, s.callback = finalCallback e s.stream cause ∧ .ended e (some s.stream) cause ∈ h
  /-- The outcome is that of the end, and is told to the stream that was detached. -/
  told : ∀ d ∈ h, d.isOutcome = true →
    ∃ stream cause, .ended e (some stream) cause ∈ h ∧ d.Tells e stream cause
  /-- While the last bytes are out nothing is told. -/
  pending : ∀ s, .sent e s ∈ h → s.callback.isFinal = true → Unanswered e h s.ref →
    ∀ d ∈ h, d.isOutcome = false
  /-- Once they are, the outcome is told. -/
  answered : ∀ s result, .sent e s ∈ h → s.callback.isFinal = true →
    .sendEnded e s.ref result ∈ h → ∃ d ∈ h, d.isOutcome = true
  /-- One outcome is told at most. -/
  once : h.countP Deed.isOutcome ≤ 1
  /-- A call that is over has handed the end to the stream. -/
  concluded : .concluded e ∈ h → ∃ d ∈ h, d.closes = true

/-- What has not closed has not told an outcome. -/
theorem isOutcome_of_unclosed (hu : Unclosed h) {d : Deed κ} (hd : d ∈ h) :
    d.isOutcome = false := by
  have hc := hu d hd
  cases d <;> first | rfl | cases hc

theorem isFinal_of_unclosed (hu : Unclosed h) {s : Sending κ} (hs : .sent e s ∈ h) :
    s.callback.isFinal = false := hu _ hs

/-- Before the first outcome. -/
theorem countP_isOutcome_cons {d : Deed κ} (hnone : ∀ d ∈ h, d.isOutcome = false) :
    (d :: h).countP Deed.isOutcome ≤ 1 := by
  have hzero : h.countP Deed.isOutcome = 0 :=
    List.countP_eq_zero.2 fun d hd => by simp [hnone d hd]
  rw [List.countP_cons, hzero]
  split <;> simp

/-- What is done without sending keeps what is known, if what it adds does. -/
theorem Settled.extend {late : List (Deed κ)} (hs : Settled e h) (hsent : ∀ s, .sent e s ∉ late)
    (htold : ∀ d ∈ late, d.isOutcome = true →
      ∃ stream cause, .ended e (some stream) cause ∈ h ∧ d.Tells e stream cause)
    (hpending : ∀ s, .sent e s ∈ h → s.callback.isFinal = true →
      Unanswered e (late ++ h) s.ref → ∀ d ∈ late, d.isOutcome = false)
    (hanswered : ∀ s result, .sent e s ∈ h → s.callback.isFinal = true →
      .sendEnded e s.ref result ∈ late → ∃ d ∈ late ++ h, d.isOutcome = true)
    (honce : (late ++ h).countP Deed.isOutcome ≤ 1)
    (hconcluded : .concluded e ∈ late → ∃ d ∈ h, d.closes = true) : Settled e (late ++ h) := by
  have hold : ∀ {s}, .sent e s ∈ late ++ h → .sent e s ∈ h := by
    intro s hmem
    exact (List.mem_append.1 hmem).resolve_left (hsent s)
  refine ⟨fun s s' h₁ h₂ => hs.distinct s s' (hold h₁) (hold h₂), ?_, ?_, ?_, ?_, honce, ?_⟩
  · intro s hmem hf
    obtain ⟨cause, hcb, hended⟩ := hs.final s (hold hmem) hf
    exact ⟨cause, hcb, List.mem_append_right _ hended⟩
  · intro d hmem hout
    have hended : ∃ stream cause, .ended e (some stream) cause ∈ h ∧ d.Tells e stream cause := by
      rcases List.mem_append.1 hmem with hmem | hmem
      · exact htold d hmem hout
      · exact hs.told d hmem hout
    obtain ⟨stream, cause, hended, htells⟩ := hended
    exact ⟨stream, cause, List.mem_append_right _ hended, htells⟩
  · intro s hmem hf hun d hd
    rcases List.mem_append.1 hd with hd | hd
    · exact hpending s (hold hmem) hf hun d hd
    · exact hs.pending s (hold hmem) hf (fun r hr => hun r (List.mem_append_right _ hr)) d hd
  · intro s result hmem hf hans
    rcases List.mem_append.1 hans with hans | hans
    · exact hanswered s result (hold hmem) hf hans
    · obtain ⟨d, hd, hout⟩ := hs.answered s result (hold hmem) hf hans
      exact ⟨d, List.mem_append_right _ hd, hout⟩
  · intro hmem
    have hclosed : ∃ d ∈ h, d.closes = true := by
      rcases List.mem_append.1 hmem with hmem | hmem
      · exact hconcluded hmem
      · exact hs.concluded hmem
    obtain ⟨d, hd, hcl⟩ := hclosed
    exact ⟨d, List.mem_append_right _ hd, hcl⟩

/-- Something that is about neither sends nor outcomes may be done. -/
theorem Settled.beside {d : Deed κ} (hs : Settled e h) (hc : d.isCall = false)
    (ho : d.isOutcome = false) (hclose : d = .concluded e → ∃ d' ∈ h, d'.closes = true) :
    Settled e (d :: h) := by
  have hone : ∀ {d'}, d' ∈ [d] → d' = d := List.mem_singleton.1
  show Settled e ([d] ++ h)
  refine hs.extend ?_ ?_ ?_ ?_ ?_ ?_
  · intro s hmem
    cases hone hmem
    cases hc
  · intro d' hmem hout
    cases hone hmem
    rw [ho] at hout
    cases hout
  · intro _ _ _ _ d' hmem
    cases hone hmem
    exact ho
  · intro s result _ _ hmem
    cases hone hmem
    cases hc
  · rw [List.singleton_append, List.countP_cons_of_neg (by simp [ho])]
    exact hs.once
  · exact fun hmem => hclose (hone hmem).symm

/-- A send may be made, and a last one once. -/
theorem Settled.send {s : Sending κ} (hs : Settled e h) (hnew : NewSend e h s.ref)
    (hfinal : s.callback.isFinal = true → Unclosed h ∧
      ∃ cause, s.callback = finalCallback e s.stream cause ∧
        .ended e (some s.stream) cause ∈ h) :
    Settled e (.sent e s :: h) := by
  refine ⟨?_, ?_, ?_, ?_, ?_, ?_, ?_⟩
  · intro s₁ s₂ h₁ h₂ href
    rcases List.mem_cons.1 h₁ with heq₁ | h₁ <;> rcases List.mem_cons.1 h₂ with heq₂ | h₂
    · cases heq₁
      cases heq₂
      rfl
    · cases heq₁
      exact absurd href.symm (hnew.unused s₂ h₂)
    · cases heq₂
      exact absurd href (hnew.unused s₁ h₁)
    · exact hs.distinct s₁ s₂ h₁ h₂ href
  · intro s' hmem hf
    have hended : ∃ cause, s'.callback = finalCallback e s'.stream cause ∧
        .ended e (some s'.stream) cause ∈ h := by
      rcases List.mem_cons.1 hmem with heq | hmem
      · cases heq
        exact (hfinal hf).2
      · exact hs.final s' hmem hf
    obtain ⟨cause, hcb, hended⟩ := hended
    exact ⟨cause, hcb, List.mem_cons_of_mem _ hended⟩
  · intro d hmem hout
    have hmem' : d ∈ h :=
      List.mem_of_ne_of_mem (fun heq => by simp [heq, Deed.isOutcome] at hout) hmem
    obtain ⟨stream, cause, hended, htells⟩ := hs.told d hmem' hout
    exact ⟨stream, cause, List.mem_cons_of_mem _ hended, htells⟩
  · intro s' hmem hf' hun
    have hnone : ∀ d ∈ h, d.isOutcome = false := by
      rcases List.mem_cons.1 hmem with heq | hmem
      · cases heq
        exact fun _ => isOutcome_of_unclosed (hfinal hf').1
      · exact hs.pending s' hmem hf' fun r hr => hun r (List.mem_cons_of_mem _ hr)
    exact List.forall_mem_cons.2 ⟨rfl, hnone⟩
  · intro s' result hmem hf' hans
    have hans' : .sendEnded e s'.ref result ∈ h := by
      rcases List.mem_cons.1 hans with heq | hans
      · cases heq
      · exact hans
    rcases List.mem_cons.1 hmem with heq | hmem
    · cases heq
      exact absurd hans' (hnew.unanswered result)
    · obtain ⟨d, hd, hout⟩ := hs.answered s' result hmem hf' hans'
      exact ⟨d, List.mem_cons_of_mem _ hd, hout⟩
  · rw [List.countP_cons_of_neg (by simp [Deed.isOutcome])]
    exact hs.once
  · intro hmem
    rcases List.mem_cons.1 hmem with heq | hmem
    · cases heq
    · obtain ⟨d, hd, hcl⟩ := hs.concluded hmem
      exact ⟨d, List.mem_cons_of_mem _ hd, hcl⟩

/-- The end of a write says nothing about the outcome. -/
theorem Settled.answer {s : Sending κ} (hs : Settled e h) (result : Result)
    (hmem : .sent e s ∈ h) (hcb : s.callback = .pendingWrite e) :
    Settled e (.sendEnded e s.ref result :: h) := by
  show Settled e ([.sendEnded e s.ref result] ++ h)
  refine hs.extend (by simp) ?_ ?_ ?_ ?_ (by simp)
  · intro d hd hout
    cases List.mem_singleton.1 hd
    cases hout
  · intro _ _ _ _ d hd
    cases List.mem_singleton.1 hd
    rfl
  · intro s' result' hmem' hf hans
    obtain ⟨-, href, -⟩ := Deed.sendEnded.inj (List.mem_singleton.1 hans)
    rw [hs.distinct s' s hmem' hmem href, hcb] at hf
    cases hf
  · rw [List.singleton_append, List.countP_cons_of_neg (by simp [Deed.isOutcome])]
    exact hs.once

/-- The outcome is told by the ending call. -/
theorem Settled.tell {d : Deed κ} (hs : Settled e h) (hu : Unclosed h)
    (hended : .ended e (some stream) cause ∈ h) (htells : d.Tells e stream cause) :
    Settled e (d :: h) := by
  show Settled e ([d] ++ h)
  refine hs.extend ?_ ?_ ?_ ?_ ?_ ?_
  · intro s hmem
    cases List.mem_singleton.1 hmem
    cases htells
  · intro d' hd' _
    cases List.mem_singleton.1 hd'
    exact ⟨stream, cause, hended, htells⟩
  · intro s hmem hf
    rw [isFinal_of_unclosed hu hmem] at hf
    cases hf
  · intro s result hmem hf
    rw [isFinal_of_unclosed hu hmem] at hf
    cases hf
  · exact countP_isOutcome_cons fun _ => isOutcome_of_unclosed hu
  · intro hmem
    cases List.mem_singleton.1 hmem
    cases htells

/-- The outcome is told once the last bytes of the ending call are out. -/
theorem Settled.answerLast {s : Sending κ} (hs : Settled e h) (result : Result)
    (hmem : .sent e s ∈ h) (hun : Unanswered e h s.ref)
    (hcb : s.callback = finalCallback e stream cause)
    (honly : ∀ s', .sent e s' ∈ h → s'.callback.isFinal = true → s' = s) :
    Settled e (finalOutcome e stream cause result :: .sendEnded e s.ref result :: h) := by
  have htells := tells_finalOutcome (κ := κ) e stream cause result
  have hf : s.callback.isFinal = true := by
    rw [hcb]
    exact isFinal_finalCallback e stream cause
  have hlate : ∀ {d : Deed κ}, d ∈ [finalOutcome e stream cause result,
      .sendEnded e s.ref result] → d = finalOutcome e stream cause result ∨
      d = .sendEnded e s.ref result := by
    simp
  show Settled e ([finalOutcome e stream cause result, .sendEnded e s.ref result] ++ h)
  refine hs.extend ?_ ?_ ?_ ?_ ?_ ?_
  · intro s' hs'
    rcases hlate hs' with heq | heq
    · exact finalOutcome_ne_sent _ _ _ _ heq.symm
    · cases heq
  · intro d hd hout
    rcases hlate hd with rfl | rfl
    · obtain ⟨cause', hcb', hended⟩ := hs.final s hmem hf
      obtain ⟨rfl, rfl⟩ := finalCallback_inj (hcb.symm.trans hcb')
      exact ⟨_, cause, hended, htells⟩
    · cases hout
  · intro s' hs' hf' hun'
    cases honly s' hs' hf'
    exact absurd (by simp) (hun' result)
  · exact fun _ _ _ _ _ => ⟨_, List.mem_cons_self, htells.isOutcome⟩
  · refine countP_isOutcome_cons (List.forall_mem_cons.2 ⟨rfl, ?_⟩)
    exact hs.pending s hmem hf hun
  · intro hc
    rcases hlate hc with heq | heq
    · rw [← heq] at htells
      cases htells
    · cases heq

/-- Whatever is done for an exchange keeps its outcome settled. -/
theorem Growth.settled (hg : Growth e h h') (hs : Settled e h) : Settled e h' := by
  cases hg with
  | beside hc ho hclose => exact hs.beside hc ho hclose
  | write hnew hcb =>
    refine hs.send hnew fun hf => ?_
    rw [hcb] at hf
    cases hf
  | answer result hmem hcb => exact hs.answer result hmem hcb
  | sendLast hu hended hnew hcb =>
    exact hs.send hnew fun _ => ⟨hu, _, hcb, hended⟩
  | tell hu hended htells => exact hs.tell hu hended htells
  | answerLast result hmem hun hcb honly => exact hs.answerLast result hmem hun hcb honly

theorem Grows.settled (hg : Grows e h h') (hs : Settled e h) : Settled e h' := by
  induction hg with
  | refl => exact hs
  | tail _ hg ih => exact hg.settled ih

theorem settled_nil (e : ExchangeRef) : Settled e ([] : List (Deed κ)) where
  distinct _ _ h := absurd h List.not_mem_nil
  final _ h := absurd h List.not_mem_nil
  told _ h := absurd h List.not_mem_nil
  pending _ h := absurd h List.not_mem_nil
  answered _ _ h := absurd h List.not_mem_nil
  once := Nat.zero_le _
  concluded h := absurd h List.not_mem_nil

end Record

namespace World

open Record

variable {w w' : World κ ε} {e : ExchangeRef}

/-- The outcome of every exchange is settled in every state of a run. -/
theorem Possible.settled (h : w.Possible) (e : ExchangeRef) : Settled e (w.history e) :=
  (h.record_induct (P := fun ρ => ρ.Orderly e ∧ Settled e ρ.history) e
    ⟨orderly_new e _, settled_nil e⟩
    fun _ _ ⟨ho, hs⟩ hm => ⟨hm.orderly ho, (hm.grows ho).settled hs⟩).2

/-! ## Streams -/

/-- How often a stream of the transport was attached, on its own or in wrappers. -/
def attachments (w : World κ ε) (ref : StreamRef) : Nat :=
  w.deeds.countP fun d => d.attached?.any (·.base = ref)

/-- How often a stream of the transport was told an outcome. -/
def tellings (w : World κ ε) (ref : StreamRef) : Nat :=
  w.deeds.countP fun d => d.told?.any (·.base = ref)

/-- The streams of the transport that a deed is about, in some way. -/
def bases (f : Deed κ → Option Stream) (w : World κ ε) : List StreamRef :=
  (w.deeds.filterMap f).map Stream.base

/-- A stream object is found as often as there are deeds about it. -/
theorem count_bases (f : Deed κ → Option Stream) (w : World κ ε) (ref : StreamRef) :
    (w.bases f).count ref = w.deeds.countP fun d => (f d).any (·.base = ref) := by
  rw [bases, List.count, List.countP_map, List.countP_filterMap]
  refine List.countP_congr fun d _ => ?_
  cases f d <;> simp

/-- Streams leave the channel in the order in which they were attached. -/
def Docked (w : World κ ε) : Prop :=
  w.bases Deed.attached? = (w.channel.stream.map Stream.base).toList ++ w.bases Deed.detached?

theorem Docked.note {d : Deed κ} (h : w.Docked) (hd : d.isDocking = false) : (w.note d).Docked := by
  have hbases : (w.note d).bases Deed.attached? = w.bases Deed.attached? ∧
      (w.note d).bases Deed.detached? = w.bases Deed.detached? := by
    cases d <;> first | exact ⟨rfl, rfl⟩ | cases hd
  rw [Docked, hbases.1, hbases.2]
  exact h

theorem Docked.offer (h : w.Docked) (name : QueueName) (tasks : List (Task κ)) :
    (w.offer name tasks).Docked := by
  refine Docked.note ?_ rfl
  cases name <;> exact h

theorem Docked.answer (h : w.Docked) (e : ExchangeRef) (ref : SendRef) (result : Result) :
    (w.answer e ref result).Docked := by
  refine Docked.note ?_ rfl
  exact h

theorem Docked.nextTask (h : w.Docked) (name : QueueName) :
    (Engine.nextTask name w).2.Docked := by
  simp only [Engine.nextTask, Effect.modifyGet]
  split
  · cases name <;> exact h
  · refine Docked.note ?_ rfl
    cases name <;> exact h

theorem Docked.dropWrite (h : w.Docked) (e : ExchangeRef) : (w.dropWrite e).Docked := by
  unfold World.dropWrite
  split <;> exact h

theorem Docked.refuse (h : w.Docked) (callback : Callback κ) (why : ExchangeError) :
    (w.refuse callback why).Docked := by
  refine Docked.offer ?_ _ _
  exact h

theorem Docked.tell (h : w.Docked) (p : PromiseRef) (state : PromiseState) :
    (w.tell p state).Docked := by
  unfold World.tell
  split <;> exact h

/-- Fixing a head has nothing to do with attaching streams. -/
theorem HeadFixed.docked {last commits : Bool} {head : Option ResponseHead}
    (hfix : w.HeadFixed e last commits w' head) (h : w.Docked) : w'.Docked := by
  cases hfix <;> exact h

/-- A stream is attached where none was. -/
theorem Docked.attach (h : w.Docked) (hnone : w.channel.stream = none) (stream : Stream) :
    ((w.modifyChannel fun c => { c with stream := some stream }).note
      (.attached stream)).Docked := by
  rw [Docked, hnone] at h
  exact congrArg (stream.base :: ·) h

/-- A stream is taken away that was attached. -/
theorem Docked.detach (h : w.Docked) (e : ExchangeRef) (cause : Option FailureRef) :
    (w.detach e cause).Docked := by
  show w.bases Deed.attached? = (w.detach e cause).bases Deed.detached?
  rw [h]
  show _ = (List.filterMap Deed.detached? (.ended e w.channel.stream cause :: w.deeds)).map _
  cases w.channel.stream <;> rfl

/-- A wrapper has the base of what it wraps. -/
theorem base_of_wrapped {stream inner : Stream} (h : stream.wrapped? = some inner) :
    stream.base = inner.base := by
  cases stream with
  | transport => cases h
  | listening =>
    cases h
    rfl
  | decorated ref reported inner =>
    simp only [Stream.wrapped?] at h
    split at h <;> cases h
    rfl

/-- Streams are attached and taken away in turns. -/
theorem Step.docked {A : ExchangeRef → Prop} (hstep : Step A w w') (h : w.Docked) :
    w'.Docked := by
  cases hstep with
  | aside | addFailure | suppress | listen | unpersist | count | activate | enable | demand | ignore
  | edit | complete | recycle => exact h
  | tell p state => exact h.tell p state
  | listenForError =>
    refine Docked.note ?_ rfl
    exact h
  | listenLate =>
    refine Docked.offer ?_ _ _
    exact Docked.note (w := w) h rfl
  | offer tasks => exact h.offer .standalone tasks
  | next name => exact h.nextTask name
  | close | contentAvailable | storeFailure | demandNow | flush | refuseFailed =>
    refine Docked.offer ?_ _ _
    exact h
  | refuse g callback last chunks committed why =>
    refine Docked.refuse ?_ callback why
    exact h
  | attach stream hnone => exact h.attach hnone stream
  | wrap wrapper hstream hwraps =>
    rw [Docked, hstream] at h
    have hbase : wrapper.base = _ := base_of_wrapped hwraps
    show w.bases Deed.attached? = wrapper.base :: w.bases Deed.detached?
    rw [hbase]
    exact h
  | succeed => exact h.detach _ none
  | fail cause => exact h.detach _ (some cause)
  | tellFailure | conclude => exact .note h rfl
  | answerLate => exact h.answer _ _ _
  | answerWrite => exact ((h.answer _ _ _).dropWrite _).offer _ _
  | answerFinal result =>
    refine (h.answer _ _ result).note ?_
    cases result <;> rfl
  | answerError result =>
    refine Docked.note ?_ rfl
    exact h.answer _ _ result
  | send callback _ _ _ hfix =>
    refine Docked.note ?_ rfl
    exact hfix.docked h
  | withhold callback hstream ha hadm hfix hfault =>
    rename_i e stream active last commits chunks w₁ head fault
    have hfixed : w₁.Docked := hfix.docked h
    have hdropped := (hfixed.note (d := .mismatched e) rfl).dropWrite e
    exact hdropped.refuse callback fault
  | stick callback _ _ _ hfix => exact hfix.docked h
  | mismatch hc hend hphase hfix hfault =>
    rename_i e stream w₁ head fault
    have hbroken := (hfix.docked h).note (d := .mismatched e) rfl
    refine Docked.note ?_ rfl
    exact hbroken
  | tellSuccess _ _ _ hfix => exact (hfix.docked h).note rfl
  | sendFinal _ _ _ hfix | sendError _ _ _ _ _ _ hfix =>
    refine Docked.note ?_ rfl
    exact hfix.docked h
  | stickFinal _ _ _ _ hfix | stickError _ _ _ _ _ _ hfix => exact hfix.docked h

/-- They are in every state of a run. -/
theorem Possible.docked (h : w.Possible) : w.Docked :=
  h.induct (fun _ _ _ _ _ => rfl) fun _ _ _ hd hstep => hstep.docked hd

/-- The exchanges of the deeds that are about a stream of the transport, in some way. -/
def exchangesOn (f : Deed κ → Option Stream) (w : World κ ε) (ref : StreamRef) :
    List ExchangeRef :=
  (w.deeds.filter fun d => (f d).any (·.base = ref)).filterMap Deed.exchange?

/-- An exchange is on a stream object if there is a deed that says so. -/
theorem mem_exchangesOn {f : Deed κ → Option Stream} {ref : StreamRef} :
    e ∈ w.exchangesOn f ref ↔
      ∃ d ∈ w.history e, ∃ stream, f d = some stream ∧ stream.base = ref := by
  simp only [exchangesOn, List.mem_filterMap, List.mem_filter, mem_history, Option.any_eq_true,
    decide_eq_true_eq]
  exact ⟨fun ⟨d, ⟨hd, hf⟩, he⟩ => ⟨d, ⟨hd, he⟩, hf⟩, fun ⟨d, ⟨hd, he⟩, hf⟩ => ⟨d, ⟨hd, hf⟩, he⟩⟩

theorem length_exchangesOn (f : Deed κ → Option Stream) (w : World κ ε) (ref : StreamRef) :
    (w.exchangesOn f ref).length =
      w.deeds.countP fun d => d.exchange?.isSome && (f d).any (·.base = ref) := by
  rw [exchangesOn, List.length_filterMap_eq_countP, List.countP_filter]

/-- Different outcomes are those of different exchanges. -/
theorem Possible.nodup_exchangesOn (h : w.Possible) (ref : StreamRef) :
    (w.exchangesOn Deed.told? ref).Nodup := by
  refine List.nodup_iff_count.2 fun e => ?_
  have honce := (h.settled e).once
  rw [history, List.countP_filter] at honce
  -- an exchange occurs as often as outcomes of it were told to this stream
  refine Nat.le_trans ?_ honce
  rw [exchangesOn, List.count_filterMap, List.countP_filter]
  refine List.countP_mono_left fun d _ hd => ?_
  simp only [Bool.and_eq_true, beq_iff_eq, Option.any_eq_true] at hd
  obtain ⟨he, stream, htold, -⟩ := hd
  simp [he, Deed.isOutcome_of_told htold]

/-- A stream is not told more outcomes than it was taken away by exchanges that ended. -/
theorem Possible.tellings_le_count (h : w.Possible) (ref : StreamRef) :
    w.tellings ref ≤ (w.bases Deed.detached?).count ref := by
  -- whoever tells the stream an outcome has taken it away, and each exchange tells it once
  have hsubset : w.exchangesOn Deed.told? ref ⊆ w.exchangesOn Deed.detached? ref := by
    intro e he
    obtain ⟨d, hd, stream, htold, hbase⟩ := mem_exchangesOn.1 he
    obtain ⟨stream', cause, hended, htells⟩ :=
      (h.settled e).told d hd (Deed.isOutcome_of_told htold)
    cases htold.symm.trans htells.told_eq
    exact mem_exchangesOn.2 ⟨_, hended, stream, rfl, hbase⟩
  have hexchange : ∀ d : Deed κ, d.told?.any (·.base = ref) = true → d.exchange?.isSome = true := by
    intro d hd
    cases d <;> first | rfl | cases hd
  calc w.tellings ref
    _ = (w.exchangesOn Deed.told? ref).length := by
      rw [length_exchangesOn]
      refine List.countP_congr fun d _ => ?_
      simpa using hexchange d
    _ ≤ (w.exchangesOn Deed.detached? ref).length :=
      (List.subperm_of_subset (h.nodup_exchangesOn ref) hsubset).length_le
    _ ≤ (w.bases Deed.detached?).count ref := by
      rw [length_exchangesOn, count_bases]
      exact List.countP_mono_left fun d _ hd => (Bool.and_eq_true_iff.1 hd).2

/-- A stream is not told more outcomes than it was attached. -/
theorem Possible.tellings_le (h : w.Possible) (ref : StreamRef) :
    w.tellings ref ≤ w.attachments ref := by
  refine Nat.le_trans (h.tellings_le_count ref) ?_
  rw [attachments, ← count_bases, h.docked, List.count_append]
  exact Nat.le_add_left _ _

/-! ## Telling the outcome -/

/-- One outcome was told, to the stream that the exchange ended with, and in keeping with its
end. -/
def Delivered (w : World κ ε) (e : ExchangeRef) (stream : Stream) (cause : Option FailureRef) :
    Prop :=
  ∃ d, (w.history e).filter Deed.isOutcome = [d] ∧ d.Tells e stream cause

/-- Nothing was told about the exchange yet. One send with the last bytes is out on the stream, and
once the engine is told how it ended, in whatever way, it tells the stream one outcome. -/
structure Outstanding (w : World κ ε) (e : ExchangeRef) (s : Sending κ)
    (cause : Option FailureRef) : Prop where
  untold : (w.history e).filter Deed.isOutcome = []
  sent : .sent e s ∈ w.history e
  last : s.last = true
  unanswered : Unanswered e (w.history e) s.ref
  only : ∀ s', .sent e s' ∈ w.history e → s'.last = true →
    Unanswered e (w.history e) s'.ref → s' = s
  tells : ∀ depth host result, Surroundings depth host →
    (s.ref.complete host result w).2.Delivered e s.stream cause

/-- The stream that the exchange ended with was told the outcome, or will be. -/
def Resolved (w : World κ ε) (e : ExchangeRef) : Prop :=
  ∃ stream cause, .ended e (some stream) cause ∈ w.history e ∧
    (w.Delivered e stream cause ∨ ∃ s, s.stream = stream ∧ w.Outstanding e s cause)

/-- Who was told an outcome had it coming. -/
theorem Possible.delivered (h : w.Possible) {d : Deed κ} {stream : Stream}
    {cause : Option FailureRef} (hd : d ∈ w.history e) (htells : d.Tells e stream cause) :
    w.Delivered e stream cause := by
  have honce := (h.settled e).once
  rw [List.countP_eq_length_filter] at honce
  have hmem : d ∈ (w.history e).filter Deed.isOutcome := List.mem_filter.2 ⟨hd, htells.isOutcome⟩
  obtain ⟨d', heq⟩ := List.length_eq_one_iff.1
    (Nat.le_antisymm honce (List.length_pos_of_mem hmem))
  rw [heq, List.mem_singleton] at hmem
  subst hmem
  exact ⟨d, heq, htells⟩

/-- The callback of the last bytes of an ending call tells the outcome. -/
theorem Possible.delivered_complete (h : w.Possible) {host : Host κ ε} (hh : host.Lawful)
    {s : Sending κ} {stream : Stream} {cause : Option FailureRef} (hs : .sent e s ∈ w.history e)
    (hun : Unanswered e (w.history e) s.ref) (hcb : s.callback = finalCallback e stream cause)
    (result : Result) : (s.ref.complete host result w).2.Delivered e stream cause := by
  have hwaiting : w.sendCallback? s.ref = some (finalCallback e stream cause) := by
    rw [← hcb]
    refine h.sound.answerable e s ((mem_history w).1 hs).1 fun result hr => hun result ?_
    exact (mem_history w).2 ⟨hr, rfl⟩
  obtain ⟨w₁, hstep, hmem, hcourse⟩ := SendRef.leads_completeFinal hh h.sound hwaiting result
  have hpossible := (h.course (.single hstep)).course hcourse
  have htells := tells_finalOutcome (κ := κ) e stream cause result
  have hhistory := (mem_history _).2 ⟨(Course.deeds_suffix hcourse).subset hmem, htells.exchange_eq⟩
  exact hpossible.delivered hhistory htells

/-- When the call that ended an exchange is over, the outcome was told, or will be. -/
theorem Possible.resolved (h : w.Possible) (hc : .concluded e ∈ w.history e) : w.Resolved e := by
  have hs := h.settled e
  have ho := h.orderly e
  have hdelivered : ∀ d ∈ w.history e, d.isOutcome = true → ∃ stream cause,
      .ended e (some stream) cause ∈ w.history e ∧ w.Delivered e stream cause := by
    intro d hd hout
    obtain ⟨stream, cause, hended, htells⟩ := hs.told d hd hout
    exact ⟨stream, cause, hended, h.delivered hd htells⟩
  -- the end was handed to the stream by telling an outcome, or by sending the last bytes
  obtain ⟨d, hd, hcloses⟩ := hs.concluded hc
  cases hout : d.isOutcome with
  | true =>
    obtain ⟨stream, cause, hended, hdel⟩ := hdelivered d hd hout
    exact ⟨stream, cause, hended, .inl hdel⟩
  | false =>
    obtain ⟨s, rfl, hf⟩ : ∃ s, d = .sent e s ∧ s.callback.isFinal = true := by
      have hexchange := ((mem_history w).1 hd).2
      cases d with
      | sent g s =>
        cases hexchange
        exact ⟨s, rfl, hcloses⟩
      | succeeded | failed => cases hout
      | _ => cases hcloses
    obtain ⟨cause, hcb, hended⟩ := hs.final s hd hf
    by_cases hun : Unanswered e (w.history e) s.ref
    · refine ⟨s.stream, cause, hended, .inr ⟨s, rfl, ?_, hd, ho.final s hd hf, hun,
        fun s' hs' hl _ => ?_, fun depth host result hh => ?_⟩⟩
      · exact List.filter_eq_nil_iff.2 fun d hd' => by simp [hs.pending s hd hf hun d hd']
      · exact ho.regular.last_unique hs' hd hl (ho.final s hd hf)
      · exact h.delivered_complete hh.lawful hd hun hcb result
    · -- its callback was called, and told the outcome
      obtain ⟨result, hans⟩ := Classical.not_forall.1 hun
      obtain ⟨d, hd', hout⟩ := hs.answered s result hd hf (Classical.not_not.1 hans)
      obtain ⟨stream, cause', hended', hdel⟩ := hdelivered d hd' hout
      exact ⟨stream, cause', hended', .inl hdel⟩

end World

/-! ## Calls that end an exchange -/

/-- Whoever gets to the end of the computation has noted that the exchange is concluded. -/
def Concludes (e : ExchangeRef) (m : Engine κ ε α) : Prop :=
  ∀ w a w', m w = (.done a, w') → .concluded e ∈ w'.deeds

variable {host : Host κ ε} {e : ExchangeRef}

theorem Concludes.bind {m : Engine κ ε α} {f : α → Engine κ ε β}
    (hf : ∀ a, Concludes e (f a)) : Concludes e (m >>= f) := by
  intro w b w' hrun
  obtain ⟨a, w₁, -, hrun⟩ := Effect.bind_eq_done.1 hrun
  exact hf a w₁ b w' hrun

theorem Concludes.bind_pure {m : Engine κ ε α} (hm : Concludes e m) (b : β) :
    Concludes e (m >>= fun _ => pure b) := by
  intro w b' w' hrun
  obtain ⟨a, w₁, hrun, heq⟩ := Effect.bind_eq_done.1 hrun
  cases heq
  exact hm w a w' hrun

namespace Engine

theorem concludes_conclude (e : ExchangeRef) : Concludes e (conclude e : Engine κ ε Unit) := by
  intro w a w' hrun
  cases hrun
  exact List.mem_cons_self

theorem concludes_terminate (host : Host κ ε) (e : ExchangeRef) (stream : Stream)
    (cause : FailureRef) : Concludes e (terminate host e stream cause) :=
  .bind fun _ => concludes_conclude e

theorem concludes_sendEnd (host : Host κ ε) (e : ExchangeRef) (stream : Stream) :
    Concludes e (sendEnd host e stream) := by
  have hrest : ∀ head, Concludes e (sendRest host e stream head) := by
    refine fun head => .bind fun r => ?_
    split
    · exact .bind fun _ => .bind fun _ => concludes_terminate host e stream _
    · split <;> exact .bind fun _ => concludes_conclude e
  refine .bind fun _ => .bind fun _ => ?_
  dsimp only
  split <;> exact .bind hrest

theorem concludes_sendErrorResponse (host : Host κ ε) (e : ExchangeRef) (stream : Stream)
    (cause : FailureRef) : Concludes e (sendErrorResponse host e stream cause) := by
  refine .bind fun _ => .bind fun _ => .bind fun rendered => ?_
  split
  · exact .bind fun _ => .bind fun _ => concludes_terminate host e stream cause
  · exact .bind fun _ => .bind fun _ => .bind fun _ => concludes_conclude e

theorem concludes_succeedStream (host : Host κ ε) (e : ExchangeRef) (stream : Stream) :
    Concludes e (succeedStream host e stream) := by
  refine .bind fun unread => ?_
  cases unread with
  | none => exact concludes_sendEnd host e stream
  | some unread =>
    refine .bind fun fault => ?_
    split
    · exact .bind fun _ => concludes_sendEnd host e stream
    · exact concludes_terminate host e stream unread

theorem concludes_failStream (host : Host κ ε) (e : ExchangeRef) (stream : Stream)
    (cause : FailureRef) (standard : Fields) :
    Concludes e (failStream host e stream cause standard) := by
  have hend : ∀ committed : Bool, Concludes e (do
      setPhase e .completing
      if committed then terminate host e stream cause
      else sendErrorResponse host e stream cause : Engine κ ε Unit) := by
    refine fun committed => .bind fun _ => ?_
    split
    · exact concludes_terminate host e stream cause
    · exact concludes_sendErrorResponse host e stream cause
  refine .bind fun r => ?_
  dsimp only
  split
  · exact .bind fun _ => .bind fun _ => hend _
  · exact hend _

end Engine

open World

namespace ExchangeRef

variable {w w' : World κ ε}

/-- A success that ended an active exchange is concluded when the call is over. -/
theorem concluded_of_succeed (hs : w.Sound) (hactive : (w.activeFor? e).isSome = true)
    (hrun : e.succeed host w = (.done (.ok ()), w')) : .concluded e ∈ w'.deeds := by
  obtain ⟨active, ha⟩ := Option.isSome_iff_exists.1 hactive
  obtain ⟨stream, hstream⟩ := hs.exists_stream ha
  by_cases hready : active.Ready
  · rw [succeed_run ha hready hstream] at hrun
    exact Concludes.bind_pure (Engine.concludes_succeedStream host e stream) _ _ _ w' hrun
  · obtain ⟨why, hrefused⟩ := succeed_of_unready ha hready
    rw [hrefused] at hrun
    cases hrun

/-- A failure that ended an active exchange is concluded when the call is over. -/
theorem concluded_of_fail (hs : w.Sound) (hactive : (w.activeFor? e).isSome = true)
    {cause : FailureRef} (hrun : e.fail host cause w = (.done (), w')) :
    .concluded e ∈ w'.deeds := by
  obtain ⟨active, ha⟩ := Option.isSome_iff_exists.1 hactive
  obtain ⟨stream, hstream⟩ := hs.exists_stream ha
  rw [fail_run ha hstream] at hrun
  exact Concludes.bind (fun _ => Engine.concludes_failStream host e stream cause _) _ _ w' hrun

end ExchangeRef

/-- Whatever runs from here on, the stream that the exchange ended with was told the outcome, or
will be. -/
def World.Answered (w : World κ ε) (e : ExchangeRef) : Prop :=
  ∀ (β : Type) (m : Engine κ ε β), Permitted m → (m w).2.Resolved e

theorem World.Possible.answered {w : World κ ε} (h : w.Possible) (hc : .concluded e ∈ w.deeds) :
    w.Answered e := by
  intro β m hm
  have hcourse := hm.runs w h.sound
  refine (h.course hcourse).resolved ((mem_history _).2 ⟨?_, rfl⟩)
  exact (Course.deeds_suffix hcourse).subset hc

/-- **One outcome.** A stream is not told more outcomes than it was attached. Once a call that ended
an exchange is over, at any time the stream of that exchange was told its one outcome, or one send
with the last bytes is out on it, whose callback tells one. -/
theorem one_outcome {w : World κ ε} (hw : Reachable w) :
    (∀ ref, w.tellings ref ≤ w.attachments ref) ∧
    (∀ e, .concluded e ∈ w.history e → w.Resolved e) ∧
    ∀ e depth host, Surroundings depth host → (w.activeFor? e).isSome = true →
      (∀ w', e.succeed host w = (.done (.ok ()), w') → w'.Answered e) ∧
      ∀ cause w', e.fail host cause w = (.done (), w') → w'.Answered e := by
  have hpossible := hw.possible
  refine ⟨hpossible.tellings_le, fun e => hpossible.resolved, fun e depth host hh hactive => ?_⟩
  constructor
  · intro w' hrun
    have hcourse := ExchangeRef.runs_succeed hh.lawful e w hpossible.sound
    have hconcluded := ExchangeRef.concluded_of_succeed hpossible.sound hactive hrun
    rw [hrun] at hcourse
    exact (hpossible.course hcourse).answered hconcluded
  · intro cause w' hrun
    have hcourse := ExchangeRef.runs_fail hh.lawful e cause w hpossible.sound
    have hconcluded := ExchangeRef.concluded_of_fail hpossible.sound hactive hrun
    rw [hrun] at hcourse
    exact (hpossible.course hcourse).answered hconcluded

/-- A success whose last bytes are still to be sent. -/
theorem one_outcome_after_wholeBody :
    (World.after wholeBody).tellings ⟨0⟩ ≤ 1 ∧
    ∃ w', ExchangeRef.succeed (Host.idle 2) ⟨0⟩ (World.after wholeBody) = (.done (.ok ()), w') ∧
      w'.Resolved ⟨0⟩ := by
  have hone := one_outcome permitted_wholeBody.reachable
  have hactive : ((World.after wholeBody).activeFor? ⟨0⟩).isSome = true := by decide +kernel
  have hdone : (ExchangeRef.succeed (Host.idle 2) ⟨0⟩ (World.after wholeBody)).1 =
      .done (.ok ()) := by decide +kernel
  have hattached : (World.after wholeBody).attachments ⟨0⟩ = 1 := by decide +kernel
  rcases hrun : ExchangeRef.succeed (Host.idle 2) ⟨0⟩ (World.after wholeBody) with ⟨ended, w'⟩
  rw [hrun] at hdone
  subst hdone
  have hanswered := (hone.2.2 ⟨0⟩ 2 _ (surroundings_idle 2) hactive).1 w' hrun
  exact ⟨hattached ▸ hone.1 ⟨0⟩, w', rfl, hanswered Unit (pure ()) (.pure ())⟩

end HttpExchange
