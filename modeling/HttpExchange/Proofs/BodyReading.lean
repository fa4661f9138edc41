import HttpExchange.Proofs.Shifting
import Mathlib.Data.List.Basic

/-!
# Reading a request body

A request body that is polled reads what the stream of its exchange answers. Between the two are a
demand that is registered once, a waker, and the queue of the channel that the demand is answered
through. This module says what is always true of them as long as the exchange is active, is
processing and does not fail, and as long as only the body demands content.

`ReadLog` is what the code around the engine writes down for that: what the stream answered, which
buffers were given back, and what the polls gave. `Frame.ofAnswers` says what the polls are to give:
the bytes up to the last chunk, or up to trailers or an error. `Reader.Reading` is the invariant,
and a computation of `Reader.Keeps` keeps it; it does not panic, and may be cut off at a
`Reader.Moment`. The queue of the channel can be worked off at any time (`Reader.keeps_drain`).

`Proofs.BodyFrames` goes on with the polls themselves.
-/

namespace HttpExchange

variable {κ ε α β : Type}

/-! ## Answers of a stream -/

/-- What a stream answers to a read. -/
abbrev Answer (κ : Type) := Option (Content κ)

/-- Whether nothing is to be read after this content. -/
def Content.isFinal : Content κ → Bool
  | chunk _ last _ => last
  | trailers _ | error _ => true

/-- The code that gives the buffer of a chunk back. -/
def Content.hook? : Content κ → Option κ
  | chunk _ _ release => release
  | trailers _ | error _ => none

namespace Answer

/-- Whether the body is over with these answers. -/
def isOver (answers : List (Answer κ)) : Bool := answers.any (·.any Content.isFinal)

/-- The hooks of all chunks that were read. -/
def hooks (answers : List (Answer κ)) : List κ := answers.filterMap (·.bind Content.hook?)

/-- A stream that has answered with an end has done so for good. -/
theorem isOver_append (answers later : List (Answer κ)) :
    isOver (answers ++ later) = (isOver answers || isOver later) := List.any_append

/-- Hooks come in the order of the answers. -/
theorem hooks_append (answers later : List (Answer κ)) :
    hooks (answers ++ later) = hooks answers ++ hooks later := List.filterMap_append

theorem hooks_mono {answers later : List (Answer κ)} (h : answers <+: later) :
    hooks answers <+: hooks later := by
  obtain ⟨rest, rfl⟩ := h
  rw [hooks_append]
  exact List.prefix_append _ _

end Answer

open Answer

namespace Frame

/-- What polls are to give for these answers: the bytes that are not empty, up to and with the last
chunk, or those before trailers or an error, and these. -/
def ofAnswers : List (Answer κ) → List Frame
  | [] => []
  | none :: rest => ofAnswers rest
  | some (.chunk bytes last _) :: rest =>
    (if bytes.isEmpty then [] else [.data bytes]) ++ if last then [] else ofAnswers rest
  | some (.trailers fields) :: _ => [.trailers fields]
  | some (.error failure) :: _ => [.failed failure]

/-- What the poller is handed with a result of a poll. -/
def yielded : Frame → List Frame
  | pending | finished => []
  | data bytes => [data bytes]
  | trailers fields => [trailers fields]
  | failed failure => [failed failure]

/-- Answers count until the body is over. -/
theorem ofAnswers_append (answers later : List (Answer κ)) :
    ofAnswers (answers ++ later) =
      ofAnswers answers ++ if isOver answers then [] else ofAnswers later := by
  induction answers with
  | nil => rfl
  | cons answer rest ih =>
    match answer with
    | none => exact ih
    | some (.trailers fields) => rfl
    | some (.error failure) => rfl
    | some (.chunk bytes true release) => simp [ofAnswers, isOver, Content.isFinal]
    | some (.chunk bytes false release) =>
      have hover : isOver (some (.chunk bytes false release) :: rest) = isOver rest := rfl
      simp only [List.cons_append, ofAnswers, hover, Bool.false_eq_true, if_false, ih,
        List.append_assoc]

/-- What later answers add comes after what was to be given before. -/
theorem ofAnswers_mono {answers later : List (Answer κ)} (h : answers <+: later) :
    ofAnswers answers <+: ofAnswers later := by
  obtain ⟨rest, rfl⟩ := h
  rw [ofAnswers_append]
  exact List.prefix_append _ _

/-- Nothing is to be given after the end. -/
theorem ofAnswers_append_of_isOver {answers : List (Answer κ)} (h : isOver answers = true)
    (later : List (Answer κ)) : ofAnswers (answers ++ later) = ofAnswers answers := by
  rw [ofAnswers_append, h, if_pos rfl, List.append_nil]

/-- Before the end, an answer adds its own frames. -/
theorem ofAnswers_concat {answers : List (Answer κ)} (h : isOver answers = false)
    (answer : Answer κ) :
    ofAnswers (answers ++ [answer]) = ofAnswers answers ++ ofAnswers [answer] := by
  rw [ofAnswers_append, h, if_neg Bool.false_ne_true]

end Frame

/-! ## What is written down, and what is looked at -/

/-- What the code around the engine writes down about a body, beside what it keeps for itself. -/
structure ReadLog (κ ε : Type) where
  /-- What the stream answered. -/
  answers : List (Answer κ)
  /-- The hooks that were run. -/
  released : List κ
  /-- What polls gave. -/
  given : List Frame
  /-- Whether somebody polls the body. Nobody else can until that has come back. -/
  polling : Bool
  own : ε

namespace ReadLog

/-- Writes down what the stream answers. -/
def answer (a : Answer κ) : Engine κ (ReadLog κ ε) Unit :=
  .modify fun w => { w with outside := { w.outside with answers := w.outside.answers ++ [a] } }

/-- Writes down that a hook is run. -/
def release (code : κ) : Engine κ (ReadLog κ ε) Unit :=
  .modify fun w => { w with outside := { w.outside with released := w.outside.released ++ [code] } }

/-- The body is given to somebody who polls it. -/
def lend : Engine κ (ReadLog κ ε) Unit :=
  .modify fun w => { w with outside := { w.outside with polling := true } }

/-- The poll has come back with this result. -/
def giveBack (frame : Frame) : Engine κ (ReadLog κ ε) Unit :=
  .modify fun w =>
    { w with outside := { w.outside with
      given := w.outside.given ++ frame.yielded, polling := false } }

end ReadLog

/-- A body, what it reads from, and the code that gives buffers back. -/
structure Reader (κ : Type) where
  body : BodyRef
  exchange : ExchangeRef
  stream : Stream
  hook : κ → Prop

/-- How far the reading of a body has come. -/
@[ext] structure Book (κ : Type) where
  answers : List (Answer κ)
  released : List κ
  given : List Frame
  finished : Bool
  request : RequestHead

namespace Book

/-- The polls gave what they are to give for some of the answers, and the hooks of these were run.
No hook was run twice, or for a chunk that was not read. -/
def Kept (book : Book κ) : Prop :=
  ∃ answers, answers <+: book.answers ∧ book.given = Frame.ofAnswers answers ∧
    hooks answers <+: book.released ∧ book.released <+: hooks book.answers

/-- The polls gave what they are to give for all answers, and all hooks were run. -/
structure Settled (book : Book κ) : Prop where
  given : book.given = Frame.ofAnswers book.answers
  released : book.released = hooks book.answers
  finished : book.finished = isOver book.answers

/-- What is settled is kept. -/
theorem Settled.kept {book : Book κ} (h : book.Settled) : book.Kept := by
  refine ⟨book.answers, List.prefix_rfl, h.given, ?_, ?_⟩
  · exact h.released ▸ List.prefix_rfl
  · exact h.released ▸ List.prefix_rfl

/-- The polls never gave what they were not to give, whatever is answered later. -/
theorem Kept.given_prefix {book : Book κ} (h : book.Kept) (later : List (Answer κ)) :
    book.given <+: Frame.ofAnswers (book.answers ++ later) := by
  obtain ⟨answers, hanswers, hgiven, -⟩ := h
  rw [hgiven]
  exact Frame.ofAnswers_mono (hanswers.trans (List.prefix_append _ _))

/-- Another answer changes nothing about what was given and released. -/
theorem Kept.answered {book : Book κ} (h : book.Kept) (answer : Answer κ) :
    Kept { book with answers := book.answers ++ [answer] } := by
  obtain ⟨answers, hanswers, hgiven, hdone, hreleased⟩ := h
  refine ⟨answers, hanswers.trans (List.prefix_append _ _), hgiven, hdone, ?_⟩
  exact hreleased.trans (hooks_mono (List.prefix_append _ _))

end Book

/-- The part of the state that reading a body has to do with. -/
@[ext] structure View (κ : Type) where
  stream : Option Stream
  /-- The active exchange, whether it is processing, and its failure. -/
  running : Option (ExchangeRef × Bool × Option FailureRef)
  demand : Option (Job κ)
  tasks : List (Task κ)
  body : Option (RequestBody κ)
  request : RequestHead
  answers : List (Answer κ)
  released : List κ
  given : List Frame
  polling : Bool

/-- Whether a job wakes a body. -/
def Job.wakes (b : BodyRef) : Job κ → Bool
  | wakeBody body => body = b
  | _ => false

theorem Job.wakes_iff {b : BodyRef} {job : Job κ} : job.wakes b = true ↔ job = .wakeBody b := by
  cases job <;> simp [Job.wakes]

namespace View

def book (v : View κ) : Book κ :=
  ⟨v.answers, v.released, v.given, v.body.any (·.finished), v.request⟩

/-- Whether a demand of the body is on its way. -/
def inFlight (v : View κ) : Bool := v.body.any (·.inFlight)

/-- How many demands that wake a body are registered or queued. -/
def wakes (b : BodyRef) (v : View κ) : Nat :=
  (v.demand.toList ++ v.tasks.map (·.job)).countP (·.wakes b)

/-- A body that changes without being finished by that does not show in the books. -/
theorem book_modifyBody (v : View κ) {x y : RequestBody κ} (hbody : v.body = some x)
    (hfinished : y.finished = x.finished) : book { v with body := some y } = v.book := by
  refine Book.ext rfl rfl rfl ?_ rfl
  show y.finished = v.body.any (·.finished)
  rw [hbody, hfinished]
  rfl

/-- A demand that is registered is one more to wake the body. -/
theorem wakes_demand (b : BodyRef) {v : View κ} (hdemand : v.demand = none) :
    wakes b { v with demand := some (.wakeBody b) } = v.wakes b + 1 := by
  unfold wakes
  rw [hdemand]
  exact List.countP_cons_of_pos (Job.wakes_iff.2 rfl)

/-- A registered demand of the body will wake it. -/
theorem wakes_pos {b : BodyRef} {v : View κ} (hdemand : v.demand = some (.wakeBody b)) :
    0 < v.wakes b := by
  unfold wakes
  rw [hdemand]
  exact List.countP_pos_iff.2 ⟨_, List.mem_cons_self, Job.wakes_iff.2 rfl⟩

/-- The first task that is queued wakes a body or not. -/
theorem wakes_of_cons (b : BodyRef) {v : View κ} {task : Task κ} {rest : List (Task κ)}
    (htasks : v.tasks = task :: rest) :
    v.wakes b = (task.job.wakes b).toNat + wakes b { v with tasks := rest } := by
  unfold wakes
  rw [htasks, List.map_cons, List.countP_append, List.countP_append, List.countP_cons]
  cases task.job.wakes b
  · simp
  · simp only [Bool.toNat_true, if_true]
    omega

/-- What may happen to a view: answers are only added, and while somebody polls the body nobody else
gets on with it. -/
structure Onward (v v' : View κ) : Prop where
  polling : v'.polling = v.polling
  request : v'.request = v.request
  answers : v.answers <+: v'.answers
  book : v.polling = true → v'.book = v.book

theorem Onward.refl (v : View κ) : v.Onward v := ⟨rfl, rfl, List.prefix_refl _, fun _ => rfl⟩

/-- Getting on is a matter of several steps. -/
theorem Onward.trans {v v₁ v₂ : View κ} (h : v.Onward v₁) (h' : v₁.Onward v₂) : v.Onward v₂ := by
  refine ⟨h'.polling.trans h.polling, h'.request.trans h.request, h.answers.trans h'.answers, ?_⟩
  intro hpolling
  exact (h'.book (h.polling.trans hpolling)).trans (h.book hpolling)

/-- What does not show in the books goes on. -/
theorem Onward.of_book {v v' : View κ} (hpolling : v'.polling = v.polling)
    (hbook : v'.book = v.book) : v.Onward v' := by
  have hanswers : v'.answers = v.answers := congrArg Book.answers hbook
  exact ⟨hpolling, congrArg Book.request hbook, hanswers ▸ List.prefix_rfl, fun _ => hbook⟩

end View

namespace Reader

variable {ρ : Reader κ} {v v' : View κ}

/-- What a reader looks at. -/
def view (ρ : Reader κ) (w : World κ (ReadLog κ ε)) : View κ where
  stream := w.channel.stream
  running := w.channel.active.map fun a => (a.exchange, a.processing, a.error)
  demand := w.channel.active.bind (·.demand)
  tasks := w.channelQueue.tasks
  body := w.bodies[ρ.body.index]?
  request := (w.exchange ρ.exchange).request
  answers := w.outside.answers
  released := w.outside.released
  given := w.outside.given
  polling := w.outside.polling

/-- A task that may be in the queue: it wakes the body, or runs code that gives no buffer back. -/
def Harmless (ρ : Reader κ) (job : Job κ) : Prop :=
  job = .wakeBody ρ.body ∨ ∃ run signal, job = .code run signal ∧ ¬ρ.hook run

/-- What is always true while a body is read. -/
structure Reading (ρ : Reader κ) (v : View κ) : Prop where
  stream : v.stream = some ρ.stream
  running : v.running = some (ρ.exchange, true, none)
  demand : ∀ job ∈ v.demand, job = .wakeBody ρ.body
  tasks : ∀ task ∈ v.tasks, ρ.Harmless task.job
  body : ∃ x, v.body = some x ∧ x.exchange = ρ.exchange ∧ ∀ waker ∈ x.waker, ¬ρ.hook waker
  /-- A demand that is on its way is registered or queued, once. -/
  wakes : v.wakes ρ.body = v.inFlight.toNat
  kept : v.book.Kept
  settled : v.polling = false → v.book.Settled

/-- What is true at every point at which everything may be cut off. -/
structure Moment (ρ : Reader κ) (v : View κ) : Prop where
  kept : v.book.Kept
  wakes : v.wakes ρ.body ≤ 1

/-- What is true between two operations is more than what is true at every point. -/
theorem Reading.moment (h : ρ.Reading v) : ρ.Moment v := by
  refine ⟨h.kept, ?_⟩
  rw [h.wakes]
  exact Bool.toNat_le v.inFlight

/-- What has to be true again after a change that leaves the books alone. -/
theorem Reading.beside (h : ρ.Reading v) (hstream : v'.stream = v.stream)
    (hrunning : v'.running = v.running) (hdemand : ∀ job ∈ v'.demand, job = .wakeBody ρ.body)
    (htasks : ∀ task ∈ v'.tasks, ρ.Harmless task.job)
    (hbody : ∃ x, v'.body = some x ∧ x.exchange = ρ.exchange ∧ ∀ waker ∈ x.waker, ¬ρ.hook waker)
    (hwakes : v'.wakes ρ.body = v'.inFlight.toNat) (hpolling : v'.polling = v.polling)
    (hbook : v'.book = v.book) : ρ.Reading v' where
  stream := hstream.trans h.stream
  running := hrunning.trans h.running
  demand := hdemand
  tasks := htasks
  body := hbody
  wakes := hwakes
  kept := hbook ▸ h.kept
  settled hfalse := hbook ▸ h.settled (hpolling ▸ hfalse)

/-- What has to be true again when something is written down. -/
theorem Reading.written (h : ρ.Reading v) {answers : List (Answer κ)} {released : List κ}
    {given : List Frame} {polling : Bool}
    (hkept : Book.Kept { v.book with answers, released, given })
    (hsettled : polling = false → Book.Settled { v.book with answers, released, given }) :
    ρ.Reading { v with answers, released, given, polling } :=
  ⟨h.stream, h.running, h.demand, h.tasks, h.body, h.wakes, hkept, hsettled⟩

/-! ## Computations -/

/-- A computation that comes back satisfies a condition, and one that does not was cut off. -/
def Ends (ρ : Reader κ) (Q : α → View κ → Prop) (ended : Outcome α × World κ (ReadLog κ ε)) :
    Prop :=
  match ended.1 with
  | .done a => Q a (ρ.view ended.2)
  | .panicked _ => False
  | .halted => ρ.Moment (ρ.view ended.2)

/-- A computation that keeps what is true while a body is read. -/
def Keeps (ρ : Reader κ) (m : Engine κ (ReadLog κ ε) α) : Prop :=
  ∀ w, ρ.Reading (ρ.view w) →
    ρ.Ends (fun _ v => ρ.Reading v ∧ (ρ.view w).Onward v) (m w)

/-- The second part has to be looked at only for results of the first. -/
theorem Ends.bind {Q : α → View κ → Prop} {Q' : β → View κ → Prop}
    {m : Engine κ (ReadLog κ ε) α} {f : α → Engine κ (ReadLog κ ε) β}
    {w : World κ (ReadLog κ ε)} (hm : ρ.Ends Q (m w))
    (hf : ∀ a w', m w = (.done a, w') → Q a (ρ.view w') → ρ.Ends Q' (f a w')) :
    ρ.Ends Q' ((m >>= f) w) := by
  rw [Effect.bind_run]
  rcases hrun : m w with ⟨a | p | _, w'⟩
  · rw [hrun] at hm
    exact hf a w' hrun hm
  · rw [hrun] at hm
    exact hm.elim
  · rw [hrun] at hm
    exact hm

/-- A condition may be weakened. -/
theorem Ends.mono {Q Q' : α → View κ → Prop} {ended : Outcome α × World κ (ReadLog κ ε)}
    (h : ρ.Ends Q ended) (hQ : ∀ a v, Q a v → Q' a v) : ρ.Ends Q' ended := by
  rcases ended with ⟨a | p | _, w⟩
  · exact hQ a _ h
  · exact h
  · exact h

/-- Nothing is there to catch. -/
theorem Ends.attempt {Q : α → View κ → Prop} {m : Engine κ (ReadLog κ ε) α}
    {w : World κ (ReadLog κ ε)} (h : ρ.Ends Q (m w)) :
    ρ.Ends (fun caught v => ∃ a, caught = .ok a ∧ Q a v) (Effect.attempt m w) := by
  unfold Effect.attempt
  rcases hrun : m w with ⟨a | p | _, w'⟩
  · rw [hrun] at h
    exact ⟨a, rfl, h⟩
  · rw [hrun] at h
    exact h.elim
  · rw [hrun] at h
    exact h

namespace Keeps

/-- Being cut off may happen whenever a body is read. -/
theorem halt : ρ.Keeps (Effect.halt : Engine κ (ReadLog κ ε) α) := fun _ hw => hw.moment

/-- What is true is kept by one part after the other. -/
theorem bind {m : Engine κ (ReadLog κ ε) α} {f : α → Engine κ (ReadLog κ ε) β}
    (hm : ρ.Keeps m) (hf : ∀ a, ρ.Keeps (f a)) : ρ.Keeps (m >>= f) := by
  intro w hw
  refine .bind (hm w hw) fun a w' _ h => (hf a w' h.1).mono fun _ v hv => ?_
  exact ⟨hv.1, h.2.trans hv.2⟩

/-- What a reader does not see keeps what is true, if it does not panic. -/
theorem aside {m : Engine κ (ReadLog κ ε) α} (h : ∀ w, ρ.Reading (ρ.view w) →
    ρ.view (m w).2 = ρ.view w ∧ ∀ p, (m w).1 ≠ .panicked p) : ρ.Keeps m := by
  intro w hw
  obtain ⟨hsame, hcalm⟩ := h w hw
  rcases hrun : m w with ⟨a | p | _, w'⟩
  · rw [hrun] at hsame
    show ρ.Reading (ρ.view w') ∧ (ρ.view w).Onward (ρ.view w')
    rw [hsame]
    exact ⟨hw, .refl _⟩
  · rw [hrun] at hcalm
    exact hcalm p rfl
  · rw [hrun] at hsame
    show ρ.Moment (ρ.view w')
    rw [hsame]
    exact hw.moment

/-- Going on from a state that looks as this one would after some time. -/
theorem from_onward {m : Engine κ (ReadLog κ ε) α} (hm : ρ.Keeps m)
    {w : World κ (ReadLog κ ε)} (h : ρ.Reading (ρ.view w)) (hv : v.Onward (ρ.view w)) :
    ρ.Ends (fun _ v' => ρ.Reading v' ∧ v.Onward v') (m w) :=
  (hm w h).mono fun _ _ h' => ⟨h'.1, hv.trans h'.2⟩

end Keeps

/-! ## Surroundings -/

/-- Surroundings that feed a body: what they do has a property `P`, but for what is written down of
it. The hooks of the chunks that the stream answers with are told apart from all other code. -/
structure Feeds (ρ : Reader κ) (P : (α : Type) → Engine κ (ReadLog κ ε) α → Prop)
    (host : Host κ (ReadLog κ ε)) : Prop where
  read : ∃ answer : Engine κ (ReadLog κ ε) (Answer κ), P _ answer ∧
    (∀ w a w', answer w = (.done a, w') → ∀ code ∈ hooks [a], ρ.hook code) ∧
    ρ.stream.read host = (do
      let a ← answer
      ReadLog.answer a
      return a)
  demand : P _ (ρ.stream.demand host)
  run : ∀ code signal, ¬ρ.hook code → P _ (host.run code signal)
  release : ∀ code, ρ.hook code → ∃ rest, P _ rest ∧ host.run code .ready = (do
    ReadLog.release code
    rest)

/-- Surroundings that feed a body, and do deferred jobs as the engine says, with the help of others
that do, or cut them off. -/
structure Serves (ρ : Reader κ) (host : Host κ (ReadLog κ ε)) : Prop where
  feeds : ρ.Feeds (fun _ m => ρ.Keeps m) host
  perform : (∀ job, host.perform job = Effect.halt) ∨
    ∃ inner : Host κ (ReadLog κ ε), ρ.Feeds (fun _ m => ρ.Keeps m) inner ∧
      ∀ job, host.perform job = job.perform inner

variable {host : Host κ (ReadLog κ ε)} {w w₁ : World κ (ReadLog κ ε)}

/-! ## The queue of the channel -/

/-- What a reader sees of a body that is changed. -/
theorem view_modifyBody (w : World κ (ReadLog κ ε)) (f : RequestBody κ → RequestBody κ) :
    ρ.view { w with bodies := w.bodies.modify ρ.body.index f } =
      { ρ.view w with body := (ρ.view w).body.map f } := by
  refine View.ext rfl rfl rfl rfl ?_ rfl rfl rfl rfl rfl
  show (w.bodies.modify ρ.body.index f)[ρ.body.index]? = w.bodies[ρ.body.index]?.map f
  rw [Array.getElem?_modify, if_pos rfl]

/-- What is left in the queue does no harm if nothing in it did. -/
theorem Reading.tasks_of_cons (h : ρ.Reading v) {task : Task κ} {rest : List (Task κ)}
    (htasks : v.tasks = task :: rest) : ∀ other ∈ rest, ρ.Harmless other.job := by
  intro other hother
  refine h.tasks other ?_
  rw [htasks]
  exact List.mem_cons_of_mem _ hother

/-- A demand that was taken from the queue is no longer on its way. -/
theorem Reading.woken (h : ρ.Reading v) {task : Task κ} {rest : List (Task κ)}
    (htasks : v.tasks = task :: rest) (hjob : task.job = .wakeBody ρ.body) :
    ρ.Reading { v with tasks := rest, body := v.body.map RequestBody.answered } := by
  obtain ⟨x, hbody, hexchange, -⟩ := h.body
  have hwakes := h.wakes
  rw [View.wakes_of_cons ρ.body htasks, Job.wakes_iff.2 hjob] at hwakes
  have hnone : View.wakes ρ.body { v with tasks := rest } = 0 := by
    have hle := Bool.toNat_le v.inFlight
    rw [← hwakes, Bool.toNat_true] at hle
    omega
  refine h.beside rfl rfl h.demand (h.tasks_of_cons htasks) ?_ ?_ rfl ?_
  · rw [hbody]
    exact ⟨x.answered, rfl, hexchange, nofun⟩
  · rw [hbody]
    exact hnone
  · rw [hbody]
    exact v.book_modifyBody hbody rfl

/-- A task that was taken from the queue and wakes nobody leaves the rest as it was. -/
theorem Reading.taken (h : ρ.Reading v) {task : Task κ} {rest : List (Task κ)}
    (htasks : v.tasks = task :: rest) (hjob : task.job.wakes ρ.body = false) :
    ρ.Reading { v with tasks := rest } := by
  have hwakes := h.wakes
  rw [View.wakes_of_cons ρ.body htasks, hjob, Bool.toNat_false, Nat.zero_add] at hwakes
  exact h.beside rfl rfl h.demand (h.tasks_of_cons htasks) h.body hwakes rfl rfl

/-- A task that was taken from the queue is done, or everything is cut off. -/
theorem ends_perform (hh : ρ.Serves host) (hw : ρ.Reading (ρ.view w)) {task : Task κ}
    {rest : List (Task κ)} (htasks : (ρ.view w).tasks = task :: rest)
    (hview : ρ.view w₁ = { ρ.view w with tasks := rest }) :
    ρ.Ends (fun _ v => ρ.Reading v ∧ (ρ.view w).Onward v) (host.perform task.job w₁) := by
  rcases hh.perform with hhalts | ⟨inner, hinner, hperform⟩
  · rw [hhalts]
    show ρ.Moment (ρ.view w₁)
    have hle := hw.moment.wakes
    rw [View.wakes_of_cons ρ.body htasks] at hle
    rw [hview]
    exact ⟨hw.kept, Nat.le_trans (Nat.le_add_left _ _) hle⟩
  rw [hperform]
  rcases hw.tasks task (htasks ▸ List.mem_cons_self) with hjob | ⟨run, signal, hjob, hhook⟩
  · obtain ⟨x, hx, -, hwaker⟩ := hw.body
    let w₂ : World κ (ReadLog κ ε) :=
      { w₁ with bodies := w₁.bodies.modify ρ.body.index RequestBody.answered }
    have hview₂ : ρ.view w₂ = { ρ.view w with
        tasks := rest, body := (ρ.view w).body.map RequestBody.answered } := by
      rw [view_modifyBody, hview]
    have hwoken : ρ.Reading (ρ.view w₂) := by
      rw [hview₂]
      exact hw.woken htasks hjob
    have honward : (ρ.view w).Onward (ρ.view w₂) := by
      rw [hview₂, hx]
      exact .of_book rfl ((ρ.view w).book_modifyBody hx rfl)
    have hbody : (ρ.view w₁).body = (ρ.view w).body := by rw [hview]
    rw [hjob]
    show ρ.Ends _ (ρ.body.wake inner w₁)
    rw [BodyRef.wake_run]
    have hfound : w₁.bodies[ρ.body.index]? = some x := hbody.trans hx
    rw [hfound, Option.bind_some]
    cases hasks : x.waker with
    | none => exact ⟨hwoken, honward⟩
    | some waker => exact (hinner.run waker .ready (hwaker waker hasks)).from_onward hwoken honward
  · have htaken : ρ.Reading (ρ.view w₁) := by
      rw [hview]
      exact hw.taken htasks (by rw [hjob]; rfl)
    have honward : (ρ.view w).Onward (ρ.view w₁) := by
      rw [hview]
      exact .of_book rfl rfl
    rw [hjob]
    exact (hinner.run run signal hhook).from_onward htaken honward

/-- Every round does a task that does no harm. -/
theorem keeps_drainWithin (hh : ρ.Serves host) (rounds : Nat) :
    ρ.Keeps (Queue.drainWithin host .channel rounds) := by
  induction rounds with
  | zero => exact .halt
  | succ rounds ih =>
    intro w hw
    cases htasks : (w.queue .channel).tasks with
    | nil =>
      have hview : ρ.view (w.setQueue .channel .idle) = ρ.view w :=
        View.ext rfl rfl rfl htasks.symm rfl rfl rfl rfl rfl rfl
      rw [Queue.drainWithin, Effect.bind_of_done (Engine.nextTask_of_nil htasks)]
      show ρ.Reading (ρ.view (w.setQueue .channel .idle)) ∧
        (ρ.view w).Onward (ρ.view (w.setQueue .channel .idle))
      rw [hview]
      exact ⟨hw, .refl _⟩
    | cons task rest =>
      rw [Queue.drainWithin, Effect.bind_of_done (Engine.nextTask_of_cons htasks)]
      refine .bind (ends_perform hh hw htasks rfl).attempt fun caught w' _ h => ?_
      obtain ⟨_, rfl, hreading, honward⟩ := h
      exact ih.from_onward hreading honward

/-- So does working the queue off. -/
theorem keeps_drain (hh : ρ.Serves host) : ρ.Keeps (Queue.drain host .channel) :=
  keeps_drainWithin hh _

end Reader

end HttpExchange
