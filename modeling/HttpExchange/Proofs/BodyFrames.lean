import HttpExchange.Proofs.BodyReading

/-!
# What polling a request body gives

The main statement is `body_gives_content`. Whatever chunks the stream answers with, empty ones
included, wherever it has nothing, and however polls are interleaved with news of content, the polls
give the bytes of the chunks in order, up to the last one, or up to trailers or an error. At most
one demand is on its way, and every buffer is given back once, before its bytes are handed out.

A poll is a loop of rounds. In each round one answer is read and worked into the books
(`Book.read`), and something is given for it or the loop goes on (`Reader.Round`). So a poll gives
what the books lack (`Reader.ends_pollWithin`), and reads on only as long as there is nothing to give
(`Reader.exhausted_pollWithin`). Code that a round calls may announce content, work the queue off or
wake whoever polls, but it cannot poll the body itself, which is lent (`Reader.take`).
-/

namespace HttpExchange

variable {κ ε α β : Type}

open Answer

namespace Answer

theorem isOver_chunk (bytes : Octets) (last : Bool) (release : Option κ) :
    isOver [some (.chunk bytes last release)] = last := Bool.or_false last

end Answer

theorem Frame.ofAnswers_chunk (bytes : Octets) (last : Bool) (release : Option κ) :
    ofAnswers [some (.chunk bytes last release)] = if bytes.isEmpty then [] else [.data bytes] := by
  cases last <;> exact List.append_nil _

/-! ## Answers and the books -/

namespace Book

variable {book : Book κ}

/-- An answer is worked into the books: its chunk is given back, and the body is finished if it was
the last. -/
def read (book : Book κ) (a : Answer κ) : Book κ :=
  { book with
    answers := book.answers ++ [a], released := book.released ++ hooks [a], finished := isOver [a] }

theorem isOver_read (hopen : isOver book.answers = false) {a : Answer κ}
    (hover : isOver [a] = false) : isOver (book.read a).answers = false := by
  show isOver (book.answers ++ [a]) = false
  rw [isOver_append, hopen, hover, Bool.false_or]

/-- An answer that gives nothing leaves the books settled. -/
theorem Settled.read (hsettled : book.Settled)
    (hopen : Answer.isOver book.answers = false) {a : Answer κ}
    (hnothing : Frame.ofAnswers [a] = []) : (book.read a).Settled where
  given := by
    show book.given = Frame.ofAnswers (book.answers ++ [a])
    rw [Frame.ofAnswers_concat hopen, hnothing, List.append_nil, hsettled.given]
  released := by
    show book.released ++ hooks [a] = hooks (book.answers ++ [a])
    rw [hooks_append, hsettled.released]
  finished := by
    show Answer.isOver [a] = Answer.isOver (book.answers ++ [a])
    rw [isOver_append, hopen, Bool.false_or]

/-- Nothing is kept back, and nothing more was given yet. -/
theorem Settled.kept_read (hsettled : book.Settled) (a : Answer κ) : (book.read a).Kept := by
  refine ⟨book.answers, List.prefix_append _ _, hsettled.given, ?_, ?_⟩
  · rw [← hsettled.released]
    exact List.prefix_append _ _
  · have hall : book.released ++ hooks [a] = hooks (book.answers ++ [a]) := by
      rw [hooks_append, hsettled.released]
    exact hall ▸ List.prefix_rfl

end Book

/-! ## Reading and demanding while an exchange goes on -/

namespace ExchangeRef

variable {host : Host κ ε} {w : World κ ε} {e : ExchangeRef} {active : Active κ} {stream : Stream}

theorem readContent_of_processing (ha : w.activeFor? e = some active)
    (herror : active.error = none) (hprocessing : active.processing = true)
    (hstream : w.channel.stream = some stream) : e.readContent host w = stream.read host w := by
  simp only [readContent, Effect.bind_run, Effect.gets, Engine.activeFor?, ha, herror, hprocessing,
    hstream, Bool.not_true, Bool.false_eq_true, if_false]

theorem demandContent_of_processing (ha : w.activeFor? e = some active)
    (herror : active.error = none) (hprocessing : active.processing = true)
    (hdemand : active.demand = none) (hstream : w.channel.stream = some stream) (job : Job κ) :
    e.demandContent host job w = (stream.demand host >>= fun _ => pure (.ok ()) :
      Engine κ ε (Except ExchangeError Unit))
      ((w.enter (.demanded e job)).modifyActive fun a => { a with demand := some job }) := by
  simp only [demandContent, Effect.bind_run, Effect.gets, Engine.activeFor?, ha, herror,
    hprocessing, hdemand, hstream, Option.isNone_none, Bool.and_self, if_true, Option.isSome_none,
    Bool.false_eq_true, if_false]
  rfl

end ExchangeRef

/-- A finished body does not read the stream. -/
theorem BodyRef.poll_of_finished {w : World κ ε} (b : BodyRef)
    (h : (w.bodies[b.index]?).any (·.finished) = true) (host : Host κ ε) (waker : κ) :
    b.poll host waker w = (.done .finished, w) := by
  obtain ⟨x, hx, hfinished⟩ := (Option.any_eq_true ..).1 h
  simp only [poll, get?, Effect.bind_run, Effect.gets, hx, hfinished, if_true]
  rfl

namespace Reader

variable {ρ : Reader κ} {v v' : View κ} {host : Host κ (ReadLog κ ε)}
  {w w₁ : World κ (ReadLog κ ε)} {book : Book κ}

theorem Reading.active (h : ρ.Reading (ρ.view w)) : ∃ a, w.activeFor? ρ.exchange = some a ∧
    w.channel.active = some a ∧ a.error = none ∧ a.processing = true := by
  obtain ⟨a, hactive, hparts⟩ := Option.map_eq_some_iff.1 h.running
  obtain ⟨hexchange, hprocessing, herror⟩ : a.exchange = ρ.exchange ∧ a.processing = true ∧
      a.error = none := by simpa using hparts
  exact ⟨a, (World.activeFor?_eq_some w).2 ⟨hactive, hexchange⟩, hactive, herror, hprocessing⟩

/-! ## News of content -/

/-- A registered demand moves to the queue. -/
theorem view_onContentAvailable (w : World κ (ReadLog κ ε)) :
    ρ.view (Channel.onContentAvailable w).2 = { ρ.view w with
      demand := none
      tasks := (ρ.view w).tasks ++ (ρ.view w).demand.toList.map Task.demand } := by
  refine View.ext rfl ?_ ?_ ?_ rfl rfl rfl rfl rfl rfl
  · show (w.channel.active.map _).map _ = w.channel.active.map _
    rw [Option.map_map]
    rfl
  · show (w.channel.active.map _).bind _ = none
    cases w.channel.active <;> rfl
  · exact Queue.tasks_offer _ _

theorem Reading.announced (h : ρ.Reading v) : ρ.Reading { v with
    demand := none, tasks := v.tasks ++ v.demand.toList.map Task.demand } := by
  refine h.beside rfl rfl nofun (fun task htask => ?_) h.body ?_ rfl rfl
  · rcases List.mem_append.1 htask with hqueued | hmoved
    · exact h.tasks task hqueued
    · obtain ⟨job, hjob, rfl⟩ := List.mem_map.1 hmoved
      exact .inl (h.demand job (Option.mem_toList.1 hjob))
  · have hmoved : (v.demand.toList.map Task.demand).map (·.job) = v.demand.toList := by
      rw [List.map_map]
      exact List.map_id _
    have hwakes := h.wakes
    unfold View.wakes at hwakes ⊢
    rw [List.countP_append] at hwakes
    rw [List.map_append, hmoved, Option.toList_none, List.nil_append, List.countP_append,
      Nat.add_comm]
    exact hwakes

theorem keeps_onContentAvailable : ρ.Keeps
    (Channel.onContentAvailable : Engine κ (ReadLog κ ε) (Option (Task κ))) := by
  intro w hw
  show ρ.Reading (ρ.view (Channel.onContentAvailable w).2) ∧
    (ρ.view w).Onward (ρ.view (Channel.onContentAvailable w).2)
  rw [view_onContentAvailable]
  exact ⟨hw.announced, .of_book rfl rfl⟩

/-- Code that gives no buffer back may be queued. -/
theorem keeps_runQueued (hh : ρ.Serves host) (name : String) {code : κ} (hcode : ¬ρ.hook code)
    (signal : Signal) : ρ.Keeps (Engine.runQueued host name (.code code signal)) := by
  intro w hw
  have hview : ρ.view (w.offer .channel [⟨name, .code code signal⟩]) = { ρ.view w with
      tasks := (ρ.view w).tasks ++ [⟨name, .code code signal⟩] } := by
    refine View.ext rfl rfl rfl ?_ rfl rfl rfl rfl rfl rfl
    exact w.channelQueue.tasks_offer [⟨name, .code code signal⟩]
  have hoffered : ρ.Reading (ρ.view (w.offer .channel [⟨name, .code code signal⟩])) := by
    rw [hview]
    refine hw.beside rfl rfl hw.demand (fun task htask => ?_) hw.body ?_ rfl rfl
    · rcases List.mem_append.1 htask with hqueued | hnew
      · exact hw.tasks task hqueued
      · obtain rfl := List.mem_singleton.1 hnew
        exact .inr ⟨code, signal, rfl, hcode⟩
    · refine Eq.trans ?_ hw.wakes
      simp [View.wakes, Job.wakes]
  have honward : (ρ.view w).Onward (ρ.view (w.offer .channel [⟨name, .code code signal⟩])) := by
    rw [hview]
    exact .of_book rfl rfl
  unfold Engine.runQueued
  cases hdraining : (w.queue .channel).draining with
  | true =>
    rw [Queue.run_of_draining hdraining]
    exact ⟨hoffered, honward⟩
  | false =>
    rw [Queue.run_of_idle hdraining]
    exact (keeps_drain hh).from_onward hoffered honward

/-! ## While somebody polls -/

/-- Somebody polls the body, and this is how far it has come. -/
structure At (ρ : Reader κ) (book : Book κ) (v : View κ) : Prop where
  reading : ρ.Reading v
  polling : v.polling = true
  book : v.book = book

/-- Code that keeps what is true does not get on with a body that somebody polls. -/
theorem At.keeps {m : Engine κ (ReadLog κ ε) α} (h : ρ.At book (ρ.view w)) (hm : ρ.Keeps m) :
    ρ.Ends (fun _ v => ρ.At book v) (m w) :=
  (hm w h.reading).mono fun _ _ ⟨hreading, honward⟩ =>
    ⟨hreading, honward.polling.trans h.polling, (honward.book h.polling).trans h.book⟩

/-- Something is written down. -/
theorem At.write (h : ρ.At book v) {answers : List (Answer κ)} {released : List κ}
    (hkept : Book.Kept { book with answers, released }) :
    ρ.At { book with answers, released } { v with answers, released } := by
  obtain rfl := h.book
  refine ⟨h.reading.written hkept fun hfalse => ?_, h.polling, rfl⟩
  cases hfalse.symm.trans h.polling

/-- The body is marked as finished or not. -/
theorem At.finish (h : ρ.At book v) (finished : Bool) : ρ.At { book with finished }
    { v with body := v.body.map fun x => { x with finished } } := by
  obtain ⟨x, hbody, hexchange, hwaker⟩ := h.reading.body
  have hbook : View.book { v with body := v.body.map fun x => { x with finished } } =
      { book with finished } := by
    rw [← h.book, hbody]
    rfl
  have hr := h.reading
  refine ⟨⟨hr.stream, hr.running, hr.demand, hr.tasks, ?_, ?_, ?_, fun hfalse => ?_⟩, h.polling,
    hbook⟩
  · rw [hbody]
    exact ⟨_, rfl, hexchange, hwaker⟩
  · refine hr.wakes.trans ?_
    unfold View.inFlight
    rw [hbody]
    rfl
  · rw [hbook, ← h.book]
    exact hr.kept
  · cases hfalse.symm.trans h.polling

/-- The stream is read, and what it answers is written down. -/
theorem ends_readContent (hh : ρ.Feeds (fun _ m => ρ.Keeps m) host) (h : ρ.At book (ρ.view w)) :
    ρ.Ends (fun a v => ρ.At { book with answers := book.answers ++ [a] } v ∧
      ∀ code ∈ hooks [a], ρ.hook code) (ρ.exchange.readContent host w) := by
  obtain ⟨answer, hkeeps, hhooks, hread⟩ := hh.read
  obtain ⟨active, ha, -, herror, hprocessing⟩ := h.reading.active
  rw [ExchangeRef.readContent_of_processing ha herror hprocessing h.reading.stream, hread]
  refine .bind (h.keeps hkeeps) fun a w₁ hrun h₁ => ?_
  obtain rfl := h₁.book
  exact ⟨h₁.write (h₁.reading.kept.answered a), hhooks _ _ _ hrun⟩

/-- A hook is run, and written down. -/
theorem ends_release (hh : ρ.Feeds (fun _ m => ρ.Keeps m) host) (h : ρ.At book (ρ.view w))
    {code : κ} (hcode : ρ.hook code)
    (hkept : Book.Kept { book with released := book.released ++ [code] }) :
    ρ.Ends (fun _ v => ρ.At { book with released := book.released ++ [code] } v)
      (host.run code .ready w) := by
  obtain ⟨rest, hkeeps, hrun⟩ := hh.release code hcode
  rw [hrun]
  obtain rfl := h.book
  exact At.keeps (w := (ReadLog.release code w).2) (h.write hkept) hkeeps

/-- A body that sets out to demand content registers its demand in one go with that. -/
theorem Reading.demanding (h : ρ.Reading v) {x : RequestBody κ} (hx : v.body = some x)
    (hidle : x.inFlight = false) : v.demand = none ∧
      ρ.Reading { v with demand := some (.wakeBody ρ.body), body := some x.demanding } := by
  obtain ⟨y, hy, hexchange, hwaker⟩ := h.body
  obtain rfl : x = y := Option.some.inj (hx.symm.trans hy)
  have hnone : v.wakes ρ.body = 0 := by
    rw [h.wakes, View.inFlight, hx]
    exact congrArg Bool.toNat hidle
  have hdemand : v.demand = none := by
    cases hdemand : v.demand with
    | none => rfl
    | some job =>
      obtain rfl := h.demand job hdemand
      exact absurd hnone (Nat.ne_of_gt (View.wakes_pos hdemand))
  refine ⟨hdemand, h.beside rfl rfl ?_ h.tasks ⟨_, rfl, hexchange, hwaker⟩ ?_ rfl ?_⟩
  · rintro _ ⟨⟩
    rfl
  · exact (View.wakes_demand ρ.body hdemand).trans (congrArg (· + 1) hnone)
  · exact v.book_modifyBody hx rfl

/-- The state in which a demand of the body is registered. -/
def registered (ρ : Reader κ) (w : World κ (ReadLog κ ε)) : World κ (ReadLog κ ε) :=
  ({ w with bodies := w.bodies.modify ρ.body.index RequestBody.demanding }.enter
    (.demanded ρ.exchange (.wakeBody ρ.body))).modifyActive fun a =>
      { a with demand := some (.wakeBody ρ.body) }

/-- A demand is registered for a body that has none on its way. -/
theorem At.registered (h : ρ.At book (ρ.view w)) {x : RequestBody κ}
    (hx : w.bodies[ρ.body.index]? = some x) (hidle : x.inFlight = false) :
    ρ.At book (ρ.view (ρ.registered w)) := by
  obtain ⟨-, hdemanding⟩ := h.reading.demanding hx hidle
  obtain ⟨active, -, hactive, -, -⟩ := h.reading.active
  have hview : ρ.view (ρ.registered w) = { ρ.view w with
      demand := some (.wakeBody ρ.body), body := some x.demanding } := by
    refine View.ext rfl ?_ ?_ rfl ?_ rfl rfl rfl rfl rfl
    · show (w.channel.active.map _).map _ = w.channel.active.map _
      rw [Option.map_map]
      rfl
    · show (w.channel.active.map _).bind _ = _
      rw [hactive]
      rfl
    · show (w.bodies.modify ρ.body.index RequestBody.demanding)[ρ.body.index]? = _
      rw [Array.getElem?_modify, if_pos rfl, hx]
      rfl
  rw [hview]
  exact ⟨hdemanding, h.polling, ((ρ.view w).book_modifyBody hx rfl).trans h.book⟩

/-- The stream is asked for content once the demand is registered. -/
theorem demand_of_idle (h : ρ.Reading (ρ.view w)) {x : RequestBody κ}
    (hx : w.bodies[ρ.body.index]? = some x) (hidle : x.inFlight = false) :
    ρ.body.demand host x w = (ρ.stream.demand host >>= fun _ => pure (.ok ()) :
      Engine κ (ReadLog κ ε) (Except FailureRef Unit)) (ρ.registered w) := by
  obtain ⟨y, hy, hexchange, -⟩ := h.body
  obtain rfl : x = y := Option.some.inj (hx.symm.trans hy)
  obtain ⟨hnone, -⟩ := h.demanding hy hidle
  obtain ⟨active, ha, hactive, herror, hprocessing⟩ := h.active
  have hundemanded : active.demand = none := by
    have hbind : w.channel.active.bind (·.demand) = none := hnone
    rw [hactive] at hbind
    exact hbind
  let w₁ : World κ (ReadLog κ ε) :=
    { w with bodies := w.bodies.modify ρ.body.index RequestBody.demanding }
  have ha₁ : w₁.activeFor? ρ.exchange = some active := ha
  have hrun : ρ.exchange.demandContent host (.wakeBody ρ.body) w₁ =
      (ρ.stream.demand host >>= fun _ => pure (.ok ()) :
        Engine κ (ReadLog κ ε) (Except ExchangeError Unit)) (ρ.registered w) :=
    ExchangeRef.demandContent_of_processing ha₁ herror hprocessing hundemanded h.stream _
  have hsets : ρ.body.modify (fun x => { x with inFlight := true }) w = (.done (), w₁) := rfl
  unfold BodyRef.demand
  rw [hidle]
  show (ρ.body.modify (fun x => { x with inFlight := true }) >>= fun _ =>
    x.exchange.demandContent host (.wakeBody ρ.body) >>= _) w = _
  rw [Effect.bind_of_done hsets, hexchange, Effect.bind_run, hrun, ← Effect.bind_run, bind_assoc]
  rfl

/-- A body demands content, unless it has a demand on its way. -/
theorem ends_demand (hh : ρ.Feeds (fun _ m => ρ.Keeps m) host) (h : ρ.At book (ρ.view w))
    {x : RequestBody κ} (hx : w.bodies[ρ.body.index]? = some x) :
    ρ.Ends (fun demanded v => demanded = .ok () ∧ ρ.At book v) (ρ.body.demand host x w) := by
  cases hidle : x.inFlight with
  | true =>
    unfold BodyRef.demand
    rw [hidle]
    exact ⟨rfl, h⟩
  | false =>
    rw [demand_of_idle h.reading hx hidle]
    exact .bind ((h.registered hx hidle).keeps hh.demand) fun _ _ _ h' => ⟨rfl, h'⟩

/-! ## A poll -/

/-- The books after a poll, which began with these and gives this. -/
structure Polled (ρ : Reader κ) (book : Book κ) (frame : Frame) (v : View κ) : Prop where
  reading : ρ.Reading v
  polling : v.polling = true
  given : v.given = book.given
  request : v.request = book.request
  answers : book.answers <+: v.answers
  frames : Frame.ofAnswers v.answers = book.given ++ frame.yielded
  released : v.released = hooks v.answers
  finished : v.book.finished = isOver v.answers
  /-- The stream had nothing in the end, and one demand is on its way. -/
  pending : frame = .pending →
    v.wakes ρ.body = 1 ∧ ∃ more, v.answers = book.answers ++ more ++ [none]
  ends : frame = .finished → isOver v.answers = true

/-- A poll that ends with an answer gives what is to be given for it. -/
theorem Polled.of_read (hsettled : book.Settled) (hopen : Answer.isOver book.answers = false)
    {a : Answer κ} (h : ρ.At (book.read a) v) {frame : Frame}
    (hframe : frame.yielded = Frame.ofAnswers [a])
    (hpending : frame = .pending → a = none ∧ v.wakes ρ.body = 1)
    (hover : frame = .finished → Answer.isOver [a] = true) : ρ.Polled book frame v := by
  have hanswers : v.answers = book.answers ++ [a] := congrArg Book.answers h.book
  have hreleased : v.released = book.released ++ hooks [a] := congrArg Book.released h.book
  have hfinished : v.book.finished = Answer.isOver [a] := congrArg Book.finished h.book
  have hends : Answer.isOver v.answers = Answer.isOver [a] := by
    rw [hanswers, isOver_append, hopen, Bool.false_or]
  refine ⟨h.reading, h.polling, congrArg Book.given h.book, congrArg Book.request h.book, ?_, ?_,
    ?_, hfinished.trans hends.symm, fun hp => ?_, fun hf => hends.trans (hover hf)⟩
  · rw [hanswers]
    exact List.prefix_append _ _
  · rw [hanswers, Frame.ofAnswers_concat hopen, hsettled.given, hframe]
  · rw [hanswers, hreleased, hooks_append, hsettled.released]
  · obtain ⟨rfl, hwakes⟩ := hpending hp
    exact ⟨hwakes, [], by rw [hanswers, List.append_nil]⟩

/-- Nothing is read once the body is over. -/
theorem Polled.of_over (hsettled : book.Settled) (hover : Answer.isOver book.answers = true)
    (h : ρ.At book v) : ρ.Polled book .finished v := by
  have hanswers : v.answers = book.answers := congrArg Book.answers h.book
  have hreleased : v.released = book.released := congrArg Book.released h.book
  refine ⟨h.reading, h.polling, congrArg Book.given h.book, congrArg Book.request h.book,
    hanswers ▸ List.prefix_rfl, ?_, ?_, ?_, nofun, fun _ => ?_⟩
  · rw [hanswers, hsettled.given]
    exact (List.append_nil _).symm
  · rw [hanswers, hreleased, hsettled.released]
  · rw [h.book, hanswers, hsettled.finished]
  · rw [hanswers]
    exact hover

/-- A round that gave nothing is made up for by those that follow. -/
theorem Polled.of_later {a : Answer κ} {frame : Frame} (h : ρ.Polled (book.read a) frame v) :
    ρ.Polled book frame v := by
  refine { h with answers := (List.prefix_append _ _).trans h.answers, pending := fun hp => ?_ }
  obtain ⟨hwakes, more, hanswers⟩ := h.pending hp
  refine ⟨hwakes, a :: more, ?_⟩
  rw [hanswers]
  simp [Book.read]

/-- Without a hook there is nothing to give back. -/
theorem At.read {a : Answer κ} {finished : Bool}
    (h : ρ.At { book with answers := book.answers ++ [a], finished } v)
    (hhooks : hooks [a] = []) (hover : isOver [a] = finished) : ρ.At (book.read a) v := by
  unfold Book.read
  rw [hhooks, List.append_nil, hover]
  exact h

/-- The chunk that was read is given back. -/
theorem ends_giveBack (hh : ρ.Feeds (fun _ m => ρ.Keeps m) host) (hsettled : book.Settled)
    {bytes : Octets} {last : Bool} {code : κ} (hcode : ρ.hook code)
    (h : ρ.At { book with
      answers := book.answers ++ [some (.chunk bytes last (some code))], finished := last }
      (ρ.view w)) :
    ρ.Ends (fun _ v => ρ.At (book.read (some (.chunk bytes last (some code)))) v)
      (host.run code .ready w) := by
  have hkept := hsettled.kept_read (some (.chunk bytes last (some code)))
  refine (ends_release hh h hcode hkept).mono fun _ _ h₁ => ?_
  unfold Book.read
  rw [isOver_chunk]
  exact h₁

/-- Surroundings in which nothing that a poll calls is cut off. -/
structure Returns (ρ : Reader κ) (host : Host κ (ReadLog κ ε)) : Prop where
  read : ∀ w, (ρ.stream.read host w).1 ≠ .halted
  demand : ∀ w, (ρ.stream.demand host w).1 ≠ .halted
  release : ∀ code, ρ.hook code → ∀ w, (host.run code .ready w).1 ≠ .halted

theorem Returns.readContent (hreturns : ρ.Returns host) (h : ρ.Reading (ρ.view w)) :
    (ρ.exchange.readContent host w).1 ≠ .halted := by
  obtain ⟨active, ha, -, herror, hprocessing⟩ := h.active
  rw [ExchangeRef.readContent_of_processing ha herror hprocessing h.stream]
  exact hreturns.read w

theorem Returns.bodyDemand (hreturns : ρ.Returns host) (h : ρ.Reading (ρ.view w))
    {x : RequestBody κ} (hx : w.bodies[ρ.body.index]? = some x) :
    (ρ.body.demand host x w).1 ≠ .halted := by
  cases hidle : x.inFlight with
  | true =>
    unfold BodyRef.demand
    rw [hidle]
    exact nofun
  | false =>
    rw [demand_of_idle h hx hidle, Effect.bind_run]
    have hdemand := hreturns.demand (ρ.registered w)
    rcases hrun : ρ.stream.demand host (ρ.registered w) with ⟨_ | p | _, w₁⟩
    · exact nofun
    · exact nofun
    · rw [hrun] at hdemand
      exact absurd rfl hdemand

/-- What a round of a poll comes to. -/
inductive Round (ρ : Reader κ) (host : Host κ (ReadLog κ ε)) (book : Book κ) (rounds : Nat)
    (ended : Outcome Frame × World κ (ReadLog κ ε)) : Prop
  | gives (frame : Frame) : ended.1 = .done frame → ρ.Polled book frame (ρ.view ended.2) →
      Round ρ host book rounds ended
  -- an answer that gives nothing is followed by the other rounds
  | goesOn {a : Answer κ} {w : World κ (ReadLog κ ε)} : ρ.At (book.read a) (ρ.view w) →
      isOver [a] = false → Frame.ofAnswers [a] = [] →
      ended = ρ.body.pollWithin host ρ.exchange rounds w → Round ρ host book rounds ended
  | cutOff : ended.1 = .halted → ρ.Moment (ρ.view ended.2) → ¬ρ.Returns host →
      Round ρ host book rounds ended

variable {rounds : Nat}

/-- A round goes on after what it calls, or is cut off with that. -/
theorem Round.bind {Q : α → View κ → Prop} {m : Engine κ (ReadLog κ ε) α}
    {f : α → Engine κ (ReadLog κ ε) Frame} (hm : ρ.Ends Q (m w))
    (hreturns : ρ.Returns host → (m w).1 ≠ .halted)
    (hf : ∀ a w', Q a (ρ.view w') → ρ.Round host book rounds (f a w')) :
    ρ.Round host book rounds ((m >>= f) w) := by
  rw [Effect.bind_run]
  rcases hrun : m w with ⟨a | p | _, w'⟩
  · rw [hrun] at hm
    exact hf a w' hm
  · rw [hrun] at hm
    exact hm.elim
  · rw [hrun] at hm hreturns
    exact .cutOff rfl hm fun hnever => hreturns hnever rfl

/-- A chunk was read and given back: its bytes are given, or the poll goes on behind it. -/
theorem round_chunk (hsettled : book.Settled) (hopen : isOver book.answers = false) (bytes : Octets)
    (last : Bool) (release : Option κ)
    (h : ρ.At (book.read (some (.chunk bytes last release))) (ρ.view w)) :
    ρ.Round host book rounds
      ((if (!bytes.isEmpty) = true then pure (.data bytes)
        else if last = true then pure .finished
        else ρ.body.pollWithin host ρ.exchange rounds : Engine κ (ReadLog κ ε) Frame) w) := by
  have hchunk := Frame.ofAnswers_chunk bytes last release
  cases hbytes : bytes.isEmpty with
  | false =>
    rw [hbytes] at hchunk
    exact .gives (.data bytes) rfl (.of_read hsettled hopen h hchunk.symm nofun nofun)
  | true =>
    rw [hbytes] at hchunk
    cases last with
    | true => exact .gives .finished rfl (.of_read hsettled hopen h hchunk.symm nofun fun _ => rfl)
    | false => exact .goesOn h rfl hchunk rfl

/-- One round of a poll. -/
theorem round_pollWithin (hh : ρ.Feeds (fun _ m => ρ.Keeps m) host) (rounds : Nat)
    (h : ρ.At book (ρ.view w)) (hsettled : book.Settled) (hopen : isOver book.answers = false) :
    ρ.Round host book rounds (ρ.body.pollWithin host ρ.exchange (rounds + 1) w) := by
  refine .bind (ends_readContent hh h) (·.readContent h.reading) fun a w₁ ⟨h₁, hhooks⟩ => ?_
  have hfinish : ∀ finished, ρ.At { book with answers := book.answers ++ [a], finished }
      (ρ.view (ρ.body.modify (fun x => { x with finished }) w₁).2) := by
    intro finished
    show ρ.At _ (ρ.view { w₁ with bodies := w₁.bodies.modify ρ.body.index _ })
    rw [view_modifyBody]
    exact h₁.finish finished
  match a with
  | some (.trailers fields) =>
    have h₂ := (hfinish true).read rfl rfl
    exact .gives (.trailers fields) rfl (.of_read hsettled hopen h₂ rfl nofun nofun)
  | some (.error failure) =>
    have h₂ := (hfinish true).read rfl rfl
    exact .gives (.failed failure) rfl (.of_read hsettled hopen h₂ rfl nofun nofun)
  | some (.chunk bytes last none) =>
    exact round_chunk hsettled hopen bytes last none ((hfinish last).read rfl (isOver_chunk ..))
  | some (.chunk bytes last (some code)) =>
    have hcode : ρ.hook code := hhooks code List.mem_cons_self
    have hgiven := ends_giveBack hh hsettled hcode (hfinish last)
    show ρ.Round host book rounds ((host.run code .ready >>= _) (ρ.body.modify _ w₁).2)
    refine .bind hgiven (·.release code hcode _) fun _ w₂ h₂ => ?_
    exact round_chunk hsettled hopen bytes last (some code) h₂
  | none =>
    obtain ⟨x, hx, -⟩ := h₁.reading.body
    have hfound : w₁.bodies[ρ.body.index]? = some x := hx
    show ρ.Round host book rounds ((ρ.body.get? >>= _) w₁)
    rw [Effect.bind_of_done (show ρ.body.get? w₁ = (.done (some x), w₁) from
      congrArg (fun found => (Outcome.done found, w₁)) hfound)]
    refine .bind (ends_demand hh h₁ hfound) (·.bodyDemand h₁.reading hfound) ?_
    rintro _ w₂ ⟨rfl, h₂⟩
    -- the demand may have been answered while it was made
    have hread := h₂.read rfl (hsettled.finished.trans hopen).symm
    have hwakes := h₂.reading.wakes
    show ρ.Round host book rounds ((if (ρ.view w₂).inFlight = true then pure .pending
      else ρ.body.pollWithin host ρ.exchange rounds : Engine κ (ReadLog κ ε) Frame) w₂)
    cases hflight : (ρ.view w₂).inFlight with
    | false => exact .goesOn hread rfl rfl rfl
    | true =>
      rw [hflight] at hwakes
      exact .gives .pending rfl
        (.of_read hsettled hopen hread rfl (fun _ => ⟨rfl, hwakes⟩) nofun)

/-- A poll reads until there is something to give. -/
theorem ends_pollWithin (hh : ρ.Feeds (fun _ m => ρ.Keeps m) host) (rounds : Nat)
    (h : ρ.At book (ρ.view w)) (hsettled : book.Settled) (hopen : isOver book.answers = false) :
    ρ.Ends (fun frame v => ρ.Polled book frame v)
      (ρ.body.pollWithin host ρ.exchange rounds w) := by
  induction rounds generalizing w book with
  | zero => exact h.reading.moment
  | succ rounds ih =>
    unfold Ends
    cases round_pollWithin hh rounds h hsettled hopen with
    | gives frame hdone hpolled =>
      rw [hdone]
      exact hpolled
    | goesOn h₁ hover hnothing hended =>
      have hsettled₁ := hsettled.read hopen hnothing
      rw [hended]
      exact (ih h₁ hsettled₁ (Book.isOver_read hopen hover)).mono fun _ _ => Polled.of_later
    | cutOff hhalted hmoment _ =>
      rw [hhalted]
      exact hmoment

/-- A poll that runs out of rounds has read an answer in each, and none gave anything. -/
theorem exhausted_pollWithin (hh : ρ.Feeds (fun _ m => ρ.Keeps m) host)
    (hreturns : ρ.Returns host) (rounds : Nat) (h : ρ.At book (ρ.view w)) (hsettled : book.Settled)
    (hopen : isOver book.answers = false)
    (hhalted : (ρ.body.pollWithin host ρ.exchange rounds w).1 = .halted) :
    ∃ more, (ρ.body.pollWithin host ρ.exchange rounds w).2.outside.answers = book.answers ++ more ∧
      more.length = rounds ∧ Frame.ofAnswers more = [] := by
  induction rounds generalizing w book with
  | zero =>
    have hanswers : w.outside.answers = book.answers := congrArg Book.answers h.book
    exact ⟨[], hanswers.trans (List.append_nil _).symm, rfl, rfl⟩
  | succ rounds ih =>
    cases round_pollWithin hh rounds h hsettled hopen with
    | gives frame hdone _ => cases hdone.symm.trans hhalted
    | @goesOn a _ h₁ hover hnothing hended =>
      have hsettled₁ := hsettled.read hopen hnothing
      rw [hended] at hhalted ⊢
      obtain ⟨more, hanswers, hlength, hmore⟩ :=
        ih h₁ hsettled₁ (Book.isOver_read hopen hover) hhalted
      refine ⟨a :: more, ?_, congrArg (· + 1) hlength, ?_⟩
      · rw [hanswers]
        exact List.append_assoc book.answers [a] more
      · have hsplit := Frame.ofAnswers_append [a] more
        rw [hnothing, hover, hmore] at hsplit
        exact hsplit
    | cutOff _ _ hnever => exact absurd hreturns hnever

/-- A body that is over is not read. -/
theorem At.poll_of_over (h : ρ.At book (ρ.view w)) (hsettled : book.Settled)
    (hover : isOver book.answers = true) (waker : κ) :
    ρ.body.poll host waker w = (.done .finished, w) := by
  refine ρ.body.poll_of_finished ?_ host waker
  show (ρ.view w).book.finished = true
  rw [h.book, hsettled.finished, hover]

/-- Otherwise the waker is kept, and the stream is read. -/
theorem At.poll_of_open (h : ρ.At book (ρ.view w)) (hsettled : book.Settled)
    (hopen : isOver book.answers = false) (host : Host κ (ReadLog κ ε)) {waker : κ}
    (hwaker : ¬ρ.hook waker) :
    ∃ w₁, ρ.At book (ρ.view w₁) ∧
      ρ.body.poll host waker w = ρ.body.pollWithin host ρ.exchange host.patience w₁ := by
  obtain ⟨x, hx, hexchange, -⟩ := h.reading.body
  have hfound : w.bodies[ρ.body.index]? = some x := hx
  have hfinished : x.finished = false := by
    have hbook : (ρ.view w).book.finished = false := by
      rw [h.book, hsettled.finished, hopen]
    rw [← hbook]
    show x.finished = (w.bodies[ρ.body.index]?).any (·.finished)
    rw [hfound]
    rfl
  let w₁ := (ρ.body.modify (fun x => { x with waker := some waker }) w).2
  have hview : ρ.view w₁ = { ρ.view w with body := some { x with waker := some waker } } := by
    refine (view_modifyBody w _).trans ?_
    rw [hx]
    rfl
  refine ⟨w₁, ?_, ?_⟩
  · rw [hview]
    have hbook := (ρ.view w).book_modifyBody (y := { x with waker := some waker }) hx rfl
    refine ⟨?_, h.polling, hbook.trans h.book⟩
    refine h.reading.beside rfl rfl h.reading.demand h.reading.tasks ⟨_, rfl, hexchange, ?_⟩ ?_
      rfl hbook
    · rintro _ ⟨⟩
      exact hwaker
    · refine h.reading.wakes.trans ?_
      rw [View.inFlight, hx]
      rfl
  · rw [← hexchange]
    simp only [BodyRef.poll, BodyRef.get?, Effect.bind_run, Effect.gets, hfound, hfinished,
      Bool.false_eq_true, if_false]
    rfl

/-- Polling a body that somebody was given. -/
theorem ends_poll (hh : ρ.Feeds (fun _ m => ρ.Keeps m) host) (h : ρ.At book (ρ.view w))
    (hsettled : book.Settled) {waker : κ} (hwaker : ¬ρ.hook waker) :
    ρ.Ends (fun frame v => ρ.Polled book frame v) (ρ.body.poll host waker w) := by
  cases hover : isOver book.answers with
  | true =>
    rw [h.poll_of_over hsettled hover]
    exact .of_over hsettled hover h
  | false =>
    obtain ⟨w₁, h₁, hpoll⟩ := h.poll_of_open hsettled hover host hwaker
    rw [hpoll]
    exact ends_pollWithin hh host.patience h₁ hsettled hover

/-- A poll that does not come back has read as many answers as there is patience for. -/
theorem exhausted_poll (hh : ρ.Feeds (fun _ m => ρ.Keeps m) host) (hreturns : ρ.Returns host)
    (h : ρ.At book (ρ.view w)) (hsettled : book.Settled) {waker : κ} (hwaker : ¬ρ.hook waker)
    (hhalted : (ρ.body.poll host waker w).1 = .halted) :
    ∃ more, (ρ.body.poll host waker w).2.outside.answers = book.answers ++ more ∧
      more.length = host.patience ∧ Frame.ofAnswers more = [] := by
  cases hover : isOver book.answers with
  | true =>
    rw [h.poll_of_over hsettled hover] at hhalted
    cases hhalted
  | false =>
    obtain ⟨w₁, h₁, hpoll⟩ := h.poll_of_open hsettled hover host hwaker
    rw [hpoll] at hhalted ⊢
    exact exhausted_pollWithin hh hreturns host.patience h₁ hsettled hover hhalted

/-- Polls the body and writes down what that gives, unless somebody else polls it. -/
def take (ρ : Reader κ) (host : Host κ (ReadLog κ ε)) (waker : κ) :
    Engine κ (ReadLog κ ε) (Option Frame) := do
  if ← Effect.gets fun w => w.outside.polling then return none
  ReadLog.lend
  let frame ← ρ.body.poll host waker
  ReadLog.giveBack frame
  return some frame

/-- What a poll does that nobody else is in the way of. -/
structure Taken (ρ : Reader κ) (v : View κ) (frame : Frame) (v' : View κ) : Prop where
  reading : ρ.Reading v'
  onward : v.Onward v'
  given : v'.given = v.given ++ frame.yielded
  pending : frame = .pending →
    v'.wakes ρ.body = 1 ∧ ∃ more, v'.answers = v.answers ++ more ++ [none]
  finished : frame = .finished → v'.book.finished = true

/-- A body that nobody polls is lent for a poll, and is given back after it. -/
theorem take_of_free (hfree : w.outside.polling = false) (waker : κ) :
    ρ.take host waker w = (ρ.body.poll host waker >>= fun frame =>
      ReadLog.giveBack frame >>= fun _ => pure (some frame)) (ReadLog.lend w).2 := by
  simp only [take, Effect.bind_run, Effect.gets, hfree]
  rfl

theorem Reading.lent (h : ρ.Reading (ρ.view w)) :
    ρ.At (ρ.view w).book (ρ.view (ReadLog.lend w).2) := ⟨h.written h.kept nofun, rfl, rfl⟩

theorem ends_take (hh : ρ.Feeds (fun _ m => ρ.Keeps m) host) (hw : ρ.Reading (ρ.view w))
    (hfree : w.outside.polling = false) {waker : κ} (hwaker : ¬ρ.hook waker) :
    ρ.Ends (fun taken v => ∃ frame, taken = some frame ∧ ρ.Taken (ρ.view w) frame v)
      (ρ.take host waker w) := by
  have hsettled : (ρ.view w).book.Settled := hw.settled hfree
  rw [take_of_free hfree]
  refine .bind (ends_poll hh hw.lent hsettled hwaker) fun frame w₂ _ h => ⟨frame, rfl, ?_⟩
  have hafter : (ρ.view (ReadLog.giveBack frame w₂).2).book.Settled := by
    refine ⟨?_, h.released, h.finished⟩
    show (ρ.view w₂).given ++ frame.yielded = Frame.ofAnswers (ρ.view w₂).answers
    rw [h.frames, h.given]
  refine ⟨h.reading.written hafter.kept fun _ => hafter,
    ⟨hfree.symm, h.request, h.answers, fun hpolling => ?_⟩, ?_, h.pending, fun hf => ?_⟩
  · cases hfree.symm.trans hpolling
  · exact congrArg (· ++ frame.yielded) h.given
  · exact h.finished.trans (h.ends hf)

/-- A poll comes back, or it has read as many answers as there is patience for, and none of them
gave anything. -/
theorem take_returns (hh : ρ.Feeds (fun _ m => ρ.Keeps m) host) (hreturns : ρ.Returns host)
    (hw : ρ.Reading (ρ.view w)) (hfree : w.outside.polling = false) {waker : κ}
    (hwaker : ¬ρ.hook waker) :
    (∃ frame, (ρ.take host waker w).1 = .done (some frame)) ∨
      ∃ more, (ρ.take host waker w).2.outside.answers = w.outside.answers ++ more ∧
        more.length = host.patience ∧ Frame.ofAnswers more = [] := by
  have hsettled : (ρ.view w).book.Settled := hw.settled hfree
  have hends := ends_poll hh hw.lent hsettled hwaker
  have hpoll := exhausted_poll hh hreturns hw.lent hsettled hwaker
  rw [take_of_free hfree, Effect.bind_run]
  rcases hrun : ρ.body.poll host waker (ReadLog.lend w).2 with ⟨frame | p | _, w'⟩
  · exact .inl ⟨frame, rfl⟩
  · rw [hrun] at hends
    exact hends.elim
  · rw [hrun] at hpoll
    exact .inr (hpoll rfl)

theorem keeps_take (hh : ρ.Feeds (fun _ m => ρ.Keeps m) host) {waker : κ}
    (hwaker : ¬ρ.hook waker) : ρ.Keeps (ρ.take host waker) := by
  intro w hw
  cases hpolling : w.outside.polling with
  | true =>
    have hbusy : ρ.take host waker w = (.done none, w) := by
      simp only [take, Effect.bind_run, Effect.gets, hpolling]
      rfl
    rw [hbusy]
    exact ⟨hw, .refl _⟩
  | false =>
    refine (ends_take hh hw hpolling hwaker).mono ?_
    rintro _ _ ⟨_, -, htaken⟩
    exact ⟨htaken.reading, htaken.onward⟩

/-! ## Runs -/

/-- What goes on while a body is read, with the help of hosts of the kind `H`: it is polled, content
is announced, the queue is worked off, and whatever else is done is not seen by the reader. -/
inductive Reads (ρ : Reader κ) (H : Host κ (ReadLog κ ε) → Prop) :
    (α : Type) → Engine κ (ReadLog κ ε) α → Prop
  | bind {α β : Type} {m : Engine κ (ReadLog κ ε) α} {f : α → Engine κ (ReadLog κ ε) β} :
      Reads ρ H α m → (∀ a, Reads ρ H β (f a)) → Reads ρ H β (m >>= f)
  | aside {α : Type} {m : Engine κ (ReadLog κ ε) α} :
      (∀ w, ρ.Reading (ρ.view w) → ρ.view (m w).2 = ρ.view w ∧ ∀ p, (m w).1 ≠ .panicked p) →
      Reads ρ H α m
  | contentAvailable : Reads ρ H (Option (Task κ)) Channel.onContentAvailable
  | drain {host : Host κ (ReadLog κ ε)} : H host → Reads ρ H Unit (Queue.drain host .channel)
  | enqueue {host : Host κ (ReadLog κ ε)} (name : String) {code : κ} (signal : Signal) :
      H host → ¬ρ.hook code →
      Reads ρ H Unit (Engine.runQueued host name (.code code signal))
  | take {host : Host κ (ReadLog κ ε)} {waker : κ} : H host → ¬ρ.hook waker →
      Reads ρ H (Option Frame) (ρ.take host waker)

theorem Reads.keeps {H : Host κ (ReadLog κ ε) → Prop} (hH : ∀ host, H host → ρ.Serves host)
    {m : Engine κ (ReadLog κ ε) α} (h : ρ.Reads H α m) : ρ.Keeps m := by
  induction h with
  | bind _ _ ihm ihf => exact .bind ihm ihf
  | aside hunseen => exact .aside hunseen
  | contentAvailable => exact keeps_onContentAvailable
  | drain hh => exact keeps_drain (hH _ hh)
  | enqueue name signal hh hcode => exact keeps_runQueued (hH _ hh) name hcode signal
  | take hh hwaker => exact keeps_take (hH _ hh).feeds hwaker

theorem Feeds.mono {P P' : (α : Type) → Engine κ (ReadLog κ ε) α → Prop} (h : ρ.Feeds P host)
    (hP : ∀ (α : Type) (m : Engine κ (ReadLog κ ε) α), P α m → P' α m) : ρ.Feeds P' host where
  read := by
    obtain ⟨answer, hanswer, hhooks, hread⟩ := h.read
    exact ⟨answer, hP _ _ hanswer, hhooks, hread⟩
  demand := hP _ _ h.demand
  run code signal hcode := hP _ _ (h.run code signal hcode)
  release code hcode := by
    obtain ⟨rest, hrest, hrun⟩ := h.release code hcode
    exact ⟨rest, hP _ _ hrest, hrun⟩

/-- Surroundings that feed a body and whose calls nest at most so many levels deep. Below the last
level everything is cut off. -/
def Feeders (ρ : Reader κ) : Nat → Host κ (ReadLog κ ε) → Prop
  | 0, host => ρ.Feeds (ρ.Reads fun _ => False) host ∧ ∀ job, host.perform job = Effect.halt
  | depth + 1, host =>
    ρ.Feeds (ρ.Reads (ρ.Feeders depth)) host ∧
    ∃ inner, ρ.Feeders depth inner ∧ ∀ job, host.perform job = job.perform inner

theorem Feeders.serves {depth : Nat} {host : Host κ (ReadLog κ ε)} (h : ρ.Feeders depth host) :
    ρ.Serves host := by
  -- a host of the next depth is made of what goes on with the hosts below it
  induction depth generalizing host with
  | zero =>
    obtain ⟨hfeeds, hperform⟩ := h
    exact ⟨hfeeds.mono fun _ _ hm => hm.keeps fun _ hnone => hnone.elim, .inl hperform⟩
  | succ depth ih =>
    obtain ⟨hfeeds, inner, hinner, hperform⟩ := h
    refine ⟨hfeeds.mono fun _ _ hm => hm.keeps fun _ hh => ih hh, .inr ⟨inner, ?_, hperform⟩⟩
    exact (ih hinner).feeds

/-- A body that was just made for an exchange that is processing and did not fail. Nobody demands
content, and no task in the queue gives a buffer back. -/
structure Opened (ρ : Reader κ) (w : World κ (ReadLog κ ε)) : Prop where
  stream : w.channel.stream = some ρ.stream
  active : ∃ a, w.activeFor? ρ.exchange = some a ∧ a.processing = true ∧ a.error = none ∧
    a.demand = none
  tasks : ∀ task ∈ w.channelQueue.tasks, ∃ code signal, task.job = .code code signal ∧ ¬ρ.hook code
  body : w.bodies[ρ.body.index]? = some ⟨ρ.exchange, none, false, false⟩
  log : ∃ own, w.outside = ⟨[], [], [], false, own⟩

theorem Opened.reading (h : ρ.Opened w) : ρ.Reading (ρ.view w) := by
  obtain ⟨a, ha, hprocessing, herror, hdemand⟩ := h.active
  obtain ⟨hactive, hexchange⟩ := (World.activeFor?_eq_some w).1 ha
  obtain ⟨own, hlog⟩ := h.log
  have hnone : w.channel.active.bind (·.demand) = none := by
    rw [hactive]
    exact hdemand
  have hsettled : (ρ.view w).book.Settled := by
    refine ⟨?_, ?_, ?_⟩
    · show w.outside.given = Frame.ofAnswers w.outside.answers
      rw [hlog]
      rfl
    · show w.outside.released = hooks w.outside.answers
      rw [hlog]
      rfl
    · show (w.bodies[ρ.body.index]?).any (·.finished) = isOver w.outside.answers
      rw [hlog, h.body]
      rfl
  refine ⟨h.stream, ?_, ?_, fun task htask => .inr (h.tasks task htask), ⟨_, h.body, rfl, nofun⟩,
    ?_, hsettled.kept, fun _ => hsettled⟩
  · show w.channel.active.map _ = _
    rw [hactive, Option.map_some, hexchange, hprocessing, herror]
  · show ∀ job ∈ w.channel.active.bind (·.demand), _
    rw [hnone]
    exact nofun
  · have hflight : (ρ.view w).inFlight = false := by
      show (w.bodies[ρ.body.index]?).any (·.inFlight) = false
      rw [h.body]
      rfl
    rw [hflight]
    show ((w.channel.active.bind (·.demand)).toList ++
      w.channelQueue.tasks.map (·.job)).countP _ = 0
    rw [hnone, Option.toList_none, List.nil_append, List.countP_eq_zero]
    intro job hjob hwakes
    obtain ⟨task, htask, rfl⟩ := List.mem_map.1 hjob
    obtain ⟨code, signal, hcode, -⟩ := h.tasks task htask
    rw [hcode] at hwakes
    cases hwakes

/-- When a run has come back nobody polls the body, and the books are settled. -/
theorem Reads.settled (hw : ρ.Opened w) {m : Engine κ (ReadLog κ ε) α}
    (hm : ρ.Reads (fun host => ∃ depth, ρ.Feeders depth host) α m) {a : α}
    (hrun : m w = (.done a, w₁)) :
    ρ.Reading (ρ.view w₁) ∧ (ρ.view w).Onward (ρ.view w₁) ∧ w₁.outside.polling = false ∧
      (ρ.view w₁).book.Settled := by
  obtain ⟨own, hlog⟩ := hw.log
  have hends := hm.keeps (fun _ ⟨_, hh⟩ => hh.serves) w hw.reading
  rw [hrun] at hends
  obtain ⟨hreading, honward⟩ := hends
  have hfree : w₁.outside.polling = false := by
    refine honward.polling.trans ?_
    show w.outside.polling = false
    rw [hlog]
  exact ⟨hreading, honward, hfree, hreading.settled hfree⟩

/-- A new body of an exchange that is processing is opened. -/
theorem opened_new {w : World κ (ReadLog κ ε)} {e : ExchangeRef} {stream : Stream} {hook : κ → Prop}
    {a : Active κ} (hstream : w.channel.stream = some stream) (ha : w.activeFor? e = some a)
    (hprocessing : a.processing = true) (herror : a.error = none) (hdemand : a.demand = none)
    (htasks : ∀ task ∈ w.channelQueue.tasks,
      ∃ code signal, task.job = .code code signal ∧ ¬hook code)
    (hlog : ∃ own, w.outside = ⟨[], [], [], false, own⟩) :
    (Reader.mk ⟨w.bodies.size⟩ e stream hook).Opened (BodyRef.new e w).2 :=
  ⟨hstream, ⟨a, ha, hprocessing, herror, hdemand⟩, htasks, Array.getElem?_push_size, hlog⟩

end Reader

/-- **A polled request body gives the content.** Let a body be made for an exchange that is
processing. Then whatever the stream answers, as long as the exchange does not fail and nobody else
demands content, and however polls, news of content and the queue are interleaved:

At any time, what polls gave is a beginning of what is to be given for the answers, whatever answers
follow; the hooks of the chunks behind it were run, no hook was run twice, and at most one demand is
on its way. When nobody polls, the polls gave exactly what is to be given for the answers, and every
hook was run. Once the body is finished no further answer counts, and a poll finds that out without
reading.

What the next poll gives comes behind all that. It has nothing to give only if the stream had
nothing, with one demand on its way. If nothing that it calls is cut off, it comes back, unless the
stream gives as many answers in a row as there is patience for with which nothing can be given. -/
theorem body_gives_content {ρ : Reader κ} {w : World κ (ReadLog κ ε)} (hw : ρ.Opened w)
    {m : Engine κ (ReadLog κ ε) α}
    (hm : ρ.Reads (fun host => ∃ depth, ρ.Feeders depth host) α m) :
    let w' := (m w).2
    let log := w'.outside
    ρ.Moment (ρ.view w') ∧
    (∀ later, log.given <+: Frame.ofAnswers (log.answers ++ later)) ∧
    (∀ p, (m w).1 ≠ .panicked p) ∧
    ∀ a, (m w).1 = .done a →
      log.given = Frame.ofAnswers log.answers ∧ log.released = hooks log.answers ∧
      ((ρ.body.isFinished w').1 = .done true →
        (∀ later, log.given = Frame.ofAnswers (log.answers ++ later)) ∧
        ∀ (host : Host κ (ReadLog κ ε)) (waker : κ),
          ρ.body.poll host waker w' = (.done .finished, w')) ∧
      ∀ (host : Host κ (ReadLog κ ε)) (waker : κ), (∃ depth, ρ.Feeders depth host) →
        ¬ρ.hook waker →
        let w'' := (ρ.take host waker w').2
        (∀ frame, (ρ.take host waker w').1 = .done (some frame) →
          w''.outside.given = log.given ++ frame.yielded ∧
          (frame = .pending → (ρ.view w'').wakes ρ.body = 1 ∧
            ∃ more, w''.outside.answers = log.answers ++ more ++ [none]) ∧
          (frame = .finished → (ρ.body.isFinished w'').1 = .done true)) ∧
        (ρ.Returns host → (∃ frame, (ρ.take host waker w').1 = .done (some frame)) ∨
          ∃ more, w''.outside.answers = log.answers ++ more ∧ more.length = host.patience ∧
            Frame.ofAnswers more = []) := by
  have hends := hm.keeps (fun _ ⟨_, hh⟩ => hh.serves) w hw.reading
  rcases hrun : m w with ⟨a | p | _, w'⟩
  · obtain ⟨hreading, -, hfree, hsettled⟩ := hm.settled hw hrun
    refine ⟨hreading.moment, hreading.kept.given_prefix, nofun, fun _ _ => ?_⟩
    refine ⟨hsettled.given, hsettled.released, fun hfinished => ?_, ?_⟩
    · have hbook : (ρ.view w').book.finished = true := Outcome.done.inj hfinished
      have hover := hsettled.finished.symm.trans hbook
      refine ⟨fun later => ?_, fun host waker => ρ.body.poll_of_finished hbook host waker⟩
      exact hsettled.given.trans (Frame.ofAnswers_append_of_isOver hover later).symm
    · intro host waker ⟨depth, hh⟩ hwaker
      have htaken := Reader.ends_take hh.serves.feeds hreading hfree hwaker
      refine ⟨fun frame htake => ?_, fun hreturns => ?_⟩
      · unfold Reader.Ends at htaken
        rw [htake] at htaken
        obtain ⟨_, ⟨⟩, htaken⟩ := htaken
        exact ⟨htaken.given, htaken.pending, fun hf => congrArg Outcome.done (htaken.finished hf)⟩
      · exact Reader.take_returns hh.serves.feeds hreturns hreading hfree hwaker
  · rw [hrun] at hends
    exact hends.elim
  · rw [hrun] at hends
    exact ⟨hends, hends.kept.given_prefix, nofun, nofun⟩

/-! ## A run -/

/-- What a stream of a script answers: nothing, or a chunk whose hook is twice its length. -/
def scriptedAnswer (item : Option (Octets × Bool)) : Answer Nat :=
  item.map fun (bytes, last) => .chunk bytes last (some (2 * bytes.length))

/-- The next answer of the script; after its end there is nothing. -/
def nextAnswer : Engine Nat (ReadLog Nat (List (Option (Octets × Bool)))) (Answer Nat) :=
  .modifyGet fun w =>
    (scriptedAnswer w.outside.own.head?.join,
      { w with outside := { w.outside with own := w.outside.own.tail } })

/-- Surroundings with a stream that answers as scripted. Even codes give buffers back. -/
def Host.scriptedWith
    (perform : Job Nat → Engine Nat (ReadLog Nat (List (Option (Octets × Bool)))) Unit) :
    Host Nat (ReadLog Nat (List (Option (Octets × Bool)))) :=
  let idle := Host.idleWith perform
  { idle with
    run := fun code _ => if code % 2 = 0 then ReadLog.release code else pure ()
    transport := { idle.transport with
      read := fun _ => do
        let a ← nextAnswer
        ReadLog.answer a
        return a } }

def Host.scripted : Nat → Host Nat (ReadLog Nat (List (Option (Octets × Bool))))
  | 0 => .scriptedWith fun _ => Effect.halt
  | depth + 1 => .scriptedWith fun job => job.perform (Host.scripted depth)

/-- The reader of a stream of the transport. -/
def Reader.scripted : Reader Nat := ⟨⟨0⟩, ⟨0⟩, .transport ⟨0⟩, fun code => code % 2 = 0⟩

theorem Reader.feeders_scripted (depth : Nat) :
    Reader.scripted.Feeders depth (Host.scripted depth) := by
  have hfeeds : ∀ H perform, Reader.scripted.Feeds (Reader.scripted.Reads H)
      (Host.scriptedWith perform) := by
    intro H perform
    have hpure : Reader.scripted.Reads H Unit (pure ()) := .aside fun _ _ => ⟨rfl, nofun⟩
    refine ⟨⟨nextAnswer, .aside fun _ _ => ⟨rfl, nofun⟩, ?_, rfl⟩, hpure,
      fun code signal hcode => ?_, fun code hcode => ⟨pure (), hpure, ?_⟩⟩
    · rintro w a w' ⟨⟩ code hcode
      cases hitem : w.outside.own.head?.join with
      | none =>
        rw [hitem] at hcode
        cases hcode
      | some item =>
        rw [hitem] at hcode
        obtain rfl := List.mem_singleton.1 hcode
        exact Nat.mul_mod_right 2 _
    · have hrun : (Host.scriptedWith perform).run code signal = pure () := if_neg hcode
      rw [hrun]
      exact hpure
    · exact if_pos hcode
  induction depth with
  | zero => exact ⟨hfeeds _ _, fun _ => rfl⟩
  | succ depth ih => exact ⟨hfeeds _ _, _, ih, fun _ => rfl⟩

/-- A request is handled, over a stream with this script. -/
def World.requested (request : RequestHead) (script : List (Option (Octets × Bool))) :
    World Nat (ReadLog Nat (List (Option (Octets × Bool)))) :=
  ((do
    let _ ← Channel.setStream (.transport ⟨0⟩)
    let _ ← Channel.onRequest (Host.scripted 2) request
    Job.perform (Host.scripted 2) (.dispatch ⟨0⟩) :
      Engine Nat (ReadLog Nat (List (Option (Octets × Bool)))) Unit)
    (.start (.fresh "" .http11 {} true) ⟨[], [], [], false, script⟩)).2

/-- The same with a body that is made for the request. -/
def World.scripted (request : RequestHead) (script : List (Option (Octets × Bool))) :
    World Nat (ReadLog Nat (List (Option (Octets × Bool)))) :=
  (BodyRef.new ⟨0⟩ (.requested request script)).2

/-- Two chunks that are not empty, and an empty one; there is nothing before and between them. -/
def twoChunks : List (Option (Octets × Bool)) :=
  [none, some ([], false), some ([104, 105], false), none, some ([33], true)]

/-- The body is polled, and content is announced when it had nothing. -/
def pollScripted : Engine Nat (ReadLog Nat (List (Option (Octets × Bool)))) Unit := do
  let _ ← Reader.scripted.take (Host.scripted 2) 7
  let _ ← Channel.onContentAvailable
  Queue.drain (Host.scripted 2) .channel
  let _ ← Reader.scripted.take (Host.scripted 2) 7
  let _ ← Reader.scripted.take (Host.scripted 2) 9
  let _ ← Reader.scripted.take (Host.scripted 2) 9
  let _ ← Channel.onContentAvailable
  Queue.drain (Host.scripted 2) .channel

theorem Reader.opened_twoChunks : Reader.scripted.Opened (.scripted .bare twoChunks) := by
  refine opened_new (w := .requested .bare twoChunks) rfl rfl rfl rfl rfl ?_ ⟨_, rfl⟩
  have htasks : (World.requested .bare twoChunks).channelQueue.tasks = [] := rfl
  rw [htasks]
  exact nofun

/-- Two chunks are polled while content is announced twice. Their hooks and that of the empty chunk
were run, and the body is finished. -/
theorem body_gives_content_twoChunks :
    let w' := (pollScripted (.scripted .bare twoChunks)).2
    w'.outside.given = [.data [104, 105], .data [33]] ∧ w'.outside.released = [0, 4, 2] ∧
      w'.outside.given = Frame.ofAnswers w'.outside.answers ∧
      ∀ (host : Host Nat (ReadLog Nat (List (Option (Octets × Bool))))) (waker : Nat),
        BodyRef.poll host ⟨0⟩ waker w' = (.done .finished, w') := by
  have hhost : ∃ depth, Reader.scripted.Feeders depth (Host.scripted 2) :=
    ⟨2, Reader.feeders_scripted 2⟩
  have hseven : ¬Reader.scripted.hook 7 := show ¬7 % 2 = 0 by decide
  have hnine : ¬Reader.scripted.hook 9 := show ¬9 % 2 = 0 by decide
  have hpolls : Reader.scripted.Reads (fun host => ∃ depth, Reader.scripted.Feeders depth host) Unit
      pollScripted :=
    .bind (.take hhost hseven) fun _ => .bind .contentAvailable fun _ =>
    .bind (.drain hhost) fun _ => .bind (.take hhost hseven) fun _ =>
    .bind (.take hhost hnine) fun _ => .bind (.take hhost hnine) fun _ =>
    .bind .contentAvailable fun _ => .drain hhost
  have hgiven : (pollScripted (.scripted .bare twoChunks)).2.outside.given =
      [.data [104, 105], .data [33]] := by decide +kernel
  have hreleased : (pollScripted (.scripted .bare twoChunks)).2.outside.released =
      [0, 4, 2] := by decide +kernel
  have hdone : (pollScripted (.scripted .bare twoChunks)).1 = .done () := by decide +kernel
  have hfinished : (BodyRef.isFinished ⟨0⟩ (pollScripted (.scripted .bare twoChunks)).2).1 =
      .done true := by decide +kernel
  obtain ⟨-, -, -, hback⟩ := body_gives_content Reader.opened_twoChunks hpolls
  obtain ⟨hall, -, hover, -⟩ := hback () hdone
  exact ⟨hgiven, hreleased, hall, (hover hfinished).2⟩

end HttpExchange
