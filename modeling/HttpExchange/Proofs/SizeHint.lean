import HttpExchange.Proofs.BodyFrames

/-!
# The size hint of a request body

A body hints at its size with the length that the request declares. The main statement is
`size_hint_exceeds_rest`: the hint does not change while the body is read, so it is the number of
bytes that are still to come only as long as none was given. From then on it is too large, by the
bytes that were given; a body that gave everything still hints at all of it.

What is still to come is no part of the state. It is told from the answers of the stream: those that
were read, which are written down, and those that follow, which are taken to be any that add up to the
declared length. What the polls gave of them is known from `Proofs.BodyFrames` at any time between
polls, so the rest is a difference of two numbers, and no polls have to be followed here.
-/

namespace HttpExchange

variable {κ ε α : Type}

namespace Frame

/-- The number of body bytes in a frame. -/
def size : Frame → Nat
  | data bytes => bytes.length
  | pending | finished | trailers _ | failed _ => 0

/-- The number of body bytes in a sequence of frames. -/
def payload : List Frame → Nat
  | [] => 0
  | frame :: rest => frame.size + payload rest

theorem payload_append (frames later : List Frame) :
    payload (frames ++ later) = payload frames + payload later := by
  induction frames with
  | nil => exact (Nat.zero_add _).symm
  | cons frame rest ih =>
    show frame.size + payload (rest ++ later) = frame.size + payload rest + payload later
    rw [ih, Nat.add_assoc]

end Frame

/-- With a declared length, the hint is that length. -/
theorem BodyRef.sizeHint_of_declared {w : World κ ε} {b : BodyRef} {x : RequestBody κ}
    (hbody : w.bodies[b.index]? = some x) {length : Nat}
    (hlength : (w.exchange x.exchange).request.contentLength? = some length) :
    b.sizeHint w = (.done (length, some length), w) := by
  simp only [sizeHint, Effect.gets, hbody, Option.bind_some, hlength]

/-- **The size hint exceeds what remains.** Let the request of a body declare a length, and let the
stream deliver exactly so many body bytes, with the answers that were read and those that follow. At
any time between polls the hint is the declared length. What remains is what the polls did not give
yet, so the hint is exact as long as no byte was given, and too large from then on. A finished body
has nothing left, whatever it hints at. -/
theorem size_hint_exceeds_rest {ρ : Reader κ} {w : World κ (ReadLog κ ε)} (hw : ρ.Opened w)
    {length : Nat} (hlength : (w.exchange ρ.exchange).request.contentLength? = some length)
    {m : Engine κ (ReadLog κ ε) α}
    (hm : ρ.Reads (fun host => ∃ depth, ρ.Feeders depth host) α m) {a : α}
    {w' : World κ (ReadLog κ ε)} (hrun : m w = (.done a, w')) {later : List (Answer κ)}
    (hdelivered : Frame.payload (Frame.ofAnswers (w'.outside.answers ++ later)) = length) :
    ρ.body.sizeHint w' = (.done (length, some length), w') ∧
    ∃ rest, Frame.ofAnswers (w'.outside.answers ++ later) = w'.outside.given ++ rest ∧
      length = Frame.payload rest + Frame.payload w'.outside.given ∧
      (length = Frame.payload rest ↔ Frame.payload w'.outside.given = 0) ∧
      ((ρ.body.isFinished w').1 = .done true → rest = []) := by
  obtain ⟨hreading, honward, -, hsettled⟩ := hm.settled hw hrun
  obtain ⟨x, hbody, hexchange, -⟩ := hreading.body
  have hdeclared : (w'.exchange x.exchange).request.contentLength? = some length := by
    have hrequest : (w'.exchange ρ.exchange).request = (w.exchange ρ.exchange).request :=
      honward.request
    rw [hexchange, hrequest, hlength]
  obtain ⟨rest, hrest⟩ := hreading.kept.given_prefix later
  have hrest' : Frame.ofAnswers (w'.outside.answers ++ later) = w'.outside.given ++ rest :=
    hrest.symm
  have hsum : length = Frame.payload rest + Frame.payload w'.outside.given := by
    rw [← hdelivered, hrest', Frame.payload_append, Nat.add_comm]
  refine ⟨BodyRef.sizeHint_of_declared hbody hdeclared, rest, hrest', hsum, ?_, fun hfinished => ?_⟩
  · omega
  · have hbook : (ρ.view w').book.finished = true := Outcome.done.inj hfinished
    have hover := hsettled.finished.symm.trans hbook
    have hexact : w'.outside.given ++ rest = w'.outside.given := by
      refine hrest'.symm.trans ((Frame.ofAnswers_append_of_isOver hover later).trans ?_)
      exact hsettled.given.symm
    exact List.append_right_eq_self.1 hexact

/-- The head of a request that declares five bytes. -/
def RequestHead.fiveBytes : RequestHead :=
  { RequestHead.bare with fields := ⟨[(.contentLength, ⟨[53], by decide⟩)]⟩ }

/-- Five bytes in two chunks. -/
def fiveInTwo : List (Option (Octets × Bool)) :=
  [some ([104, 101, 108], false), some ([108, 111], true)]

/-- One of two chunks is polled. -/
def pollOnce : Engine Nat (ReadLog Nat (List (Option (Octets × Bool)))) (Option Frame) :=
  Reader.scripted.take (Host.scripted 2) 7

/-- After three of five bytes were given, two remain, and the hint is five. -/
theorem size_hint_exceeds_rest_threeOfFive :
    let w' := (pollOnce (.scripted .fiveBytes fiveInTwo)).2
    BodyRef.sizeHint ⟨0⟩ w' = (.done (5, some 5), w') ∧ Frame.payload w'.outside.given = 3 ∧
      ∃ rest, Frame.payload rest = 2 ∧
        Frame.ofAnswers (w'.outside.answers ++ [some (.chunk [108, 111] true none)]) =
          w'.outside.given ++ rest := by
  have hhost : ∃ depth, Reader.scripted.Feeders depth (Host.scripted 2) :=
    ⟨2, Reader.feeders_scripted 2⟩
  have hseven : ¬Reader.scripted.hook 7 := show ¬7 % 2 = 0 by decide
  have hopened : Reader.scripted.Opened (.scripted .fiveBytes fiveInTwo) := by
    refine Reader.opened_new (w := .requested .fiveBytes fiveInTwo) rfl rfl rfl rfl rfl ?_ ⟨_, rfl⟩
    have htasks : (World.requested .fiveBytes fiveInTwo).channelQueue.tasks = [] := rfl
    rw [htasks]
    exact nofun
  have hlength : ((World.scripted .fiveBytes fiveInTwo).exchange ⟨0⟩).request.contentLength? =
      some 5 := by decide +kernel
  have hgiven : Frame.payload (pollOnce (.scripted .fiveBytes fiveInTwo)).2.outside.given = 3 := by
    decide +kernel
  have hdelivered : Frame.payload (Frame.ofAnswers
      ((pollOnce (.scripted .fiveBytes fiveInTwo)).2.outside.answers ++
        [some (.chunk [108, 111] true none)])) = 5 := by decide +kernel
  have hdone : (pollOnce (.scripted .fiveBytes fiveInTwo)).1 =
      .done (some (.data [104, 101, 108])) := by decide +kernel
  have hrun : pollOnce (.scripted .fiveBytes fiveInTwo) =
      (.done (some (.data [104, 101, 108])), (pollOnce (.scripted .fiveBytes fiveInTwo)).2) :=
    Prod.ext hdone rfl
  obtain ⟨hhint, rest, hrest, hsum, -⟩ := size_hint_exceeds_rest hopened hlength
    (.take hhost hseven) hrun hdelivered
  refine ⟨hhint, hgiven, rest, ?_, hrest⟩
  rw [hgiven] at hsum
  omega

end HttpExchange
