import HttpExchange.Http.RequestHead

/-!
# Errors and failures

An error says what went wrong. A failure is one occurrence of an error: it has an identity
(`FailureRef`), so the same failure can be recognised wherever it is handed to, and it collects
the later failures that it suppressed.

`Failures.suppress` keeps the collected list free of the failure itself and of repetitions
(`suppressed_suppress`).
-/

namespace HttpExchange

/-- Every way an exchange can go wrong. -/
inductive ExchangeError
  /-- The transport reported a failure. -/
  | transport (cause : String)
  /-- The request is not acceptable. -/
  | protocol (status : Status) (reason : String)
  /-- The application failed. -/
  | application (cause : String)
  /-- The body does not have the declared length. -/
  | lengthMismatch (declared written : Nat)
  /-- An operation is not possible in the current state. -/
  | stateViolation (reason : String)
  /-- An operation was given something that it does not accept. -/
  | invalidArgument (reason : String)
  /-- The request body was left unread. -/
  | unconsumedBody (reason : String)
  deriving DecidableEq

namespace ExchangeError

/-- A text after a word on what it is about. -/
def labelled (label text : String) : String := label ++ ": " ++ text

/-- The text for a body whose length is not the declared one. -/
def mismatchText (declared written : Nat) : String :=
  String.join ["content-length ", toString declared, " != ", toString written, " written"]

def message : ExchangeError → String
  | .transport cause => labelled "transport error" cause
  | .protocol status reason => labelled ("bad request (" ++ status.text ++ ")") reason
  | .application cause => labelled "application error" cause
  | .lengthMismatch declared written => mismatchText declared written
  | .stateViolation reason => labelled "illegal state" reason
  | .invalidArgument reason => labelled "illegal argument" reason
  | .unconsumedBody reason => labelled "unconsumed request body" reason

/-- The status that an error response for this error carries. -/
def status : ExchangeError → Status
  | .protocol status _ => status
  | _ => .internalServerError

/-- The text of what is behind an error, where there is something behind it. -/
def inner? : ExchangeError → Option String
  | .transport cause => some cause
  | .application cause => some cause
  | _ => none

def isStateViolation : ExchangeError → Bool
  | .stateViolation _ => true
  | _ => false

def isLengthMismatch : ExchangeError → Bool
  | .lengthMismatch _ _ => true
  | _ => false

def isUnconsumedBody : ExchangeError → Bool
  | .unconsumedBody _ => true
  | _ => false

/-- A request that breaks the protocol. -/
def badRequest (reason : String) : ExchangeError := .protocol .badRequest reason

def noStream : ExchangeError := .stateViolation "no stream"

def streamSet : ExchangeError := .stateViolation "stream already set"

def exchangeActive : ExchangeError := .stateViolation "exchange already active"

def noActiveStream : ExchangeError := .stateViolation "no active stream"

def notWrapping : ExchangeError :=
  .stateViolation "stream wrapper does not wrap the active stream"

def completed : ExchangeError := .stateViolation "completed"

def notProcessing : ExchangeError := .stateViolation "not processing"

def demandPending : ExchangeError := .stateViolation "demand pending"

def secondDemand : ExchangeError := .invalidArgument "demand pending"

def writePending : ExchangeError := .stateViolation "write pending"

def exchangeFailed : ExchangeError := .stateViolation "exchange failed"

def committed : ExchangeError := .stateViolation "committed"

def writeDropped : ExchangeError := .stateViolation "write callback dropped"

end ExchangeError

/-- The identity of a failure. -/
structure FailureRef where
  index : Nat
  deriving DecidableEq

/-- What is known of one failure. -/
structure Failure where
  error : ExchangeError
  suppressed : List FailureRef
  deriving DecidableEq

instance : Inhabited Failure := ⟨⟨.stateViolation "", []⟩⟩

/-- All failures so far. -/
structure Failures where
  entries : Array Failure

namespace Failures

def empty : Failures := ⟨#[]⟩

/-- What is known of a failure. -/
def get (fs : Failures) (f : FailureRef) : Failure := fs.entries.getD f.index default

/-- The identity that the next failure gets. -/
def next (fs : Failures) : FailureRef := ⟨fs.entries.size⟩

/-- Records a new failure, under the identity `next`. -/
def add (fs : Failures) (error : ExchangeError) : Failures := ⟨fs.entries.push ⟨error, []⟩⟩

/-- The failures that this one suppressed, oldest first. -/
def suppressed (fs : Failures) (f : FailureRef) : List FailureRef := (fs.get f).suppressed

/-- Records `other` as suppressed by `f`, unless it is `f` itself or already recorded. -/
def suppress (fs : Failures) (f other : FailureRef) : Failures :=
  if f = other ∨ other ∈ fs.suppressed f then fs
  else ⟨fs.entries.modify f.index fun x => { x with suppressed := x.suppressed ++ [other] }⟩

/-- The text of a failure: its error, and how many failures it suppressed. -/
def text (fs : Failures) (f : FailureRef) : String :=
  let failure := fs.get f
  if failure.suppressed.isEmpty then failure.error.message
  else failure.error.message ++ " (+" ++ toString failure.suppressed.length ++ " suppressed)"

theorem get_add_of_lt {fs : Failures} {f : FailureRef} (h : f.index < fs.entries.size)
    (error : ExchangeError) : (fs.add error).get f = fs.get f := by
  simp [add, get, Array.getElem?_push, Nat.ne_of_lt h]

theorem lt_size_add {fs : Failures} {f : FailureRef} (h : f.index < fs.entries.size)
    (error : ExchangeError) : f.index < (fs.add error).entries.size := by
  rw [add, Array.size_push]
  exact Nat.lt_succ_of_lt h

theorem suppressed_add_of_lt {fs : Failures} {f : FailureRef} (h : f.index < fs.entries.size)
    (error : ExchangeError) : (fs.add error).suppressed f = fs.suppressed f := by
  rw [suppressed, get_add_of_lt h, suppressed]

theorem get_add_next (fs : Failures) (error : ExchangeError) :
    (fs.add error).get fs.next = ⟨error, []⟩ := by
  simp [add, get, next]

theorem size_suppress (fs : Failures) (f other : FailureRef) :
    (fs.suppress f other).entries.size = fs.entries.size := by
  unfold suppress
  split <;> simp

theorem get_suppress_of_ne {fs : Failures} {f g : FailureRef} (h : g ≠ f) (other : FailureRef) :
    (fs.suppress f other).get g = fs.get g := by
  have hindex : f.index ≠ g.index := fun heq => h (by cases f; cases g; simp_all)
  unfold suppress
  split
  · rfl
  · simp [get, Array.getElem?_modify, hindex]

theorem suppressed_suppress_of_ne {fs : Failures} {f g : FailureRef} (h : g ≠ f)
    (other : FailureRef) : (fs.suppress f other).suppressed g = fs.suppressed g := by
  rw [suppressed, get_suppress_of_ne h, suppressed]

/-- Suppressing changes the list of one failure only, and that by at most one entry at its end. -/
theorem suppressed_suppress {fs : Failures} {f : FailureRef} (h : f.index < fs.entries.size)
    (other g : FailureRef) :
    (fs.suppress f other).suppressed g =
      if g = f ∧ f ≠ other ∧ other ∉ fs.suppressed f then fs.suppressed f ++ [other]
      else fs.suppressed g := by
  by_cases hg : g = f
  · subst hg
    by_cases hs : g = other ∨ other ∈ fs.suppressed g
    · rw [suppress, if_pos hs, if_neg]
      rintro ⟨-, hne, hnew⟩
      exact hs.elim hne hnew
    · obtain ⟨hne, hnew⟩ := not_or.1 hs
      rw [suppress, if_neg hs, if_pos ⟨rfl, hne, hnew⟩]
      simp [suppressed, get, Array.getElem_modify, h]
  · rw [suppressed_suppress_of_ne hg, if_neg fun hc => hg hc.1]

end Failures

end HttpExchange
