import HttpExchange.Http.RequestHead

/-!
# Target compliance

How strictly the path of a request target is checked. Both levels refuse a path that climbs above
its root; the strict level also refuses paths that a later reader may take for different ones:
encoded separators and dots, empty segments and path parameters.
-/

namespace HttpExchange

/-- How strictly request targets are checked. -/
inductive Compliance
  | strict | legacy
  deriving DecidableEq

/-- What is wrong with a path. -/
inductive PathFault
  | notRooted | escapesRoot | encodedSeparator | encodedDot | emptySegment | parameter
  deriving DecidableEq

def PathFault.message : PathFault → String
  | .notRooted => "Bad URI path"
  | .escapesRoot => "Path escapes root"
  | .encodedSeparator => "Ambiguous URI path separator"
  | .encodedDot => "Ambiguous URI path segment"
  | .emptySegment => "Ambiguous URI empty segment"
  | .parameter => "Ambiguous URI path parameter"

namespace Compliance

def parentSegment : Octets := Octets.ofString ".."

def currentSegment : Octets := Octets.ofString "."

/-- Whether a walk down the segments, from `depth` levels below the root, ever climbs above it. -/
def climbsOut : (depth : Nat) → List Octets → Bool
  | _, [] => false
  | depth, segment :: rest =>
    if segment = parentSegment then
      match depth with
      | 0 => true
      | above + 1 => climbsOut above rest
    else if segment = currentSegment then climbsOut depth rest
    else climbsOut (depth + 1) rest

/-- The segments of a path: what follows each slash. -/
def segments (path : Octets) : List Octets := (Octets.splitAt Target.slash path).tail

/-- The first fault of a path, if any. -/
def check (c : Compliance) (path : Octets) : Option PathFault :=
  if climbsOut 0 (segments path) then some .escapesRoot
  else match c with
    | .legacy => none
    | .strict =>
      if (Octets.ofString "%2f").hasInfix path.toLower then some .encodedSeparator
      else if (Octets.ofString "%2e").hasInfix path.toLower then some .encodedDot
      else if (Octets.ofString "//").hasInfix path then some .emptySegment
      else if (Octets.ofString ";").hasInfix path then some .parameter
      else none

/-- The first fault of a request target. Only `CONNECT` and `OPTIONS` may have a target that does
not start with a slash. -/
def validate (c : Compliance) (head : RequestHead) : Option PathFault :=
  if head.method ≠ .connect ∧ head.method ≠ .options ∧ head.target.path.head? ≠ some Target.slash
  then some .notRooted
  else c.check head.target.path

end Compliance

end HttpExchange
