import HttpExchange.Octets

/-!
# Tokens, methods and field names

Methods and field names are tokens: nonempty texts over letters, digits and a few marks. A method
keeps its letter case; a field name is compared without it, and is therefore held in small
letters (`FieldName.ofOctets?`).
-/

namespace HttpExchange

/-- The marks that a token may hold beside letters and digits. -/
def tokenMarks : Octets := Octets.ofString "!#$%&'*+-.^_`|~"

/-- An octet of a token. -/
def isTokenOctet (b : UInt8) : Bool :=
  Octets.isLetter b || Octets.isDigit b || decide (b ∈ tokenMarks)

/-- A nonempty text of token octets. -/
def isToken (bs : Octets) : Bool := !bs.isEmpty && bs.all isTokenOctet

/-- A request method: a token in its own letter case. -/
structure Method where
  octets : Octets
  isToken : isToken octets = true
  deriving DecidableEq

namespace Method

/-- The method spelled by the octets, if they form a token. -/
def ofOctets? (bs : Octets) : Option Method :=
  if h : HttpExchange.isToken bs = true then some ⟨bs, h⟩ else none

def get : Method := ⟨Octets.ofString "GET", by decide⟩

def connect : Method := ⟨Octets.ofString "CONNECT", by decide⟩

def options : Method := ⟨Octets.ofString "OPTIONS", by decide⟩

end Method

theorem isTokenOctet_lower {b : UInt8} (h : isTokenOctet b = true) :
    isTokenOctet (Octets.lower b) = true := by
  cases hu : Octets.isUpper b with
  | false => simpa [Octets.lower, hu] using h
  | true =>
    have hn := Octets.lower_toNat b
    have hu' := hu
    simp only [hu, if_true] at hn
    simp only [Octets.isUpper, Bool.and_eq_true, decide_eq_true_eq] at hu'
    have : Octets.isLower (Octets.lower b) = true := by
      simp only [Octets.isLower, Bool.and_eq_true, decide_eq_true_eq]
      omega
    simp [isTokenOctet, Octets.isLetter, this]

theorem isToken_toLower {bs : Octets} (h : isToken bs = true) : isToken bs.toLower = true := by
  simp only [isToken, Bool.and_eq_true, Bool.not_eq_true', List.isEmpty_eq_false_iff,
    List.all_eq_true] at h ⊢
  refine ⟨by simpa [Octets.toLower] using h.1, fun b hb => ?_⟩
  obtain ⟨a, ha, rfl⟩ := List.mem_map.1 hb
  exact isTokenOctet_lower (h.2 a ha)

/-- A field name: a token, held in small letters. -/
structure FieldName where
  octets : Octets
  isToken : isToken octets = true
  isLower : octets.toLower = octets
  deriving DecidableEq

namespace FieldName

/-- The longest field name that is accepted. -/
def maxLength : Nat := 65535

/-- The name spelled by the octets in any letter case, if they form a token. -/
def ofOctets? (bs : Octets) : Option FieldName :=
  if h : HttpExchange.isToken bs = true ∧ bs.length ≤ maxLength then
    some ⟨bs.toLower, isToken_toLower h.1, by simp [Octets.toLower, Octets.lower_lower]⟩
  else none

def cacheControl : FieldName := ⟨Octets.ofString "cache-control", by decide, by decide⟩

def connection : FieldName := ⟨Octets.ofString "connection", by decide, by decide⟩

def contentLength : FieldName := ⟨Octets.ofString "content-length", by decide, by decide⟩

def contentType : FieldName := ⟨Octets.ofString "content-type", by decide, by decide⟩

def date : FieldName := ⟨Octets.ofString "date", by decide, by decide⟩

def server : FieldName := ⟨Octets.ofString "server", by decide, by decide⟩

end FieldName

end HttpExchange
