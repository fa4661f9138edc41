import HttpExchange.Http.Fields

/-!
# Content lengths

The declared body length is the first `Content-Length` value: blanks around it are ignored, one
plus sign may stand in front, the rest is decimal digits, and the number has to fit 64 bits.
Anything else counts as no declaration at all.
-/

namespace HttpExchange

/-- Lengths are counted in 64 bits. -/
def lengthLimit : Nat := UInt64.size

namespace ContentLength

/-- An octet of a field value that can be read as text. -/
def isPlain (b : UInt8) : Bool := 32 ≤ b.toNat && b.toNat ≤ 126 || b.toNat = 9

/-- A blank or a tab. -/
def isBlank (b : UInt8) : Bool := b.toNat = 32 || b.toNat = 9

/-- The text without blanks at its ends. -/
def trim (bs : Octets) : Octets :=
  ((bs.dropWhile isBlank).reverse.dropWhile isBlank).reverse

/-- The text without one plus sign in front. -/
def dropPlus : Octets → Octets
  | [] => []
  | b :: bs => if b.toNat = 43 then bs else b :: bs

/-- A number in decimal digits that fits 64 bits. -/
def digits? (bs : Octets) : Option Nat :=
  if !bs.isEmpty && bs.all Octets.isDigit then Octets.valueBelow? lengthLimit 0 bs else none

/-- The length that a field value declares. -/
def ofOctets? (bs : Octets) : Option Nat :=
  if bs.all isPlain then digits? (dropPlus (trim bs)) else none

/-- The length that a header declares. -/
def ofFields? (fields : Fields) : Option Nat := do
  ofOctets? (← fields.get? .contentLength).octets

end ContentLength

end HttpExchange
