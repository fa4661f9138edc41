import HttpExchange.Octets

/-!
# Dates

The form of a date field: `Thu, 01 Jan 1970 00:00:00 GMT`.
-/

namespace HttpExchange.Date

/-- An octet with its kind in its place: `A` for a capital letter, `a` for a small one, `0` for a
digit. -/
def shapeOctet (b : UInt8) : UInt8 :=
  if Octets.isUpper b then 65
  else if Octets.isLower b then 97
  else if Octets.isDigit b then 48
  else b

/-- The form of a text. -/
def shape (bs : Octets) : Octets := bs.map shapeOctet

/-- The form of every date. -/
def form : Octets := Octets.ofString "Aaa, 00 Aaa 0000 00:00:00 AAA"

/-- Whether a text has the form of a date, which is always given in universal time. -/
def isDate (bs : Octets) : Bool := shape bs = form && bs.drop 26 = Octets.ofString "GMT"

end HttpExchange.Date
