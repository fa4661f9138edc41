import HttpExchange.Text.Unseen

/-!
# Quoted text

Texts and octets between double quotes, with marks for what cannot be shown as it is.
-/

namespace HttpExchange.Quoted

/-- A number in base sixteen. -/
def hex (n : Nat) : String := String.ofList (Nat.toDigits 16 n)

/-- One character of a quoted text. -/
def escape (c : Char) : String :=
  match c with
  | '"' => "\\\""
  | '\\' => "\\\\"
  | '\n' => "\\n"
  | '\r' => "\\r"
  | '\t' => "\\t"
  | '\x00' => "\\0"
  | c => if Unseen.contains c then "\\u\x7b" ++ hex c.toNat ++ "\x7d" else c.toString

/-- A text between quotes. -/
def ofString (s : String) : String := "\"" ++ String.join (s.toList.map escape) ++ "\""

/-- One octet of a quoted field value. -/
def escapeOctet (b : UInt8) : String :=
  if b.toNat = 34 then "\\\""
  else if (32 ≤ b.toNat && b.toNat ≤ 126) || b.toNat = 9 then (Char.ofNat b.toNat).toString
  else "\\x" ++ hex b.toNat

/-- Octets between quotes. -/
def ofOctets (bs : List UInt8) : String := "\"" ++ String.join (bs.map escapeOctet) ++ "\""

end HttpExchange.Quoted
