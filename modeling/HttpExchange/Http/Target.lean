import HttpExchange.Octets

/-!
# Request targets

A target is a path with an optional query, a whole address with a scheme and an authority, an
authority alone, or an asterisk. Reading keeps what was given: escapes are not decoded, only the
scheme names `http` and `https` are put into small letters, and a fragment is cut off.
-/

namespace HttpExchange

/-- Why octets are no request target. -/
inductive TargetError
  | tooLong | empty | invalidOctet | invalidFormat | invalidAuthority | schemeTooLong
  deriving DecidableEq

def TargetError.message : TargetError → String
  | .tooLong => "uri too long"
  | .empty => "empty string"
  | .invalidOctet => "invalid uri character"
  | .invalidFormat => "invalid format"
  | .invalidAuthority => "invalid authority"
  | .schemeTooLong => "scheme too long"

/-- A request target. -/
structure Target where
  scheme : Option Octets
  authority : Octets
  path : Octets
  query : Option Octets
  deriving DecidableEq

namespace Target

/-- The longest target that is accepted. -/
def maxLength : Nat := 65534

/-- The longest scheme name that is accepted. -/
def maxSchemeLength : Nat := 64

/-- More colons than this in one part of an authority are refused at once. -/
def maxColons : Nat := 8

def slash : UInt8 := 47

def question : UInt8 := 63

def hash : UInt8 := 35

/-- The root path. -/
def root : Target := ⟨none, [], [slash], none⟩

/-- An octet of a path; those outside ASCII count as long as the whole is text. -/
def isPathOctet (b : UInt8) : Bool :=
  let n := b.toNat
  n = 0x21 || n = 0x22 || (0x24 ≤ n && n ≤ 0x3b) || n = 0x3d || (0x40 ≤ n && n ≤ 0x5f) ||
    (0x61 ≤ n && n ≤ 0x7e) || 0x80 ≤ n

/-- An octet of a query; those outside ASCII count as long as the whole is text. -/
def isQueryOctet (b : UInt8) : Bool :=
  let n := b.toNat
  n = 0x21 || (0x24 ≤ n && n ≤ 0x3b) || n = 0x3d || (0x3f ≤ n && n ≤ 0x7e) || 0x80 ≤ n

/-- An octet of a scheme name. -/
def isSchemeOctet (b : UInt8) : Bool :=
  Octets.isLetter b || Octets.isDigit b || decide (b ∈ Octets.ofString "+-.~")

/-- An octet that an authority may hold beside the ones with a meaning of their own. -/
def isAuthorityOctet (b : UInt8) : Bool :=
  Octets.isLetter b || Octets.isDigit b || decide (b ∈ Octets.ofString "!$&'()*+,-.;=_~")

/-- An octet that ends an authority. -/
def endsAuthority (b : UInt8) : Bool := b = slash || b = question || b = hash

/-- What has been seen of an authority. Colons and escapes are forgotten at the end of a user part
and at the end of a bracketed address. -/
structure AuthorityScan where
  colons : Nat := 0
  opened : Bool := false
  closed : Bool := false
  escaped : Bool := false
  justAfterUser : Bool := false

/-- Reads one more octet of an authority. -/
def AuthorityScan.next (s : AuthorityScan) (b : UInt8) : Except TargetError AuthorityScan :=
  let s' := { s with justAfterUser := false }
  match Char.ofNat b.toNat with
  | ':' =>
    if maxColons ≤ s.colons then .error .invalidAuthority
    else .ok { s' with colons := s.colons + 1 }
  | '[' =>
    if s.escaped || s.opened then .error .invalidAuthority else .ok { s' with opened := true }
  | ']' =>
    if !s.opened || s.closed then .error .invalidAuthority
    else .ok { s' with closed := true, colons := 0, escaped := false }
  | '@' => .ok { s with justAfterUser := true, colons := 0, escaped := false }
  | '%' => .ok { s' with escaped := true }
  | _ => if isAuthorityOctet b then .ok s' else .error .invalidOctet

/-- What an authority must not end with: an open bracket, two colons, an empty host behind a user,
or an escape in the host. -/
def AuthorityScan.isComplete (s : AuthorityScan) : Bool :=
  s.opened == s.closed && s.colons ≤ 1 && !s.justAfterUser && !s.escaped

/-- Splits off the authority in front. -/
def splitAuthority (bs : Octets) : Except TargetError (Octets × Octets) := do
  let authority := bs.takeWhile (!endsAuthority ·)
  let scan ← authority.foldlM AuthorityScan.next {}
  if scan.isComplete then .ok (authority, bs.dropWhile (!endsAuthority ·))
  else .error .invalidAuthority

/-- Splits off a scheme in front, with its separator. -/
def splitScheme (bs : Octets) : Except TargetError (Option Octets × Octets) :=
  let name : Octets := bs.takeWhile isSchemeOctet
  let rest := bs.dropWhile isSchemeOctet
  let known := name.toLower
  if !(Octets.ofString "://").isPrefixOf rest || bs.length ≤ 3 then .ok (none, bs)
  else if known = Octets.ofString "http" || known = Octets.ofString "https" then
    .ok (some known, rest.drop 3)
  else if maxSchemeLength < name.length then .error .schemeTooLong
  else .ok (some name, rest.drop 3)

/-- Reads a path with its query; a fragment is cut off, and an empty path is the root. -/
def splitPath (bs : Octets) : Except TargetError (Octets × Option Octets) :=
  let text : Octets := bs.takeWhile (· ≠ hash)
  let path := text.takeWhile (· ≠ question)
  let query := (Octets.cutAt? (· = question) text).map (·.2)
  if path.all isPathOctet && (query.getD []).all isQueryOctet &&
      (text.all (·.toNat < 128) || text.isText) then
    .ok (if path.isEmpty then [slash] else path, query)
  else .error .invalidOctet

/-- Reads a target that starts with neither a slash nor is a single mark. -/
def parseAddress (bs : Octets) : Except TargetError Target := do
  match ← splitScheme bs with
  | (none, _) =>
    let (authority, rest) ← splitAuthority bs
    if rest.isEmpty then .ok ⟨none, authority, [], none⟩ else .error .invalidFormat
  | (some scheme, rest) =>
    if rest.isEmpty then .error .empty
    else
      let (authority, rest) ← splitAuthority rest
      if authority.isEmpty then .error .invalidFormat
      else
        let (path, query) ← splitPath rest
        .ok ⟨some scheme, authority, path, query⟩

/-- Reads a request target. -/
def parse (bs : Octets) : Except TargetError Target :=
  if maxLength < bs.length then .error .tooLong
  else match bs with
    | [] => .error .empty
    | [b] =>
      if b = slash then .ok root
      else if b.toNat = 42 then .ok ⟨none, [], [b], none⟩
      else do
        let (authority, rest) ← splitAuthority [b]
        if rest.isEmpty then .ok ⟨none, authority, [], none⟩ else .error .invalidOctet
    | b :: _ :: _ =>
      if b = slash then do
        let (path, query) ← splitPath bs
        .ok ⟨none, [], path, query⟩
      else parseAddress bs

/-- The written form of a target. -/
def octets (t : Target) : Octets :=
  (match t.scheme with
    | some s => s ++ Octets.ofString "://"
    | none => []) ++
  t.authority ++ t.path ++
  (match t.query with
    | some q => question :: q
    | none => [])

end Target

end HttpExchange
