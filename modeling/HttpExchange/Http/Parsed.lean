import HttpExchange.Failure

/-!
# Heads from a parser

A parser of the first protocol versions delivers what it found of a request: the method, the
target and the minor version if it got that far, and the fields. `RequestHead.ofParsed` makes a
head of it or says what is wrong.
-/

namespace HttpExchange

/-- What a parser found of a request. -/
structure ParsedRequest where
  method : Option Octets
  target : Option Octets
  minorVersion : Option Nat
  fields : List RawField

/-- The head that a parser found. A missing or unacceptable part is a bad request; the first one in
the order method, target, version, and then in the order of `RequestHead.build`, is named. -/
def RequestHead.ofParsed (parsed : ParsedRequest) : Except ExchangeError RequestHead :=
  match parsed.method, parsed.target with
  | none, _ => .error (.badRequest "missing method")
  | some _, none => .error (.badRequest "missing request target")
  | some method, some target =>
    match parsed.minorVersion with
    | some 1 => finish method target .http11
    | some 0 => finish method target .http10
    | _ => .error (.badRequest "unsupported http version")
where
  finish (method target : Octets) (version : Version) : Except ExchangeError RequestHead :=
    (RequestHead.build method target version parsed.fields none).mapError
      (.badRequest ·.message)

end HttpExchange
