import HttpExchange.Http.Compliance

/-!
# Settings

What every exchange of a channel shares: which standard fields a response carries, and how
strictly request targets are checked.
-/

namespace HttpExchange

/-- The settings of a channel. -/
structure Config where
  sendDate : Bool := true
  server : Option FieldValue := none
  compliance : Compliance := .strict
  deriving DecidableEq

/-- The fields that every response starts with, `now` being the date to show. -/
def Config.standardFields (config : Config) (now : FieldValue) : Fields :=
  let fields := if config.sendDate then Fields.empty.insert .date now else .empty
  match config.server with
  | some server => fields.insert .server server
  | none => fields

end HttpExchange
