import HttpExchange.Engine.Queue
import HttpExchange.Text.Quoted

/-!
# One-line descriptions

Short descriptions of channels, handles and tasks, for logs.
-/

namespace HttpExchange

namespace Describe

/-- A name with its labelled parts between braces. -/
def braced (name : String) (parts : List (String × String)) : String :=
  name ++ " \x7b " ++ ", ".intercalate (parts.map fun p => p.1 ++ ": " ++ p.2) ++ " \x7d"

def flag (b : Bool) : String := if b then "true" else "false"

/-- A part that may be missing. -/
def optional : Option String → String
  | none => "None"
  | some s => "Some(" ++ s ++ ")"

/-- Octets as text, if they are any. -/
def octets (bs : Octets) : String := bs.toString?.getD "?"

end Describe

open Describe

def Phase.describe : Phase → String
  | .created => "Created"
  | .processing => "Processing"
  | .completing => "Completing"
  | .terminal => "Terminal"

def Compliance.describe : Compliance → String
  | .strict => "Strict"
  | .legacy => "Legacy"

def Config.describe (c : Config) : String :=
  braced "ChannelConfig"
    [("send_date_header", flag c.sendDate),
     ("server_header", optional (c.server.map fun v => Quoted.ofOctets v.octets)),
     ("uri_compliance", c.compliance.describe)]

namespace Exchange

def describeRequest (x : Exchange) : String :=
  braced "Request"
    [("id", Quoted.ofString x.id), ("method", octets x.request.method.octets),
     ("uri", octets x.request.target.octets), ("version", x.request.version.text),
     ("phase", x.phase.describe)]

def describeResponse (x : Exchange) : String :=
  braced "Response"
    [("id", Quoted.ofString x.id),
     ("status", optional (x.response.status.map fun s => toString s.code)),
     ("committed", flag x.response.committed), ("written", toString x.response.written)]

def describeCompletion (x : Exchange) : String :=
  braced "Completion" [("id", Quoted.ofString x.id)]

def describeTrailers (x : Exchange) : String :=
  braced "TrailerSupplier" [("allocated", flag x.trailers.isSome)]

end Exchange

def World.describeChannel {κ ε : Type} (w : World κ ε) : String :=
  braced "HttpChannel"
    [("connection", Quoted.ofString w.channel.connectionId),
     ("exchange",
      optional (w.channel.active.map fun a => Quoted.ofString (w.exchange a.exchange).id)),
     ("requests", toString w.channel.requests)]

/-- A channel that is about to be built. -/
def Channel.describePlan (connectionId : String) (version : Version) (persistent : Bool)
    (config : Config) : String :=
  braced "HttpChannelBuilder"
    [("connection_id", optional (some (Quoted.ofString connectionId))),
     ("version", version.text), ("persistent", flag persistent), ("config", config.describe)]

def Queue.describe {κ : Type} (q : Queue κ) : String :=
  braced "SerializedInvoker"
    [("queued", toString q.tasks.length), ("draining", flag q.draining)]

def Task.describe {κ : Type} (t : Task κ) : String := "Task(" ++ Quoted.ofString t.name ++ ")"

/-- A chunk of body bytes; `released` tells whether it owes nothing to its owner. -/
def describeChunk (bytes : Octets) (last released : Bool) : String :=
  braced "Chunk"
    [("len", toString bytes.length), ("last", flag last), ("released", flag released)]

/-- A wrapper with a completion listener around a stream of this identifier. -/
def describeListening (id : String) : String :=
  braced "CompletionListenerStream" [("id", Quoted.ofString id)]

end HttpExchange
