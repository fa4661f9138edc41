import HttpExchange.Config
import HttpExchange.Describe
import HttpExchange.Effect
import HttpExchange.Engine.Body
import HttpExchange.Engine.Callback
import HttpExchange.Engine.Channel
import HttpExchange.Engine.Drain
import HttpExchange.Engine.Ending
import HttpExchange.Engine.Host
import HttpExchange.Engine.Job
import HttpExchange.Engine.Queue
import HttpExchange.Engine.Reading
import HttpExchange.Engine.State
import HttpExchange.Engine.Stream
import HttpExchange.Engine.Writing
import HttpExchange.ErrorPage
import HttpExchange.Failure
import HttpExchange.Http.Compliance
import HttpExchange.Http.ContentLength
import HttpExchange.Http.Date
import HttpExchange.Http.Fields
import HttpExchange.Http.Parsed
import HttpExchange.Http.RequestHead
import HttpExchange.Http.ResponseHead
import HttpExchange.Http.Status
import HttpExchange.Http.Target
import HttpExchange.Http.Token
import HttpExchange.Octets
import HttpExchange.Scenario.Lifetime
import HttpExchange.Scenario.Report
import HttpExchange.Scenario.Run
import HttpExchange.Scenario.Stage
import HttpExchange.Scenario.Steps
import HttpExchange.Scenario.Syntax
import HttpExchange.Scenario.Transport
import HttpExchange.Scenario.Wrapping
import HttpExchange.Text.Quoted
import HttpExchange.Text.Unseen
import HttpExchange.Proofs.Surroundings
import HttpExchange.Proofs.Compositional
import HttpExchange.Proofs.Step
import HttpExchange.Proofs.Update
import HttpExchange.Proofs.Record
import HttpExchange.Proofs.Move
import HttpExchange.Proofs.Course
import HttpExchange.Proofs.Runs
import HttpExchange.Proofs.Writing
import HttpExchange.Proofs.Ending
import HttpExchange.Proofs.Sending
import HttpExchange.Proofs.Length
import HttpExchange.Proofs.FrozenHead
import HttpExchange.Proofs.Outcome
import HttpExchange.Proofs.FirstFailure
import HttpExchange.Proofs.Consistency
import HttpExchange.Proofs.Queueing
import HttpExchange.Proofs.Delivery
import HttpExchange.Proofs.ConnectionClose
import HttpExchange.Proofs.Success
import HttpExchange.Proofs.RejectedTarget
import HttpExchange.Proofs.ShortCircuit
import HttpExchange.Proofs.Containment
import HttpExchange.Proofs.Fifo
import HttpExchange.Proofs.Programs
import HttpExchange.Proofs.Serialized
import HttpExchange.Proofs.HookPanic
import HttpExchange.Proofs.Waiters
import HttpExchange.Proofs.Attribution
import HttpExchange.Proofs.Accounting
import HttpExchange.Proofs.Bystanders
import HttpExchange.Proofs.Stale
import HttpExchange.Proofs.Framing
import HttpExchange.Proofs.Refusals
import HttpExchange.Proofs.Shift
import HttpExchange.Proofs.Shifting
import HttpExchange.Proofs.ShiftingRuns
import HttpExchange.Proofs.Lifecycle
import HttpExchange.Proofs.WakeUps
import HttpExchange.Proofs.Constancy
import HttpExchange.Proofs.Preparing
import HttpExchange.Proofs.Telling
import HttpExchange.Proofs.ErrorResponse
import HttpExchange.Proofs.WriteError
import HttpExchange.Proofs.Listeners
import HttpExchange.Proofs.Pervasive
import HttpExchange.Proofs.Minding
import HttpExchange.Proofs.OwnSlots
import HttpExchange.Proofs.Announcing
import HttpExchange.Proofs.Wrapping
import HttpExchange.Proofs.Passing
import HttpExchange.Proofs.WriteFate
import HttpExchange.Proofs.RefusedPage
import HttpExchange.Proofs.Finale
import HttpExchange.Proofs.UnreadBody
import HttpExchange.Proofs.ExplicitEnd
import HttpExchange.Proofs.DeclaredLength
import HttpExchange.Proofs.Oblivious
import HttpExchange.Proofs.ObliviousRuns
import HttpExchange.Proofs.EarlyFailure
import HttpExchange.Proofs.BodyReading
import HttpExchange.Proofs.BodyFrames
import HttpExchange.Proofs.SizeHint
import HttpExchange.Proofs.RootedPaths
import HttpExchange.Proofs.ParsedHeads
import HttpExchange.Proofs.Suppression
import HttpExchange.Proofs.LateDemand
