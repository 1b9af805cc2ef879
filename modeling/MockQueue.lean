import MockQueue.Boundary.Call
import MockQueue.Settings.PlainJson
import MockQueue.Proofs.Funnel
import MockQueue.Proofs.Truncation
import MockQueue.Proofs.Operations
import MockQueue.Proofs.ExpectedCalls
import MockQueue.Proofs.Ledger
import MockQueue.Proofs.LossyCut
import MockQueue.Proofs.Telling
import MockQueue.Proofs.Unwinding
import MockQueue.Proofs.ForeignCalls
import MockQueue.Proofs.ForeignFailures
import MockQueue.Proofs.Custody
import MockQueue.Proofs.Visits
import MockQueue.Proofs.Lockstep
import MockQueue.Proofs.Composition
import MockQueue.Proofs.ForeignSettings
import MockQueue.Proofs.FreshStart
import MockQueue.Proofs.Reentry
import MockQueue.Proofs.FrozenSettings
import MockQueue.Proofs.Encoding
import MockQueue.Proofs.CallbackTexts
import MockQueue.Proofs.Passages
import MockQueue.Proofs.LeftOvers
import MockQueue.Proofs.PlacesAsked
import MockQueue.Proofs.LongDecimals
import MockQueue.Proofs.FieldSizes
import MockQueue.Proofs.Clamping
import MockQueue.Proofs.AuditTrail
import MockQueue.Proofs.Juxtaposition
import MockQueue.Proofs.IntegerFields
import MockQueue.Proofs.GeneralNotation
import MockQueue.Proofs.AlternateForm
import MockQueue.Proofs.Verbatim
import MockQueue.Proofs.EnvironmentGrammar
import MockQueue.Proofs.BufferRoom
import MockQueue.Proofs.FirstDifference
import MockQueue.Proofs.WrittenDirectives
import MockQueue.Proofs.JsonRoundTrip
