import TelemetryBridge.Foreground
import TelemetryBridge.Main
import TelemetryBridge.Proofs.BridgeSteps
import TelemetryBridge.Relays
import TelemetryBridge.Services
import TelemetryBridge.Stream.Scripted
import TelemetryBridge.Proofs.Lifecycle
import TelemetryBridge.Proofs.Pairing
import TelemetryBridge.Proofs.FailureReports
import TelemetryBridge.Proofs.Places
import TelemetryBridge.Proofs.PlacesKept
import TelemetryBridge.Proofs.Settling
import TelemetryBridge.Proofs.Cancellation
import TelemetryBridge.Proofs.UpdateFlow
import TelemetryBridge.Proofs.Conservation
import TelemetryBridge.Proofs.AddedNotes
import TelemetryBridge.Proofs.Progress
import TelemetryBridge.Proofs.Tally
import TelemetryBridge.Proofs.Statistics
import TelemetryBridge.Proofs.HandoffHistory
import TelemetryBridge.Proofs.StreamAnswers
import TelemetryBridge.Proofs.HandoffReplies
import TelemetryBridge.Proofs.SessionEnds
import TelemetryBridge.Proofs.PrimaryFault
import TelemetryBridge.Proofs.ExternalStop
import TelemetryBridge.Proofs.Outcomes
import TelemetryBridge.Proofs.ParsedPaths
import TelemetryBridge.Proofs.RequestReader
import TelemetryBridge.Proofs.ConfigLayers
import TelemetryBridge.Proofs.HandoffSignals
import TelemetryBridge.Proofs.SubscriberRounds
import TelemetryBridge.Proofs.SubscriberView
import TelemetryBridge.Proofs.Backpressure
import TelemetryBridge.Proofs.UsableSettings
import TelemetryBridge.Proofs.CredentialFiles
import TelemetryBridge.Proofs.RetryDelays
import TelemetryBridge.Proofs.ForwardingNotes
import TelemetryBridge.Proofs.RetryPaces
import TelemetryBridge.Proofs.Timers
import TelemetryBridge.Proofs.EndCauses
import TelemetryBridge.Proofs.CandidEnds
import TelemetryBridge.Proofs.PublisherRounds
import TelemetryBridge.Proofs.PublisherView
import TelemetryBridge.Proofs.ForwardedOffers
import TelemetryBridge.Proofs.ElementGrammar
import TelemetryBridge.Proofs.KeyPredicates
import TelemetryBridge.Proofs.PathDisplay
import TelemetryBridge.Proofs.TimerRange
import TelemetryBridge.Proofs.AddressParts
import TelemetryBridge.Proofs.TopLevelSlashes
import TelemetryBridge.Proofs.AddressForms
import TelemetryBridge.Proofs.InstanceNames
import TelemetryBridge.Proofs.DialableTargets
import TelemetryBridge.Proofs.ResolvedPaths
import TelemetryBridge.Proofs.FlagIssues
import TelemetryBridge.Proofs.CertificateBundles
import TelemetryBridge.Proofs.ClientLifetimes
import TelemetryBridge.Proofs.Likeness
import TelemetryBridge.Proofs.RefusedStreams
import TelemetryBridge.Proofs.CallMetadata
import TelemetryBridge.Proofs.HiddenPassword
