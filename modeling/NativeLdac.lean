import NativeLdac.Agent.Lifecycle
import NativeLdac.Agent.LifecycleLedger
import NativeLdac.Agent.LifecycleSuspension
import NativeLdac.Agent.Handoff
import NativeLdac.Agent.HandoffSession
import NativeLdac.Agent.Volume
import NativeLdac.Agent.VolumeEcho
import NativeLdac.Agent.VolumeGate
import NativeLdac.Lib.Prog
import NativeLdac.Protocol.Avdtp
import NativeLdac.Protocol.AvdtpPending
import NativeLdac.Protocol.ServiceCapabilities
import NativeLdac.Protocol.AvdtpCourse
import NativeLdac.Protocol.AvdtpNegotiation
import NativeLdac.Agent.SentFrameFade
import NativeLdac.Engine.LdacEncoder
import NativeLdac.Protocol.RtpLdac
import NativeLdac.Agent.PcmSession
import NativeLdac.Agent.PcmSignaling
import NativeLdac.Agent.PcmTransport
import NativeLdac.Agent.PcmRun
import NativeLdac.Agent.PcmLedger
import NativeLdac.Agent.PcmInvariant
import NativeLdac.Agent.PcmSpec
import NativeLdac.Agent.PcmExchange
import NativeLdac.Agent.PcmControl
import NativeLdac.Agent.PcmMedia
import NativeLdac.Agent.PcmPause
import NativeLdac.Agent.PcmStream
import NativeLdac.Agent.PcmReport
import NativeLdac.Protocol.SinkSearch
import NativeLdac.Protocol.SinkConversation
import NativeLdac.Agent.TransportDiscovery
import NativeLdac.Agent.PassThrough
import NativeLdac.Agent.AvrcpMapper
import NativeLdac.Agent.AvrcpMapperGates
import NativeLdac.Agent.AvrcpMapperSends
import NativeLdac.Agent.AvrcpExecutor
import NativeLdac.Agent.AvrcpFilterHost
import NativeLdac.Agent.AvrcpObserverHost
import NativeLdac.Agent.AvrcpRetries
import NativeLdac.Agent.AvrcpRetryRuns
import NativeLdac.Agent.AvrcpFrames
import NativeLdac.Agent.AvrcpHeadsetAuthority
import NativeLdac.Agent.AvrcpBootstrap
import NativeLdac.Agent.AvrcpFilterRecovery
import NativeLdac.Agent.TrialState
import NativeLdac.Agent.RenderDemand
import NativeLdac.Agent.EndpointSink
import NativeLdac.Agent.EngineReadyHost
import NativeLdac.Agent.ContainedEngine
import NativeLdac.Agent.EngineLease
import NativeLdac.Protocol.Avrcp
import NativeLdac.Protocol.AvrcpPlayback
import NativeLdac.Protocol.AvrcpTransactions
import NativeLdac.Sideband.EventQueue
import NativeLdac.Sideband.EventFidelity
import NativeLdac.Sideband.AnswerEffect
import NativeLdac.Agent.AvrcpObserverLease
import NativeLdac.Sideband.QueuedHost
import NativeLdac.Sideband.StalePress
import NativeLdac.Agent.AvrcpObserverConfined
import NativeLdac.Agent.AvrcpObserverRecovery
import NativeLdac.Sideband.WriteGate
import NativeLdac.Sideband.StrandedWrite
import NativeLdac.Lib.CircularBuffer
import NativeLdac.Endpoint.PcmRing
import NativeLdac.Endpoint.RenderPosition
import NativeLdac.Agent.HandoffIpc
import NativeLdac.Lib.Slots
import NativeLdac.Transport.Connection
import NativeLdac.Transport.Driver
import NativeLdac.Transport.Requests
import NativeLdac.Transport.Accounting
import NativeLdac.Transport.ShutdownWait
import NativeLdac.Transport.Rundown
import NativeLdac.Transport.Ownership
import NativeLdac.Transport.Listening
import NativeLdac.Endpoint.PcmOwner
import NativeLdac.Agent.HfpSwitch
import NativeLdac.Agent.HfpLifecycle
import NativeLdac.Agent.LifecycleFault
import NativeLdac.Agent.VolumeRace
import NativeLdac.Lib.Stamps
import NativeLdac.Agent.PassThroughDecisions
import NativeLdac.Sideband.EventRing
import NativeLdac.Sideband.EventHistory
import NativeLdac.DirectPdo.SignalingOwner
import NativeLdac.DirectPdo.SignalingConsistency
import NativeLdac.DirectPdo.ChannelBalance
import NativeLdac.Agent.AvrcpControl
import NativeLdac.Agent.AvrcpSessions
import NativeLdac.Agent.GainFailSafe
import NativeLdac.DirectPdo.Session
import NativeLdac.DirectPdo.Dispatch
import NativeLdac.DirectPdo.OrderlyStop
import NativeLdac.DirectPdo.Convergence
import NativeLdac.DirectPdo.Arbiter
import NativeLdac.DirectPdo.InterfaceOwner
import NativeLdac.DirectPdo.IndicationOwner
import NativeLdac.DirectPdo.TransferOwner
import NativeLdac.DirectPdo.OpenChannel
import NativeLdac.DirectPdo.OpenRequestAccount
import NativeLdac.DirectPdo.OpenCoherence
import NativeLdac.DirectPdo.OpenSections
import NativeLdac.DirectPdo.CloseSections
import NativeLdac.DirectPdo.OpenAccounting
import NativeLdac.DirectPdo.Dispatcher
import NativeLdac.DirectPdo.Worker
import NativeLdac.DirectPdo.FailureReason
import NativeLdac.DirectPdo.RenderGrant
import NativeLdac.DirectPdo.Recovery
import NativeLdac.DirectPdo.ChannelLoss
import NativeLdac.DirectPdo.StaleDisconnect
import NativeLdac.DirectPdo.Diagnostic
import NativeLdac.Protocol.VendorFrame
import NativeLdac.Protocol.AvrcpAnswers
import NativeLdac.Protocol.AvrcpReports
import NativeLdac.DirectPdo.AvrcpControl
import NativeLdac.Engine.AbrController
import NativeLdac.Agent.SentFrameRuns
import NativeLdac.Agent.LinkedStereoLimiter
import NativeLdac.Agent.DailyConfig
import NativeLdac.Agent.VolumeObserveLog
import NativeLdac.Agent.VolumeObserveJson
import NativeLdac.Agent.TransportOpenStability
import NativeLdac.Agent.TransportHandshake
import NativeLdac.Agent.TransportConfiguration
import NativeLdac.Agent.TransportSilence
import NativeLdac.Agent.HandoffSessions
import NativeLdac.Agent.LifecycleBudget
import NativeLdac.Agent.VolumeLoop
import NativeLdac.Filter.TraceHistory
import NativeLdac.Protocol.FilterDecoder
import NativeLdac.Engine.NativePcmSource
import NativeLdac.Lib.Json
import NativeLdac.Agent.ObserveSnapshotReader
import NativeLdac.Lib.TextBytes
import NativeLdac.Agent.AgentConfigReader
import NativeLdac.Agent.UiAgentConfig
import NativeLdac.Agent.AgentConfigAgreement
import NativeLdac.Agent.AvrcpFeedback
import NativeLdac.Agent.PassThroughRepeats
import NativeLdac.DirectPdo.NegotiationLoops
import NativeLdac.Protocol.CapabilityScan
import NativeLdac.Agent.LimiterRelease
import NativeLdac.Sideband.ProtocolErrors
import NativeLdac.Lib.WideText
import NativeLdac.Agent.HandoffStateFile
import NativeLdac.Lib.CommandLine
import NativeLdac.Agent.EngineReadyArguments
import NativeLdac.Agent.RotatingLog
import NativeLdac.DirectPdo.AvdtpTransaction
import NativeLdac.DirectPdo.DiagnosticRuntime
