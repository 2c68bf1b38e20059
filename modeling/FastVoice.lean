import FastVoice.CallConcurrency.RateWindow
import FastVoice.CallConcurrency.FleetMirror
import FastVoice.CallConcurrency.RunSlot
import FastVoice.Campaign.OutcomeWindow
import FastVoice.Campaign.CallerId
import FastVoice.Campaign.ClaimExclusion
import FastVoice.Campaign.Lifecycle
import FastVoice.Campaign.Completion
import FastVoice.Campaign.DispatchExit
import FastVoice.Campaign.ProgressCounter
import FastVoice.Campaign.PoolExhaustion
import FastVoice.Campaign.FinalFailures
import FastVoice.Campaign.MetadataWrites
import FastVoice.Campaign.SourceCoverage
import FastVoice.Telephony.DefaultOutbound
import FastVoice.Telephony.StatusLog
import FastVoice.Telephony.StatusRepeats
import FastVoice.Telephony.TransferOutcome
import FastVoice.Telephony.KeptContext
import FastVoice.Webhooks.TerminalStates
import FastVoice.Webhooks.AttemptBound
import FastVoice.TextChat.PendingTurns
import FastVoice.TextChat.Revisions
import FastVoice.TextChat.Rewind
import FastVoice.Workflows.Layout
import FastVoice.Workflows.VersionInvariant
import FastVoice.Workflows.Duplicate
import FastVoice.Configuration.RoundTrip
import FastVoice.Configuration.MigrationRequest
import FastVoice.InboundRouting.RouteRuns
import FastVoice.Engine.OfferedTools
import FastVoice.Engine.CallEnds
import FastVoice.Engine.ExtractionOrder
import FastVoice.Engine.Handlers
import FastVoice.Bridge.MaskedReads
import FastVoice.Transcripts.FactsCommute
import FastVoice.Recordings.RightAudio
import FastVoice.Playback.Cuts
import FastVoice.Quota.FailClosed
import FastVoice.Outbound.InternalAddresses
import FastVoice.Workflows.OwnedContext
import FastVoice.Pipelines.OnePipeline
import FastVoice.Signaling.Isolation
import FastVoice.Embed.Origins
import FastVoice.Embed.VoiceSession
import FastVoice.CallStart.SlotsReturned
import FastVoice.Configuration.MigrationPreserves
import FastVoice.TextChat.InactivitySweeps
import FastVoice.Campaign.BatchLock
import FastVoice.Telephony.AriRefresh
import FastVoice.Telephony.ParkingPolicy
import FastVoice.Telephony.LookupsAgree
import FastVoice.Engine.TransferAnswers
import FastVoice.GenAi.Recovered
import FastVoice.Engine.RequiredVariables
import FastVoice.Engine.UrlTemplates
import FastVoice.PhoneNumbers.Normalization
import FastVoice.Configuration.MaskedKeys
import FastVoice.Integrations.QaExecutions
import FastVoice.Engine.ContextSummarization
import FastVoice.Engine.QueuedSpeech
import FastVoice.Configuration.Leases
import FastVoice.Engine.AggregationCorrection
import FastVoice.PhoneNumbers.Matching
import FastVoice.Engine.Calculator
import FastVoice.Webhooks.RequestLog
import FastVoice.Accounts.Passwords
