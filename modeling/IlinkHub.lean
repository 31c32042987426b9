import IlinkHub.A2aConversation
import IlinkHub.A2aDisclosure
import IlinkHub.A2aGuest
import IlinkHub.A2aRollback
import IlinkHub.ContextRace
import IlinkHub.ContextRuns
import IlinkHub.DeleteRace
import IlinkHub.FooterRoundTrip
import IlinkHub.HealthRace
import IlinkHub.HubIntegrity
import IlinkHub.HubProvenance
import IlinkHub.HubVisibility
import IlinkHub.LoopbackAddr
import IlinkHub.MentionPayload
import IlinkHub.MigrationReferences
import IlinkHub.Ownership
import IlinkHub.PairHub
import IlinkHub.PairingLimits
import IlinkHub.PollHistory
import IlinkHub.PollTracker
import IlinkHub.ProfileSave
import IlinkHub.QrStream
import IlinkHub.QuoteContent
import IlinkHub.RateLimitClock
import IlinkHub.RateLimitTuning
import IlinkHub.RedactUrl
import IlinkHub.RegisterConflict
import IlinkHub.RelayBounds
import IlinkHub.RelayEntries
import IlinkHub.RelayLimits
import IlinkHub.RelayPath
import IlinkHub.RelayTimestamp
import IlinkHub.ReplyAddress
import IlinkHub.ReplyIds
import IlinkHub.Retention
import IlinkHub.SqlitePath
import IlinkHub.SseTickets
import IlinkHub.StatusEntries
import IlinkHub.UpstreamLoop
