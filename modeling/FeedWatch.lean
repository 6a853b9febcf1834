import FeedWatch.Api.Post
import FeedWatch.Api.Url
import FeedWatch.Clock
import FeedWatch.HealthLoop
import FeedWatch.Json.Feed
import FeedWatch.Json.Position
import FeedWatch.Service
import FeedWatch.SessionId
import FeedWatch.Proofs.Calls
import FeedWatch.Proofs.Coherence
import FeedWatch.Proofs.DelayOver
import FeedWatch.Proofs.Delivery
import FeedWatch.Proofs.Disabled
import FeedWatch.Proofs.EventReplays
import FeedWatch.Proofs.Failures
import FeedWatch.Proofs.FirstRecovery
import FeedWatch.Proofs.JsonRoundTrip
import FeedWatch.Proofs.LastAttempt
import FeedWatch.Proofs.LastWrites
import FeedWatch.Proofs.LateAnswer
import FeedWatch.Proofs.Opening
import FeedWatch.Proofs.Outages
import FeedWatch.Proofs.Overflow
import FeedWatch.Proofs.Period
import FeedWatch.Proofs.Progress
import FeedWatch.Proofs.RecoveryStart
import FeedWatch.Proofs.RefusedRecovery
import FeedWatch.Proofs.RetryPolicy
import FeedWatch.Proofs.Return
import FeedWatch.Proofs.ScopeCoverage
import FeedWatch.Proofs.ScopeLists
import FeedWatch.Proofs.Silence
import FeedWatch.Proofs.StatusStream
import FeedWatch.Proofs.SystemAlive
import FeedWatch.Proofs.Ticks
import FeedWatch.Proofs.UrnRoundTrip
