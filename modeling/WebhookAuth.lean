import WebhookAuth.Config.Environment
import WebhookAuth.Gateway.Cgi
import WebhookAuth.Gateway.Chunked
import WebhookAuth.Proofs.BodyForwarding
import WebhookAuth.Proofs.Verdicts
import WebhookAuth.Proofs.Durations
import WebhookAuth.Proofs.Interchange
import WebhookAuth.Proofs.Overtaking
import WebhookAuth.Proofs.Presentation
import WebhookAuth.Proofs.Replay
import WebhookAuth.Proofs.Replies
import WebhookAuth.Proofs.SignedDelivery
import WebhookAuth.SignedHeaders
import WebhookAuth.Store.Selection
import WebhookAuth.Proofs.Ledger
import WebhookAuth.Proofs.Secrecy
import WebhookAuth.Proofs.TagSpelling
import WebhookAuth.Proofs.UnixTime
import WebhookAuth.Proofs.IsoRoundTrip
import WebhookAuth.Proofs.BlankHeaders
import WebhookAuth.Proofs.Rounding
import WebhookAuth.Proofs.TimeToLive
import WebhookAuth.Proofs.SendSeconds
import WebhookAuth.Proofs.HeaderChanges
import WebhookAuth.Proofs.ReferenceTimes
import WebhookAuth.Proofs.ConnectionStrings
import WebhookAuth.Proofs.DecisionHeader
import WebhookAuth.Proofs.LogLines
import WebhookAuth.Proofs.EnvironmentVariables
import WebhookAuth.Proofs.HeaderNormalization
