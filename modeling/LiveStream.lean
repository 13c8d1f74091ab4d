import LiveStream.Boundary.RoundTrip
import LiveStream.Boundary.EffectFacts
import LiveStream.Boundary.AnswerRuns
import LiveStream.Boundary.RecoveryEvidence
import LiveStream.Boundary.Admission
import LiveStream.Fallback.Controller
import LiveStream.Fallback.StartRule
import LiveStream.Fallback.UtcIndependence
import LiveStream.Fallback.FactsAge
import LiveStream.Fallback.OffsetBounds
import LiveStream.Fallback.CauseRuns
import LiveStream.Maintenance.Runs
import LiveStream.Maintenance.Exclusion
import LiveStream.Maintenance.Release
import LiveStream.Recovery.OneRequest
import LiveStream.Recovery.Audited
import LiveStream.Recovery.Stalls
import LiveStream.Audit.Kept
import LiveStream.Delivery.Rejections
import LiveStream.Delivery.PacketReads
import LiveStream.Dispatch.Runs
import LiveStream.Notify.OutboxRuns
import LiveStream.Notify.GatewayRuns
import LiveStream.Notify.MaintenanceLease
import LiveStream.Monitoring.RollingRuns
import LiveStream.Monitoring.IncidentReplay
import LiveStream.Monitoring.PublicationRuns
import LiveStream.Forward.Renewals
import LiveStream.Watchers.QuotaRuns
import LiveStream.Observation.ContinuityRuns
import LiveStream.Observation.RenewalVerdicts
import LiveStream.Observation.ClockRuns
import LiveStream.Evidence.SameUrlRefill
import LiveStream.Upload.SamplerRuns
import LiveStream.Reception.GuardRuns
import LiveStream.Upload.ReplicaRuns
import LiveStream.Watchers.UrlPreservation
import LiveStream.Backup.Restore
import LiveStream.Projection.Replay
import LiveStream.Publishing.Runs
import LiveStream.Relay.GuardRuns
import LiveStream.Twitch.DailyRuns
