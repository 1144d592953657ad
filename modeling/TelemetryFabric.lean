import TelemetryFabric.Agent.Quota
import TelemetryFabric.Core.Canonical
import TelemetryFabric.Agent.RecordSize
import TelemetryFabric.Otlp.Logs
import TelemetryFabric.Otlp.Traces
import TelemetryFabric.Otlp.Metrics
import TelemetryFabric.Otlp.Relay
import TelemetryFabric.Buffer.Fifo
import TelemetryFabric.Buffer.Contained
import TelemetryFabric.Buffer.Interrupted
import TelemetryFabric.Buffer.Resume
import TelemetryFabric.Buffer.Stream
import TelemetryFabric.Agent.Delivery
import TelemetryFabric.Agent.Receivers
import TelemetryFabric.Agent.Steering
import TelemetryFabric.ControlPlane.StateFile
import TelemetryFabric.ControlPlane.CommandQueue
import TelemetryFabric.ControlPlane.ReadBack
import TelemetryFabric.Agent.Drained
import TelemetryFabric.ControlPlane.CommandLife
import TelemetryFabric.ControlPlane.LastCommand
import TelemetryFabric.ControlPlane.Tenants
import TelemetryFabric.ControlPlane.Publishing
import TelemetryFabric.ControlPlane.AgentTable
import TelemetryFabric.ControlPlane.JsonPipeline
import TelemetryFabric.ControlPlane.Responses
import TelemetryFabric.ControlPlane.Rollout
import TelemetryFabric.Processors.Again
import TelemetryFabric.Agent.RetryExport
import TelemetryFabric.Agent.TwoFlushes
import TelemetryFabric.Agent.Routing
import TelemetryFabric.ControlPlane.CommandStores
import TelemetryFabric.Agent.HttpHandler
import TelemetryFabric.ControlPlane.HttpControl
import TelemetryFabric.Buffer.Covered
import TelemetryFabric.ControlPlane.AgentStatus
import TelemetryFabric.ControlPlane.AuditLog
import TelemetryFabric.ControlPlane.Snapshot
import TelemetryFabric.ControlPlane.FailedOperations
import TelemetryFabric.Processors.RateLimit
import TelemetryFabric.Processors.Redaction
import TelemetryFabric.Exporters.Snappy
import TelemetryFabric.Library.Ascii
import TelemetryFabric.Exporters.Labels
import TelemetryFabric.Exporters.Prometheus
import TelemetryFabric.Exporters.LabelSets
import TelemetryFabric.Exporters.Histogram
import TelemetryFabric.Buffer.Ending
import TelemetryFabric.Buffer.FailedCommit
import TelemetryFabric.Buffer.DrainModes
import TelemetryFabric.Agent.Sha256
import TelemetryFabric.ControlPlane.SignedUpdates
import TelemetryFabric.Library.Folds
import TelemetryFabric.Buffer.Checksum
import TelemetryFabric.Otlp.SpanIds
import TelemetryFabric.Library.JsonStandard
import TelemetryFabric.ControlPlane.AgentBodies
import TelemetryFabric.Library.Refusals
import TelemetryFabric.ControlPlane.PipelineRequests
import TelemetryFabric.ControlPlane.RequestHandlers
import TelemetryFabric.ControlPlane.ClientErrors
import TelemetryFabric.ControlPlane.CommandLeases
import TelemetryFabric.ControlPlane.Replies
