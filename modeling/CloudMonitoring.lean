import CloudMonitoring.Collection.Collected
import CloudMonitoring.Collection.Instrument
import CloudMonitoring.Decimal.Layout
import CloudMonitoring.Decimal.Reader
import CloudMonitoring.Decimal.Shortest
import CloudMonitoring.Dict
import CloudMonitoring.Double
import CloudMonitoring.Error
import CloudMonitoring.Export.Call
import CloudMonitoring.Export.Configuration
import CloudMonitoring.Export.Exporter
import CloudMonitoring.Export.Push
import CloudMonitoring.Export.Run
import CloudMonitoring.Export.Strategy
import CloudMonitoring.Http.Host
import CloudMonitoring.Http.Message
import CloudMonitoring.Http.MetadataClient
import CloudMonitoring.Http.MonitoringClient
import CloudMonitoring.Http.Url
import CloudMonitoring.Json
import CloudMonitoring.Json.Reader
import CloudMonitoring.Log.Ceiling
import CloudMonitoring.Log.Condition
import CloudMonitoring.Log.Configuration
import CloudMonitoring.Log.Directive
import CloudMonitoring.Log.Event
import CloudMonitoring.Log.Filter
import CloudMonitoring.Log.Line
import CloudMonitoring.Metric.Aggregation
import CloudMonitoring.Metric.Descriptor
import CloudMonitoring.Metric.IntervalTable
import CloudMonitoring.Metric.Record
import CloudMonitoring.Metric.Series
import CloudMonitoring.Pairs
import CloudMonitoring.Platform.Detection
import CloudMonitoring.Platform.Detector
import CloudMonitoring.Platform.Location
import CloudMonitoring.Platform.Metadata
import CloudMonitoring.Proofs.Aggregation
import CloudMonitoring.Proofs.AnswerIndependence
import CloudMonitoring.Proofs.Calls
import CloudMonitoring.Proofs.CollectedRecords
import CloudMonitoring.Proofs.DatedRuns
import CloudMonitoring.Proofs.DescribedWrites
import CloudMonitoring.Proofs.DetectedOnce
import CloudMonitoring.Proofs.DetectedResource
import CloudMonitoring.Proofs.DoubleValues
import CloudMonitoring.Proofs.ExportLogs
import CloudMonitoring.Proofs.ExportOutcome
import CloudMonitoring.Proofs.Grouping
import CloudMonitoring.Proofs.HeaderText
import CloudMonitoring.Proofs.IntervalContinuity
import CloudMonitoring.Proofs.IntervalHistory
import CloudMonitoring.Proofs.IntervalRequests
import CloudMonitoring.Proofs.LabelResolution
import CloudMonitoring.Proofs.LabelTypes
import CloudMonitoring.Proofs.Labels
import CloudMonitoring.Proofs.Locations
import CloudMonitoring.Proofs.Lookups
import CloudMonitoring.Proofs.MetadataResponse
import CloudMonitoring.Proofs.MetricTypes
import CloudMonitoring.Proofs.Operations
import CloudMonitoring.Proofs.OrderIndependence
import CloudMonitoring.Proofs.ProjectChoice
import CloudMonitoring.Proofs.Registration
import CloudMonitoring.Proofs.RepeatedExport
import CloudMonitoring.Proofs.ResourceIdentity
import CloudMonitoring.Proofs.Runs
import CloudMonitoring.Proofs.SeriesJson
import CloudMonitoring.Proofs.SeriesTypes
import CloudMonitoring.Proofs.ServiceCalls
import CloudMonitoring.Proofs.Settlement
import CloudMonitoring.Proofs.Shutdown
import CloudMonitoring.Proofs.Steps
import CloudMonitoring.Proofs.TimeRange
import CloudMonitoring.Proofs.Timestamps
import CloudMonitoring.Proofs.UnsupportedMetrics
import CloudMonitoring.Proofs.ZoneAgreement
import CloudMonitoring.Resource.Attribute
import CloudMonitoring.Resource.Monitored
import CloudMonitoring.Resource.Platform
import CloudMonitoring.Session
import CloudMonitoring.Text.Alphanumeric
import CloudMonitoring.Text.Blank
import CloudMonitoring.Text.CharSet
import CloudMonitoring.Text.Combining
import CloudMonitoring.Text.Digits
import CloudMonitoring.Text.Pattern
import CloudMonitoring.Text.Pattern.Bracket
import CloudMonitoring.Text.Pattern.Mode
import CloudMonitoring.Text.Pattern.Reader
import CloudMonitoring.Text.Pieces
import CloudMonitoring.Text.Punycode
import CloudMonitoring.Text.Quoted
import CloudMonitoring.Text.Unprintable
import CloudMonitoring.Time.Calendar
import CloudMonitoring.Time.Instant
import CloudMonitoring.Time.Rfc3339
