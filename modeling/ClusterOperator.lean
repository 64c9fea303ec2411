import ClusterOperator.Cluster.Api
import ClusterOperator.Cluster.Client
import ClusterOperator.Cluster.Recorder
import ClusterOperator.Cluster.Remote
import ClusterOperator.Cluster.Script
import ClusterOperator.Disk.Backend
import ClusterOperator.Disk.Claim
import ClusterOperator.Disk.Observed
import ClusterOperator.Disk.Reconcile
import ClusterOperator.Disk.Simulation
import ClusterOperator.Disk.Volume
import ClusterOperator.Duration.Basic
import ClusterOperator.Duration.Parser
import ClusterOperator.Duration.Printer
import ClusterOperator.Entry.Basic
import ClusterOperator.Entry.Configuration
import ClusterOperator.Entry.Kind
import ClusterOperator.Entry.View
import ClusterOperator.Failure
import ClusterOperator.Http.MediaType
import ClusterOperator.Http.Message
import ClusterOperator.Http.Route
import ClusterOperator.Http.Service
import ClusterOperator.Http.Target
import ClusterOperator.Json.Breach
import ClusterOperator.Json.Decode
import ClusterOperator.Json.Numeral
import ClusterOperator.Json.Outline
import ClusterOperator.Json.Place
import ClusterOperator.Json.Problem
import ClusterOperator.Json.Value
import ClusterOperator.Main
import ClusterOperator.Metadata
import ClusterOperator.Number.Binary64
import ClusterOperator.Text.Basic
import ClusterOperator.Number.Shortest
import ClusterOperator.Program
import ClusterOperator.Proofs.Interleaving
import ClusterOperator.Proofs.Store.Attempts
import ClusterOperator.Proofs.Store.Contention
import ClusterOperator.Proofs.Store.Operation
import ClusterOperator.Proofs.Store.Sequential
import ClusterOperator.Request.Backup
import ClusterOperator.Request.Kind
import ClusterOperator.Request.Restore
import ClusterOperator.Request.Schedule
import ClusterOperator.Request.Storage
import ClusterOperator.Schema.Basic
import ClusterOperator.Schema.Definition
import ClusterOperator.Schema.Yaml
import ClusterOperator.Settings
import ClusterOperator.Store.Faults
import ClusterOperator.Store.Memory
import ClusterOperator.Store.Operations
import ClusterOperator.Store.Repository
import ClusterOperator.Text.Quoted
import ClusterOperator.Text.Utf8
import ClusterOperator.Timestamp
import ClusterOperator.Validation.Address
import ClusterOperator.Validation.Cron
import ClusterOperator.Validation.Name
import ClusterOperator.Validation.Namespaces
import ClusterOperator.Validation.Violation
import ClusterOperator.Proofs.Store.Overtaking
import ClusterOperator.Proofs.Number.Digits
import ClusterOperator.Proofs.Store.Linearization
import ClusterOperator.Proofs.Duration.RoundTrip
import ClusterOperator.Proofs.Validation.Namespaces
import ClusterOperator.Proofs.Request.Asking
import ClusterOperator.Proofs.Store.Entries
import ClusterOperator.Proofs.Store.Validity
import ClusterOperator.Proofs.Http.Session
import ClusterOperator.Proofs.Json.Scalars
import ClusterOperator.Proofs.Json.Reading
import ClusterOperator.Proofs.Json.Records
import ClusterOperator.Proofs.Json.Order
import ClusterOperator.Proofs.Metadata
import ClusterOperator.Proofs.Entry.Stored
import ClusterOperator.Proofs.Disk.Stored
import ClusterOperator.Proofs.Cluster.Object
import ClusterOperator.Proofs.Cluster.Order
import ClusterOperator.Proofs.Duration.Canonical
import ClusterOperator.Proofs.Store.Catalogue
import ClusterOperator.Proofs.Http.Target
import ClusterOperator.Proofs.Cluster.Server
import ClusterOperator.Proofs.Store.Remote
import ClusterOperator.Proofs.Http.Serving
import ClusterOperator.Proofs.Http.Deployments
import ClusterOperator.Proofs.Request.Merging
import ClusterOperator.Proofs.Request.Normal
import ClusterOperator.Proofs.Request.Panicking
import ClusterOperator.Proofs.Http.Outcomes
import ClusterOperator.Proofs.Http.Updating
import ClusterOperator.Proofs.Http.Route
import ClusterOperator.Proofs.Http.Creating
import ClusterOperator.Proofs.Disk.World
import ClusterOperator.Proofs.Disk.Requests
import ClusterOperator.Proofs.Disk.Calls
import ClusterOperator.Proofs.Disk.Recovery
import ClusterOperator.Proofs.Transcript
import ClusterOperator.Proofs.Disk.Discipline
import ClusterOperator.Proofs.Disk.Sharing
import ClusterOperator.Proofs.Disk.Conduct
import ClusterOperator.Proofs.Request.Composing
import ClusterOperator.Proofs.Text.Utf8
import ClusterOperator.Proofs.Request.Completion
import ClusterOperator.Proofs.Http.Transfer
import ClusterOperator.Proofs.Duration.Terms
import ClusterOperator.Proofs.Duration.Overflow
import ClusterOperator.Proofs.Duration.Fractions
import ClusterOperator.Proofs.Request.Restating
import ClusterOperator.Proofs.Http.WritingBack
import ClusterOperator.Proofs.Schema.OpenApi
import ClusterOperator.Proofs.Schema.Yaml
import ClusterOperator.Proofs.Schema.Printed
import ClusterOperator.Proofs.Schema.Admission
import ClusterOperator.Proofs.Duration.Grammar
import ClusterOperator.Proofs.Validation.NamespaceRange
import ClusterOperator.Proofs.Http.Counting
import ClusterOperator.Proofs.Text.Pieces
import ClusterOperator.Proofs.Validation.Cron
import ClusterOperator.Proofs.Store.Versions
import ClusterOperator.Proofs.Validation.DnsName
import ClusterOperator.Proofs.Validation.Locations
