import PodIsolation.Address.Cidr
import PodIsolation.Address.IPv4
import PodIsolation.Address.IPv6
import PodIsolation.Address.Socket
import PodIsolation.Buckets
import PodIsolation.Cluster.Api
import PodIsolation.Cluster.Source
import PodIsolation.CommandLine
import PodIsolation.Controller.Basic
import PodIsolation.Controller.Metrics
import PodIsolation.Dialogue
import PodIsolation.Discovery
import PodIsolation.Distinct
import PodIsolation.Endpoint.Basic
import PodIsolation.Endpoint.Index
import PodIsolation.Filter.Call
import PodIsolation.Filter.Table
import PodIsolation.HostPath
import PodIsolation.Iptables.Command
import PodIsolation.Iptables.Driver
import PodIsolation.Json.Basic
import PodIsolation.Json.Draft
import PodIsolation.Json.Number
import PodIsolation.Json.Parser
import PodIsolation.Json.Printer
import PodIsolation.Json.Reader
import PodIsolation.LogFilter
import PodIsolation.Main
import PodIsolation.Netns
import PodIsolation.Number.Binary64
import PodIsolation.Number.Shortest
import PodIsolation.PodNetwork
import PodIsolation.Policy.Compile
import PodIsolation.Policy.Index
import PodIsolation.Policy.Peer
import PodIsolation.Program
import PodIsolation.Provision.Basic
import PodIsolation.Rehearsal.Cluster
import PodIsolation.Rehearsal.Command
import PodIsolation.Rehearsal.Feed
import PodIsolation.Rehearsal.Kernel
import PodIsolation.Rehearsal.Session
import PodIsolation.Resource.Endpoint
import PodIsolation.Resource.Metadata
import PodIsolation.Resource.Pod
import PodIsolation.Resource.Pod.Container
import PodIsolation.Resource.Pod.Part
import PodIsolation.Resource.Pod.Placement
import PodIsolation.Resource.Pod.Status
import PodIsolation.Resource.Pod.Volume
import PodIsolation.Resource.Policy
import PodIsolation.Resource.Selector
import PodIsolation.Rule.Basic
import PodIsolation.Rule.Chain
import PodIsolation.Shutdown
import PodIsolation.SortedMap
import PodIsolation.StringSet
import PodIsolation.Text.Alphabetic
import PodIsolation.Text.Blank
import PodIsolation.Text.Combining
import PodIsolation.Text.Duration
import PodIsolation.Text.Letters
import PodIsolation.Text.Numeral
import PodIsolation.Text.Pattern
import PodIsolation.Text.Quoted
import PodIsolation.Text.Ranges
import PodIsolation.Text.Timestamp
import PodIsolation.Text.Unprintable
import PodIsolation.Text.Utf8
import PodIsolation.Watch.Basic
import PodIsolation.Watch.Error
import PodIsolation.Watch.Timed
import PodIsolation.Proofs.AddressText
import PodIsolation.Proofs.AnsweredRun
import PodIsolation.Proofs.BoundedRetry
import PodIsolation.Proofs.CallAccount
import PodIsolation.Proofs.ChainContents
import PodIsolation.Proofs.ChainFailure
import PodIsolation.Proofs.ChainStructure
import PodIsolation.Proofs.ChainTraversal
import PodIsolation.Proofs.CheckedChange
import PodIsolation.Proofs.CommandRun
import PodIsolation.Proofs.Compilation
import PodIsolation.Proofs.CompletedRun
import PodIsolation.Proofs.ConcurrentRuns
import PodIsolation.Proofs.ControllerRun
import PodIsolation.Proofs.Convergence
import PodIsolation.Proofs.CounterShares
import PodIsolation.Proofs.CurrentVerdict
import PodIsolation.Proofs.DiscardedEvaluations
import PodIsolation.Proofs.EndpointAddress
import PodIsolation.Proofs.EnteredNamespaces
import PodIsolation.Proofs.EvaluationBound
import PodIsolation.Proofs.FailFast
import PodIsolation.Proofs.FaultlessRun
import PodIsolation.Proofs.FaultyRun
import PodIsolation.Proofs.GuardedRun
import PodIsolation.Proofs.IndexScan
import PodIsolation.Proofs.InstalledRules
import PodIsolation.Proofs.Isolation
import PodIsolation.Proofs.LaneInvariant
import PodIsolation.Proofs.ListingOrder
import PodIsolation.Proofs.ListingRequests
import PodIsolation.Proofs.ListingScan
import PodIsolation.Proofs.MapLookup
import PodIsolation.Proofs.MarkHistory
import PodIsolation.Proofs.MetadataRoundTrip
import PodIsolation.Proofs.NamespaceFrame
import PodIsolation.Proofs.NamespaceProjection
import PodIsolation.Proofs.NoWidening
import PodIsolation.Proofs.ObjectReading
import PodIsolation.Proofs.PacketVerdict
import PodIsolation.Proofs.PeerResolution
import PodIsolation.Proofs.PeerSelection
import PodIsolation.Proofs.PolicyResync
import PodIsolation.Proofs.PortSpelling
import PodIsolation.Proofs.ReadiedChains
import PodIsolation.Proofs.RecordReading
import PodIsolation.Proofs.Reevaluation
import PodIsolation.Proofs.RehearsedRun
import PodIsolation.Proofs.ResourceRoundTrip
import PodIsolation.Proofs.RuleArguments
import PodIsolation.Proofs.RuleFailure
import PodIsolation.Proofs.RunFootprint
import PodIsolation.Proofs.SelectorCoverage
import PodIsolation.Proofs.SelectorReduction
import PodIsolation.Proofs.SessionRun
import PodIsolation.Proofs.TimestampText
import PodIsolation.Proofs.TrailingRejection
import PodIsolation.Proofs.WatchDelivery
import PodIsolation.Proofs.WatchInvariant
import PodIsolation.Proofs.WatchSchedule
import PodIsolation.Proofs.WatchSystem
import PodIsolation.Proofs.WholeDocuments
import PodIsolation.Proofs.ConservedMetrics
