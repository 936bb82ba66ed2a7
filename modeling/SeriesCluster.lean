import SeriesCluster.Binary64.Basic
import SeriesCluster.Binary64.Shortest
import SeriesCluster.Checksum.Crc32
import SeriesCluster.Cluster.Mapping
import SeriesCluster.Cluster.Network
import SeriesCluster.Cluster.Nodes
import SeriesCluster.Cluster.Pool
import SeriesCluster.Cluster.Query
import SeriesCluster.Cluster.Routing
import SeriesCluster.Cluster.Service
import SeriesCluster.Cluster.Writer
import SeriesCluster.Config
import SeriesCluster.Consensus.Basic
import SeriesCluster.Consensus.Entry
import SeriesCluster.Error
import SeriesCluster.Group.Api
import SeriesCluster.Group.Basic
import SeriesCluster.Group.Client
import SeriesCluster.Group.Identity
import SeriesCluster.Group.Lifecycle
import SeriesCluster.Group.Member
import SeriesCluster.Group.Message
import SeriesCluster.Http.MediaType
import SeriesCluster.Http.Message
import SeriesCluster.Http.Query
import SeriesCluster.Json.Codec
import SeriesCluster.Json.Reader
import SeriesCluster.Json.Value
import SeriesCluster.Json.Writer
import SeriesCluster.Log.Record
import SeriesCluster.Log.Store
import SeriesCluster.Logging
import SeriesCluster.Net.Catalog
import SeriesCluster.Net.Frame
import SeriesCluster.Net.Message
import SeriesCluster.Net.Mux
import SeriesCluster.Pattern.Basic
import SeriesCluster.Pattern.Meaning
import SeriesCluster.Pattern.Reader
import SeriesCluster.Pattern.Size
import SeriesCluster.Pattern.Syntax
import SeriesCluster.Proofs.Log.TornTail
import SeriesCluster.Proofs.Replica.Snapshot
import SeriesCluster.Proofs.Topology.Accepted
import SeriesCluster.Proofs.Topology.Groups
import SeriesCluster.Proofs.Topology.IdPool
import SeriesCluster.Proofs.Topology.Intervals
import SeriesCluster.Proofs.Topology.NodeIds
import SeriesCluster.Proofs.Topology.Policies
import SeriesCluster.Proofs.Topology.ShardIds
import SeriesCluster.Proofs.Topology.UpdateFirst
import SeriesCluster.Replica.Basic
import SeriesCluster.Replica.Snapshot
import SeriesCluster.Series.DataType
import SeriesCluster.Series.Point
import SeriesCluster.Series.Query
import SeriesCluster.SortedMap
import SeriesCluster.Storage.Place
import SeriesCluster.Store.Basic
import SeriesCluster.Store.Engine
import SeriesCluster.Store.Read
import SeriesCluster.Stream.Basic
import SeriesCluster.Stream.Remote
import SeriesCluster.Text.Blank
import SeriesCluster.Text.Bytes
import SeriesCluster.Text.Integer
import SeriesCluster.Text.Quoted
import SeriesCluster.Time.Duration
import SeriesCluster.Time.DurationText
import SeriesCluster.Time.Range
import SeriesCluster.Topology.Apply
import SeriesCluster.Topology.Basic
import SeriesCluster.Topology.Command
import SeriesCluster.Topology.InPlace
import SeriesCluster.Topology.Lookup
import SeriesCluster.Unicode.Age
import SeriesCluster.Unicode.Case
import SeriesCluster.Unicode.Category
import SeriesCluster.Unicode.CodeSet
import SeriesCluster.Unicode.Division
import SeriesCluster.Unicode.Lookup
import SeriesCluster.Unicode.Property
import SeriesCluster.Unicode.Script
import SeriesCluster.Proofs.Topology.InPlace
import SeriesCluster.Proofs.Stream.Pulls
import SeriesCluster.Proofs.Stream.Gives
import SeriesCluster.Proofs.Stream.Merge
import SeriesCluster.Proofs.Stream.Failures
import SeriesCluster.Proofs.Net.Frame
import SeriesCluster.Proofs.Net.Message
import SeriesCluster.Proofs.Net.Reading
import SeriesCluster.Proofs.Stream.Remote
import SeriesCluster.Proofs.Store.Read
import SeriesCluster.Proofs.Store.Write
import SeriesCluster.Proofs.Cluster.Routing
import SeriesCluster.Proofs.Cluster.Mapping
import SeriesCluster.Proofs.Cluster.Service
import SeriesCluster.Proofs.Cluster.Query
import SeriesCluster.Proofs.Cluster.Forward
import SeriesCluster.Proofs.Cluster.Received
import SeriesCluster.Proofs.Cluster.Pool
import SeriesCluster.Proofs.Cluster.Permits
import SeriesCluster.Proofs.Store.Series
import SeriesCluster.Proofs.Topology.Owners
import SeriesCluster.Proofs.Storage.Interrupted
import SeriesCluster.Proofs.Log.Crash
import SeriesCluster.Proofs.Replica.Session
import SeriesCluster.Proofs.Replica.Position
import SeriesCluster.Proofs.Topology.Resubmission
import SeriesCluster.Proofs.Replica.Published
import SeriesCluster.Proofs.Topology.Commands
import SeriesCluster.Proofs.Topology.MetaNodes
import SeriesCluster.Proofs.Group.Voters
import SeriesCluster.Proofs.Group.Leading
import SeriesCluster.Proofs.Group.Acting
import SeriesCluster.Proofs.Group.Removal
import SeriesCluster.Proofs.Group.Calls
import SeriesCluster.Proofs.Group.Founding
import SeriesCluster.Proofs.Group.Listed
import SeriesCluster.Proofs.Topology.Databases
import SeriesCluster.Proofs.Topology.WellFormed
import SeriesCluster.Proofs.Topology.Addressed
import SeriesCluster.Proofs.Topology.Placement
import SeriesCluster.Proofs.Topology.NewGroup
import SeriesCluster.Proofs.Topology.Words
import SeriesCluster.Proofs.Topology.Coverage
import SeriesCluster.Proofs.Topology.InRange
import SeriesCluster.Proofs.Cluster.Placed
import SeriesCluster.Proofs.Cluster.Resolution
import SeriesCluster.Proofs.Cluster.Sources
import SeriesCluster.Proofs.Cluster.Pinned
import SeriesCluster.Proofs.Cluster.Labels
import SeriesCluster.Proofs.Stream.Stable
import SeriesCluster.Proofs.Stream.Regroup
import SeriesCluster.Proofs.Store.Filed
import SeriesCluster.Proofs.Store.Plain
import SeriesCluster.Proofs.Store.Limit
import SeriesCluster.Proofs.Store.Dimensions
import SeriesCluster.Proofs.Cluster.Dimensions
import SeriesCluster.Proofs.Store.Types
import SeriesCluster.Proofs.Store.Cost
import SeriesCluster.Proofs.Log.WholeRecords
import SeriesCluster.Proofs.Stream.Closing
