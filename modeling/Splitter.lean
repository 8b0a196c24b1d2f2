import Splitter.Lib.Fold
import Splitter.Lib.HashMap
import Splitter.Lib.Machine
import Splitter.Lib.Broadcast
import Splitter.Cluster.Refine
import Splitter.Driver.Exit
import Splitter.Driver.Shutdown
import Splitter.Dispatcher.Router
import Splitter.Dispatcher.Teardown
import Splitter.Processor.Drain
import Splitter.Node.Incarnations
import Splitter.Node.Handover
import Splitter.Cluster.Lookup
import Splitter.Routing.Pool
import Splitter.Routing.Resolver
import Splitter.Dispatcher.PoolSync
import Splitter.Driver.Instructions
import Splitter.Processor.TryHandle
import Splitter.Driver.Independence
import Splitter.Driver.Lease
import Splitter.Node.Shadow
import Splitter.Driver.Replay
import Splitter.Node.Table
import Splitter.Driver.Versions
import Splitter.Node.Users
import Splitter.Node.Lifecycle
import Splitter.Node.Payload
import Splitter.Processor.Expiry
import Splitter.Processor.SelfClosed
import Splitter.Node.Silence
import Splitter.Node.Timer
import Splitter.Driver.Panic
import Splitter.Driver.Duplicate
import Splitter.Routing.Advertised
import Splitter.Cluster.Freshness
import Splitter.Processor.Undrained
import Splitter.Node.Graceful
import Splitter.Lib.Preference
import Splitter.Lib.Intervals
import Splitter.Cluster.Preference
import Splitter.Cluster.Coverage
import Splitter.Cluster.Partition
import Splitter.Lib.Backoff
import Splitter.Error
import Splitter.Retry.Loop
import Splitter.Retry.Schedule
import Splitter.Routing.Proxy
import Splitter.Retry.Overflow
import Splitter.Lib.Numeral
import Splitter.UuidText
import Splitter.Timestamp
import Splitter.Cluster.UuidRange
import Splitter.WireRoundTrip
import Splitter.Latch
import Splitter.Node.Registry
import Splitter.Node.Fleet
import Splitter.Driver.Heartbeat
import Splitter.Node.Stream
import Splitter.Driver.Helpers
import Splitter.Node.Release
import Splitter.Node.Lapse
import Splitter.Routing.Moved
import Splitter.Dispatcher.Chain
import Splitter.Processor.Recording
import Splitter.Node.Leasing
import Splitter.Node.Service
import Splitter.Node.OneFilter
import Splitter.Dispatcher.Forwarding
