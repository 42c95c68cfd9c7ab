import Ros2Dispatcher.Controller.NeverBusy
import Ros2Dispatcher.Controller.ToolNames
import Ros2Dispatcher.Controller.ToolParameters
import Ros2Dispatcher.Fleet.Bookkeeping
import Ros2Dispatcher.Fleet.Reporting
import Ros2Dispatcher.Fleet.Ordering
import Ros2Dispatcher.Fleet.Convergence
import Ros2Dispatcher.Fleet.MissingSinks
import Ros2Dispatcher.Fleet.Discovery
import Ros2Dispatcher.Fleet.Handover
import Ros2Dispatcher.Fleet.Explanations
import Ros2Dispatcher.Fleet.Reapplying
import Ros2Dispatcher.Fleet.Refusals
import Ros2Dispatcher.Fleet.Limits
import Ros2Dispatcher.Fleet.Validation
import Ros2Dispatcher.Introspection.Monitor
import Ros2Dispatcher.Introspection.HiddenTopics
import Ros2Dispatcher.KafkaClient.Accounting
import Ros2Dispatcher.KafkaClient.BackOff
import Ros2Dispatcher.KafkaClient.SendOrder
import Ros2Dispatcher.Sinks.Release
import Ros2Dispatcher.Sinks.Rejection
import Ros2Dispatcher.Consumers.Configuration
import Ros2Dispatcher.Consumers.ThreadLifetime
import Ros2Dispatcher.Consumers.Conversion
import Ros2Dispatcher.Consumers.Latencies
import Ros2Dispatcher.Consumers.TopicMappings
import Ros2Dispatcher.Consumers.MetricsText
import Ros2Dispatcher.Records.CdrPath
import Ros2Dispatcher.Records.Formats
import Ros2Dispatcher.Records.RelayOrder
import Ros2Dispatcher.Sinks.Reconfiguration
import Ros2Dispatcher.Sinks.TopicLists
import Ros2Dispatcher.Sinks.Totals
import Ros2Dispatcher.Sinks.Mirroring
import Ros2Dispatcher.Sinks.Throttling
import Ros2Dispatcher.Metrics.NodeDeltas
import Ros2Dispatcher.Sinks.Envelope
import Ros2Dispatcher.Messages.Serialization
import Ros2Dispatcher.Messages.FrameId
import Ros2Dispatcher.Sinks.Payloads
import Ros2Dispatcher.Sinks.Refinement
import Ros2Dispatcher.GisHealth.Lives
import Ros2Dispatcher.Gui.TopicList
import Ros2Dispatcher.MockServer.WellFormed
import Ros2Dispatcher.MockServer.Offsets
import Ros2Dispatcher.MockServer.Chunks
