import L2Oracle.Base.Run
import L2Oracle.Base.Simulation
import L2Oracle.Base.Mailbox
import L2Oracle.Base.Bytes
import L2Oracle.Base.Struct
import L2Oracle.Base.KeyedList
import L2Oracle.Base.PrefixBy
import L2Oracle.Base.Ring
import L2Oracle.Base.BufferRing
import L2Oracle.Base.Heap
import L2Oracle.Protocol.WireFormat
import L2Oracle.Health.HealthMonitor
import L2Oracle.Health.Spec
import L2Oracle.Health.Run
import L2Oracle.Health.Arrays
import L2Oracle.Health.Detector
import L2Oracle.Health.Automaton
import L2Oracle.Health.History
import L2Oracle.Health.Events
import L2Oracle.Health.RemoteEntries
import L2Oracle.Health.Backing
import L2Oracle.Health.Recovery
import L2Oracle.Health.LogPath
import L2Oracle.Health.Replicas
import L2Oracle.Health.Corroboration
import L2Oracle.Health.Lookups
import L2Oracle.Health.Agreement
import L2Oracle.Health.Tasks
import L2Oracle.Health.Commuting
import L2Oracle.Health.ClockShift
import L2Oracle.Health.Latency
import L2Oracle.Health.Observers
import L2Oracle.Health.Relay
import L2Oracle.Raft.Library
import L2Oracle.Raft.Reference
import L2Oracle.Raft.Oracle
import L2Oracle.Raft.Dispatch
import L2Oracle.Raft.Cluster
import L2Oracle.Raft.Moves
import L2Oracle.Raft.Votes
import L2Oracle.Raft.Election
import L2Oracle.Raft.LogSafety
import L2Oracle.Raft.Bridge
import L2Oracle.Raft.Statuses
import L2Oracle.Raft.Malformed
import L2Oracle.Raft.Sideband
import L2Oracle.Raft.Encoding
import L2Oracle.Raft.Record
import L2Oracle.Raft.EntryData
import L2Oracle.Transport.Ethernet
import L2Oracle.Transport.Simulator
import L2Oracle.Transport.Lengths
import L2Oracle.Transport.LocalNodes
import L2Oracle.Transport.Segment
import L2Oracle.Transport.Receiver
import L2Oracle.Transport.Transmitter
import L2Oracle.Raft.Calls
import L2Oracle.Raft.Frames
import L2Oracle.Raft.Leaders
import L2Oracle.Raft.OneLog
import L2Oracle.Raft.Origins
import L2Oracle.Raft.Announced
import L2Oracle.Raft.Edges
import L2Oracle.App.Board
import L2Oracle.App.Firmware
import L2Oracle.App.Transitions
import L2Oracle.Sim.Threads
import L2Oracle.Tools.HostTools
import L2Oracle.Tools.Sniffer
