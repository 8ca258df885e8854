import Rdpulse.Foundation.Execution
import Rdpulse.Foundation.Threads
import Rdpulse.Foundation.Locks
import Rdpulse.Foundation.Budgets
import Rdpulse.Foundation.Traces
import Rdpulse.Foundation.Bytes
import Rdpulse.Foundation.Sha256
import Rdpulse.Foundation.Pipes
import Rdpulse.Foundation.Splices
import Rdpulse.Foundation.Endings
import Rdpulse.Protocol.TCP
import Rdpulse.TCP.Proxy
import Rdpulse.TCP.Program
import Rdpulse.TCP.Tunnels
import Rdpulse.TCP.Steps
import Rdpulse.TCP.Delivery
import Rdpulse.TCP.Teardown
import Rdpulse.Path.Manager
import Rdpulse.Path.Effects
import Rdpulse.Path.Upgrade
import Rdpulse.Path.SendUDP
import Rdpulse.Path.PunchOwnership
import Rdpulse.Path.SendProgress
import Rdpulse.Path.SingleCopy
import Rdpulse.Path.Receiver
import Rdpulse.Agent.P2PSessions
import Rdpulse.Punch.TCPAuth
import Rdpulse.Punch.TCPAgreement
import Rdpulse.TLSMux.Frame
import Rdpulse.TLSMux.Session
import Rdpulse.TLSMux.Program
import Rdpulse.TLSMux.Effects
import Rdpulse.TLSMux.Link
import Rdpulse.TLSMux.Wire
import Rdpulse.TLSMux.Table
import Rdpulse.TLSMux.Calls
import Rdpulse.TLSMux.Conformance
import Rdpulse.TLSMux.Objects
import Rdpulse.TLSMux.Streams
import Rdpulse.TLSMux.Sending
import Rdpulse.TLSMux.Integrity
import Rdpulse.TLSMux.Receiving
import Rdpulse.TLSMux.EndOfStream
import Rdpulse.TLSMux.Isolation
import Rdpulse.TLSMux.Closing
import Rdpulse.Protocol.P2PData
import Rdpulse.Protocol.UDP
import Rdpulse.UDP.Fragment
import Rdpulse.Foundation.ReceiveLog
import Rdpulse.UDP.Replay
import Rdpulse.UDP.Reassembly
import Rdpulse.UDP.Delivery
import Rdpulse.Path.DirectUDP
import Rdpulse.Path.Authenticity
import Rdpulse.Protocol.Control
import Rdpulse.Storage.Database
import Rdpulse.Storage.Enrollment
import Rdpulse.Foundation.TwoWay
import Rdpulse.Relay.PortManager
import Rdpulse.Relay.PortStore
import Rdpulse.Relay.PortHistory
import Rdpulse.Path.AddrPort
import Rdpulse.Signaling.Coordinator
import Rdpulse.Signaling.Sessions
import Rdpulse.Signaling.Steps
import Rdpulse.Relay.AgentManager
import Rdpulse.Relay.Handler
import Rdpulse.Relay.Program
import Rdpulse.Relay.HandlerStages
import Rdpulse.Relay.OnlineTables
import Rdpulse.Relay.Disabling
import Rdpulse.Relay.PortTables
import Rdpulse.Relay.Authentication
import Rdpulse.Protocol.Punch
import Rdpulse.Punch.UDPDispatcher
import Rdpulse.Punch.UDPPunch
import Rdpulse.Punch.UDPCalls
import Rdpulse.Punch.UDPProgress
import Rdpulse.Punch.UDPNaming
import Rdpulse.Foundation.Clock
import Rdpulse.RateLimit.IPGuard
import Rdpulse.RateLimit.Accounting
import Rdpulse.UDP.SessionManager
import Rdpulse.UDP.SessionTable
import Rdpulse.Foundation.Conservation
import Rdpulse.UDP.SessionRuns
import Rdpulse.Punch.Dispatching
import Rdpulse.UDP.Provenance
import Rdpulse.Relay.AgentDatagrams
import Rdpulse.Relay.UDPIsolation
import Rdpulse.Relay.Deliveries
import Rdpulse.Relay.Lookups
import Rdpulse.Relay.Routing
import Rdpulse.Relay.Exchange
import Rdpulse.Agent.CandidateRefresh
import Rdpulse.Agent.CurrentCandidates
import Rdpulse.Agent.ConnectingControllers
import Rdpulse.Agent.CandidateDelivery
import Rdpulse.Protocol.Json
import Rdpulse.Agent.AuthenticateControl
import Rdpulse.Agent.HonestAgent
import Rdpulse.Storage.Credentials
import Rdpulse.Signaling.Limits
import Rdpulse.UDP.IdleSweep
import Rdpulse.RateLimit.Allow
import Rdpulse.UDP.PooledReassembly
import Rdpulse.UDP.ReassemblerInvariant
import Rdpulse.Controller.ServeUDP
import Rdpulse.Controller.ReceiveLoop
import Rdpulse.GUI.Sessions
import Rdpulse.GUI.CleanUp
import Rdpulse.GUI.Attempts
import Rdpulse.Agent.SessionRegistry
import Rdpulse.Agent.RegistrySafety
import Rdpulse.Foundation.Buffers
import Rdpulse.Protocol.Codecs
import Rdpulse.Protocol.PunchFormat
import Rdpulse.Punch.DomainSeparation
import Rdpulse.Foundation.FirstOccurrences
import Rdpulse.Signaling.Candidates
import Rdpulse.Foundation.Decimal
import Rdpulse.NAT.Candidate
import Rdpulse.NAT.Acceptance
import Rdpulse.ACL.Manager
import Rdpulse.ACL.Spelling
import Rdpulse.ACL.Spelling
import Rdpulse.Foundation.Merge
import Rdpulse.Protocol.ControlStream
import Rdpulse.Protocol.ControlDelivery
import Rdpulse.UDP.FeedAgreement
import Rdpulse.Punch.TCPRace
import Rdpulse.Punch.TCPRaceEnds
import Rdpulse.RateLimit.Admission
