import MacMgmt.Proof.Agent.Install
import MacMgmt.Proof.Agent.Reconcile
import MacMgmt.Proof.Supervisor.Client
import MacMgmt.Proof.Supervisor.Connection
import MacMgmt.Proof.Supervisor.Reexec
import MacMgmt.Proof.Relay.Gossip
import MacMgmt.Proof.Relay.Takeover
import MacMgmt.Proof.Server.PushReach
import MacMgmt.Proof.Relay.RpcCalls
import MacMgmt.Proof.Agent.LogCursor
import MacMgmt.Proof.Agent.ServerPush
import MacMgmt.Proof.Relay.Routing
import MacMgmt.Proof.Tunnel.WebSocket
import MacMgmt.Proof.Relay.Federation
import MacMgmt.Proof.Server.ClusterPsk
import MacMgmt.Proof.Daemon.AiUsage
import MacMgmt.Proof.Daemon.Heartbeats
import MacMgmt.Proof.Daemon.Packages
import MacMgmt.Proof.Daemon.Skills
import MacMgmt.Proof.Server.HealerSessions
import MacMgmt.Proof.Daemon.ConfigReload
import MacMgmt.Proof.Cleaner.Redaction
import MacMgmt.Proof.Server.CatalogCache
import MacMgmt.Proof.Server.CommitCounts
import MacMgmt.Proof.Server.StaffPings
import MacMgmt.Proof.Server.HealerApproval
import MacMgmt.Proof.Daemon.SelfUpdate
import MacMgmt.Proof.Server.PublicCatalog
import MacMgmt.Proof.Server.PushStreams
import MacMgmt.Proof.Healer.RelayClient
import MacMgmt.Proof.Agent.UnmanagedServices
import MacMgmt.Proof.Agent.SwarmConnections
import MacMgmt.Proof.Daemon.AiProxy
import MacMgmt.Proof.Daemon.ChatRequests
import MacMgmt.Proof.Runner.Overlaps
import MacMgmt.Proof.Agent.HealthyPhase
import MacMgmt.Proof.Agent.DriftTargets
import MacMgmt.Proof.Relay.Reregistration
import MacMgmt.Proof.Server.DowngradeGuards
import MacMgmt.Proof.Server.Rollbacks
import MacMgmt.Proof.Server.ServerPrecedence
import MacMgmt.Proof.Server.SampleSummary
import MacMgmt.Proof.Server.StageHealth
import MacMgmt.Proof.Server.SkillResolution
import MacMgmt.Proof.Server.Signatures
import MacMgmt.Proof.Tunnel.ForwardedHeaders
import MacMgmt.Proof.Agent.FilePaths
import MacMgmt.Proof.Agent.FileWrites
import MacMgmt.Proof.Agent.ShellExec
import MacMgmt.Proof.Agent.ConfigWrites
import MacMgmt.Proof.Agent.SchemaStrip
import MacMgmt.Proof.Daemon.ChatStream
import MacMgmt.Proof.Daemon.StorePaths
import MacMgmt.Proof.Healer.SettingsTools
import MacMgmt.Proof.Cleaner.Chunker
import MacMgmt.Proof.Runner.Snapshot
import MacMgmt.Proof.Daemon.Systemctl
import MacMgmt.Proof.Server.HealerAutoTrigger
import MacMgmt.Proof.Runner.Matrix
import MacMgmt.Proof.Server.ModelCatalog
import MacMgmt.Proof.Agent.PropertyLists
import MacMgmt.Proof.Agent.MergeJson
import MacMgmt.Proof.Daemon.UsbUpdate
import MacMgmt.Proof.Server.GateInput
import MacMgmt.Proof.Trainer.Tokenizer
import MacMgmt.Proof.Ws.Stream
import MacMgmt.Proof.Supervisor.StripAnsi
import MacMgmt.Proof.Agent.NixProfile
import MacMgmt.Proof.Cloud.Send
import MacMgmt.Proof.Ws.Bridge
