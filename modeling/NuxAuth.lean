import NuxAuth.Lib.RecordedRun
import NuxAuth.Lib.FairBehavior
import NuxAuth.Lib.LocalView
import NuxAuth.Lib.FiniteTable
import NuxAuth.Lib.KeyedList
import NuxAuth.Lib.Bincode
import NuxAuth.Lib.LastWrite
import NuxAuth.Lib.StdText
import NuxAuth.Lib.SlidingWindow
import NuxAuth.Lib.WireStream
import NuxAuth.Lib.PathRouting
import NuxAuth.Lib.JsonValue
import NuxAuth.Lib.Toml
import NuxAuth.Lib.TomlLines
import NuxAuth.Lib.Checked
import NuxAuth.Core.Protocol
import NuxAuth.Core.Identity
import NuxAuth.Core.Whitelist
import NuxAuth.Core.Authenticator
import NuxAuth.Core.Tunnel
import NuxAuth.Core.Metrics
import NuxAuth.Core.Codec
import NuxAuth.Core.TunnelFrame
import NuxAuth.Core.RateLimit
import NuxAuth.Core.GuardLoop
import NuxAuth.Core.TunnelSilence
import NuxAuth.Core.TunnelLink
import NuxAuth.Core.TunnelTransparency
import NuxAuth.Core.TunnelComplete
import NuxAuth.Core.GuardStep
import NuxAuth.Core.GuardTables
import NuxAuth.Core.GuardTasks
import NuxAuth.Core.GrantedRoles
import NuxAuth.Core.Reload
import NuxAuth.Core.TunnelAuthorization
import NuxAuth.Core.StreamCap
import NuxAuth.Core.PeerMachine
import NuxAuth.Core.Isolation
import NuxAuth.Core.RadioSilence
import NuxAuth.Core.Shutdown
import NuxAuth.Core.GracePeriod
import NuxAuth.Core.DrainLoop
import NuxAuth.Core.Drain
import NuxAuth.Core.ChallengeGrant
import NuxAuth.Core.Client
import NuxAuth.Core.ClientSession
import NuxAuth.Core.Reconnection
import NuxAuth.Core.SessionShutdown
import NuxAuth.Core.ForwardListener
import NuxAuth.Core.Discovery
import NuxAuth.Core.HandshakeNetwork
import NuxAuth.Core.Handshake
import NuxAuth.Gateway.Configs
import NuxAuth.Gateway.Roles
import NuxAuth.Gateway.Service
import NuxAuth.Gateway.LiveWhitelist
import NuxAuth.Gateway.Restart
import NuxAuth.Gateway.RoleUnion
import NuxAuth.Gateway.ConfigApi
import NuxAuth.Gateway.SyncConfig
import NuxAuth.Gateway.SyncSignal
import NuxAuth.Gateway.GuardConfig
import NuxAuth.Gateway.ApplyConfig
import NuxAuth.Gateway.FileWrite
import NuxAuth.Gateway.FileComments
import NuxAuth.Gateway.WindowLimiter
import NuxAuth.Gateway.Config
import NuxAuth.Gateway.Api
import NuxAuth.Gateway.ApiStep
import NuxAuth.Gateway.ApiAccess
import NuxAuth.Gateway.ConfigStore
import NuxAuth.Gateway.Upstream
import NuxAuth.Gateway.CorruptRows
import NuxAuth.Lib.BoundedChannel
import NuxAuth.Gateway.GuardProcess
import NuxAuth.Gateway.ControlChannel
import NuxAuth.Gateway.ReloadPipeline
import NuxAuth.Gateway.ReloadOrder
import NuxAuth.Gateway.FileGrants
import NuxAuth.Gateway.StopSignal
