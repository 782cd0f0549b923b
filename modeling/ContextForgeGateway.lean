import ContextForgeGateway.Lib.Runs
import ContextForgeGateway.Lib.KeyedList
import ContextForgeGateway.Lib.TimeCache
import ContextForgeGateway.Lib.RefCount
import ContextForgeGateway.Lib.SharedMemory
import ContextForgeGateway.Lib.PrefixCode
import ContextForgeGateway.Lib.Text
import ContextForgeGateway.Lib.StableSort
import ContextForgeGateway.Lib.Paging
import ContextForgeGateway.Lib.Serde
import ContextForgeGateway.Lib.MessagePack
import ContextForgeGateway.Lib.MessagePack.Value
import ContextForgeGateway.Lib.JsonSchema
import ContextForgeGateway.UserStore
import ContextForgeGateway.UserConfigSchema
import ContextForgeGateway.Mcp
import ContextForgeGateway.ConfigStore.Redis
import ContextForgeGateway.ConfigStore.Coherence
import ContextForgeGateway.ConfigStore.Staleness
import ContextForgeGateway.ConfigStore.Absence
import ContextForgeGateway.ConfigStore.Provenance
import ContextForgeGateway.Cpex.Cmf
import ContextForgeGateway.Cpex.PostRewrite
import ContextForgeGateway.Cpex.Runtime
import ContextForgeGateway.Cpex.Copies
import ContextForgeGateway.Cpex.Factory
import ContextForgeGateway.Cpex.Handlers
import ContextForgeGateway.Cpex.Registry
import ContextForgeGateway.Cpex.ConfigDocument
import ContextForgeGateway.Cpex.Watcher
import ContextForgeGateway.Cpex.OverlappingReloads
import ContextForgeGateway.Cpex.FailClosed
import ContextForgeGateway.Cpex.Pinning
import ContextForgeGateway.Cpex.Lifetimes
import ContextForgeGateway.Layers.Middleware
import ContextForgeGateway.Gateway.Validator
import ContextForgeGateway.Layers.Authentication
import ContextForgeGateway.Layers.VirtualHostPath
import ContextForgeGateway.Gateway.Routing
import ContextForgeGateway.Gateway.SessionManager
import ContextForgeGateway.Gateway.McpService
import ContextForgeGateway.Gateway.ListedIsCalled
import ContextForgeGateway.Gateway.NameRouting
import ContextForgeGateway.Gateway.Listing
import ContextForgeGateway.Gateway.Pagination
import ContextForgeGateway.Gateway.Enforcement
import ContextForgeGateway.Gateway.Transparency
import ContextForgeGateway.Gateway.BuiltIn
import ContextForgeGateway.Gateway.Handlers
import ContextForgeGateway.Gateway.Service
import ContextForgeGateway.Gateway.Isolation
import ContextForgeGateway.Gateway.Application
import ContextForgeGateway.Gateway.Progress
import ContextForgeGateway.Gateway.PluginPolicy
import ContextForgeGateway.Gateway.TransportMap
import ContextForgeGateway.Gateway.SessionStore
import ContextForgeGateway.Gateway.SessionKept
import ContextForgeGateway.ConfigStore.RedisKeys
import ContextForgeGateway.ConfigStore.StoredRecords
import ContextForgeGateway.ConfigStore.SharedRedis
import ContextForgeGateway.Launch
import ContextForgeGateway.Launch.Final
import ContextForgeGateway.Launch.Watching
import ContextForgeGateway.Process
import ContextForgeGateway.Startup
import ContextForgeGateway.Gateway.Tokens
import ContextForgeGateway.Gateway.PluginPolicy
