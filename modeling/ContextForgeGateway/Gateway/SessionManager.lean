import ContextForgeGateway.UserStore
import ContextForgeGateway.Layers.Middleware

/-!
# Backend transports of a session

The MCP service keeps the clients of its backends in one map, whose keys are pairs of a backend
name and a session id. `SessionManager` is the view of that map for one request: it looks up the
backends of a virtual host in the session of the request.

The map is only ever looked up and updated at single keys, so it is a function. A client, once it
is connected, is a value of an arbitrary type `Client`.
-/

namespace ContextForge

/-- `struct BackendTransportKey`. -/
structure BackendTransportKey where
  backendName : String
  sessionId : String
  deriving DecidableEq

/-- `struct BackendTransportService`. -/
structure BackendTransportService (Client : Type) where
  service : Option Client

/-- `HashMap<BackendTransportKey, BackendTransportService>`. -/
abbrev Transports (Client : Type) := BackendTransportKey → Option (BackendTransportService Client)

/-- `struct ServiceHolder`. -/
structure ServiceHolder (Client : Type) where
  name : String
  runningService : Option Client

/-- `struct SessionManager`. -/
structure SessionManager (Client : Type) where
  virtualHost : VirtualHost
  sessionId : SessionId
  transports : Transports Client

namespace SessionManager

variable {Client : Type} (manager : SessionManager Client)

/-- The key of a backend in the session of the request. -/
def key (name : String) : BackendTransportKey := ⟨name, manager.sessionId.value⟩

/-- `get_backend_names`. -/
def getBackendNames : List String := manager.virtualHost.backends.keys

/-- `borrow_transports`. -/
def borrowTransports : List (ServiceHolder Client) :=
  manager.virtualHost.backends.keys.filterMap fun name =>
    (manager.transports (manager.key name)).map fun b => ⟨name, b.service⟩

/-- `cleanup_backends`: the map it leaves. -/
def cleanupBackends : Transports Client :=
  manager.virtualHost.backends.keys.foldl
    (fun transports name => Function.update transports (manager.key name) none)
    manager.transports

theorem mem_borrowTransports {manager : SessionManager Client} {holder : ServiceHolder Client} :
    holder ∈ manager.borrowTransports ↔
      holder.name ∈ manager.getBackendNames ∧
        manager.transports (manager.key holder.name) = some ⟨holder.runningService⟩ := by
  obtain ⟨name, service⟩ := holder
  unfold borrowTransports getBackendNames
  rw [List.mem_filterMap]
  constructor
  · rintro ⟨n, hn, h⟩
    obtain ⟨⟨svc⟩, hget, heq⟩ := Option.map_eq_some_iff.1 h
    obtain ⟨rfl, rfl⟩ := ServiceHolder.mk.inj heq
    exact ⟨hn, hget⟩
  · rintro ⟨hn, hget⟩
    exact ⟨name, hn, by rw [hget]; rfl⟩

/-- The holders of one backend: at most one, and only if the map has an entry for it. -/
theorem filter_borrowTransports (manager : SessionManager Client) {name : String}
    (hname : name ∈ manager.getBackendNames) :
    manager.borrowTransports.filter (fun holder => holder.name = name) =
      ((manager.transports (manager.key name)).map fun b => ⟨name, b.service⟩).toList := by
  unfold borrowTransports
  rw [List.filter_filterMap, KeyedList.filterMap_eq_toList
    manager.virtualHost.backends.nodup_keys hname]
  · cases manager.transports (manager.key name) <;> simp
  · intro x hx
    cases manager.transports (manager.key x) <;> simp [hx]

end SessionManager

end ContextForge
