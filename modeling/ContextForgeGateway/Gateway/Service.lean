import ContextForgeGateway.Lib.Runs
import ContextForgeGateway.Gateway.McpService

/-!
# One MCP service over time

A `State` is the transport map that the handlers of one `McpService` share, together with the
`initialize` calls that are between their two halves and those that have finished. An `Event` is
one half of an `initialize`, or one request, in its context: any session id, any user configuration
and any virtual host id. A request borrows its connections in one locked section, and what the map
holds then decides where the request goes, so a request is one step.

A connection is recorded with the `initialize` call that opened it. Nothing in the handlers can look
at that record, as they are the same for every type of connection.

`history_run`: in every reachable state, what the map holds under a key is the outcome of the last
finished `initialize` of that session whose virtual host has a backend of that name.
-/

namespace ContextForge

namespace Service

/-- A backend connection: the number and the context of the `initialize` call that opened it, the
backend it was opened for, and how. -/
structure Connection where
  openedBy : ℕ
  ctx : RequestContext
  backendName : String
  config : StreamableHttpClientTransportConfig
  deriving DecidableEq

/-- The connection attempts of the `initialize` call number `n`; `accepts` says which succeed. -/
def serve (n : ℕ) (ctx : RequestContext) (accepts : String → Bool) (backendName : String)
    (config : StreamableHttpClientTransportConfig) : Option Connection :=
  if accepts backendName then some ⟨n, ctx, backendName, config⟩ else none

/-- An `initialize` call that has connected to its backends. -/
structure InitializeCall where
  number : ℕ
  ctx : RequestContext
  initialization : Initialization Connection
  connected : ∃ getSession accepts,
    initializeConnect getSession (serve number ctx accepts) ctx = .ok initialization

/-- The state of the service. The last `initialize` call to finish comes first. -/
structure State where
  transports : Transports Connection
  toolCallId : UInt64
  started : ℕ
  connected : ℕ → Option InitializeCall
  finished : List InitializeCall

/-- A service as the session's first request finds it. -/
def State.new (toolCallId : UInt64) : State where
  transports := fun _ => none
  toolCallId
  started := 0
  connected := fun _ => none
  finished := []

/-- What can happen, with everything that others decide about it. -/
inductive Event (Value Manager Ctx : Type)
  | connect (getSession : UserSession → Except SessionStoreError (Option SessionMapping))
      (accepts : String → Bool) (ctx : RequestContext)
  | insert (number : ℕ)
  | listTools (backends : BackendApi Connection Value)
      (request : Option (PaginatedRequestParams Value)) (ctx : RequestContext)
  | listResources (backends : BackendApi Connection Value)
      (request : Option (PaginatedRequestParams Value)) (ctx : RequestContext)
  | callTool (env : ToolCallEnv Connection Value Manager Ctx)
      (pluginRuntime : Option (RuntimeState Manager)) (request : CallToolRequestParams Value)
      (ctx : RequestContext)
  | readResource (backends : BackendApi Connection Value)
      (request : ReadResourceRequestParams Value) (ctx : RequestContext)

variable {Value Manager Ctx : Type} [DecidableEq Value]

/-- The first half of the next `initialize` call. -/
def connect (σ : State)
    (getSession : UserSession → Except SessionStoreError (Option SessionMapping))
    (accepts : String → Bool) (ctx : RequestContext) : State :=
  match h : initializeConnect getSession (serve σ.started ctx accepts) ctx with
  | .error _ => { σ with started := σ.started + 1 }
  | .ok initialization =>
    { σ with
      started := σ.started + 1
      connected := Function.update σ.connected σ.started
        (some ⟨σ.started, ctx, initialization, getSession, accepts, h⟩) }

/-- The locked section of an `initialize` call, with which it finishes. -/
def insert (σ : State) (number : ℕ) : State :=
  match σ.connected number with
  | none => σ
  | some call =>
    { σ with
      transports := call.initialization.insertTransports σ.transports
      connected := Function.update σ.connected number none
      finished := call :: σ.finished }

/-- One step. -/
def next (σ : State) : Event Value Manager Ctx → State
  | .connect getSession accepts ctx => connect σ getSession accepts ctx
  | .insert number => insert σ number
  | .listTools backends request ctx =>
    { σ with transports := (listTools backends σ.transports request ctx).transports }
  | .listResources backends request ctx =>
    { σ with transports := (listResources backends σ.transports request ctx).transports }
  | .callTool env pluginRuntime request ctx =>
    let reply := callTool env pluginRuntime σ.transports σ.toolCallId request ctx
    { σ with transports := reply.transports, toolCallId := reply.counter }
  | .readResource backends request ctx =>
    { σ with transports := (readResource backends σ.transports request ctx).transports }

/-- A request that the gateway forwards to a backend: the context it came in, and the connection it
goes over. -/
structure Forwarded where
  ctx : RequestContext
  backendName : String
  connection : Connection

/-- What a handler sends, as seen from outside. -/
def forwardedOf {Request : Type} (ctx : RequestContext) (sent : List (Sent Connection Request)) :
    List Forwarded :=
  sent.map fun s => ⟨ctx, s.backendName, s.client⟩

/-- The requests that are forwarded in one step. -/
def forwarded (σ : State) : Event Value Manager Ctx → List Forwarded
  | .connect _ _ _ => []
  | .insert _ => []
  | .listTools backends request ctx =>
    forwardedOf ctx (listTools backends σ.transports request ctx).sent
  | .listResources backends request ctx =>
    forwardedOf ctx (listResources backends σ.transports request ctx).sent
  | .callTool env pluginRuntime request ctx =>
    forwardedOf ctx (callTool env pluginRuntime σ.transports σ.toolCallId request ctx).sent
  | .readResource backends request ctx =>
    forwardedOf ctx (readResource backends σ.transports request ctx).sent

/-! ### Initialize calls -/

namespace InitializeCall

variable (call : InitializeCall)

/-- The virtual host that the call was validated for. -/
def virtualHost : VirtualHost := call.initialization.virtualHost

/-- The session of the call. -/
def sessionId : String := call.initialization.downstreamSessionId.sessionId

/-- The key is one of those that the call inserts. -/
def covers (key : BackendTransportKey) : Bool :=
  call.sessionId = key.sessionId && call.virtualHost.backends.keys.contains key.backendName

theorem covers_iff {call : InitializeCall} {key : BackendTransportKey} :
    call.covers key = true ↔
      call.sessionId = key.sessionId ∧ key.backendName ∈ call.virtualHost.backends.keys := by
  simp [covers]

theorem validated : InitializeCallValidator.validate call.ctx =
    .ok (call.virtualHost, call.initialization.downstreamSessionId) := by
  obtain ⟨getSession, accepts, h⟩ := call.connected
  exact (initializeConnect_eq_ok h).1

/-- The results of a call are for the backends of its virtual host, and a connection among them was
opened by the call, to the url of that backend. -/
theorem of_mem_services {call : InitializeCall} {entry : String × Option Connection}
    (h : entry ∈ call.initialization.services) :
    ∃ backend, (entry.1, backend) ∈ call.virtualHost.backends.entries ∧
      ∀ connection, entry.2 = some connection →
        connection = ⟨call.number, call.ctx, entry.1, transportConfig backend.url⟩ := by
  obtain ⟨getSession, accepts, hconnect⟩ := call.connected
  obtain ⟨-, -, hservices⟩ := initializeConnect_eq_ok hconnect
  rw [hservices] at h
  obtain ⟨⟨name, backend⟩, hbackend, rfl⟩ := List.mem_map.1 h
  refine ⟨backend, hbackend, fun connection hconnection => ?_⟩
  unfold serve at hconnection
  split_ifs at hconnection
  exact (Option.some.inj hconnection).symm

theorem exists_service {call : InitializeCall} {name : String}
    (h : name ∈ call.virtualHost.backends.keys) :
    ∃ entry ∈ call.initialization.services, entry.1 = name := by
  obtain ⟨getSession, accepts, hconnect⟩ := call.connected
  obtain ⟨-, -, hservices⟩ := initializeConnect_eq_ok hconnect
  obtain ⟨backend, hbackend⟩ := KeyedList.mem_keys.1 h
  rw [hservices]
  exact ⟨_, List.mem_map.2 ⟨(name, backend), hbackend, rfl⟩, rfl⟩

/-- What the locked section of a call leaves under a key. -/
theorem insertTransports_of_covers {call : InitializeCall} {key : BackendTransportKey}
    (h : call.covers key = true) (transports : Transports Connection) :
    ∃ service, (key.backendName, service) ∈ call.initialization.services ∧
      call.initialization.insertTransports transports key = some ⟨service⟩ := by
  obtain ⟨hsession, hname⟩ := covers_iff.1 h
  rcases insertTransports_cases call.initialization transports key with
    ⟨hnone, -⟩ | ⟨⟨name, service⟩, hentry, rfl, heq⟩
  · obtain ⟨entry, hentry, hentryName⟩ := exists_service hname
    refine absurd ?_ (hnone entry hentry)
    rw [hentryName]
    exact congrArg (BackendTransportKey.mk key.backendName) hsession.symm
  · exact ⟨service, hentry, heq⟩

theorem insertTransports_of_not_covers {call : InitializeCall} {key : BackendTransportKey}
    (h : ¬ call.covers key = true) (transports : Transports Connection) :
    call.initialization.insertTransports transports key = transports key := by
  rcases insertTransports_cases call.initialization transports key with
    ⟨-, heq⟩ | ⟨entry, hentry, rfl, -⟩
  · exact heq
  · obtain ⟨backend, hbackend, -⟩ := of_mem_services hentry
    exact absurd (covers_iff.2 ⟨rfl, KeyedList.mem_keys.2 ⟨backend, hbackend⟩⟩) h

end InitializeCall

/-! ### The map is the history of the initialize calls -/

/-- The last finished `initialize` that inserted under the key. -/
def lastCovering (finished : List InitializeCall) (key : BackendTransportKey) :
    Option InitializeCall :=
  finished.find? fun call => call.covers key

theorem lastCovering_cons (call : InitializeCall) (finished : List InitializeCall)
    (key : BackendTransportKey) :
    lastCovering (call :: finished) key =
      if call.covers key = true then some call else lastCovering finished key := by
  unfold lastCovering
  rw [List.find?_cons]
  cases call.covers key <;> rfl

/-- The map holds the outcomes of the last finished `initialize` calls. -/
def History (σ : State) : Prop :=
  ∀ key, match lastCovering σ.finished key with
    | none => σ.transports key = none
    | some call => ∃ service, (key.backendName, service) ∈ call.initialization.services ∧
        σ.transports key = some ⟨service⟩

theorem history_new (toolCallId : UInt64) : History (State.new toolCallId) := fun _ => rfl

/-- A step that keeps the map and the finished calls. -/
theorem History.of_eq {σ τ : State} (h : History σ) (ht : τ.transports = σ.transports)
    (hf : τ.finished = σ.finished) : History τ := by
  unfold History at h ⊢
  rw [ht, hf]
  exact h

theorem History.connect {σ : State} (h : History σ)
    (getSession : UserSession → Except SessionStoreError (Option SessionMapping))
    (accepts : String → Bool) (ctx : RequestContext) :
    History (connect σ getSession accepts ctx) := by
  unfold Service.connect
  split
  · exact h.of_eq rfl rfl
  · exact h.of_eq rfl rfl

theorem History.insert {σ : State} (h : History σ) (number : ℕ) : History (insert σ number) := by
  unfold Service.insert
  cases hcall : σ.connected number with
  | none => exact h
  | some call =>
    intro key
    simp only [lastCovering_cons]
    -- a key that the call covers holds its result, and the others are as before
    by_cases hcovers : call.covers key = true
    · rw [if_pos hcovers]
      exact InitializeCall.insertTransports_of_covers hcovers σ.transports
    · rw [if_neg hcovers, InitializeCall.insertTransports_of_not_covers hcovers]
      exact h key

theorem History.next {σ : State} (h : History σ) (e : Event Value Manager Ctx) :
    History (next σ e) := by
  cases e with
  | connect getSession accepts ctx => exact h.connect getSession accepts ctx
  | insert number => exact h.insert number
  | listTools backends request ctx => exact h.of_eq listWith_transports rfl
  | listResources backends request ctx => exact h.of_eq listWith_transports rfl
  | callTool env pluginRuntime request ctx =>
    exact h.of_eq (callTool_transports _ _ _ _ _ _) rfl
  | readResource backends request ctx =>
    exact h.of_eq (readResource_transports _ _ _ _) rfl

theorem history_run (toolCallId : UInt64) (es : List (Event Value Manager Ctx)) :
    History (Runs.run next (State.new toolCallId) es) := by
  have hstep : ∀ σ (e : Event Value Manager Ctx), History σ → History (next σ e) :=
    fun σ e h => h.next e
  exact Runs.run_invariant hstep (history_new toolCallId) es

/-- A forwarded request goes over a connection that its context may borrow. -/
theorem borrowable_of_forwarded {σ : State} {e : Event Value Manager Ctx} {f : Forwarded}
    (h : f ∈ forwarded σ e) : Borrowable σ.transports f.ctx f.backendName f.connection := by
  cases e with
  | connect getSession accepts ctx => cases h
  | insert number => cases h
  | listTools backends request ctx =>
    obtain ⟨sent, hsent, rfl⟩ := List.mem_map.1 h
    exact mem_listWith_sent hsent
  | listResources backends request ctx =>
    obtain ⟨sent, hsent, rfl⟩ := List.mem_map.1 h
    exact mem_listWith_sent hsent
  | callTool env pluginRuntime request ctx =>
    obtain ⟨sent, hsent, rfl⟩ := List.mem_map.1 h
    obtain ⟨route, hroute, hbackend, hclient, -⟩ := mem_callTool_sent hsent
    show Borrowable σ.transports ctx sent.backendName sent.client
    rw [hbackend, hclient]
    exact routeTo_borrowable hroute
  | readResource backends request ctx =>
    obtain ⟨sent, hsent, rfl⟩ := List.mem_map.1 h
    obtain ⟨route, hroute, rfl⟩ := mem_readResource_sent.1 hsent
    exact routeTo_borrowable hroute

end Service

end ContextForge
