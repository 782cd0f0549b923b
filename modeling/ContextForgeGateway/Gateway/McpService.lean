import ContextForgeGateway.Cpex.Runtime
import ContextForgeGateway.Gateway.Routing
import ContextForgeGateway.Gateway.SessionManager
import ContextForgeGateway.Gateway.Validator

/-!
# The MCP service

The handlers of `McpService` that talk to backends. A handler is a function of the transport map
and of what the backends and the plugin pipelines answer; its `Reply` is what the client gets, the
requests that went to backends on the way, and the map afterwards. `initialize` looks at the map
only at its end, after it has connected to its backends, so it comes in two halves.

As the backend names of a virtual host are different, a name has at most one holder, and the branches
of `call_tool` and `read_resource` for several of them are dead: `callTool_eq` and
`readResource_eq` say what is left, in terms of one lookup (`routeTo`).
-/

namespace ContextForge

/-- A request that a handler sends over a backend connection. -/
structure Sent (Client Request : Type) where
  backendName : String
  client : Client
  request : Request

/-- What a handler does: its answer, the requests it sends, and the transport map it leaves. -/
structure Reply (Client Request Response : Type) where
  result : Except ErrorData Response
  sent : List (Sent Client Request)
  transports : Transports Client

/-- What the clients of the backends answer; `none` is an error. -/
structure BackendApi (Client Value : Type) where
  listTools : Client → Option (PaginatedRequestParams Value) → Option (ListToolsResult Value)
  callTool : Client → CallToolRequestParams Value → Option (CallToolResult Value)
  listResources : Client → Option (PaginatedRequestParams Value) →
    Option (ListResourcesResult Value)
  readResource : Client → ReadResourceRequestParams Value → Option (ReadResourceResult Value)

variable {Client Value Manager Ctx : Type}

/-! ### initialize -/

/-- `struct UserSession`. -/
structure UserSession where
  name : String
  principal : String
  downstreamSessionId : String
  deriving DecidableEq

/-- `UserSession::new`. -/
def UserSession.new (principal downstreamSessionId : String) : UserSession :=
  ⟨"UserSession", principal, downstreamSessionId⟩

/-- `struct SessionMap`. -/
structure SessionMap where
  upstreamSessionId : Option String
  backendName : String
  deriving DecidableEq

/-- `struct SessionMapping`. -/
structure SessionMapping where
  sessionMapping : List SessionMap
  deriving DecidableEq

/-- `SessionMapping::default`. -/
instance : Inhabited SessionMapping := ⟨⟨[]⟩⟩

/-- `enum SessionStoreError`. -/
inductive SessionStoreError
  | invalidConnection
  | noDataForKey
  | dataWrongFormat
  | dataEncoding
  | cantWriteData
  deriving DecidableEq

/-- `StreamableHttpClientTransportConfig`, as far as the gateway sets it. -/
structure StreamableHttpClientTransportConfig where
  uri : String
  customHeaders : List (String × String)
  deriving DecidableEq

/-- `HeaderValue::from_str` accepts the text. -/
def validHeaderValue (s : String) : Bool :=
  s.toList.all fun c => c = '\t' || (32 ≤ c.toNat && c.toNat ≠ 127)

/-- How a backend is connected to: its url and, under https, the `Host` header. -/
def transportConfig (backendUrl : Url) : StreamableHttpClientTransportConfig :=
  let customHeaders :=
    match backendUrl.hostStr with
    | some host =>
      if backendUrl.scheme = "https" then
        let host :=
          match backendUrl.port with
          | some port => host ++ ":" ++ toString port
          | none => host
        if validHeaderValue host then [("host", host)] else []
      else []
    | none => []
  ⟨backendUrl.asStr, customHeaders⟩

/-- The connections that an `initialize` attempts, all at once: one to every backend. -/
def VirtualHost.connectionAttempts (virtualHost : VirtualHost) :
    List (String × StreamableHttpClientTransportConfig) :=
  virtualHost.backends.entries.map fun entry => (entry.1, transportConfig entry.2.url)

/-- What an `initialize` holds on to between its two halves. -/
structure Initialization (Client : Type) where
  virtualHost : VirtualHost
  downstreamSessionId : DownstreamSessionId
  sessionMapping : SessionMapping
  services : List (String × Option Client)

/-- The error for a session store that cannot be read. -/
def sessionStoreError : ErrorData :=
  ⟨ErrorCode.internalError, "Internal problem... session store can't be accessed"⟩

/-- `initialize`, until all its connection attempts are over. `getSession` is what the session
store answers, and `connect` what becomes of an attempt. -/
def initializeConnect
    (getSession : UserSession → Except SessionStoreError (Option SessionMapping))
    (connect : String → StreamableHttpClientTransportConfig → Option Client)
    (ctx : RequestContext) : Except ErrorData (Initialization Client) :=
  match InitializeCallValidator.validate ctx with
  | .error e => .error e
  | .ok (virtualHost, downstreamSessionId) =>
    match getSession (UserSession.new "" downstreamSessionId.sessionId) with
    | .error _ => .error sessionStoreError
    | .ok maybeSessionMapping =>
      .ok
        { virtualHost
          downstreamSessionId
          sessionMapping := maybeSessionMapping.getD default
          services := virtualHost.connectionAttempts.map fun attempt =>
            (attempt.1, connect attempt.1 attempt.2) }

/-- The locked section of `initialize`: all results replace what the map had under their keys. -/
def Initialization.insertTransports (i : Initialization Client) (transports : Transports Client) :
    Transports Client :=
  i.services.foldl
    (fun transports entry =>
      Function.update transports ⟨entry.1, i.downstreamSessionId.sessionId⟩ (some ⟨entry.2⟩))
    transports

/-- Everything the first half of an `initialize` has done when it succeeds. -/
theorem initializeConnect_eq_ok
    {getSession : UserSession → Except SessionStoreError (Option SessionMapping)}
    {connect : String → StreamableHttpClientTransportConfig → Option Client}
    {ctx : RequestContext} {i : Initialization Client}
    (h : initializeConnect getSession connect ctx = .ok i) :
    InitializeCallValidator.validate ctx = .ok (i.virtualHost, i.downstreamSessionId) ∧
    (∃ maybeSessionMapping,
      getSession (UserSession.new "" i.downstreamSessionId.sessionId) = .ok maybeSessionMapping ∧
      i.sessionMapping = maybeSessionMapping.getD default) ∧
    i.services = i.virtualHost.backends.entries.map fun entry =>
      (entry.1, connect entry.1 (transportConfig entry.2.url)) := by
  unfold initializeConnect at h
  cases hvalid : InitializeCallValidator.validate ctx with
  | error e => simp [hvalid] at h
  | ok validated =>
    obtain ⟨virtualHost, downstreamSessionId⟩ := validated
    cases hget : getSession (UserSession.new "" downstreamSessionId.sessionId) with
    | error e => simp [hvalid, hget] at h
    | ok maybeSessionMapping =>
      simp only [hvalid, hget, Except.ok.injEq] at h
      subst h
      exact ⟨rfl, ⟨maybeSessionMapping, hget, rfl⟩, List.map_map⟩

/-- What the locked section of an `initialize` leaves under a key: one of its results if the key is
one of its own, and what was there before if not. -/
theorem insertTransports_cases (i : Initialization Client) (transports : Transports Client)
    (key : BackendTransportKey) :
    ((∀ entry ∈ i.services, key ≠ ⟨entry.1, i.downstreamSessionId.sessionId⟩) ∧
      i.insertTransports transports key = transports key) ∨
    (∃ entry ∈ i.services, key = ⟨entry.1, i.downstreamSessionId.sessionId⟩ ∧
      i.insertTransports transports key = some ⟨entry.2⟩) := by
  unfold Initialization.insertTransports
  -- the map is general: of two results under one key, the later one is inserted over the earlier
  induction i.services generalizing transports with
  | nil => exact Or.inl ⟨fun entry h => (List.not_mem_nil h).elim, rfl⟩
  | cons entry services ih =>
    rw [List.foldl_cons]
    rcases ih (Function.update transports ⟨entry.1, i.downstreamSessionId.sessionId⟩
      (some ⟨entry.2⟩)) with ⟨hnone, heq⟩ | ⟨found, hfound, hkey, heq⟩
    · by_cases hkey : key = ⟨entry.1, i.downstreamSessionId.sessionId⟩
      · refine Or.inr ⟨entry, List.mem_cons_self, hkey, ?_⟩
        rw [heq, hkey, Function.update_self]
      · refine Or.inl ⟨List.forall_mem_cons.2 ⟨hkey, hnone⟩, ?_⟩
        rw [heq, Function.update_of_ne hkey]
    · exact Or.inr ⟨found, List.mem_cons_of_mem _ hfound, hkey, heq⟩

/-- What `initialize` writes to the session store; its outcome is ignored. -/
def Initialization.setSession (i : Initialization Client) : UserSession × SessionMapping :=
  (UserSession.new "" i.downstreamSessionId.sessionId, i.sessionMapping)

/-- `InitializeResult`, as far as the gateway sets it. -/
structure InitializeResult where
  prompts : Bool
  resources : Bool
  tools : Bool
  logging : Bool
  serverInfo : String × String
  instructions : String
  deriving DecidableEq

/-- The answer of `initialize`. `merge_capabilities` does not look at those of the backends. -/
def initializeResult : InitializeResult where
  prompts := true
  resources := true
  tools := true
  logging := true
  serverInfo := ("rust-conformance-server", "0.1.0")
  instructions := "Rust MCP conformance test server"

/-! ### Listings -/

/-- The requests that go to the connected ones of some backends. -/
def requestsTo {Request : Type} (request : Request) (holders : List (ServiceHolder Client)) :
    List (Sent Client Request) :=
  holders.filterMap fun holder =>
    holder.runningService.map fun service => ⟨holder.name, service, request⟩

/-- The responses of the connected ones of some backends, without those that failed. -/
def responsesOf {Response : Type} (ask : Client → Option Response)
    (holders : List (ServiceHolder Client)) : List (String × Response) :=
  holders.filterMap fun holder =>
    holder.runningService.bind fun service =>
      (ask service).map fun response => (holder.name, response)

/-- The body of `list_tools` and `list_resources`: every connected backend of the session is asked,
and what they answer is merged. -/
def listWith {Request Listing Result : Type} (ask : Client → Option Listing) (request : Request)
    (merge : List (String × Listing) → Result) (transports : Transports Client)
    (ctx : RequestContext) : Reply Client Request Result :=
  match AuthorizedCallValidator.validate ctx with
  | .error e => ⟨.error e, [], transports⟩
  | .ok (virtualHost, sessionId) =>
    let holders := SessionManager.borrowTransports ⟨virtualHost, sessionId, transports⟩
    ⟨.ok (merge (responsesOf ask holders)), requestsTo request holders, transports⟩

/-- `McpService::list_tools`. -/
def listTools (backends : BackendApi Client Value) (transports : Transports Client)
    (request : Option (PaginatedRequestParams Value)) (ctx : RequestContext) :
    Reply Client (Option (PaginatedRequestParams Value)) (ListToolsResult Value) :=
  listWith (fun service => backends.listTools service request) request
    (fun responses => { metaMap := none, nextCursor := none, tools := mergeTools responses })
    transports ctx

/-- `McpService::list_resources`. -/
def listResources (backends : BackendApi Client Value) (transports : Transports Client)
    (request : Option (PaginatedRequestParams Value)) (ctx : RequestContext) :
    Reply Client (Option (PaginatedRequestParams Value)) (ListResourcesResult Value) :=
  listWith (fun service => backends.listResources service request) request
    (fun responses =>
      { metaMap := none, nextCursor := none, resources := mergeResources responses })
    transports ctx

/-! ### read_resource -/

/-- The error when no backend has answered. -/
def gotNoResponses : ErrorData := routingProblem "got no responses from backends"

/-- `McpService::read_resource`. -/
def readResource (backends : BackendApi Client Value) (transports : Transports Client)
    (request : ReadResourceRequestParams Value) (ctx : RequestContext) :
    Reply Client (ReadResourceRequestParams Value) (ReadResourceResult Value) :=
  match AuthorizedCallValidator.validate ctx with
  | .error e => ⟨.error e, [], transports⟩
  | .ok (virtualHost, sessionId) =>
    let sessionManager : SessionManager Client := ⟨virtualHost, sessionId, transports⟩
    match splitResourceName request.uri sessionManager.getBackendNames with
    | none => ⟨.error (routingProblem "wrong resource name"), [], transports⟩
    | some ⟨backendName, resourceUri⟩ =>
      let callToolTasks :=
        sessionManager.borrowTransports.filter fun holder => holder.name = backendName
      -- the tasks are counted before any of them is run
      if callToolTasks.length > 1 then
        ⟨.error ⟨ErrorCode.invalidRequest, "Routing problem... multiple matching resources"⟩, [],
          sessionManager.cleanupBackends⟩
      else
        let request := { request with uri := resourceUri }
        let responses := responsesOf (fun service => backends.readResource service request)
          callToolTasks
        ⟨match responses.head? with
          | some response => .ok response.2
          | none => .error gotNoResponses,
          requestsTo request callToolTasks, transports⟩

/-! ### call_tool -/

/-- The loop of `call_tool` over the borrowed transports; the outer `none` is a second match. -/
def findTarget (backendName : String) :
    List (ServiceHolder Client) → Option (ServiceHolder Client) →
      Option (Option (ServiceHolder Client))
  | [], targetService => some targetService
  | holder :: holders, targetService =>
    if holder.name = backendName then
      match targetService with
      | some _ => none
      | none => findTarget backendName holders (some holder)
    else findTarget backendName holders targetService

/-- What `call_tool` asks of the backends, of the JSON library and of the plugin pipelines. -/
structure ToolCallEnv (Client Value Manager Ctx : Type) where
  backends : BackendApi Client Value
  api : CmfApi Value
  invoke : Invocation Value Manager Ctx → PipelineResult Value Ctx

/-- The reply of `call_tool`, the tool call ids it leaves, and the pipelines it has run. -/
structure ToolCallReply (Client Value Manager Ctx : Type) extends
    Reply Client (CallToolRequestParams Value) (CallToolResult Value) where
  counter : UInt64
  invoked : List (Invocation Value Manager Ctx)

/-- The reply of a call that ends before any hook. -/
def unroutedReply (e : ErrorData) (transports : Transports Client) (counter : UInt64) :
    ToolCallReply Client Value Manager Ctx :=
  { result := .error e, sent := [], transports, counter, invoked := [] }

/-- `call_tool`, before the backend is asked: `before_tool_call` if there is a plugin runtime. -/
def callToolPre [DecidableEq Value] (env : ToolCallEnv Client Value Manager Ctx)
    (pluginRuntime : Option (RuntimeState Manager)) (request : CallToolRequestParams Value)
    (toolName backendName : String) (counter : UInt64) :
    HookRun Value Manager Ctx (ToolPreCallResult Value Manager Ctx) :=
  match pluginRuntime with
  | some state => GatewayPluginRuntimeHandle.beforeToolCall state env.invoke request toolName
      backendName counter
  | none => ⟨.ok ToolPreCallResult.unchanged, counter, []⟩

/-- `call_tool`, once the backend has answered: `after_tool_call` if there is a plugin runtime and
the first half has left a state for it. -/
def callToolPost (env : ToolCallEnv Client Value Manager Ctx)
    (pluginRuntime : Option (RuntimeState Manager)) (toolName : String)
    (response : CallToolResult Value) (postState : Option (RuntimeHookState Manager Ctx))
    (counter : UInt64) : HookRun Value Manager Ctx (CallToolResult Value) :=
  match pluginRuntime, postState with
  | some _, some postState => GatewayPluginRuntimeHandle.afterToolCall env.api env.invoke toolName
      response (some postState) counter
  | _, _ => ⟨.ok response, counter, []⟩

/-- `call_tool`, from the backend service it has found on. -/
def callToolRouted [DecidableEq Value] (env : ToolCallEnv Client Value Manager Ctx)
    (pluginRuntime : Option (RuntimeState Manager)) (transports : Transports Client)
    (request : CallToolRequestParams Value) (backendName toolName : String) (service : Client)
    (counter : UInt64) : ToolCallReply Client Value Manager Ctx :=
  let pre := callToolPre env pluginRuntime request toolName backendName counter
  match pre.result with
  -- a refused call goes no further
  | .error e =>
    { result := .error e, sent := [], transports, counter := pre.counter, invoked := pre.invoked }
  | .ok preResult =>
    let routedRequest := preResult.arguments.applyToRequest request toolName
    let sent := [⟨backendName, service, routedRequest⟩]
    match env.backends.callTool service routedRequest with
    | none =>
      { result := .error gotNoResponses, sent, transports, counter := pre.counter
        invoked := pre.invoked }
    | some response =>
      let post := callToolPost env pluginRuntime toolName response preResult.state pre.counter
      { result := post.result, sent, transports, counter := post.counter
        invoked := pre.invoked ++ post.invoked }

/-- `McpService::call_tool`; `pluginRuntime` is what the handle publishes. -/
def callTool [DecidableEq Value] (env : ToolCallEnv Client Value Manager Ctx)
    (pluginRuntime : Option (RuntimeState Manager)) (transports : Transports Client)
    (counter : UInt64) (request : CallToolRequestParams Value) (ctx : RequestContext) :
    ToolCallReply Client Value Manager Ctx :=
  match AuthorizedCallValidator.validate ctx with
  | .error e => unroutedReply e transports counter
  | .ok (virtualHost, sessionId) =>
    let sessionManager : SessionManager Client := ⟨virtualHost, sessionId, transports⟩
    match splitToolName request.name sessionManager.getBackendNames with
    | none => unroutedReply (routingProblem "wrong tool name") transports counter
    | some ⟨backendName, toolName⟩ =>
      match findTarget backendName sessionManager.borrowTransports none with
      | none =>
        unroutedReply ⟨ErrorCode.invalidRequest, "Routing problem... multiple matching tools"⟩
          sessionManager.cleanupBackends counter
      | some none => unroutedReply gotNoResponses transports counter
      | some (some targetService) =>
        match targetService.runningService with
        | none => unroutedReply gotNoResponses transports counter
        | some service =>
          callToolRouted env pluginRuntime transports request backendName toolName service counter

/-! ### Routing in one lookup -/

/-- Where a request goes: a backend, under the name that it has there, over a connection. -/
structure Route (Client : Type) where
  backendName : String
  name : String
  service : Client

/-- The virtual host of the context splits the name, and the session has a connected client for the
backend. -/
def routeTo (wrongName : ErrorData) (transports : Transports Client) (name : String)
    (ctx : RequestContext) : Except ErrorData (Route Client) :=
  match AuthorizedCallValidator.validate ctx with
  | .error e => .error e
  | .ok (virtualHost, sessionId) =>
    match splitName name virtualHost.backends.keys with
    | none => .error wrongName
    | some (backendName, rest) =>
      match (transports ⟨backendName, sessionId.value⟩).bind BackendTransportService.service with
      | none => .error gotNoResponses
      | some service => .ok ⟨backendName, rest, service⟩

/-- `routeTo` of `call_tool`. -/
def routeToolCall : Transports Client → String → RequestContext → Except ErrorData (Route Client) :=
  routeTo (routingProblem "wrong tool name")

/-- `routeTo` of `read_resource`. -/
def routeResource : Transports Client → String → RequestContext → Except ErrorData (Route Client) :=
  routeTo (routingProblem "wrong resource name")

theorem routeTo_eq_ok {wrongName : ErrorData} {transports : Transports Client} {name : String}
    {ctx : RequestContext} {route : Route Client} :
    routeTo wrongName transports name ctx = .ok route ↔
      ∃ virtualHost sessionId,
        AuthorizedCallValidator.validate ctx = .ok (virtualHost, sessionId) ∧
        splitName name virtualHost.backends.keys = some (route.backendName, route.name) ∧
        transports ⟨route.backendName, sessionId.value⟩ = some ⟨some route.service⟩ := by
  obtain ⟨backendName, rest, service⟩ := route
  unfold routeTo
  constructor
  · intro h
    cases hv : AuthorizedCallValidator.validate ctx with
    | error e => simp [hv] at h
    | ok validated =>
      obtain ⟨virtualHost, sessionId⟩ := validated
      refine ⟨virtualHost, sessionId, rfl, ?_⟩
      cases hs : splitName name virtualHost.backends.keys with
      | none => simp [hv, hs] at h
      | some pair =>
        cases hb : (transports ⟨pair.1, sessionId.value⟩).bind BackendTransportService.service with
        | none => simp [hv, hs, hb] at h
        | some found =>
          simp only [hv, hs, hb, Except.ok.injEq, Route.mk.injEq] at h
          obtain ⟨rfl, rfl, rfl⟩ := h
          obtain ⟨⟨svc⟩, hget, hsvc⟩ := Option.bind_eq_some_iff.1 hb
          obtain rfl : svc = some found := hsvc
          exact ⟨rfl, hget⟩
  · rintro ⟨virtualHost, sessionId, hv, hs, hget⟩
    simp [hv, hs, hget]

/-- Once a match is found, the loop ends with it, or at a second match. -/
theorem findTarget_some (backendName : String) (holders : List (ServiceHolder Client))
    (targetService : ServiceHolder Client) :
    findTarget backendName holders (some targetService) =
      if holders.filter (fun holder => holder.name = backendName) = [] then
        some (some targetService)
      else none := by
  induction holders with
  | nil => rfl
  | cons holder holders ih =>
    by_cases h : holder.name = backendName
    · simp [findTarget, h]
    · simp [findTarget, h, ih]

/-- The loop finds the only match. -/
theorem findTarget_eq {backendName : String} {holders : List (ServiceHolder Client)}
    {found : Option (ServiceHolder Client)}
    (h : holders.filter (fun holder => holder.name = backendName) = found.toList) :
    findTarget backendName holders none = some found := by
  induction holders with
  | nil =>
    cases found with
    | none => rfl
    | some targetService => cases h
  | cons holder holders ih =>
    unfold findTarget
    by_cases hname : holder.name = backendName
    · rw [List.filter_cons_of_pos (by simpa using hname)] at h
      cases found with
      | none => cases h
      | some targetService =>
        obtain ⟨rfl, hnil⟩ := List.cons.inj h
        rw [if_pos hname]
        show findTarget backendName holders (some holder) = _
        rw [findTarget_some, if_pos hnil]
    · rw [List.filter_cons_of_neg (by simpa using hname)] at h
      rw [if_neg hname, ih h]

/-- `call_tool` routes its request in one lookup; if that fails, it ends there. -/
theorem callTool_eq [DecidableEq Value] (env : ToolCallEnv Client Value Manager Ctx)
    (pluginRuntime : Option (RuntimeState Manager)) (transports : Transports Client)
    (counter : UInt64) (request : CallToolRequestParams Value) (ctx : RequestContext) :
    callTool env pluginRuntime transports counter request ctx =
      match routeToolCall transports request.name ctx with
      | .error e => unroutedReply e transports counter
      | .ok route => callToolRouted env pluginRuntime transports request route.backendName
          route.name route.service counter := by
  unfold callTool routeToolCall routeTo
  cases AuthorizedCallValidator.validate ctx with
  | error e => rfl
  | ok validated =>
    obtain ⟨virtualHost, sessionId⟩ := validated
    unfold splitToolName
    simp only [SessionManager.getBackendNames]
    cases hsplit : splitName request.name virtualHost.backends.keys with
    | none => rfl
    | some pair =>
      obtain ⟨backendName, toolName⟩ := pair
      have hfind := findTarget_eq (SessionManager.filter_borrowTransports
        ⟨virtualHost, sessionId, transports⟩ (splitName_eq_some hsplit).1)
      simp only [Option.map_some, hfind]
      cases hget : transports ⟨backendName, sessionId.value⟩ with
      | none => simp [SessionManager.key, hget]
      | some b =>
        obtain ⟨service⟩ := b
        cases service <;> simp [SessionManager.key, hget]

/-- `read_resource` routes its request in one lookup, and asks that backend. -/
theorem readResource_eq (backends : BackendApi Client Value) (transports : Transports Client)
    (request : ReadResourceRequestParams Value) (ctx : RequestContext) :
    readResource backends transports request ctx =
      match routeResource transports request.uri ctx with
      | .error e => ⟨.error e, [], transports⟩
      | .ok route =>
        let routed := { request with uri := route.name }
        ⟨match backends.readResource route.service routed with
          | some response => .ok response
          | none => .error gotNoResponses,
          [⟨route.backendName, route.service, routed⟩], transports⟩ := by
  unfold readResource routeResource routeTo
  cases AuthorizedCallValidator.validate ctx with
  | error e => rfl
  | ok validated =>
    obtain ⟨virtualHost, sessionId⟩ := validated
    unfold splitResourceName
    simp only [SessionManager.getBackendNames]
    cases hsplit : splitName request.uri virtualHost.backends.keys with
    | none => rfl
    | some pair =>
      obtain ⟨backendName, resourceUri⟩ := pair
      have hfilter := SessionManager.filter_borrowTransports
        ⟨virtualHost, sessionId, transports⟩ (splitName_eq_some hsplit).1
      simp only [Option.map_some, hfilter]
      cases hget : transports ⟨backendName, sessionId.value⟩ with
      | none => simp [SessionManager.key, hget, responsesOf, requestsTo]
      | some b =>
        obtain ⟨service⟩ := b
        cases service with
        | none => simp [SessionManager.key, hget, responsesOf, requestsTo]
        | some service =>
          cases h : backends.readResource service { request with uri := resourceUri } <;>
            simp [SessionManager.key, hget, responsesOf, requestsTo, h]

/-! ### What is sent -/

/-- A handler in this context may borrow the client of this backend: it is a backend of the virtual
host of the context, and connected in its session. -/
def Borrowable (transports : Transports Client) (ctx : RequestContext) (backendName : String)
    (client : Client) : Prop :=
  ∃ virtualHost sessionId,
    AuthorizedCallValidator.validate ctx = .ok (virtualHost, sessionId) ∧
    backendName ∈ virtualHost.backends.keys ∧
    transports ⟨backendName, sessionId.value⟩ = some ⟨some client⟩

theorem mem_requestsTo {Request : Type} {request : Request} {manager : SessionManager Client}
    {sent : Sent Client Request} :
    sent ∈ requestsTo request manager.borrowTransports ↔
      sent.backendName ∈ manager.getBackendNames ∧
      manager.transports (manager.key sent.backendName) = some ⟨some sent.client⟩ ∧
      sent.request = request := by
  obtain ⟨backendName, client, req⟩ := sent
  unfold requestsTo
  rw [List.mem_filterMap]
  constructor
  · rintro ⟨⟨name, service⟩, hholder, h⟩
    obtain ⟨svc, rfl, heq⟩ := Option.map_eq_some_iff.1 h
    obtain ⟨rfl, rfl, rfl⟩ := Sent.mk.inj heq
    obtain ⟨hname, hget⟩ := SessionManager.mem_borrowTransports.1 hholder
    exact ⟨hname, hget, rfl⟩
  · rintro ⟨hname, hget, rfl⟩
    exact ⟨⟨backendName, some client⟩, SessionManager.mem_borrowTransports.2 ⟨hname, hget⟩, rfl⟩

theorem routeTo_borrowable {wrongName : ErrorData} {transports : Transports Client} {name : String}
    {ctx : RequestContext} {route : Route Client}
    (h : routeTo wrongName transports name ctx = .ok route) :
    Borrowable transports ctx route.backendName route.service := by
  obtain ⟨virtualHost, sessionId, hvalid, hsplit, hget⟩ := routeTo_eq_ok.1 h
  exact ⟨virtualHost, sessionId, hvalid, (splitName_eq_some hsplit).1, hget⟩

theorem mem_callToolRouted_sent [DecidableEq Value] {env : ToolCallEnv Client Value Manager Ctx}
    {pluginRuntime : Option (RuntimeState Manager)} {transports : Transports Client}
    {request : CallToolRequestParams Value} {backendName toolName : String} {service : Client}
    {counter : UInt64} {sent : Sent Client (CallToolRequestParams Value)}
    (h : sent ∈ (callToolRouted env pluginRuntime transports request backendName toolName service
      counter).sent) :
    sent.backendName = backendName ∧ sent.client = service ∧ sent.request.name = toolName := by
  unfold callToolRouted at h
  cases hpre : (callToolPre env pluginRuntime request toolName backendName counter).result with
  | error e =>
    simp only [hpre] at h
    cases h
  | ok preResult =>
    simp only [hpre] at h
    have hsent : sent = ⟨backendName, service,
        preResult.arguments.applyToRequest request toolName⟩ := by
      split at h <;> exact List.mem_singleton.1 h
    rw [hsent]
    exact ⟨rfl, rfl, applyToRequest_name _ _ _⟩

/-- Without a plugin runtime, a routed call is sent. -/
theorem callToolRouted_sent_of_none [DecidableEq Value]
    (env : ToolCallEnv Client Value Manager Ctx) (transports : Transports Client)
    (request : CallToolRequestParams Value) (backendName toolName : String) (service : Client)
    (counter : UInt64) :
    (callToolRouted env none transports request backendName toolName service counter).sent ≠
      [] := by
  unfold callToolRouted
  simp only [callToolPre]
  split <;> exact List.cons_ne_nil _ _

/-- What `call_tool` sends goes where the name of the tool routes it. -/
theorem mem_callTool_sent [DecidableEq Value] {env : ToolCallEnv Client Value Manager Ctx}
    {pluginRuntime : Option (RuntimeState Manager)} {transports : Transports Client}
    {counter : UInt64} {request : CallToolRequestParams Value} {ctx : RequestContext}
    {sent : Sent Client (CallToolRequestParams Value)}
    (h : sent ∈ (callTool env pluginRuntime transports counter request ctx).sent) :
    ∃ route, routeToolCall transports request.name ctx = .ok route ∧
      sent.backendName = route.backendName ∧ sent.client = route.service ∧
      sent.request.name = route.name := by
  rw [callTool_eq] at h
  cases hroute : routeToolCall transports request.name ctx with
  | error e =>
    rw [hroute] at h
    cases h
  | ok route =>
    rw [hroute] at h
    exact ⟨route, rfl, mem_callToolRouted_sent h⟩

/-- A routed call leaves the transport map as it is. -/
theorem callToolRouted_transports [DecidableEq Value] (env : ToolCallEnv Client Value Manager Ctx)
    (pluginRuntime : Option (RuntimeState Manager)) (transports : Transports Client)
    (request : CallToolRequestParams Value) (backendName toolName : String) (service : Client)
    (counter : UInt64) :
    (callToolRouted env pluginRuntime transports request backendName toolName service
      counter).transports = transports := by
  unfold callToolRouted
  cases hpre : (callToolPre env pluginRuntime request toolName backendName counter).result with
  | error e => simp only [hpre]
  | ok preResult =>
    simp only [hpre]
    split <;> rfl

/-- `call_tool` leaves the transport map as it is. -/
theorem callTool_transports [DecidableEq Value] (env : ToolCallEnv Client Value Manager Ctx)
    (pluginRuntime : Option (RuntimeState Manager)) (transports : Transports Client)
    (counter : UInt64) (request : CallToolRequestParams Value) (ctx : RequestContext) :
    (callTool env pluginRuntime transports counter request ctx).transports = transports := by
  rw [callTool_eq]
  cases routeToolCall transports request.name ctx with
  | error e => rfl
  | ok route =>
    exact callToolRouted_transports env pluginRuntime transports request route.backendName
      route.name route.service counter

/-- `read_resource` leaves the transport map as it is. -/
theorem readResource_transports (backends : BackendApi Client Value)
    (transports : Transports Client) (request : ReadResourceRequestParams Value)
    (ctx : RequestContext) :
    (readResource backends transports request ctx).transports = transports := by
  rw [readResource_eq]
  cases routeResource transports request.uri ctx <;> rfl

theorem mem_readResource_sent {backends : BackendApi Client Value} {transports : Transports Client}
    {request : ReadResourceRequestParams Value} {ctx : RequestContext}
    {sent : Sent Client (ReadResourceRequestParams Value)} :
    sent ∈ (readResource backends transports request ctx).sent ↔
      ∃ route, routeResource transports request.uri ctx = .ok route ∧
        sent = ⟨route.backendName, route.service, { request with uri := route.name }⟩ := by
  rw [readResource_eq]
  cases routeResource transports request.uri ctx with
  | error e => simp
  | ok route => simp

section

variable {Request Listing Result : Type} {ask : Client → Option Listing} {request : Request}
  {merge : List (String × Listing) → Result} {transports : Transports Client}
  {ctx : RequestContext}

theorem mem_listWith_sent {sent : Sent Client Request}
    (h : sent ∈ (listWith ask request merge transports ctx).sent) :
    Borrowable transports ctx sent.backendName sent.client := by
  unfold listWith at h
  cases hvalid : AuthorizedCallValidator.validate ctx with
  | error e =>
    rw [hvalid] at h
    cases h
  | ok validated =>
    rw [hvalid] at h
    obtain ⟨hname, hget, -⟩ := mem_requestsTo.1 h
    exact ⟨_, _, hvalid, hname, hget⟩

theorem listWith_transports :
    (listWith ask request merge transports ctx).transports = transports := by
  unfold listWith
  cases AuthorizedCallValidator.validate ctx <;> rfl

theorem listWith_result {virtualHost : VirtualHost} {sessionId : SessionId}
    (hvalid : AuthorizedCallValidator.validate ctx = .ok (virtualHost, sessionId)) :
    (listWith ask request merge transports ctx).result = .ok (merge (responsesOf ask
      (SessionManager.borrowTransports ⟨virtualHost, sessionId, transports⟩))) := by
  unfold listWith
  rw [hvalid]

/-- The responses are those of the connected backends that answer. -/
theorem mem_responsesOf {manager : SessionManager Client} {backendName : String}
    {response : Listing} :
    (backendName, response) ∈ responsesOf ask manager.borrowTransports ↔
      backendName ∈ manager.getBackendNames ∧
      ∃ service, manager.transports (manager.key backendName) = some ⟨some service⟩ ∧
        ask service = some response := by
  unfold responsesOf
  rw [List.mem_filterMap]
  constructor
  · rintro ⟨⟨name, service⟩, hholder, h⟩
    obtain ⟨svc, rfl, h⟩ := Option.bind_eq_some_iff.1 h
    obtain ⟨resp, hask, heq⟩ := Option.map_eq_some_iff.1 h
    obtain ⟨rfl, rfl⟩ := Prod.mk.inj heq
    obtain ⟨hname, hget⟩ := SessionManager.mem_borrowTransports.1 hholder
    exact ⟨hname, svc, hget, hask⟩
  · rintro ⟨hname, service, hget, hask⟩
    exact ⟨⟨backendName, some service⟩, SessionManager.mem_borrowTransports.2 ⟨hname, hget⟩,
      by simp [hask]⟩

end

end ContextForge
