import ContextForgeGateway.Lib.Runs
import ContextForgeGateway.Gateway.BuiltIn
import ContextForgeGateway.Gateway.McpService

/-!
# All handlers of one MCP service

A `State` is everything that an `McpService` keeps, and a `Call` is a call of any of its handlers (for
`initialize`, one of its halves), with the context it comes in and all that others decide about it. What is
seen of a call from outside is its `Reaction`: the answer, the connections that were attempted, the requests
that went to backends, the plugin pipelines that were run, and what was written to the session store.

Of a user's configuration the service reads the names of the virtual hosts and of their backends, and the
urls. `reactions_erase` says that nothing else of it, and no claim of the token, can be told from the
reactions of any run: the lists of allowed tools, resources and prompts, the headers to pass through and
the transport of a backend are read by nobody. `subscribed_iff` and `logLevel_eq` are about the state that
the service keeps for itself.
-/

namespace ContextForge

namespace McpService

variable {Client Value Manager Ctx : Type}

/-- What an `McpService` keeps, with the `initialize` calls that have connected to their backends. -/
structure State (Client : Type) where
  transports : Transports Client
  toolCallId : UInt64
  connected : ℕ → Option (Initialization Client)
  own : OwnState

/-- A service as it is built. -/
def State.new (Client : Type) (toolCallId : UInt64) : State Client :=
  ⟨fun _ => none, toolCallId, fun _ => none, OwnState.new⟩

/-- A call of a handler. -/
inductive Call (Client Value Manager Ctx : Type)
  | connect (number : ℕ)
      (getSession : UserSession → Except SessionStoreError (Option SessionMapping))
      (serve : String → StreamableHttpClientTransportConfig → Option Client) (ctx : RequestContext)
  | insert (number : ℕ)
  | ping (ctx : RequestContext)
  | listTools (backends : BackendApi Client Value) (request : Option (PaginatedRequestParams Value))
      (ctx : RequestContext)
  | callTool (env : ToolCallEnv Client Value Manager Ctx)
      (pluginRuntime : Option (RuntimeState Manager)) (request : CallToolRequestParams Value)
      (ctx : RequestContext)
  | listResources (backends : BackendApi Client Value)
      (request : Option (PaginatedRequestParams Value)) (ctx : RequestContext)
  | readResource (backends : BackendApi Client Value) (request : ReadResourceRequestParams Value)
      (ctx : RequestContext)
  | listResourceTemplates (ctx : RequestContext)
  | subscribe (uri : String) (ctx : RequestContext)
  | unsubscribe (uri : String) (ctx : RequestContext)
  | listPrompts (ctx : RequestContext)
  | getPrompt (asStr : Value → Option String) (request : GetPromptRequestParams Value)
      (ctx : RequestContext)
  | complete (completionInfo : List String → Except String (List String))
      (request : CompleteRequestParams) (ctx : RequestContext)
  | setLevel (level : LoggingLevel) (ctx : RequestContext)

/-- What a client gets when a call succeeds. -/
inductive Response (Value : Type)
  | done
  | initialized (result : InitializeResult)
  | tools (result : ListToolsResult Value)
  | toolCalled (result : CallToolResult Value)
  | resources (result : ListResourcesResult Value)
  | resource (result : ReadResourceResult Value)
  | resourceTemplates (result : List ResourceTemplate)
  | prompts (result : ListPromptsResult)
  | prompt (result : GetPromptResult)
  | completed (values : List String)

/-- What a backend is asked. -/
inductive BackendRequest (Value : Type)
  | listTools (request : Option (PaginatedRequestParams Value))
  | callTool (request : CallToolRequestParams Value)
  | listResources (request : Option (PaginatedRequestParams Value))
  | readResource (request : ReadResourceRequestParams Value)

/-- What is seen of a call. The first half of an `initialize` only answers when it fails. -/
structure Reaction (Client Value Manager Ctx : Type) where
  answer : Option (Except ErrorData (Response Value))
  attempted : List (String × StreamableHttpClientTransportConfig)
  sent : List (Sent Client (BackendRequest Value))
  invoked : List (Invocation Value Manager Ctx)
  stored : Option (UserSession × SessionMapping)

/-- A call that goes on. -/
def Reaction.none : Reaction Client Value Manager Ctx := ⟨.none, [], [], [], .none⟩

/-- A call that is only answered. -/
def Reaction.of (answer : Except ErrorData (Response Value)) : Reaction Client Value Manager Ctx :=
  ⟨some answer, [], [], [], .none⟩

/-- A call that asks backends. -/
def Reaction.ofReply {Q R : Type} (request : Q → BackendRequest Value) (response : R → Response Value)
    (reply : Reply Client Q R) : Reaction Client Value Manager Ctx :=
  ⟨some (reply.result.map response), [],
    reply.sent.map fun s => ⟨s.backendName, s.client, request s.request⟩, [], .none⟩

section

variable [DecidableEq Value] (σ : State Client)

/-- The state after a call. -/
def next : Call Client Value Manager Ctx → State Client
  | .connect number getSession serve ctx =>
    match initializeConnect getSession serve ctx with
    | .error _ => σ
    | .ok i => { σ with connected := Function.update σ.connected number (some i) }
  | .insert number =>
    match σ.connected number with
    | none => σ
    | some i =>
      { σ with
        transports := i.insertTransports σ.transports
        connected := Function.update σ.connected number none }
  | .listTools backends request ctx =>
    { σ with transports := (ContextForge.listTools backends σ.transports request ctx).transports }
  | .callTool env pluginRuntime request ctx =>
    let reply := ContextForge.callTool env pluginRuntime σ.transports σ.toolCallId request ctx
    { σ with transports := reply.transports, toolCallId := reply.counter }
  | .listResources backends request ctx =>
    { σ with
      transports := (ContextForge.listResources backends σ.transports request ctx).transports }
  | .readResource backends request ctx =>
    { σ with transports := (ContextForge.readResource backends σ.transports request ctx).transports }
  | .subscribe uri _ => { σ with own := McpService.subscribe uri σ.own }
  | .unsubscribe uri _ => { σ with own := McpService.unsubscribe uri σ.own }
  | .setLevel level _ => { σ with own := McpService.setLevel level σ.own }
  | .ping _ | .listResourceTemplates _ | .listPrompts _ | .getPrompt _ _ _ | .complete _ _ _ => σ

/-- What is seen of a call. -/
def reaction : Call Client Value Manager Ctx → Reaction Client Value Manager Ctx
  | .connect _ getSession serve ctx =>
    match initializeConnect getSession serve ctx with
    | .error e => .of (.error e)
    | .ok i =>
      { (.none : Reaction Client Value Manager Ctx) with
        attempted := i.virtualHost.connectionAttempts }
  | .insert number =>
    match σ.connected number with
    | none => .none
    | some i =>
      { (.of (.ok (.initialized initializeResult)) : Reaction Client Value Manager Ctx) with
        stored := some i.setSession }
  | .ping _ => .of (.ok .done)
  | .listTools backends request ctx =>
    .ofReply .listTools .tools (ContextForge.listTools backends σ.transports request ctx)
  | .callTool env pluginRuntime request ctx =>
    let reply := ContextForge.callTool env pluginRuntime σ.transports σ.toolCallId request ctx
    { (.ofReply .callTool .toolCalled reply.toReply : Reaction Client Value Manager Ctx) with
      invoked := reply.invoked }
  | .listResources backends request ctx =>
    .ofReply .listResources .resources
      (ContextForge.listResources backends σ.transports request ctx)
  | .readResource backends request ctx =>
    .ofReply .readResource .resource (ContextForge.readResource backends σ.transports request ctx)
  | .listResourceTemplates _ => .of (.ok (.resourceTemplates McpService.listResourceTemplates))
  | .subscribe _ _ | .unsubscribe _ _ | .setLevel _ _ => .of (.ok .done)
  | .listPrompts _ => .of (.ok (.prompts McpService.listPrompts))
  | .getPrompt asStr request _ => .of ((McpService.getPrompt asStr request).map .prompt)
  | .complete completionInfo request _ =>
    .of ((McpService.complete completionInfo request).map .completed)

end

/-! ### What nobody reads -/

end McpService

/-- Only the url of the backend is left. -/
def BackendMCPGateway.erase (backend : BackendMCPGateway) : BackendMCPGateway where
  name := ""
  url := backend.url
  transport := .streamableHttp
  passthroughHeaders := []
  allowedToolNames := []
  allowedResourceNames := []
  allowedPromptNames := []

def VirtualHost.erase (virtualHost : VirtualHost) : VirtualHost :=
  ⟨virtualHost.backends.mapValues BackendMCPGateway.erase⟩

def UserConfig.erase (config : UserConfig) : UserConfig :=
  ⟨config.virtualHosts.mapValues VirtualHost.erase⟩

def Extensions.erase (extensions : Extensions) : Extensions :=
  { extensions with claims := none, userConfig := extensions.userConfig.map UserConfig.erase }

def RequestContext.erase (ctx : RequestContext) : RequestContext :=
  { ctx with parts := ctx.parts.map Extensions.erase }

section

variable {Client Value Manager Ctx : Type}

def Initialization.erase (i : Initialization Client) : Initialization Client :=
  { i with virtualHost := i.virtualHost.erase }

theorem validateWith_erase {Session : Type} (maybeSession : Option Session)
    (sessionProblem : ErrorData) (maybeParts : Option Extensions) :
    validateWith maybeSession sessionProblem (maybeParts.map Extensions.erase) =
      (validateWith maybeSession sessionProblem maybeParts).map (Prod.map VirtualHost.erase id) := by
  unfold validateWith
  cases maybeSession with
  | none => rfl
  | some session =>
    cases maybeParts with
    | none => rfl
    | some parts =>
      obtain ⟨virtualHostId, sessionId, claims, userConfig⟩ := parts
      cases userConfig with
      | none => rfl
      | some userConfig =>
        cases virtualHostId with
        | none => rfl
        | some virtualHostId =>
          have hget : userConfig.erase.virtualHosts.get virtualHostId.value =
              (userConfig.virtualHosts.get virtualHostId.value).map VirtualHost.erase :=
            KeyedList.get_mapValues _ _ _
          simp only [Option.map_some, Option.bind_some, Extensions.erase, hget]
          cases userConfig.virtualHosts.get virtualHostId.value <;> rfl

theorem authorized_erase (ctx : RequestContext) :
    AuthorizedCallValidator.validate ctx.erase =
      (AuthorizedCallValidator.validate ctx).map (Prod.map VirtualHost.erase id) := by
  unfold AuthorizedCallValidator.validate
  rw [← validateWith_erase]
  obtain ⟨- | parts, downstreamSessionId⟩ := ctx <;> rfl

/-- The connection attempts are the same, in the same order. -/
@[simp] theorem connectionAttempts_erase (virtualHost : VirtualHost) :
    virtualHost.erase.connectionAttempts = virtualHost.connectionAttempts := List.map_map

theorem initializeConnect_erase
    (getSession : UserSession → Except SessionStoreError (Option SessionMapping))
    (serve : String → StreamableHttpClientTransportConfig → Option Client) (ctx : RequestContext) :
    initializeConnect getSession serve ctx.erase =
      (initializeConnect getSession serve ctx).map Initialization.erase := by
  have hvalid : InitializeCallValidator.validate ctx.erase =
      (InitializeCallValidator.validate ctx).map (Prod.map VirtualHost.erase id) :=
    validateWith_erase _ _ _
  unfold initializeConnect
  rw [hvalid]
  cases InitializeCallValidator.validate ctx with
  | error e => rfl
  | ok validated =>
    obtain ⟨virtualHost, downstreamSessionId⟩ := validated
    simp only [Except.map, Prod.map, id]
    cases getSession (UserSession.new "" downstreamSessionId.sessionId) with
    | error e => rfl
    | ok maybeSessionMapping =>
      simp only [connectionAttempts_erase]
      rfl

/-! The other handlers look at the names of the backends only. -/

@[simp] theorem keys_erase (virtualHost : VirtualHost) :
    virtualHost.erase.backends.keys = virtualHost.backends.keys :=
  KeyedList.keys_mapValues _ _

namespace SessionManager

variable (virtualHost : VirtualHost) (sessionId : SessionId) (transports : Transports Client)

@[simp] theorem getBackendNames_erase :
    getBackendNames ⟨virtualHost.erase, sessionId, transports⟩ =
      getBackendNames ⟨virtualHost, sessionId, transports⟩ := keys_erase virtualHost

@[simp] theorem borrowTransports_erase :
    borrowTransports ⟨virtualHost.erase, sessionId, transports⟩ =
      borrowTransports ⟨virtualHost, sessionId, transports⟩ := by
  unfold borrowTransports
  rw [keys_erase]
  rfl

@[simp] theorem cleanupBackends_erase :
    cleanupBackends ⟨virtualHost.erase, sessionId, transports⟩ =
      cleanupBackends ⟨virtualHost, sessionId, transports⟩ := by
  unfold cleanupBackends
  rw [keys_erase]
  rfl

end SessionManager

theorem listWith_erase {Q Listing R : Type} (ask : Client → Option Listing) (request : Q)
    (merge : List (String × Listing) → R) (transports : Transports Client) (ctx : RequestContext) :
    listWith ask request merge transports ctx.erase = listWith ask request merge transports ctx := by
  unfold listWith
  rw [authorized_erase]
  cases AuthorizedCallValidator.validate ctx with
  | error e => rfl
  | ok validated => simp only [Except.map, Prod.map, id, SessionManager.borrowTransports_erase]

theorem readResource_erase (backends : BackendApi Client Value) (transports : Transports Client)
    (request : ReadResourceRequestParams Value) (ctx : RequestContext) :
    readResource backends transports request ctx.erase =
      readResource backends transports request ctx := by
  unfold readResource
  rw [authorized_erase]
  cases AuthorizedCallValidator.validate ctx with
  | error e => rfl
  | ok validated =>
    simp only [Except.map, Prod.map, id, SessionManager.borrowTransports_erase,
      SessionManager.getBackendNames_erase, SessionManager.cleanupBackends_erase]

theorem callTool_erase [DecidableEq Value] (env : ToolCallEnv Client Value Manager Ctx)
    (pluginRuntime : Option (RuntimeState Manager)) (transports : Transports Client)
    (counter : UInt64) (request : CallToolRequestParams Value) (ctx : RequestContext) :
    callTool env pluginRuntime transports counter request ctx.erase =
      callTool env pluginRuntime transports counter request ctx := by
  unfold callTool
  rw [authorized_erase]
  cases AuthorizedCallValidator.validate ctx with
  | error e => rfl
  | ok validated =>
    simp only [Except.map, Prod.map, id, SessionManager.borrowTransports_erase,
      SessionManager.getBackendNames_erase, SessionManager.cleanupBackends_erase]

end

namespace McpService

variable {Client Value Manager Ctx : Type}

/-- The pending `initialize` calls only have what is read. -/
def State.erase (σ : State Client) : State Client :=
  { σ with connected := fun number => (σ.connected number).map Initialization.erase }

/-- The call, in a context that only has what is read. -/
def Call.erase : Call Client Value Manager Ctx → Call Client Value Manager Ctx
  | .connect number getSession serve ctx => .connect number getSession serve ctx.erase
  | .insert number => .insert number
  | .ping ctx => .ping ctx.erase
  | .listTools backends request ctx => .listTools backends request ctx.erase
  | .callTool env pluginRuntime request ctx => .callTool env pluginRuntime request ctx.erase
  | .listResources backends request ctx => .listResources backends request ctx.erase
  | .readResource backends request ctx => .readResource backends request ctx.erase
  | .listResourceTemplates ctx => .listResourceTemplates ctx.erase
  | .subscribe uri ctx => .subscribe uri ctx.erase
  | .unsubscribe uri ctx => .unsubscribe uri ctx.erase
  | .listPrompts ctx => .listPrompts ctx.erase
  | .getPrompt asStr request ctx => .getPrompt asStr request ctx.erase
  | .complete completionInfo request ctx => .complete completionInfo request ctx.erase
  | .setLevel level ctx => .setLevel level ctx.erase

variable [DecidableEq Value]

theorem next_erase (σ : State Client) (call : Call Client Value Manager Ctx) :
    next σ.erase call.erase = (next σ call).erase := by
  cases call with
  | connect number getSession serve ctx =>
    simp only [next, Call.erase, initializeConnect_erase]
    cases initializeConnect getSession serve ctx with
    | error e => rfl
    | ok i =>
      simp only [Except.map, State.erase, State.mk.injEq, true_and, and_true]
      funext n
      by_cases hn : n = number <;> simp [hn]
  | insert number =>
    simp only [next, Call.erase, State.erase]
    cases σ.connected number with
    | none => rfl
    | some i =>
      simp only [Option.map_some, State.mk.injEq, true_and, and_true]
      refine ⟨rfl, funext fun n => ?_⟩
      by_cases hn : n = number <;> simp [hn]
  | listTools backends request ctx =>
    simp only [next, Call.erase, State.erase, ContextForge.listTools, listWith_erase]
  | callTool env pluginRuntime request ctx => simp only [next, Call.erase, State.erase, callTool_erase]
  | listResources backends request ctx =>
    simp only [next, Call.erase, State.erase, ContextForge.listResources, listWith_erase]
  | readResource backends request ctx => simp only [next, Call.erase, State.erase, readResource_erase]
  | ping | listResourceTemplates | subscribe | unsubscribe | listPrompts | getPrompt | complete
  | setLevel => rfl

theorem reaction_erase (σ : State Client) (call : Call Client Value Manager Ctx) :
    reaction σ.erase call.erase = reaction σ call := by
  cases call with
  | connect number getSession serve ctx =>
    simp only [reaction, Call.erase, initializeConnect_erase]
    cases initializeConnect getSession serve ctx with
    | error e => rfl
    | ok i => simp only [Except.map, Initialization.erase, connectionAttempts_erase]
  | insert number =>
    simp only [reaction, Call.erase, State.erase]
    cases σ.connected number <;> rfl
  | listTools backends request ctx =>
    simp only [reaction, Call.erase, State.erase, ContextForge.listTools, listWith_erase]
  | callTool env pluginRuntime request ctx =>
    simp only [reaction, Call.erase, State.erase, callTool_erase]
  | listResources backends request ctx =>
    simp only [reaction, Call.erase, State.erase, ContextForge.listResources, listWith_erase]
  | readResource backends request ctx =>
    simp only [reaction, Call.erase, State.erase, readResource_erase]
  | ping | listResourceTemplates | subscribe | unsubscribe | listPrompts | getPrompt | complete
  | setLevel => rfl

/-- **What nobody reads.** Whatever is called in whatever order, the reactions, the connections that are
attempted included, are those of the run in which only the names and the urls are left of every
configuration, and nothing of the claims. -/
theorem reactions_erase (toolCallId : UInt64) (calls : List (Call Client Value Manager Ctx)) :
    Runs.outputs next reaction (State.new Client toolCallId) (calls.map Call.erase) =
      Runs.outputs next reaction (State.new Client toolCallId) calls :=
  Runs.outputs_map next reaction next_erase reaction_erase (State.new Client toolCallId) calls

/-! ### What the service keeps for itself -/

/-- What a call does to that. -/
def Call.own : Call Client Value Manager Ctx → OwnState → OwnState
  | .subscribe uri _ => McpService.subscribe uri
  | .unsubscribe uri _ => McpService.unsubscribe uri
  | .setLevel level _ => McpService.setLevel level
  | _ => id

theorem own_next (σ : State Client) (call : Call Client Value Manager Ctx) :
    (next σ call).own = call.own σ.own := by
  cases call with
  | connect number getSession serve ctx =>
    simp only [next, Call.own]
    cases initializeConnect getSession serve ctx <;> rfl
  | insert number =>
    simp only [next, Call.own]
    cases σ.connected number <;> rfl
  | _ => rfl

/-- The call is about the subscription to `uri`. -/
def Call.about (uri : String) : Call Client Value Manager Ctx → Bool
  | .subscribe u _ => u = uri
  | .unsubscribe u _ => u = uri
  | _ => false

/-- The service is subscribed to what the last call about it subscribed to. -/
theorem subscribed_iff (toolCallId : UInt64) (calls : List (Call Client Value Manager Ctx))
    (uri : String) :
    uri ∈ (Runs.run next (State.new Client toolCallId) calls).own.subscriptions ↔
      ∃ σ ctx, Runs.last? next (fun _ call => call.about uri) (State.new Client toolCallId) calls =
        some (σ, .subscribe uri ctx) := by
  induction calls using List.reverseRecOn with
  | nil => simp [State.new, OwnState.new, Runs.last?]
  | append_singleton calls call ih =>
    rw [Runs.run_concat, own_next, Runs.last?_concat]
    cases call with
    | subscribe u ctx =>
      by_cases hu : u = uri
      · subst hu
        simp [Call.own, McpService.subscribe, Call.about]
      · simpa [Call.own, McpService.subscribe, Call.about, hu, Ne.symm hu] using ih
    | unsubscribe u ctx =>
      by_cases hu : u = uri
      · subst hu
        simp [Call.own, McpService.unsubscribe, Call.about]
      · simpa [Call.own, McpService.unsubscribe, Call.about, hu, Ne.symm hu] using ih
    | _ => exact ih

/-- The level of a call that sets it. -/
def Call.level? : Call Client Value Manager Ctx → Option LoggingLevel
  | .setLevel level _ => some level
  | _ => none

/-- The log level is the last that was set. -/
theorem logLevel_eq (toolCallId : UInt64) (calls : List (Call Client Value Manager Ctx)) :
    (Runs.run next (State.new Client toolCallId) calls).own.logLevel =
      (calls.filterMap Call.level?).getLastD .debug := by
  induction calls using List.reverseRecOn with
  | nil => rfl
  | append_singleton calls call ih =>
    rw [Runs.run_concat, own_next, List.filterMap_append]
    cases call with
    | setLevel level ctx => simp [Call.own, McpService.setLevel, Call.level?]
    | _ => simpa [Call.level?, Call.own, McpService.subscribe, McpService.unsubscribe] using ih

end McpService

end ContextForge
