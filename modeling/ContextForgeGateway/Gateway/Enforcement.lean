import ContextForgeGateway.Gateway.McpService

/-!
# Enforcement of the plugins on a tool call

What a tool call may do, as seen from outside: `letThrough` is the verdict of the plugin runtime
before the call, `RoutedRequest` is what the backend may be sent, `Answered` is how the call ends
once the backend has answered. `callTool_enforced` says that `call_tool` keeps to it, for every
request, every transport map, every published runtime state and every outcome of the pipelines.
-/

namespace ContextForge

variable {Client Value Manager Ctx : Type}

/-! ### The verdicts of the plugins -/

/-- What the result of a pre pipeline lets through: the arguments that the backend is to get, or an
error. -/
def preVerdict (original : Option (JsonMap Value)) (preResult : PipelineResult Value Ctx) :
    Except ErrorData (Option (JsonMap Value)) :=
  if preResult.isDenied then .error (pluginDeniedError preResult)
  else
    match pluginArgs original preResult with
    | none => .error withoutToolCallError
    | some args => .ok args

/-- What the plugin runtime lets through before a call. -/
def letThrough (env : ToolCallEnv Client Value Manager Ctx)
    (pluginRuntime : Option (RuntimeState Manager)) (request : CallToolRequestParams Value)
    (route : Route Client) (counter : UInt64) : Except ErrorData (Option (JsonMap Value)) :=
  match pluginRuntime with
  | none => .ok request.arguments
  | some (.failed _) => .error runtimeFailedError
  | some (.active runtime) =>
    if runtime.hasPreHook then
      preVerdict request.arguments (env.invoke (runtime.toolPreInvocation request route.name
        route.backendName (nextToolCallId counter).1))
    else .ok request.arguments

/-- The runtime whose post pipeline runs after a call, if there is one. -/
def postRuntime : Option (RuntimeState Manager) → Option (GatewayPluginRuntime Manager)
  | some (.active runtime) => if runtime.hasPostHook then some runtime else none
  | _ => none

/-- The request that may go to a backend: under the name that the tool has there, with the arguments
that the plugins let through, and otherwise as the client sent it. -/
structure RoutedRequest (request : CallToolRequestParams Value) (toolName : String)
    (args : Option (JsonMap Value)) (routed : CallToolRequestParams Value) : Prop where
  name_eq : routed.name = toolName
  arguments_same : SameArgs routed.arguments args
  metaMap_eq : routed.metaMap = request.metaMap
  task_eq : routed.task = request.task

/-- How a call ends once the backend has given `response`. If the post pipeline runs, it sees the
response, and what the client gets is its verdict. -/
def Answered (env : ToolCallEnv Client Value Manager Ctx)
    (pluginRuntime : Option (RuntimeState Manager)) (toolName : String)
    (response : CallToolResult Value) (reply : ToolCallReply Client Value Manager Ctx) : Prop :=
  match postRuntime pluginRuntime with
  | none => reply.result = .ok response
  | some runtime =>
    ∃ toolCallId contextTable,
      let invocation := runtime.toolPostInvocation env.api toolName response toolCallId contextTable
      invocation ∈ reply.invoked ∧
      reply.result =
        if (env.invoke invocation).isDenied then .error (pluginDeniedError (env.invoke invocation))
        else .ok (effectivePostResult env.api response (env.invoke invocation))

/-- What a reply of `call_tool` keeps to. -/
def Enforced [DecidableEq Value] (env : ToolCallEnv Client Value Manager Ctx)
    (pluginRuntime : Option (RuntimeState Manager)) (transports : Transports Client)
    (counter : UInt64) (request : CallToolRequestParams Value) (ctx : RequestContext)
    (reply : ToolCallReply Client Value Manager Ctx) : Prop :=
  match routeToolCall transports request.name ctx with
  | .error e => reply.sent = [] ∧ reply.result = .error e
  | .ok route =>
    (∃ virtualHost sessionId,
      AuthorizedCallValidator.validate ctx = .ok (virtualHost, sessionId) ∧
      splitToolName request.name virtualHost.backends.keys =
        some ⟨route.backendName, route.name⟩ ∧
      transports ⟨route.backendName, sessionId.value⟩ = some ⟨some route.service⟩) ∧
    match letThrough env pluginRuntime request route counter with
    | .error e => reply.sent = [] ∧ reply.result = .error e
    | .ok args =>
      ∃ routed, RoutedRequest request route.name args routed ∧
        reply.sent = [⟨route.backendName, route.service, routed⟩] ∧
        match env.backends.callTool route.service routed with
        | none => reply.result = .error gotNoResponses
        | some response => Answered env pluginRuntime route.name response reply

/-! ### The halves of a call -/

@[simp] theorem wrapState_arguments (runtime : GatewayPluginRuntime Manager)
    (result : ToolPreCallResult Value Manager Ctx) :
    (GatewayPluginRuntimeHandle.wrapState runtime result).arguments = result.arguments := by
  unfold GatewayPluginRuntimeHandle.wrapState
  split_ifs <;> rfl

/-- The state that the first half leaves for the second remembers the runtime whose post pipeline
runs. -/
def Remembers (pluginRuntime : Option (RuntimeState Manager))
    (state : Option (RuntimeHookState Manager Ctx)) : Prop :=
  match postRuntime pluginRuntime with
  | none => state = none
  | some runtime => ∃ inner, state = some (.registry runtime inner)

theorem remembers_wrapState (runtime : GatewayPluginRuntime Manager)
    (result : ToolPreCallResult Value Manager Ctx) :
    Remembers (some (.active runtime))
      (GatewayPluginRuntimeHandle.wrapState runtime result).state := by
  unfold Remembers GatewayPluginRuntimeHandle.wrapState postRuntime
  by_cases h : runtime.hasPostHook = true
  · simp [h]
  · simp [h]

theorem afterToolPre_verdict [DecidableEq Value] (request : CallToolRequestParams Value)
    (toolName toolCallId : String) (preResult : PipelineResult Value Ctx) :
    (∃ e, preVerdict request.arguments preResult = .error e ∧
      (GatewayPluginRuntime.afterToolPre request toolCallId preResult :
        Except ErrorData (ToolPreCallResult Value Manager Ctx)) = .error e) ∨
    (∃ args result, preVerdict request.arguments preResult = .ok args ∧
      (GatewayPluginRuntime.afterToolPre request toolCallId preResult :
        Except ErrorData (ToolPreCallResult Value Manager Ctx)) = .ok result ∧
      SameArgs (result.arguments.applyToRequest request toolName).arguments args) := by
  unfold preVerdict GatewayPluginRuntime.afterToolPre
  by_cases hdenied : preResult.isDenied = true
  · exact Or.inl ⟨_, if_pos hdenied, if_pos hdenied⟩
  · rw [if_neg hdenied, if_neg hdenied]
    rcases effectivePreArgs_cases request preResult toolName with
      ⟨hargs, herr⟩ | ⟨args, update, hargs, hok, hsame⟩
    · rw [hargs, herr]
      exact Or.inl ⟨_, rfl, rfl⟩
    · rw [hargs, hok]
      exact Or.inr ⟨_, _, rfl, rfl, hsame⟩

/-- With a runtime that is active, the first half is its `before_tool_call`. -/
theorem callToolPre_active [DecidableEq Value] (env : ToolCallEnv Client Value Manager Ctx)
    (runtime : GatewayPluginRuntime Manager) (request : CallToolRequestParams Value)
    (toolName backendName : String) (counter : UInt64) :
    callToolPre env (some (.active runtime)) request toolName backendName counter =
      { runtime.beforeToolCall env.invoke request toolName backendName counter with
        result := (runtime.beforeToolCall env.invoke request toolName backendName
          counter).result.map (GatewayPluginRuntimeHandle.wrapState runtime) } := rfl

/-- The first half fails exactly when the plugins let nothing through. -/
theorem callToolPre_cases [DecidableEq Value] (env : ToolCallEnv Client Value Manager Ctx)
    (pluginRuntime : Option (RuntimeState Manager)) (request : CallToolRequestParams Value)
    (route : Route Client) (counter : UInt64) :
    (∃ e, letThrough env pluginRuntime request route counter = .error e ∧
      (callToolPre env pluginRuntime request route.name route.backendName counter).result =
        .error e) ∨
    (∃ args preResult, letThrough env pluginRuntime request route counter = .ok args ∧
      (callToolPre env pluginRuntime request route.name route.backendName counter).result =
        .ok preResult ∧
      SameArgs (preResult.arguments.applyToRequest request route.name).arguments args ∧
      Remembers pluginRuntime preResult.state) := by
  cases pluginRuntime with
  | none => exact Or.inr ⟨request.arguments, .unchanged, rfl, rfl, SameArgs.refl _, rfl⟩
  | some state =>
    cases state with
    | failed error => exact Or.inl ⟨runtimeFailedError, rfl, rfl⟩
    | active runtime =>
      rw [callToolPre_active]
      unfold letThrough GatewayPluginRuntime.beforeToolCall
      by_cases hpre : runtime.hasPreHook = true
      · simp only [hpre, if_true]
        rcases afterToolPre_verdict request route.name (nextToolCallId counter).1
            (env.invoke (runtime.toolPreInvocation request route.name route.backendName
              (nextToolCallId counter).1)) with
          ⟨e, hverdict, herr⟩ | ⟨args, result, hverdict, hok, hsame⟩
        · exact Or.inl ⟨e, hverdict, by rw [herr]; rfl⟩
        · refine Or.inr ⟨args, _, hverdict, by rw [hok]; rfl, ?_, remembers_wrapState runtime _⟩
          rw [wrapState_arguments]
          exact hsame
      · simp only [hpre]
        refine Or.inr ⟨request.arguments, _, rfl, rfl, ?_, remembers_wrapState runtime _⟩
        rw [wrapState_arguments]
        exact SameArgs.refl _

/-- The second half ends the call as its post pipeline, if it runs, decides. -/
theorem callToolPost_answered (env : ToolCallEnv Client Value Manager Ctx)
    {pluginRuntime : Option (RuntimeState Manager)} (toolName : String)
    (response : CallToolResult Value) {state : Option (RuntimeHookState Manager Ctx)}
    (counter : UInt64) (h : Remembers pluginRuntime state)
    {reply : ToolCallReply Client Value Manager Ctx}
    (hresult : reply.result =
      (callToolPost env pluginRuntime toolName response state counter).result)
    (hinvoked : ∀ invocation ∈
      (callToolPost env pluginRuntime toolName response state counter).invoked,
      invocation ∈ reply.invoked) :
    Answered env pluginRuntime toolName response reply := by
  unfold Remembers at h
  unfold Answered
  cases hpost : postRuntime pluginRuntime with
  | none =>
    rw [hpost] at h
    subst h
    rw [hresult]
    cases pluginRuntime <;> rfl
  | some runtime =>
    rw [hpost] at h
    obtain ⟨inner, rfl⟩ := h
    have hactive : pluginRuntime = some (.active runtime) ∧ runtime.hasPostHook = true := by
      unfold postRuntime at hpost
      split at hpost
      · split_ifs at hpost with hhook
        cases hpost
        exact ⟨rfl, hhook⟩
      · cases hpost
    obtain ⟨rfl, hhook⟩ := hactive
    -- the state is taken apart again by the handle, and names the runtime
    have hrun : callToolPost env (some (.active runtime)) toolName response
        (some (.registry runtime inner)) counter =
        runtime.afterToolCall env.api env.invoke toolName response inner counter := rfl
    rw [hrun] at hresult hinvoked
    unfold GatewayPluginRuntime.afterToolCall at hresult hinvoked
    simp only [hhook, if_true] at hresult hinvoked
    refine ⟨_, _, hinvoked _ (List.mem_singleton_self _), ?_⟩
    rw [hresult]
    rfl

/-- The plugins decide about every tool call, and what goes to a backend is one request at most, to
the tool that the client named, with the arguments that the plugins let through. -/
theorem callTool_enforced [DecidableEq Value] (env : ToolCallEnv Client Value Manager Ctx)
    (pluginRuntime : Option (RuntimeState Manager)) (transports : Transports Client)
    (counter : UInt64) (request : CallToolRequestParams Value) (ctx : RequestContext) :
    (callTool env pluginRuntime transports counter request ctx).sent.length ≤ 1 ∧
      Enforced env pluginRuntime transports counter request ctx
        (callTool env pluginRuntime transports counter request ctx) := by
  rw [callTool_eq]
  unfold Enforced
  cases hroute : routeToolCall transports request.name ctx with
  | error e => exact ⟨Nat.zero_le _, rfl, rfl⟩
  | ok route =>
    obtain ⟨virtualHost, sessionId, hvalid, hsplit, hservice⟩ := routeTo_eq_ok.1 hroute
    have hrouted : ∃ virtualHost sessionId,
        AuthorizedCallValidator.validate ctx = .ok (virtualHost, sessionId) ∧
        splitToolName request.name virtualHost.backends.keys =
          some ⟨route.backendName, route.name⟩ ∧
        transports ⟨route.backendName, sessionId.value⟩ = some ⟨some route.service⟩ :=
      ⟨virtualHost, sessionId, hvalid, splitToolName_eq_some.2 hsplit, hservice⟩
    simp only [callToolRouted]
    -- the request is sent exactly if the first half succeeds, and then before anything can fail
    rcases callToolPre_cases env pluginRuntime request route counter with
      ⟨e, hverdict, herr⟩ | ⟨args, preResult, hverdict, hok, hsame, hstate⟩
    · rw [hverdict, herr]
      exact ⟨Nat.zero_le _, hrouted, rfl, rfl⟩
    · rw [hverdict, hok]
      have hrequest : RoutedRequest request route.name args
          (preResult.arguments.applyToRequest request route.name) :=
        { name_eq := applyToRequest_name _ _ _
          arguments_same := hsame
          metaMap_eq := applyToRequest_metaMap _ _ _
          task_eq := applyToRequest_task _ _ _ }
      cases hresponse : env.backends.callTool route.service
          (preResult.arguments.applyToRequest request route.name) with
      | none =>
        simp only [hresponse]
        refine ⟨le_refl 1, hrouted, _, hrequest, rfl, ?_⟩
        simp only [hresponse]
      | some response =>
        simp only [hresponse]
        refine ⟨le_refl 1, hrouted, _, hrequest, rfl, ?_⟩
        simp only [hresponse]
        exact callToolPost_answered env route.name response _ hstate rfl
          fun invocation h => List.mem_append_right _ h

end ContextForge
