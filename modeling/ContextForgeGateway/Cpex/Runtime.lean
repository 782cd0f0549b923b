import ContextForgeGateway.Cpex.Cmf
import ContextForgeGateway.UserStore

/-!
# The plugin runtime

`GatewayPluginRuntime` wraps the plugin manager of one configuration: how it is built from a
configuration (`from_config`), and what it does before and after a tool call. The handle that the
gateway calls adds the published state of the registry: a failed one rejects every call, and the
state it passes from the first half of a call to the second remembers the runtime.

The plugin manager is not part of the gateway. Its type `Manager` and the table `Ctx` it threads
through the hooks of a call are parameters, `CpexEnv` is what the gateway asks of it to build one,
and each run of a pipeline takes its outcome as an argument. Where a pipeline runs is recorded as
an `Invocation`.
-/

namespace ContextForge

/-! ### Configuration -/

section

variable (Value : Type)

/-- `PluginConfig`, as far as the gateway reads it. -/
structure PluginConfig where
  name : String
  hooks : List String
  conditions : List Value

/-- `CpexConfig`, as far as the gateway reads it. -/
structure CpexConfig where
  routingEnabled : Bool
  failOnPluginError : Bool
  routes : List Value
  pluginDirs : List String
  policies : List (String × Value)
  defaults : List (String × Value)
  plugins : List (PluginConfig Value)

/-- `RuntimePluginConfigDocument`. -/
structure RuntimePluginConfigDocument where
  version : ℕ
  cpex : CpexConfig Value

end

/-- `RUNTIME_PLUGIN_CONFIG_VERSION`. -/
def runtimePluginConfigVersion : ℕ := 1

/-- `GatewayPluginRuntimeError`. -/
inductive GatewayPluginRuntimeError
  | configuration (hook : String)
  | initialization
  | configStoreUnavailable
  | configWrongFormat
  | configMissing
  | configUnsupported
  | factoryRegistryShared
  deriving DecidableEq

/-- `GatewayPluginRuntimeError::to_string`. -/
def GatewayPluginRuntimeError.toString : GatewayPluginRuntimeError → String
  | configuration hook => "failed to register runtime " ++ hook ++ " hook"
  | initialization => "failed to initialize plugin runtime"
  | configStoreUnavailable => "runtime plugin config store disconnected"
  | configWrongFormat => "runtime plugin config is in wrong format"
  | configMissing => "runtime plugin config is missing"
  | configUnsupported => "runtime plugin config is unsupported"
  | factoryRegistryShared => "runtime plugin factories are already shared"

/-- The decoders of a configuration document, and the plugin manager with the registered
factories: `PluginManager::from_config` and `PluginManager::initialize`. -/
structure CpexEnv (Value Manager : Type) where
  decodeJson : Bytes → Option (RuntimePluginConfigDocument Value)
  decodeMessagePack : Bytes → Option (RuntimePluginConfigDocument Value)
  managerFromConfig : CpexConfig Value → Option Manager
  managerInitialize : Manager → Bool

/-- `cmf_hook_names::TOOL_PRE_INVOKE`. -/
def toolPreInvoke : String := "cmf.tool_pre_invoke"

/-- `cmf_hook_names::TOOL_POST_INVOKE`. -/
def toolPostInvoke : String := "cmf.tool_post_invoke"

/-- `struct GatewayPluginRuntime`. -/
structure GatewayPluginRuntime (Manager : Type) where
  manager : Manager
  hasPreHook : Bool
  hasPostHook : Bool

/-- `GatewayPluginRuntime::default`. -/
instance {Manager : Type} [Inhabited Manager] : Inhabited (GatewayPluginRuntime Manager) :=
  ⟨⟨default, false, false⟩⟩

variable {Value Manager Ctx : Type}

/-- Some plugin of the configuration declares `hook`. -/
def CpexConfig.declares (config : CpexConfig Value) (hook : String) : Bool :=
  config.plugins.any fun plugin => plugin.hooks.any fun h => h == hook

/-- `validate_gateway_supported_config`. -/
def validateGatewaySupportedConfig (config : CpexConfig Value) :
    Except GatewayPluginRuntimeError Unit :=
  if config.routingEnabled || config.failOnPluginError || !config.routes.isEmpty ||
      !config.pluginDirs.isEmpty || !config.policies.isEmpty || !config.defaults.isEmpty then
    .error .configUnsupported
  else if config.plugins.any fun plugin =>
      !plugin.conditions.isEmpty ||
        plugin.hooks.any fun hook => hook != toolPreInvoke && hook != toolPostInvoke then
    .error .configUnsupported
  else .ok ()

/-- `GatewayPluginRuntime::from_config`. -/
def GatewayPluginRuntime.fromConfig (env : CpexEnv Value Manager) (config : CpexConfig Value) :
    Except GatewayPluginRuntimeError (GatewayPluginRuntime Manager) := do
  validateGatewaySupportedConfig config
  match env.managerFromConfig config with
  | none => .error (.configuration "config")
  | some manager =>
    if env.managerInitialize manager then
      .ok ⟨manager, config.declares toolPreInvoke, config.declares toolPostInvoke⟩
    else .error .initialization

/-- Everything `from_config` has checked when it succeeds. -/
theorem fromConfig_eq_ok {env : CpexEnv Value Manager} {config : CpexConfig Value}
    {runtime : GatewayPluginRuntime Manager} :
    GatewayPluginRuntime.fromConfig env config = .ok runtime ↔
      validateGatewaySupportedConfig config = .ok () ∧
      env.managerFromConfig config = some runtime.manager ∧
      env.managerInitialize runtime.manager = true ∧
      runtime.hasPreHook = config.declares toolPreInvoke ∧
      runtime.hasPostHook = config.declares toolPostInvoke := by
  unfold GatewayPluginRuntime.fromConfig
  cases hv : validateGatewaySupportedConfig config with
  | error e => simp [bind, Except.bind]
  | ok _ =>
    cases hm : env.managerFromConfig config with
    | none => simp [bind, Except.bind]
    | some manager =>
      obtain ⟨m, pre, post⟩ := runtime
      by_cases hi : env.managerInitialize manager = true
      · simp only [bind, Except.bind, hi, if_true, Except.ok.injEq, GatewayPluginRuntime.mk.injEq,
          true_and, Option.some.injEq]
        constructor
        · rintro ⟨rfl, rfl, rfl⟩
          exact ⟨rfl, hi, rfl, rfl⟩
        · rintro ⟨rfl, -, rfl, rfl⟩
          exact ⟨rfl, rfl, rfl⟩
      · simp only [bind, Except.bind, hi, true_and, Option.some.injEq]
        constructor
        · intro h
          cases h
        · rintro ⟨rfl, hi', -⟩
          exact absurd hi' hi

/-! ### Tool calls -/

/-- `struct ToolCallState`. -/
structure ToolCallState (Ctx : Type) where
  contextTable : Ctx
  toolCallId : String

/-- The values that are passed, type-erased, from the first half of a tool call to the second:
`RegistryToolCallState` and `ToolCallState`. -/
inductive RuntimeHookState (Manager Ctx : Type)
  | registry (runtime : GatewayPluginRuntime Manager) (state : Option (RuntimeHookState Manager Ctx))
  | toolCall (state : ToolCallState Ctx)

/-- `downcast::<RegistryToolCallState>`. -/
def RuntimeHookState.asRegistry : RuntimeHookState Manager Ctx →
    Option (GatewayPluginRuntime Manager × Option (RuntimeHookState Manager Ctx))
  | registry runtime state => some (runtime, state)
  | toolCall _ => none

/-- `downcast::<ToolCallState>`. -/
def RuntimeHookState.asToolCall : RuntimeHookState Manager Ctx → Option (ToolCallState Ctx)
  | registry _ _ => none
  | toolCall state => some state

/-- `struct ToolPreCallResult`. -/
structure ToolPreCallResult (Value Manager Ctx : Type) where
  arguments : ToolArgumentsUpdate Value
  state : Option (RuntimeHookState Manager Ctx)

/-- `ToolPreCallResult::unchanged`. -/
def ToolPreCallResult.unchanged : ToolPreCallResult Value Manager Ctx := ⟨.unchanged, none⟩

/-- One run of a plugin pipeline: on which runtime, for which hook, on what. -/
structure Invocation (Value Manager Ctx : Type) where
  runtime : GatewayPluginRuntime Manager
  hook : String
  payload : MessagePayload Value
  contextTable : Option Ctx

/-- What a part of a tool call returns, the id counter it leaves, and the pipelines it has run. -/
structure HookRun (Value Manager Ctx α : Type) where
  result : Except ErrorData α
  counter : UInt64
  invoked : List (Invocation Value Manager Ctx)

/-- `next_tool_call_id`: the id, and `TOOL_CALL_ID` after it. -/
def nextToolCallId (counter : UInt64) : String × UInt64 :=
  ("gateway-tool-call-" ++ toString counter.toNat, counter + 1)

namespace GatewayPluginRuntime

/-- The invocation of `invoke_tool_pre`. -/
def toolPreInvocation (runtime : GatewayPluginRuntime Manager)
    (request : CallToolRequestParams Value) (toolName backendName toolCallId : String) :
    Invocation Value Manager Ctx :=
  ⟨runtime, toolPreInvoke, toolCallPayload request toolName backendName toolCallId, none⟩

/-- The rest of `before_tool_call`, once the pre pipeline has returned. -/
def afterToolPre [DecidableEq Value] (request : CallToolRequestParams Value)
    (toolCallId : String) (preResult : PipelineResult Value Ctx) :
    Except ErrorData (ToolPreCallResult Value Manager Ctx) :=
  if preResult.isDenied then .error (pluginDeniedError preResult)
  else
    (effectivePreArgs request.arguments preResult).map fun arguments =>
      ⟨arguments, some (.toolCall ⟨preResult.contextTable, toolCallId⟩)⟩

/-- `GatewayPluginRuntime::before_tool_call`; `invoke` is what the pipelines return. -/
def beforeToolCall [DecidableEq Value] (runtime : GatewayPluginRuntime Manager)
    (invoke : Invocation Value Manager Ctx → PipelineResult Value Ctx)
    (request : CallToolRequestParams Value) (toolName backendName : String) (counter : UInt64) :
    HookRun Value Manager Ctx (ToolPreCallResult Value Manager Ctx) :=
  if runtime.hasPreHook then
    let (toolCallId, counter) := nextToolCallId counter
    let invocation := runtime.toolPreInvocation request toolName backendName toolCallId
    ⟨afterToolPre request toolCallId (invoke invocation), counter, [invocation]⟩
  else ⟨.ok ToolPreCallResult.unchanged, counter, []⟩

/-- The context table and the id of the post pipeline, and the id counter after it. -/
def postState (state : Option (RuntimeHookState Manager Ctx)) (counter : UInt64) :
    Option Ctx × String × UInt64 :=
  match state.bind RuntimeHookState.asToolCall with
  | some state => (some state.contextTable, state.toolCallId, counter)
  | none =>
    let (toolCallId, counter) := nextToolCallId counter
    (none, toolCallId, counter)

/-- The invocation of `invoke_tool_post`. -/
def toolPostInvocation (runtime : GatewayPluginRuntime Manager) (api : CmfApi Value)
    (toolName : String) (response : CallToolResult Value) (toolCallId : String)
    (contextTable : Option Ctx) : Invocation Value Manager Ctx :=
  ⟨runtime, toolPostInvoke, toolResultPayload api toolName response toolCallId, contextTable⟩

/-- The rest of `after_tool_call`, once the post pipeline has returned. -/
def afterToolPost (api : CmfApi Value) (response : CallToolResult Value)
    (postResult : PipelineResult Value Ctx) : Except ErrorData (CallToolResult Value) :=
  if postResult.isDenied then .error (pluginDeniedError postResult)
  else .ok (effectivePostResult api response postResult)

/-- `GatewayPluginRuntime::after_tool_call`. -/
def afterToolCall (runtime : GatewayPluginRuntime Manager) (api : CmfApi Value)
    (invoke : Invocation Value Manager Ctx → PipelineResult Value Ctx)
    (toolName : String) (response : CallToolResult Value)
    (state : Option (RuntimeHookState Manager Ctx)) (counter : UInt64) :
    HookRun Value Manager Ctx (CallToolResult Value) :=
  if runtime.hasPostHook then
    let (contextTable, toolCallId, counter) := postState state counter
    let invocation := runtime.toolPostInvocation api toolName response toolCallId contextTable
    ⟨afterToolPost api response (invoke invocation), counter, [invocation]⟩
  else ⟨.ok response, counter, []⟩

end GatewayPluginRuntime

/-! ### The handle -/

/-- `enum RuntimeState`. -/
inductive RuntimeState (Manager : Type)
  | active (runtime : GatewayPluginRuntime Manager)
  | failed (error : String)

/-- `runtime_failed_error`. -/
def runtimeFailedError : ErrorData := ⟨ErrorCode.internalError, "Runtime plugin reload failed"⟩

namespace GatewayPluginRuntimeHandle

/-- What `before_tool_call` makes of the result of the runtime: it remembers the runtime if it has
a post hook, and otherwise nothing. -/
def wrapState (runtime : GatewayPluginRuntime Manager)
    (result : ToolPreCallResult Value Manager Ctx) : ToolPreCallResult Value Manager Ctx :=
  if runtime.hasPostHook then { result with state := some (.registry runtime result.state) }
  else { result with state := none }

/-- `GatewayPluginRuntimeHandle::before_tool_call`, where `state` is the current state. -/
def beforeToolCall [DecidableEq Value] (state : RuntimeState Manager)
    (invoke : Invocation Value Manager Ctx → PipelineResult Value Ctx)
    (request : CallToolRequestParams Value) (toolName backendName : String) (counter : UInt64) :
    HookRun Value Manager Ctx (ToolPreCallResult Value Manager Ctx) :=
  match state with
  | .failed _ => ⟨.error runtimeFailedError, counter, []⟩
  | .active runtime =>
    let run := runtime.beforeToolCall invoke request toolName backendName counter
    { run with result := run.result.map (wrapState runtime) }

/-- `GatewayPluginRuntimeHandle::after_tool_call`. -/
def afterToolCall (api : CmfApi Value)
    (invoke : Invocation Value Manager Ctx → PipelineResult Value Ctx)
    (toolName : String) (response : CallToolResult Value)
    (state : Option (RuntimeHookState Manager Ctx)) (counter : UInt64) :
    HookRun Value Manager Ctx (CallToolResult Value) :=
  match state.bind RuntimeHookState.asRegistry with
  | some (runtime, state) => runtime.afterToolCall api invoke toolName response state counter
  | none => ⟨.ok response, counter, []⟩

end GatewayPluginRuntimeHandle

end ContextForge
