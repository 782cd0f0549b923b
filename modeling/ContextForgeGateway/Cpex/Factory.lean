import ContextForgeGateway.Cpex.Copies

/-!
# Plugin factories and the hooks of a runtime

Three places scan the hooks of a configuration: `validate_gateway_supported_config` refuses hooks
that the gateway does not run, the factory of a plugin makes a handler for each hook that it knows,
and `from_config` sets a flag for the pre hook and one for the post hook if any plugin declares them.
A runtime passes over the pipeline of a hook whose flag is not set.

`fromConfig_hooks` says that the three scans agree: of the runtime that is built, the flag of a hook
is set exactly if a handler is registered for it, so no handler is passed over. What passing over
gives is what an empty pipeline would give, except that `before_tool_call` then leaves no state
behind, and that an answer keeps an absent error flag, which the pipeline would fill in.

The plugin manager is a parameter; `CmfManager` is what is documented of it.
-/

namespace ContextForge

variable {Value Manager Plugin : Type}

/-! ### factory.rs -/

/-- `PluginError::Config`. -/
structure PluginError where
  message : String
  deriving DecidableEq

/-- `PluginInstance`: a plugin, and its handlers by the name of their hook. A handler is an adapter
around the plugin. -/
structure PluginInstance (Plugin : Type) where
  plugin : Plugin
  handlers : List (String × Plugin)

/-- `cmf_hook_name`. -/
def cmfHookName (hook : String) : Option String :=
  if hook = toolPreInvoke then some toolPreInvoke
  else if hook = toolPostInvoke then some toolPostInvoke
  else none

/-- `struct CmfPluginFactory`. -/
structure CmfPluginFactory (Value Plugin : Type) where
  build : PluginConfig Value → Plugin

/-- `CmfPluginFactory::create`. -/
def CmfPluginFactory.create (factory : CmfPluginFactory Value Plugin) (config : PluginConfig Value) :
    Except PluginError (PluginInstance Plugin) :=
  let plugin := factory.build config
  let handlers := (config.hooks.filterMap cmfHookName).map fun hook => (hook, plugin)
  if handlers.isEmpty then
    .error ⟨"plugin '" ++ config.name ++ "' does not declare supported CMF hooks"⟩
  else .ok ⟨plugin, handlers⟩

/-- The hooks that the gateway runs. -/
def SupportedHook (hook : String) : Prop := hook = toolPreInvoke ∨ hook = toolPostInvoke

instance (hook : String) : Decidable (SupportedHook hook) :=
  inferInstanceAs (Decidable (hook = toolPreInvoke ∨ hook = toolPostInvoke))

theorem cmfHookName_eq_some {hook name : String} :
    cmfHookName hook = some name ↔ hook = name ∧ SupportedHook name := by
  unfold cmfHookName SupportedHook
  constructor
  · intro h
    split_ifs at h with hpre hpost
    · cases h
      exact ⟨hpre, Or.inl rfl⟩
    · cases h
      exact ⟨hpost, Or.inr rfl⟩
  · rintro ⟨rfl, rfl | rfl⟩
    · rw [if_pos rfl]
    · rw [if_neg (by decide), if_pos rfl]

/-- A plugin that is created has a handler for each of its supported hooks, and no other; it has
some. -/
theorem create_eq_ok {factory : CmfPluginFactory Value Plugin} {config : PluginConfig Value}
    {created : PluginInstance Plugin} (h : factory.create config = .ok created) :
    created.handlers ≠ [] ∧ ∀ hook plugin, (hook, plugin) ∈ created.handlers ↔
      hook ∈ config.hooks ∧ SupportedHook hook ∧ plugin = factory.build config := by
  unfold CmfPluginFactory.create at h
  simp only [List.isEmpty_iff] at h
  split_ifs at h with hempty
  cases h
  refine ⟨hempty, fun hook plugin => ?_⟩
  simp only [List.mem_map, List.mem_filterMap, cmfHookName_eq_some, Prod.mk.injEq]
  constructor
  · rintro ⟨name, ⟨declared, hdeclared, rfl, hsupported⟩, rfl, rfl⟩
    exact ⟨hdeclared, hsupported, rfl⟩
  · rintro ⟨hdeclared, hsupported, rfl⟩
    exact ⟨hook, ⟨hook, hdeclared, rfl, hsupported⟩, rfl, rfl⟩

/-! ### The plugin manager -/

/-- `PluginManager::from_config` over factories of this kind: it calls the factory of each plugin
once, fails if one of them fails, and registers the handlers that they return. -/
structure CmfManager (env : CpexEnv Value Manager) (Plugin : Type) where
  factory : PluginConfig Value → CmfPluginFactory Value Plugin
  handlers : Manager → List (String × Plugin)
  from_config : ∀ {config manager}, env.managerFromConfig config = some manager →
    ∃ created, List.Forall₂ (fun plugin inst => (factory plugin).create plugin = .ok inst)
        config.plugins created ∧
      handlers manager = created.flatMap PluginInstance.handlers

/-- The handlers of some created plugins. -/
theorem mem_handlers {factory : PluginConfig Value → CmfPluginFactory Value Plugin}
    {plugins : List (PluginConfig Value)} {created : List (PluginInstance Plugin)}
    (h : List.Forall₂ (fun plugin inst => (factory plugin).create plugin = .ok inst) plugins created)
    (hook : String) (handler : Plugin) :
    (hook, handler) ∈ created.flatMap PluginInstance.handlers ↔
      ∃ plugin ∈ plugins, hook ∈ plugin.hooks ∧ SupportedHook hook ∧
        handler = (factory plugin).build plugin := by
  induction h with
  | nil => simp
  | cons hcreate _ ih =>
    rw [List.flatMap_cons, List.mem_append, (create_eq_ok hcreate).2, ih]
    simp

theorem declares_iff {config : CpexConfig Value} {hook : String} :
    config.declares hook = true ↔ ∃ plugin ∈ config.plugins, hook ∈ plugin.hooks := by
  simp [CpexConfig.declares]

variable {env : CpexEnv Value Manager}

/-- For a supported hook, the configuration declares it exactly if a handler is registered. -/
theorem CmfManager.declares_iff_handler (cmf : CmfManager env Plugin) {config : CpexConfig Value}
    {manager : Manager} (h : env.managerFromConfig config = some manager) {hook : String}
    (hsupported : SupportedHook hook) :
    config.declares hook = true ↔ ∃ handler, (hook, handler) ∈ cmf.handlers manager := by
  obtain ⟨created, hcreated, hhandlers⟩ := cmf.from_config h
  rw [declares_iff, hhandlers]
  constructor
  · rintro ⟨plugin, hplugin, hhook⟩
    exact ⟨_, (mem_handlers hcreated hook _).2 ⟨plugin, hplugin, hhook, hsupported, rfl⟩⟩
  · rintro ⟨handler, hhandler⟩
    obtain ⟨plugin, hplugin, hhook, -, -⟩ := (mem_handlers hcreated hook handler).1 hhandler
    exact ⟨plugin, hplugin, hhook⟩

theorem CmfManager.handler_supported (cmf : CmfManager env Plugin) {config : CpexConfig Value}
    {manager : Manager} (h : env.managerFromConfig config = some manager) {hook : String}
    {handler : Plugin} (hhandler : (hook, handler) ∈ cmf.handlers manager) : SupportedHook hook := by
  obtain ⟨created, hcreated, hhandlers⟩ := cmf.from_config h
  rw [hhandlers] at hhandler
  obtain ⟨plugin, -, -, hsupported, -⟩ := (mem_handlers hcreated hook handler).1 hhandler
  exact hsupported

/-- A plugin that is created declares a hook. -/
theorem create_hooks_ne_nil {factory : CmfPluginFactory Value Plugin} {config : PluginConfig Value}
    {created : PluginInstance Plugin} (h : factory.create config = .ok created) :
    config.hooks ≠ [] := by
  obtain ⟨hsome, hmem⟩ := create_eq_ok h
  intro hnil
  obtain ⟨⟨hook, handler⟩, hhandler⟩ := List.exists_mem_of_ne_nil _ hsome
  have hhook := ((hmem hook handler).1 hhandler).1
  rw [hnil] at hhook
  cases hhook

/-- A plugin without hooks makes `PluginManager::from_config` fail. -/
theorem CmfManager.hooks_ne_nil (cmf : CmfManager env Plugin) {config : CpexConfig Value}
    {manager : Manager} (h : env.managerFromConfig config = some manager)
    {plugin : PluginConfig Value} (hplugin : plugin ∈ config.plugins) : plugin.hooks ≠ [] := by
  obtain ⟨created, hcreated, -⟩ := cmf.from_config h
  obtain ⟨i, hi, rfl⟩ := List.getElem_of_mem hplugin
  have hlt : i < created.length := hcreated.length_eq ▸ hi
  exact create_hooks_ne_nil (hcreated.get hi hlt)

/-! ### Configurations that are rejected -/

/-- Validation refuses a plugin with a condition or with a hook that the gateway does not run. -/
theorem validate_unsupported {config : CpexConfig Value} {plugin : PluginConfig Value}
    (hplugin : plugin ∈ config.plugins)
    (h : plugin.conditions ≠ [] ∨ ∃ hook ∈ plugin.hooks, ¬ SupportedHook hook) :
    validateGatewaySupportedConfig config = .error .configUnsupported := by
  have hany : (config.plugins.any fun plugin => !plugin.conditions.isEmpty ||
      plugin.hooks.any fun hook => hook != toolPreInvoke && hook != toolPostInvoke) = true := by
    rw [List.any_eq_true]
    refine ⟨plugin, hplugin, ?_⟩
    rcases h with hconditions | ⟨hook, hhook, hunsupported⟩
    · simp [hconditions]
    · have hneither : hook ≠ toolPreInvoke ∧ hook ≠ toolPostInvoke := by
        constructor
        · intro hpre
          exact hunsupported (Or.inl hpre)
        · intro hpost
          exact hunsupported (Or.inr hpost)
      rw [Bool.or_eq_true, List.any_eq_true]
      exact Or.inr ⟨hook, hhook, by simp [hneither]⟩
  unfold validateGatewaySupportedConfig
  rw [hany]
  split
  · rfl
  · rfl

/-! ### Skipped pipelines -/

/-- A pipeline that neither denies nor modifies: it hands on no payload, or a copy of its own. -/
def PipelineResult.Untouched {Ctx : Type} (result : PipelineResult Value Ctx)
    (payload : MessagePayload Value) : Prop :=
  (result.isDenied = false ∧ result.modifiedPayload = none) ∨ result.Copies payload

/-- The runtime that skips no pipeline. -/
def GatewayPluginRuntime.unskipped (runtime : GatewayPluginRuntime Manager) :
    GatewayPluginRuntime Manager :=
  { runtime with hasPreHook := true, hasPostHook := true }

section

variable {Ctx : Type} {runtime : GatewayPluginRuntime Manager}
  {invoke : Invocation Value Manager Ctx → PipelineResult Value Ctx}

theorem afterToolPre_untouched [DecidableEq Value] {preResult : PipelineResult Value Ctx}
    {request : CallToolRequestParams Value} {toolName backendName toolCallId : String}
    (h : preResult.Untouched (toolCallPayload request toolName backendName toolCallId)) :
    (GatewayPluginRuntime.afterToolPre request toolCallId preResult :
        Except ErrorData (ToolPreCallResult Value Manager Ctx)) =
      .ok ⟨.unchanged, some (.toolCall ⟨preResult.contextTable, toolCallId⟩)⟩ := by
  rcases h with ⟨hallowed, hunmodified⟩ | hcopies
  · have hargs : effectivePreArgs request.arguments preResult = .ok .unchanged := by
      unfold effectivePreArgs
      rw [modifiedMessagePayload_of_none hunmodified]
    unfold GatewayPluginRuntime.afterToolPre
    rw [hallowed, hargs]
    rfl
  · exact afterToolPre_of_copies hcopies

theorem afterToolPost_untouched {api : CmfApi Value} (htext : api.TextOfParts)
    {toolName toolCallId : String} {response : CallToolResult Value} (hround : api.RoundTrips response)
    {postResult : PipelineResult Value Ctx}
    (h : postResult.Untouched (toolResultPayload api toolName response toolCallId)) :
    ∃ answer, GatewayPluginRuntime.afterToolPost api response postResult = .ok answer ∧
      SameAnswer response answer := by
  unfold GatewayPluginRuntime.afterToolPost
  rcases h with ⟨hallowed, hunmodified⟩ | hcopies
  · have hresult : effectivePostResult api response postResult = response := by
      unfold effectivePostResult
      rw [modifiedMessagePayload_of_none hunmodified]
    rw [hallowed, hresult]
    exact ⟨response, rfl, SameAnswer.refl response⟩
  · rw [hcopies.allowed]
    exact ⟨_, rfl, effectivePostResult_of_copies htext hround hcopies⟩

/-- Without the pre hook, `before_tool_call` leaves the arguments as the full path would, and
returns no state, where the full path returns one. -/
theorem beforeToolCall_skips [DecidableEq Value] (hskip : runtime.hasPreHook = false)
    (request : CallToolRequestParams Value) (toolName backendName : String) (counter : UInt64)
    (hempty : ∀ invocation : Invocation Value Manager Ctx, invocation.hook = toolPreInvoke →
      invocation.runtime.manager = runtime.manager → (invoke invocation).Untouched invocation.payload) :
    (runtime.beforeToolCall invoke request toolName backendName counter).result =
        .ok ⟨.unchanged, none⟩ ∧
      ∃ state, (runtime.unskipped.beforeToolCall invoke request toolName backendName
        counter).result = .ok ⟨.unchanged, some (.toolCall state)⟩ := by
  constructor
  · unfold GatewayPluginRuntime.beforeToolCall
    rw [hskip]
    rfl
  · have huntouched := hempty (runtime.unskipped.toolPreInvocation request toolName backendName
      (nextToolCallId counter).1) rfl rfl
    exact ⟨_, afterToolPre_untouched huntouched⟩

/-- Without the post hook, `after_tool_call` returns the answer of the backend, and the full path one that
is the same but for an absent error flag. -/
theorem afterToolCall_skips (hskip : runtime.hasPostHook = false) {api : CmfApi Value}
    (htext : api.TextOfParts) (toolName : String) {response : CallToolResult Value}
    (hround : api.RoundTrips response) (state : Option (RuntimeHookState Manager Ctx)) (counter : UInt64)
    (hempty : ∀ invocation : Invocation Value Manager Ctx, invocation.hook = toolPostInvoke →
      invocation.runtime.manager = runtime.manager → (invoke invocation).Untouched invocation.payload) :
    (runtime.afterToolCall api invoke toolName response state counter).result = .ok response ∧
      ∃ answer, (runtime.unskipped.afterToolCall api invoke toolName response state counter).result =
        .ok answer ∧ SameAnswer response answer := by
  constructor
  · unfold GatewayPluginRuntime.afterToolCall
    rw [hskip]
    rfl
  · let post := GatewayPluginRuntime.postState state counter
    have huntouched := hempty (runtime.unskipped.toolPostInvocation api toolName response post.2.1 post.1)
      rfl rfl
    exact afterToolPost_untouched htext hround huntouched

end

/-! ### The three scans agree -/

/-- The pipelines run no handler but the registered ones: one without handlers neither denies nor
modifies. -/
def CmfManager.EmptyUntouched {Ctx : Type} (cmf : CmfManager env Plugin)
    (invoke : Invocation Value Manager Ctx → PipelineResult Value Ctx) : Prop :=
  ∀ invocation, (∀ handler, (invocation.hook, handler) ∉ cmf.handlers invocation.runtime.manager) →
    (invoke invocation).Untouched invocation.payload

/-- A runtime whose flags are those of its registered handlers, and what follows for tool calls. -/
structure GatewayPluginRuntime.HooksAgree [DecidableEq Value] (cmf : CmfManager env Plugin)
    (runtime : GatewayPluginRuntime Manager) : Prop where
  pre : runtime.hasPreHook = true ↔ ∃ handler, (toolPreInvoke, handler) ∈ cmf.handlers runtime.manager
  post : runtime.hasPostHook = true ↔
    ∃ handler, (toolPostInvoke, handler) ∈ cmf.handlers runtime.manager
  supported : ∀ hook handler, (hook, handler) ∈ cmf.handlers runtime.manager → SupportedHook hook
  /-- A registered handler of the pre hook is not passed over. -/
  runs_pre : ∀ {Ctx : Type} (invoke : Invocation Value Manager Ctx → PipelineResult Value Ctx)
    request toolName backendName counter handler,
    (toolPreInvoke, handler) ∈ cmf.handlers runtime.manager →
    (runtime.beforeToolCall invoke request toolName backendName counter).invoked =
      [runtime.toolPreInvocation request toolName backendName (nextToolCallId counter).1]
  /-- A registered handler of the post hook is not passed over. -/
  runs_post : ∀ {Ctx : Type} (invoke : Invocation Value Manager Ctx → PipelineResult Value Ctx)
    api toolName response state counter handler,
    (toolPostInvoke, handler) ∈ cmf.handlers runtime.manager →
    ∃ toolCallId contextTable,
      (runtime.afterToolCall api invoke toolName response state counter).invoked =
        [runtime.toolPostInvocation api toolName response toolCallId contextTable]
  /-- Passing over the pre hook gives the arguments of the full path, but no state. -/
  skips_pre : ∀ {Ctx : Type} (invoke : Invocation Value Manager Ctx → PipelineResult Value Ctx),
    cmf.EmptyUntouched invoke → runtime.hasPreHook = false →
    ∀ request toolName backendName counter,
    (runtime.beforeToolCall invoke request toolName backendName counter).result =
        .ok ⟨.unchanged, none⟩ ∧
      ∃ state, (runtime.unskipped.beforeToolCall invoke request toolName backendName
        counter).result = .ok ⟨.unchanged, some (.toolCall state)⟩
  /-- Passing over the post hook gives the answer of the full path, but for an absent error flag. -/
  skips_post : ∀ {Ctx : Type} (invoke : Invocation Value Manager Ctx → PipelineResult Value Ctx),
    cmf.EmptyUntouched invoke → runtime.hasPostHook = false →
    ∀ api : CmfApi Value, api.TextOfParts → ∀ toolName response state counter, api.RoundTrips response →
    (runtime.afterToolCall api invoke toolName response state counter).result = .ok response ∧
      ∃ answer, (runtime.unskipped.afterToolCall api invoke toolName response state counter).result =
        .ok answer ∧ SameAnswer response answer

/-- A flag that is not set means that no handler is registered. -/
theorem no_handler {flag : Bool} {hook : String} {handlers : List (String × Plugin)}
    (h : flag = true ↔ ∃ handler, (hook, handler) ∈ handlers) (hflag : flag = false)
    (handler : Plugin) : (hook, handler) ∉ handlers := by
  intro hhandler
  have hset : flag = true := h.2 ⟨handler, hhandler⟩
  rw [hflag] at hset
  cases hset

theorem hooksAgree_of_fromConfig [DecidableEq Value] (cmf : CmfManager env Plugin)
    {config : CpexConfig Value} {runtime : GatewayPluginRuntime Manager}
    (h : GatewayPluginRuntime.fromConfig env config = .ok runtime) :
    GatewayPluginRuntime.HooksAgree cmf runtime := by
  obtain ⟨-, hmanager, -, hpre, hpost⟩ := fromConfig_eq_ok.1 h
  have hpreHandler := cmf.declares_iff_handler hmanager (Or.inl rfl : SupportedHook toolPreInvoke)
  have hpostHandler := cmf.declares_iff_handler hmanager (Or.inr rfl : SupportedHook toolPostInvoke)
  rw [← hpre] at hpreHandler
  rw [← hpost] at hpostHandler
  constructor
  case pre => exact hpreHandler
  case post => exact hpostHandler
  case supported =>
    intro hook handler hhandler
    exact cmf.handler_supported hmanager hhandler
  case runs_pre =>
    intro Ctx invoke request toolName backendName counter handler hhandler
    have hset : runtime.hasPreHook = true := hpreHandler.2 ⟨handler, hhandler⟩
    unfold GatewayPluginRuntime.beforeToolCall
    rw [hset]
    rfl
  case runs_post =>
    intro Ctx invoke api toolName response state counter handler hhandler
    have hset : runtime.hasPostHook = true := hpostHandler.2 ⟨handler, hhandler⟩
    unfold GatewayPluginRuntime.afterToolCall
    rw [hset]
    exact ⟨_, _, rfl⟩
  case skips_pre =>
    intro Ctx invoke hempty hskip request toolName backendName counter
    refine beforeToolCall_skips hskip request toolName backendName counter fun invocation hhook hsame => ?_
    apply hempty invocation
    rw [hhook, hsame]
    exact no_handler hpreHandler hskip
  case skips_post =>
    intro Ctx invoke hempty hskip api htext toolName response state counter hround
    refine afterToolCall_skips hskip htext toolName hround state counter fun invocation hhook hsame => ?_
    apply hempty invocation
    rw [hhook, hsame]
    exact no_handler hpostHandler hskip

/-- Of every configuration that `from_config` accepts, the flags are those of the registered
handlers. It accepts no configuration with a condition, with a hook that the gateway does not run,
or with a plugin without hooks. -/
theorem fromConfig_hooks [DecidableEq Value] (cmf : CmfManager env Plugin)
    (config : CpexConfig Value) :
    (∀ runtime, GatewayPluginRuntime.fromConfig env config = .ok runtime →
      GatewayPluginRuntime.HooksAgree cmf runtime) ∧
    ((∃ plugin ∈ config.plugins,
        plugin.conditions ≠ [] ∨ ∃ hook ∈ plugin.hooks, ¬ SupportedHook hook) →
      GatewayPluginRuntime.fromConfig env config = .error .configUnsupported) ∧
    ((∃ plugin ∈ config.plugins, plugin.hooks = []) →
      ∃ e, GatewayPluginRuntime.fromConfig env config = .error e) := by
  refine ⟨?_, ?_, ?_⟩
  · intro runtime hruntime
    exact hooksAgree_of_fromConfig cmf hruntime
  · rintro ⟨plugin, hplugin, hunsupported⟩
    unfold GatewayPluginRuntime.fromConfig
    rw [validate_unsupported hplugin hunsupported]
    rfl
  · rintro ⟨plugin, hplugin, hhooks⟩
    cases hfrom : GatewayPluginRuntime.fromConfig env config with
    | error e => exact ⟨e, rfl⟩
    | ok runtime =>
      obtain ⟨-, hmanager, -⟩ := fromConfig_eq_ok.1 hfrom
      exact absurd hhooks (cmf.hooks_ne_nil hmanager hplugin)

/-! ### A manager that is its handlers -/

open CmfSample (Json)

namespace HandlerList

variable (Value Plugin) in
/-- The plugin manager that is nothing but the list of its handlers. -/
def cpexEnv (factory : PluginConfig Value → CmfPluginFactory Value Plugin) :
    CpexEnv Value (List (String × Plugin)) where
  decodeJson _ := none
  decodeMessagePack _ := none
  managerFromConfig config :=
    match config.plugins.mapM fun plugin => (factory plugin).create plugin with
    | .ok created => some (created.flatMap PluginInstance.handlers)
    | .error _ => none
  managerInitialize _ := true

theorem forall₂_of_mapM {α β ε : Type} {f : α → Except ε β} {xs : List α} :
    ∀ {ys : List β}, xs.mapM f = .ok ys → List.Forall₂ (fun x y => f x = .ok y) xs ys := by
  induction xs with
  | nil =>
    intro ys h
    cases h
    exact List.Forall₂.nil
  | cons x xs ih =>
    intro ys h
    rw [List.mapM_cons] at h
    cases hx : f x with
    | error e => simp [hx, bind, Except.bind] at h
    | ok y =>
      cases hxs : xs.mapM f with
      | error e => simp [hx, hxs, bind, Except.bind] at h
      | ok rest =>
        simp only [hx, hxs, bind, Except.bind, pure, Except.pure, Except.ok.injEq] at h
        rw [← h]
        exact List.Forall₂.cons hx (ih hxs)

/-- It registers the handlers that the factories return. -/
def cmf (factory : PluginConfig Value → CmfPluginFactory Value Plugin) :
    CmfManager (cpexEnv Value Plugin factory) Plugin where
  factory := factory
  handlers manager := manager
  from_config {config manager} h := by
    simp only [cpexEnv] at h
    split at h
    · next created hcreated =>
      cases h
      exact ⟨created, forall₂_of_mapM hcreated, rfl⟩
    · cases h

/-- A factory that names its plugins. -/
def named : PluginConfig Json → CmfPluginFactory Json String := fun _ => ⟨PluginConfig.name⟩

/-- A configuration with one plugin, of one hook. -/
def config (name hook : String) : CpexConfig Json := ⟨false, false, [], [], [], [], [⟨name, [hook], []⟩]⟩

/-- The runtime of a plugin on the results of tool calls. -/
def auditRuntime : GatewayPluginRuntime (List (String × String)) :=
  ⟨[(toolPostInvoke, "audit")], false, true⟩

/-- The runtime of a plugin on tool calls. -/
def screenRuntime : GatewayPluginRuntime (List (String × String)) :=
  ⟨[(toolPreInvoke, "screen")], true, false⟩

/-- The pipelines of plugins that only watch, and of no plugins: they hand on what they are given. -/
def handOn : Invocation Json (List (String × String)) Unit → PipelineResult Json Unit :=
  fun invocation => ⟨false, none, some (.message invocation.payload), ()⟩

theorem handOn_untouched (invocation : Invocation Json (List (String × String)) Unit) :
    (handOn invocation).Untouched invocation.payload :=
  Or.inr ⟨rfl, invocation.payload, MessagePayload.IsCopy.refl _, rfl⟩

def request : CallToolRequestParams Json := ⟨"echo", none, none, none⟩

/-- An answer without an error flag. -/
def response : CallToolResult Json := ⟨[.textItem "echo"], none, none, none⟩

theorem fromConfig_audit : GatewayPluginRuntime.fromConfig (cpexEnv Json String named)
    (config "audit" toolPostInvoke) = .ok auditRuntime := by
  rw [fromConfig_eq_ok]
  exact ⟨rfl, rfl, rfl, rfl, rfl⟩

theorem fromConfig_screen : GatewayPluginRuntime.fromConfig (cpexEnv Json String named)
    (config "screen" toolPreInvoke) = .ok screenRuntime := by
  rw [fromConfig_eq_ok]
  exact ⟨rfl, rfl, rfl, rfl, rfl⟩

end HandlerList

open HandlerList in
theorem audit_hooksAgree : GatewayPluginRuntime.HooksAgree (cmf named) auditRuntime :=
  (fromConfig_hooks (cmf named) (config "audit" toolPostInvoke)).1 _ fromConfig_audit

open HandlerList in
/-- Where a hook is passed over, the two halves of a call do not return what they would return with an empty
pipeline: the first leaves no state, and the second leaves out the error flag that the answer does not
have. -/
theorem skipped_ne_emptyPipeline :
    (cmf named).EmptyUntouched handOn ∧
    (GatewayPluginRuntime.fromConfig (cpexEnv Json String named) (config "audit" toolPostInvoke) =
        .ok auditRuntime ∧
      (∀ handler, (toolPreInvoke, handler) ∉ (cmf named).handlers auditRuntime.manager) ∧
      (auditRuntime.beforeToolCall handOn request "echo" "tools" 1).result ≠
        (auditRuntime.unskipped.beforeToolCall handOn request "echo" "tools" 1).result) ∧
    GatewayPluginRuntime.fromConfig (cpexEnv Json String named) (config "screen" toolPreInvoke) =
        .ok screenRuntime ∧
      (∀ handler, (toolPostInvoke, handler) ∉ (cmf named).handlers screenRuntime.manager) ∧
      (screenRuntime.afterToolCall CmfSample.api handOn "echo" response none 1).result = .ok response ∧
      (screenRuntime.unskipped.afterToolCall CmfSample.api handOn "echo" response none 1).result =
        .ok { response with isError := some false } := by
  refine ⟨?_, ⟨fromConfig_audit, ?_, ?_⟩, fromConfig_screen, ?_, rfl, ?_⟩
  · intro invocation _
    exact handOn_untouched invocation
  · intro handler hhandler
    simp [cmf, auditRuntime, toolPreInvoke, toolPostInvoke] at hhandler
  · have hskip : auditRuntime.hasPreHook = false := rfl
    obtain ⟨hskipped, state, hfull⟩ := beforeToolCall_skips hskip request "echo" "tools" 1
      fun invocation _ _ => handOn_untouched invocation
    rw [hskipped, hfull]
    simp
  · intro handler hhandler
    simp [cmf, screenRuntime, toolPreInvoke, toolPostInvoke] at hhandler
  · rfl

end ContextForge
