import ContextForgeGateway.Cpex.Factory
import Mathlib.Algebra.Ring.Nat
import Mathlib.Data.List.Count

/-!
# The handlers of a plugin

`CmfPluginFactory::create` maps the list of hooks that a plugin declares, name by name: each
occurrence of a supported hook becomes a handler around the same plugin. Nothing on the way from the
configuration to the plugin manager removes repetitions: validation asks of a hook only that it is
supported. So a plugin has exactly one handler for each of its hooks if it names none of them twice,
and otherwise as many as it names (`CmfManager.count_handlers`).
-/

namespace ContextForge

variable {Value Manager Plugin : Type}

/-- The supported hooks of a plugin, as often as it declares them. -/
def PluginConfig.supportedHooks (config : PluginConfig Value) : List String :=
  config.hooks.filter fun hook => SupportedHook hook

theorem PluginConfig.mem_supportedHooks {config : PluginConfig Value} {hook : String} :
    hook ∈ config.supportedHooks ↔ hook ∈ config.hooks ∧ SupportedHook hook := by
  rw [supportedHooks, List.mem_filter, decide_eq_true_iff]

theorem PluginConfig.count_supportedHooks {config : PluginConfig Value} {hook : String}
    (h : SupportedHook hook) : config.supportedHooks.count hook = config.hooks.count hook :=
  List.count_filter (decide_eq_true h)

theorem filterMap_cmfHookName (config : PluginConfig Value) :
    config.hooks.filterMap cmfHookName = config.supportedHooks := by
  have hguard : cmfHookName = Option.guard fun hook => decide (SupportedHook hook) := by
    funext hook
    apply Option.ext
    intro name
    rw [← Option.mem_def, Option.mem_def, cmfHookName_eq_some, Option.guard_eq_some_iff,
      decide_eq_true_iff]
    constructor
    · rintro ⟨rfl, hsupported⟩
      exact ⟨rfl, hsupported⟩
    · rintro ⟨rfl, hsupported⟩
      exact ⟨rfl, hsupported⟩
  rw [hguard, List.filterMap_eq_filter]
  rfl

/-- What `create` returns, by the supported hooks. -/
theorem create_eq (factory : CmfPluginFactory Value Plugin) (config : PluginConfig Value) :
    factory.create config =
      if config.supportedHooks = [] then
        .error ⟨"plugin '" ++ config.name ++ "' does not declare supported CMF hooks"⟩
      else .ok ⟨factory.build config,
        config.supportedHooks.map fun hook => (hook, factory.build config)⟩ := by
  unfold CmfPluginFactory.create
  simp only [filterMap_cmfHookName, List.isEmpty_iff, List.map_eq_nil_iff]

theorem create_eq_error_iff {factory : CmfPluginFactory Value Plugin}
    {config : PluginConfig Value} :
    (∃ e, factory.create config = .error e) ↔ ∀ hook ∈ config.hooks, ¬ SupportedHook hook := by
  have hempty : config.supportedHooks = [] ↔ ∀ hook ∈ config.hooks, ¬ SupportedHook hook := by
    simp only [PluginConfig.supportedHooks, List.filter_eq_nil_iff, decide_eq_true_iff]
  rw [create_eq, ← hempty]
  by_cases hnil : config.supportedHooks = []
  · rw [if_pos hnil]
    exact ⟨fun _ => hnil, fun _ => ⟨_, rfl⟩⟩
  · rw [if_neg hnil]
    constructor
    · rintro ⟨e, he⟩
      cases he
    · intro h
      exact absurd h hnil

/-- One handler for each occurrence of a supported hook, all around the one plugin. -/
theorem handlers_of_create {factory : CmfPluginFactory Value Plugin} {config : PluginConfig Value}
    {created : PluginInstance Plugin} (h : factory.create config = .ok created) :
    created.handlers = config.supportedHooks.map fun hook => (hook, created.plugin) := by
  rw [create_eq] at h
  by_cases hnil : config.supportedHooks = []
  · rw [if_pos hnil] at h
    cases h
  · rw [if_neg hnil] at h
    cases h
    rfl

theorem hooks_of_create {factory : CmfPluginFactory Value Plugin} {config : PluginConfig Value}
    {created : PluginInstance Plugin} (h : factory.create config = .ok created) :
    created.handlers.map Prod.fst = config.supportedHooks := by
  rw [handlers_of_create h, List.map_map]
  exact List.map_id config.supportedHooks

/-- A plugin has one handler for each of its hooks exactly if it names none of them twice. -/
theorem one_handler_iff {factory : CmfPluginFactory Value Plugin} {config : PluginConfig Value}
    {created : PluginInstance Plugin} (h : factory.create config = .ok created) :
    (∀ hook ∈ config.hooks, SupportedHook hook → (created.handlers.map Prod.fst).count hook = 1) ↔
      config.supportedHooks.Nodup := by
  rw [hooks_of_create h]
  constructor
  · intro hone
    refine List.nodup_iff_count_le_one.2 fun hook => ?_
    by_cases hmem : hook ∈ config.supportedHooks
    · obtain ⟨hdeclared, hsupported⟩ := PluginConfig.mem_supportedHooks.1 hmem
      exact Nat.le_of_eq (hone hook hdeclared hsupported)
    · rw [List.count_eq_zero_of_not_mem hmem]
      exact Nat.zero_le 1
  · intro hnodup hook hdeclared hsupported
    exact List.count_eq_one_of_mem hnodup
      (PluginConfig.mem_supportedHooks.2 ⟨hdeclared, hsupported⟩)

/-- A supported hook has as many registered handlers as the plugins name it. -/
theorem CmfManager.count_handlers {env : CpexEnv Value Manager} (cmf : CmfManager env Plugin)
    {config : CpexConfig Value} {manager : Manager}
    (h : env.managerFromConfig config = some manager) {hook : String} (hsupported : SupportedHook hook) :
    ((cmf.handlers manager).map Prod.fst).count hook =
      (config.plugins.map fun plugin => plugin.hooks.count hook).sum := by
  obtain ⟨created, hcreated, hhandlers⟩ := cmf.from_config h
  rw [hhandlers, List.map_flatMap, List.count_flatMap]
  clear h hhandlers
  generalize config.plugins = plugins at hcreated ⊢
  induction hcreated with
  | nil => rfl
  | cons hcreate _ ih =>
    rw [List.map_cons, List.map_cons, List.sum_cons, List.sum_cons, Function.comp_apply,
      hooks_of_create hcreate, PluginConfig.count_supportedHooks hsupported]
    exact congrArg _ ih

/-- What validation asks of a configuration. Of the hooks it is that they are supported. -/
theorem validate_eq_ok {config : CpexConfig Value} :
    validateGatewaySupportedConfig config = .ok () ↔
      (config.routingEnabled = false ∧ config.failOnPluginError = false ∧ config.routes = [] ∧
        config.pluginDirs = [] ∧ config.policies = [] ∧ config.defaults = []) ∧
      ∀ plugin ∈ config.plugins, plugin.conditions = [] ∧
        ∀ hook ∈ plugin.hooks, SupportedHook hook := by
  have hplugins : (config.plugins.any fun plugin => !plugin.conditions.isEmpty ||
      plugin.hooks.any fun hook => hook != toolPreInvoke && hook != toolPostInvoke) = false ↔
      ∀ plugin ∈ config.plugins, plugin.conditions = [] ∧
        ∀ hook ∈ plugin.hooks, SupportedHook hook := by
    rw [List.any_eq_false]
    refine forall₂_congr fun plugin _ => ?_
    rw [Bool.not_eq_true, Bool.or_eq_false_iff, List.any_eq_false, Bool.not_eq_false',
      List.isEmpty_iff]
    refine and_congr_right fun _ => forall₂_congr fun hook _ => ?_
    rw [SupportedHook, Bool.and_eq_true, bne_iff_ne, bne_iff_ne, ← not_or, not_not]
  have hglobal : (config.routingEnabled || config.failOnPluginError || !config.routes.isEmpty ||
      !config.pluginDirs.isEmpty || !config.policies.isEmpty || !config.defaults.isEmpty) = false ↔
      config.routingEnabled = false ∧ config.failOnPluginError = false ∧ config.routes = [] ∧
        config.pluginDirs = [] ∧ config.policies = [] ∧ config.defaults = [] := by
    simp only [Bool.or_eq_false_iff, Bool.not_eq_false', List.isEmpty_iff, and_assoc]
  rw [← hplugins, ← hglobal]
  unfold validateGatewaySupportedConfig
  split
  next h => simp [h]
  next h =>
    split
    next h' => simp [h']
    next h' => simp [h, h']

/-- **Handlers follow the declared hooks.** -/
theorem create_handlers (factory : CmfPluginFactory Value Plugin) :
    (∀ config, ((∃ e, factory.create config = .error e) ↔
        ∀ hook ∈ config.hooks, ¬ SupportedHook hook) ∧
      ∀ created, factory.create config = .ok created →
        created.handlers = (config.supportedHooks.map fun hook => (hook, created.plugin)) ∧
        (∀ hook, SupportedHook hook →
          (created.handlers.map Prod.fst).count hook = config.hooks.count hook) ∧
        ((∀ hook ∈ config.hooks, SupportedHook hook →
            (created.handlers.map Prod.fst).count hook = 1) ↔ config.supportedHooks.Nodup)) ∧
    ∀ config : CpexConfig Value, validateGatewaySupportedConfig config = .ok () ↔
      (config.routingEnabled = false ∧ config.failOnPluginError = false ∧ config.routes = [] ∧
        config.pluginDirs = [] ∧ config.policies = [] ∧ config.defaults = []) ∧
      ∀ plugin ∈ config.plugins, plugin.conditions = [] ∧
        ∀ hook ∈ plugin.hooks, SupportedHook hook := by
  refine ⟨fun config => ⟨create_eq_error_iff, fun created h => ?_⟩, fun config => validate_eq_ok⟩
  refine ⟨handlers_of_create h, fun hook hsupported => ?_, one_handler_iff h⟩
  rw [hooks_of_create h, PluginConfig.count_supportedHooks hsupported]

namespace Sample

/-- A plugin with both hooks of tools and one of language models. -/
def marker : PluginConfig Unit :=
  ⟨"marker", [toolPostInvoke, "cmf.llm_input", toolPreInvoke], []⟩

/-- The factory of plugins without a state. -/
def factory : CmfPluginFactory Unit Unit := ⟨fun _ => ()⟩

end Sample

theorem create_handlers_marker :
    ∃ created, Sample.factory.create Sample.marker = .ok created ∧
      ∀ hook ∈ Sample.marker.hooks, SupportedHook hook →
        (created.handlers.map Prod.fst).count hook = 1 := by
  have hnodup : Sample.marker.supportedHooks.Nodup := by decide
  refine ⟨_, rfl, ?_⟩
  exact (((create_handlers Sample.factory).1 Sample.marker).2 _ rfl).2.2.2 hnodup

/-- A hook that is named twice passes validation and has two handlers. -/
theorem create_repeated_hook :
    Sample.factory.create ⟨"rewriter", [toolPreInvoke, toolPreInvoke], []⟩ =
      .ok ⟨(), [(toolPreInvoke, ()), (toolPreInvoke, ())]⟩ ∧
    validateGatewaySupportedConfig
        (⟨false, false, [], [], [], [], [⟨"rewriter", [toolPreInvoke, toolPreInvoke], []⟩]⟩ :
          CpexConfig Unit) = .ok () :=
  ⟨rfl, rfl⟩

end ContextForge
