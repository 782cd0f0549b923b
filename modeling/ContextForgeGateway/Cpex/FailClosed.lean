import ContextForgeGateway.Cpex.Registry

/-!
# Failing closed

The four operations treat failure differently: `initialize`, `reload` and the watcher publish
`Failed`, `apply_config` returns its error and publishes nothing. `failClosed_run` is the law of
the published state over every run, in which each operation meets its own environment: any stage
of any operation may fail.
-/

namespace ContextForge

namespace CpexRuntimeRegistry

open Runs

variable {Value Manager : Type} [Inhabited Manager]

/-- One operation, in the environment it meets. -/
def stepIn (registry : CpexRuntimeRegistry Manager) (i : CpexEnv Value Manager × RegistryOp Value) :
    CpexRuntimeRegistry Manager :=
  registry.step i.1 i.2

/-- The last operation to change the published state, with the registry before it. -/
def lastChange (registry : CpexRuntimeRegistry Manager)
    (is : List (CpexEnv Value Manager × RegistryOp Value)) :
    Option (CpexRuntimeRegistry Manager × CpexEnv Value Manager × RegistryOp Value) :=
  last? stepIn (publishesAt Prod.fst Prod.snd) registry is

/-- An `initialize` or `reload` that returns an error, or a tick that is not skipped and does not
find a configuration it can build. -/
def Fails (env : CpexEnv Value Manager) (registry : CpexRuntimeRegistry Manager) :
    RegistryOp Value → Prop
  | .init answer => ∃ e, (registry.initializeRegistry env answer).2 = .error e
  | .reload answer => ∃ e, (registry.reload env answer).2 = .error e
  | .applyConfig _ => False
  | .tick answer => registry.watcher.isSome ∧ registry.skips env answer = false ∧
      ∃ e, load env answer = .error e

/-- The runtime is the outcome of a `from_config` all of whose stages succeeded. -/
structure BuiltFrom (env : CpexEnv Value Manager) (config : CpexConfig Value)
    (runtime : GatewayPluginRuntime Manager) : Prop where
  built : GatewayPluginRuntime.fromConfig env config = .ok runtime
  validated : validateGatewaySupportedConfig config = .ok ()
  constructed : env.managerFromConfig config = some runtime.manager
  initialized : env.managerInitialize runtime.manager = true

/-- The bytes decode to a document of the supported version with this configuration. -/
def DecodesTo (env : CpexEnv Value Manager) (b : Bytes) (config : CpexConfig Value) : Prop :=
  ∃ document, decodeConfigDocument env b = .ok document ∧
    document.version = runtimePluginConfigVersion ∧ document.cpex = config

/-- The law of the published state after a run. -/
structure FailClosed (registry₀ : CpexRuntimeRegistry Manager)
    (is : List (CpexEnv Value Manager × RegistryOp Value)) : Prop where
  failed_iff : (∃ error, (run stepIn registry₀ is).runtime = .failed error) ↔
    ∃ r env op, lastChange registry₀ is = some (r, env, op) ∧ Fails env r op
  active_origin : ∀ runtime, (run stepIn registry₀ is).runtime = .active runtime →
    (runtime = default ∧ (lastChange registry₀ is = none ∨
      ∃ r env, lastChange registry₀ is = some (r, env, .applyConfig none))) ∨
    ∃ r env op config, lastChange registry₀ is = some (r, env, op) ∧
      BuiltFrom env config runtime ∧
      (op = .applyConfig (some config) ∨ ∃ b, DecodesTo env b config ∧
        (op = .init (.bytes b) ∨ op = .reload (.bytes b) ∨ op = .tick (.bytes b)))
  applyConfig_error : ∀ env (config : Option (CpexConfig Value)) error,
    ((run stepIn registry₀ is).applyConfig env config).2 = .error error →
      ((run stepIn registry₀ is).applyConfig env config).1 = run stepIn registry₀ is
  failed_rejects : ∀ error, (run stepIn registry₀ is).runtime = .failed error →
    ∀ {Ctx : Type} [DecidableEq Value]
      (invoke : Invocation Value Manager Ctx → PipelineResult Value Ctx)
      (request : CallToolRequestParams Value) (toolName backendName : String) (counter : UInt64),
      GatewayPluginRuntimeHandle.beforeToolCall (run stepIn registry₀ is).runtime invoke request
        toolName backendName counter = ⟨.error runtimeFailedError, counter, []⟩

/-! ### One operation -/

omit [Inhabited Manager] in
theorem builtFrom_of_fromConfig {env : CpexEnv Value Manager} {config : CpexConfig Value}
    {runtime : GatewayPluginRuntime Manager}
    (h : GatewayPluginRuntime.fromConfig env config = .ok runtime) :
    BuiltFrom env config runtime := by
  obtain ⟨hv, hm, hi, -, -⟩ := fromConfig_eq_ok.1 h
  exact ⟨h, hv, hm, hi⟩

theorem reloadRuntime_snd {env : CpexEnv Value Manager} {registry : CpexRuntimeRegistry Manager}
    (hs : registry.hasConfigStore = true) (answer : StoreAnswer) :
    (∃ e, (reloadRuntime env registry answer).2 = .error e) ↔ ∃ e, load env answer = .error e := by
  unfold load
  cases hl : loadRuntimeConfig env answer <;> simp [reloadRuntime, hs, hl, Except.map]

theorem initializeRegistry_error {env : CpexEnv Value Manager}
    {registry : CpexRuntimeRegistry Manager} {answer : StoreAnswer} :
    (∃ e, (registry.initializeRegistry env answer).2 = .error e) ↔
      ∃ e, (reloadRuntime env registry answer).2 = .error e := by
  unfold initializeRegistry
  rcases hr : reloadRuntime env registry answer with ⟨r, e | b⟩ <;> simp

theorem reload_error {env : CpexEnv Value Manager} {registry : CpexRuntimeRegistry Manager}
    {answer : StoreAnswer} :
    (∃ e, (registry.reload env answer).2 = .error e) ↔
      ∃ e, (reloadRuntime env registry answer).2 = .error e := by
  unfold reload
  cases (reloadRuntime env registry answer).2 <;> simp [Except.map]

/-- An operation fails exactly if it publishes a failure. -/
theorem fails_iff {env : CpexEnv Value Manager} {registry : CpexRuntimeRegistry Manager}
    {op : RegistryOp Value}
    {result : Except GatewayPluginRuntimeError (GatewayPluginRuntime Manager)}
    (h : registry.publishes env op = some result) :
    Fails env registry op ↔ ∃ e, result = .error e := by
  rcases publishes_cases h with ⟨answer, rfl | rfl, hs, rfl⟩ | ⟨answer, last, rfl, hw, hs, rfl⟩ |
    ⟨rfl, rfl⟩ | ⟨config, built, rfl, -, rfl⟩
  · exact initializeRegistry_error.trans (reloadRuntime_snd hs answer)
  · exact reload_error.trans (reloadRuntime_snd hs answer)
  · have hstarted : registry.watcher.isSome = true := by simp [hw]
    exact ⟨fun hf => hf.2.2, fun he => ⟨hstarted, hs, he⟩⟩
  · exact iff_of_false (fun hf => hf) (fun ⟨e, he⟩ => nomatch he)
  · exact iff_of_false (fun hf => hf) (fun ⟨e, he⟩ => nomatch he)

/-- What an operation publishes as active it has built from what it was given, or it is
`apply_config(None)`. -/
theorem origin_of_publishes {env : CpexEnv Value Manager} {registry : CpexRuntimeRegistry Manager}
    {op : RegistryOp Value} {runtime : GatewayPluginRuntime Manager}
    (h : registry.publishes env op = some (.ok runtime)) :
    (op = .applyConfig none ∧ runtime = default) ∨
    ∃ config, BuiltFrom env config runtime ∧
      (op = .applyConfig (some config) ∨ ∃ b, DecodesTo env b config ∧
        (op = .init (.bytes b) ∨ op = .reload (.bytes b) ∨ op = .tick (.bytes b))) := by
  have hload : ∀ answer, load env answer = .ok runtime → ∃ config b, answer = .bytes b ∧
      BuiltFrom env config runtime ∧ DecodesTo env b config := by
    intro answer hl
    obtain ⟨b, document, rfl, hd, hv, hf⟩ := load_eq_ok.1 hl
    exact ⟨document.cpex, b, rfl, builtFrom_of_fromConfig hf, document, hd, hv, rfl⟩
  rcases publishes_cases h with ⟨answer, hop, -, hl⟩ | ⟨answer, last, hop, -, -, hl⟩ |
    ⟨rfl, hr⟩ | ⟨config, built, rfl, hf, hr⟩
  · obtain ⟨config, b, rfl, hb, hd⟩ := hload answer hl
    exact Or.inr ⟨config, hb, Or.inr ⟨b, hd, hop.imp_right Or.inl⟩⟩
  · obtain ⟨config, b, rfl, hb, hd⟩ := hload answer hl
    exact Or.inr ⟨config, hb, Or.inr ⟨b, hd, Or.inr (Or.inr hop)⟩⟩
  · cases hr
    exact Or.inl ⟨rfl, rfl⟩
  · cases hr
    exact Or.inr ⟨config, builtFrom_of_fromConfig hf, Or.inl rfl⟩

/-- An `apply_config` that returns an error changes nothing. -/
theorem applyConfig_of_error {env : CpexEnv Value Manager}
    {registry : CpexRuntimeRegistry Manager} {config : Option (CpexConfig Value)}
    {error : GatewayPluginRuntimeError} (h : (registry.applyConfig env config).2 = .error error) :
    (registry.applyConfig env config).1 = registry := by
  cases config with
  | none => cases h
  | some config =>
    cases hf : GatewayPluginRuntime.fromConfig env config with
    | error e => simp [applyConfig, applyRuntimeConfig, hf]
    | ok runtime => simp [applyConfig, applyRuntimeConfig, hf] at h

/-! ### Runs -/

/-- **Failing closed.** After every run of operations, each in an environment of its own. -/
theorem failClosed_run (hasConfigStore : Bool)
    (is : List (CpexEnv Value Manager × RegistryOp Value)) :
    FailClosed (new hasConfigStore) is := by
  have hrun := runtime_run Prod.fst Prod.snd (new hasConfigStore) is
  refine ⟨?_, ?_, fun env config error h => applyConfig_of_error h, ?_⟩
  · rcases hrun with ⟨hnone, hrt⟩ | ⟨r, ⟨env, op⟩, result, hsome, hp, hrt⟩
    · constructor
      · rintro ⟨error, he⟩
        cases hrt.symm.trans he
      · rintro ⟨r, env, op, hl, -⟩
        cases hnone.symm.trans hl
    · have hfails := (fails_iff hp).trans RuntimeState.ofResult_eq_failed.symm
      constructor
      · rintro ⟨error, he⟩
        exact ⟨r, env, op, hsome, hfails.2 ⟨error, hrt.symm.trans he⟩⟩
      · rintro ⟨r', env', op', hl, hf⟩
        cases hsome.symm.trans hl
        obtain ⟨error, he⟩ := hfails.1 hf
        exact ⟨error, hrt.trans he⟩
  · intro runtime hact
    rcases hrun with ⟨hnone, hrt⟩ | ⟨r, ⟨env, op⟩, result, hsome, hp, hrt⟩
    · cases hrt.symm.trans hact
      exact Or.inl ⟨rfl, Or.inl hnone⟩
    · obtain rfl := RuntimeState.ofResult_eq_active.1 (hrt.symm.trans hact)
      rcases origin_of_publishes hp with ⟨rfl, rfl⟩ | ⟨config, hb, ho⟩
      · exact Or.inl ⟨rfl, Or.inr ⟨r, env, hsome⟩⟩
      · exact Or.inr ⟨r, env, op, config, hsome, hb, ho⟩
  · intro error he Ctx _ invoke request toolName backendName counter
    rw [he]
    rfl

end CpexRuntimeRegistry

end ContextForge
