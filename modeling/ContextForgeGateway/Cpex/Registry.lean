import ContextForgeGateway.Cpex.Runtime
import ContextForgeGateway.Lib.Runs
import Mathlib.Data.List.Induction

/-!
# The runtime registry

`CpexRuntimeRegistry` publishes one `RuntimeState` at a time. Four operations may publish another:
`initialize` and `reload` read the configuration store, `apply_config` is given a configuration,
and the watcher, once `initialize` has started it, reads the store at every tick. The watcher
remembers the bytes of the document it applied last and skips a tick that reads them again.

`step` is one operation with everything it finds outside: the answer of the store, and an
environment in which decoding and building plugins may fail. `publishes` says what it publishes, if
anything; `step_of_publishes_some` and `step_of_publishes_none` are all that an operation can do,
and `runtime_run` says that the published state is what the last publication has left.
-/

namespace ContextForge

/-- `LoadedRuntimePluginConfig`. -/
structure LoadedRuntimePluginConfig (Value : Type) where
  document : RuntimePluginConfigDocument Value
  fingerprint : Bytes

/-- What Redis answers when the store is asked for the configuration. -/
inductive StoreAnswer
  | unavailable
  | absent
  | bytes (config : Bytes)
  deriving DecidableEq

/-- `struct CpexRuntimeRegistry`; `watcher` is `none` until the watcher has been started, and then
holds its `last_applied_config`. -/
structure CpexRuntimeRegistry (Manager : Type) where
  runtime : RuntimeState Manager
  hasConfigStore : Bool
  watcher : Option (Option Bytes)

variable {Value Manager : Type}

/-! ### config.rs -/

/-- `decode_config_document`. -/
def decodeConfigDocument (env : CpexEnv Value Manager) (config : Bytes) :
    Except GatewayPluginRuntimeError (RuntimePluginConfigDocument Value) :=
  match (env.decodeJson config).or (env.decodeMessagePack config) with
  | some document => .ok document
  | none => .error .configWrongFormat

/-- `LoadedRuntimePluginConfig::decode`. -/
def LoadedRuntimePluginConfig.decode (env : CpexEnv Value Manager) (config : Bytes) :
    Except GatewayPluginRuntimeError (LoadedRuntimePluginConfig Value) :=
  (decodeConfigDocument env config).map fun document => ⟨document, config⟩

/-- `RedisRuntimePluginConfigStore::get_config`. -/
def StoreAnswer.getConfig (env : CpexEnv Value Manager) : StoreAnswer →
    Except GatewayPluginRuntimeError (Option (LoadedRuntimePluginConfig Value))
  | unavailable => .error .configStoreUnavailable
  | absent => .ok none
  | bytes config => (LoadedRuntimePluginConfig.decode env config).map some

/-- `cpex_config`. -/
def cpexConfig (document : RuntimePluginConfigDocument Value) :
    Except GatewayPluginRuntimeError (CpexConfig Value) :=
  if document.version ≠ runtimePluginConfigVersion then .error .configWrongFormat
  else .ok document.cpex

/-! ### handle.rs -/

/-- `config_to_cpex`. -/
def configToCpex (config : LoadedRuntimePluginConfig Value) :
    Except GatewayPluginRuntimeError (Option (CpexConfig Value)) :=
  (cpexConfig config.document).map some

/-- `set_runtime_failed`. -/
def setRuntimeFailed (registry : CpexRuntimeRegistry Manager) (error : GatewayPluginRuntimeError) :
    CpexRuntimeRegistry Manager :=
  { registry with runtime := .failed error.toString }

variable [Inhabited Manager]

/-- `CpexRuntimeRegistry::default`, and `CpexRuntimeRegistry::with_redis_config`. -/
def CpexRuntimeRegistry.new (hasConfigStore : Bool) : CpexRuntimeRegistry Manager :=
  ⟨.active default, hasConfigStore, none⟩

/-- `load_runtime_config`. -/
def loadRuntimeConfig (env : CpexEnv Value Manager) (answer : StoreAnswer) :
    Except GatewayPluginRuntimeError (GatewayPluginRuntime Manager × Option Bytes) := do
  match ← answer.getConfig env with
  | none => .error .configMissing
  | some config =>
    let runtime ←
      match ← configToCpex config with
      | some cpex => GatewayPluginRuntime.fromConfig env cpex
      | none => .ok default
    .ok (runtime, some config.fingerprint)

/-- `reload_runtime`. -/
def reloadRuntime (env : CpexEnv Value Manager) (registry : CpexRuntimeRegistry Manager)
    (answer : StoreAnswer) :
    CpexRuntimeRegistry Manager × Except GatewayPluginRuntimeError (Option Bytes) :=
  if registry.hasConfigStore then
    match loadRuntimeConfig env answer with
    | .ok (runtime, fingerprint) => ({ registry with runtime := .active runtime }, .ok fingerprint)
    | .error error => (setRuntimeFailed registry error, .error error)
  else (registry, .ok none)

/-- `apply_runtime_config`. -/
def applyRuntimeConfig (env : CpexEnv Value Manager) (registry : CpexRuntimeRegistry Manager) :
    Option (CpexConfig Value) →
      CpexRuntimeRegistry Manager × Except GatewayPluginRuntimeError Unit
  | none => ({ registry with runtime := .active default }, .ok ())
  | some config =>
    match GatewayPluginRuntime.fromConfig env config with
    | .ok runtime => ({ registry with runtime := .active runtime }, .ok ())
    | .error error => (registry, .error error)

/-- `CpexRuntimeRegistry::start_config_watcher`. -/
def startConfigWatcher (registry : CpexRuntimeRegistry Manager) (initialConfig : Option Bytes) :
    CpexRuntimeRegistry Manager :=
  if registry.hasConfigStore && registry.watcher.isNone then
    { registry with watcher := some initialConfig }
  else registry

/-- `CpexRuntimeRegistry::initialize`. -/
def CpexRuntimeRegistry.initializeRegistry (env : CpexEnv Value Manager)
    (registry : CpexRuntimeRegistry Manager) (answer : StoreAnswer) :
    CpexRuntimeRegistry Manager × Except GatewayPluginRuntimeError Unit :=
  match reloadRuntime env registry answer with
  | (registry, .ok initialConfig) => (startConfigWatcher registry initialConfig, .ok ())
  | (registry, .error error) => (registry, .error error)

/-- `CpexRuntimeRegistry::reload`. -/
def CpexRuntimeRegistry.reload (env : CpexEnv Value Manager)
    (registry : CpexRuntimeRegistry Manager) (answer : StoreAnswer) :
    CpexRuntimeRegistry Manager × Except GatewayPluginRuntimeError Unit :=
  ((reloadRuntime env registry answer).1, (reloadRuntime env registry answer).2.map fun _ => ())

/-- `CpexRuntimeRegistry::apply_config`. -/
def CpexRuntimeRegistry.applyConfig (env : CpexEnv Value Manager)
    (registry : CpexRuntimeRegistry Manager) (config : Option (CpexConfig Value)) :
    CpexRuntimeRegistry Manager × Except GatewayPluginRuntimeError Unit :=
  applyRuntimeConfig env registry config

/-- One round of the watcher, whose `last_applied_config` is `last`. -/
def watcherTick (env : CpexEnv Value Manager) (registry : CpexRuntimeRegistry Manager)
    (last : Option Bytes) (answer : StoreAnswer) : CpexRuntimeRegistry Manager :=
  match answer.getConfig env with
  | .ok (some config) =>
    if last = some config.fingerprint then registry
    else
      let (registry, result) :=
        match configToCpex config with
        | .ok cpex => applyRuntimeConfig env registry cpex
        | .error error => (registry, .error error)
      match result with
      | .ok () => { registry with watcher := some (some config.fingerprint) }
      | .error error => { setRuntimeFailed registry error with watcher := some none }
  | .ok none => { setRuntimeFailed registry .configMissing with watcher := some none }
  | .error error => { setRuntimeFailed registry error with watcher := some none }

/-- A tick of the watcher, if it has been started. -/
def CpexRuntimeRegistry.tick (env : CpexEnv Value Manager)
    (registry : CpexRuntimeRegistry Manager) (answer : StoreAnswer) :
    CpexRuntimeRegistry Manager :=
  match registry.watcher with
  | none => registry
  | some last => watcherTick env registry last answer

/-! ### Runs -/

variable (Value) in
/-- One operation on the registry, with what the store answers to it. -/
inductive RegistryOp
  | init (answer : StoreAnswer)
  | reload (answer : StoreAnswer)
  | applyConfig (config : Option (CpexConfig Value))
  | tick (answer : StoreAnswer)

namespace CpexRuntimeRegistry

/-- The registry after one operation. -/
def step (env : CpexEnv Value Manager) (registry : CpexRuntimeRegistry Manager) :
    RegistryOp Value → CpexRuntimeRegistry Manager
  | .init answer => (registry.initializeRegistry env answer).1
  | .reload answer => (registry.reload env answer).1
  | .applyConfig config => (registry.applyConfig env config).1
  | .tick answer => registry.tick env answer

/-- What `load_runtime_config` builds: the runtime, or the error. -/
def load (env : CpexEnv Value Manager) (answer : StoreAnswer) :
    Except GatewayPluginRuntimeError (GatewayPluginRuntime Manager) :=
  (loadRuntimeConfig env answer).map Prod.fst

/-- The tick reads the bytes that the watcher remembers. -/
def skips (env : CpexEnv Value Manager) (registry : CpexRuntimeRegistry Manager)
    (answer : StoreAnswer) : Bool :=
  match answer.getConfig env with
  | .ok (some config) => registry.watcher = some (some config.fingerprint)
  | _ => false

/-- What an operation publishes, if it publishes anything. -/
def publishes (env : CpexEnv Value Manager) (registry : CpexRuntimeRegistry Manager) :
    RegistryOp Value → Option (Except GatewayPluginRuntimeError (GatewayPluginRuntime Manager))
  | .init answer | .reload answer =>
    if registry.hasConfigStore then some (load env answer) else none
  | .applyConfig none => some (.ok default)
  | .applyConfig (some config) =>
    match GatewayPluginRuntime.fromConfig env config with
    | .ok runtime => some (.ok runtime)
    | .error _ => none
  | .tick answer =>
    if registry.watcher.isSome && !registry.skips env answer then some (load env answer) else none

end CpexRuntimeRegistry

/-- The state that publishes a built runtime, or the failure to build one. -/
def RuntimeState.ofResult :
    Except GatewayPluginRuntimeError (GatewayPluginRuntime Manager) → RuntimeState Manager
  | .ok runtime => .active runtime
  | .error error => .failed error.toString

omit [Inhabited Manager] in
theorem RuntimeState.ofResult_eq_active
    {r : Except GatewayPluginRuntimeError (GatewayPluginRuntime Manager)}
    {runtime : GatewayPluginRuntime Manager} :
    RuntimeState.ofResult r = .active runtime ↔ r = .ok runtime := by
  cases r <;> simp [RuntimeState.ofResult]

omit [Inhabited Manager] in
theorem RuntimeState.ofResult_eq_failed
    {r : Except GatewayPluginRuntimeError (GatewayPluginRuntime Manager)} :
    (∃ error, RuntimeState.ofResult r = .failed error) ↔ ∃ e, r = .error e := by
  cases r <;> simp [RuntimeState.ofResult]

namespace CpexRuntimeRegistry

/-- A successful load has read bytes that decode to a supported document. -/
theorem load_eq_ok {env : CpexEnv Value Manager} {answer : StoreAnswer}
    {runtime : GatewayPluginRuntime Manager} :
    load env answer = .ok runtime ↔ ∃ b document, answer = .bytes b ∧
      decodeConfigDocument env b = .ok document ∧ document.version = runtimePluginConfigVersion ∧
      GatewayPluginRuntime.fromConfig env document.cpex = .ok runtime := by
  cases answer with
  | unavailable => simp [load, loadRuntimeConfig, StoreAnswer.getConfig, Except.map, bind, Except.bind]
  | absent => simp [load, loadRuntimeConfig, StoreAnswer.getConfig, Except.map, bind, Except.bind]
  | bytes b =>
    cases hd : decodeConfigDocument env b with
    | error e =>
      simp [load, loadRuntimeConfig, StoreAnswer.getConfig, LoadedRuntimePluginConfig.decode,
        Except.map, bind, Except.bind, hd]
    | ok document =>
      by_cases hv : document.version = runtimePluginConfigVersion
      · cases hf : GatewayPluginRuntime.fromConfig env document.cpex <;>
          simp [load, loadRuntimeConfig, StoreAnswer.getConfig, LoadedRuntimePluginConfig.decode,
            configToCpex, cpexConfig, Except.map, bind, Except.bind, hd, hv, hf]
      · simp [load, loadRuntimeConfig, StoreAnswer.getConfig, LoadedRuntimePluginConfig.decode,
          configToCpex, cpexConfig, Except.map, bind, Except.bind, hd, hv]

/-- `load_runtime_config` returns the bytes it has read as the fingerprint. -/
theorem loadRuntimeConfig_bytes {env : CpexEnv Value Manager} {b : Bytes}
    {runtime : GatewayPluginRuntime Manager} (h : load env (.bytes b) = .ok runtime) :
    loadRuntimeConfig env (.bytes b) = .ok (runtime, some b) := by
  obtain ⟨_, document, hb, hd, hv, hf⟩ := load_eq_ok.1 h
  cases hb
  simp [loadRuntimeConfig, StoreAnswer.getConfig, LoadedRuntimePluginConfig.decode, configToCpex,
    cpexConfig, Except.map, bind, Except.bind, hd, hv, hf]

theorem loadRuntimeConfig_error {env : CpexEnv Value Manager} {answer : StoreAnswer}
    {e : GatewayPluginRuntimeError} (h : load env answer = .error e) :
    loadRuntimeConfig env answer = .error e := by
  unfold load at h
  cases hl : loadRuntimeConfig env answer with
  | error e' => rw [hl] at h; exact congrArg _ (Except.error.inj h)
  | ok r => rw [hl] at h; cases h

/-- `reload_runtime` publishes what was loaded. -/
theorem reloadRuntime_fst {env : CpexEnv Value Manager} {registry : CpexRuntimeRegistry Manager}
    (hs : registry.hasConfigStore = true) (answer : StoreAnswer) :
    (reloadRuntime env registry answer).1 =
      { registry with runtime := RuntimeState.ofResult (load env answer) } := by
  unfold load
  cases hl : loadRuntimeConfig env answer with
  | error e => simp [reloadRuntime, hs, hl, setRuntimeFailed, RuntimeState.ofResult, Except.map]
  | ok r => simp [reloadRuntime, hs, hl, RuntimeState.ofResult, Except.map]

/-- What the watcher remembers after a tick that applied `answer`. -/
def remembered (env : CpexEnv Value Manager) (answer : StoreAnswer) : Option Bytes :=
  match answer, load env answer with
  | .bytes b, .ok _ => some b
  | _, _ => none

/-- A tick that is not skipped publishes what it loads, as a reload does. -/
theorem watcherTick_eq {env : CpexEnv Value Manager} {registry : CpexRuntimeRegistry Manager}
    {last : Option Bytes} (hw : registry.watcher = some last) {answer : StoreAnswer}
    (hs : registry.skips env answer = false) :
    watcherTick env registry last answer =
      { registry with
        runtime := RuntimeState.ofResult (load env answer)
        watcher := some (remembered env answer) } := by
  cases answer with
  | unavailable => rfl
  | absent => rfl
  | bytes b =>
    cases hd : decodeConfigDocument env b with
    | error e =>
      simp [watcherTick, remembered, load, loadRuntimeConfig, StoreAnswer.getConfig,
        LoadedRuntimePluginConfig.decode, Except.map, bind, Except.bind, hd, setRuntimeFailed,
        RuntimeState.ofResult]
    | ok document =>
      have hne : last ≠ some b := by
        rintro rfl
        simp [skips, StoreAnswer.getConfig, LoadedRuntimePluginConfig.decode, Except.map, hd,
          hw] at hs
      by_cases hv : document.version = runtimePluginConfigVersion
      · cases hf : GatewayPluginRuntime.fromConfig env document.cpex <;>
          simp [watcherTick, remembered, load, loadRuntimeConfig, StoreAnswer.getConfig,
            LoadedRuntimePluginConfig.decode, configToCpex, cpexConfig, applyRuntimeConfig,
            Except.map, bind, Except.bind, hd, hne, hv, hf, setRuntimeFailed,
            RuntimeState.ofResult]
      · simp [watcherTick, remembered, load, loadRuntimeConfig, StoreAnswer.getConfig,
          LoadedRuntimePluginConfig.decode, configToCpex, cpexConfig,
          Except.map, bind, Except.bind, hd, hne, hv, setRuntimeFailed,
          RuntimeState.ofResult]

theorem watcherTick_skip {env : CpexEnv Value Manager} {registry : CpexRuntimeRegistry Manager}
    {last : Option Bytes} (hw : registry.watcher = some last) {answer : StoreAnswer}
    (hs : registry.skips env answer = true) : watcherTick env registry last answer = registry := by
  unfold skips at hs
  unfold watcherTick
  split at hs
  · rename_i config hc
    have hlast : last = some config.fingerprint := by
      rw [hw] at hs
      simpa using hs
    simp [hc, hlast]
  · cases hs

/-- The ways in which an operation publishes something. -/
theorem publishes_cases {env : CpexEnv Value Manager} {registry : CpexRuntimeRegistry Manager}
    {op : RegistryOp Value}
    {r : Except GatewayPluginRuntimeError (GatewayPluginRuntime Manager)}
    (h : registry.publishes env op = some r) :
    (∃ answer, (op = .init answer ∨ op = .reload answer) ∧ registry.hasConfigStore = true ∧
      load env answer = r) ∨
    (∃ answer last, op = .tick answer ∧ registry.watcher = some last ∧
      registry.skips env answer = false ∧ load env answer = r) ∨
    (op = .applyConfig none ∧ r = .ok default) ∨
    (∃ config runtime, op = .applyConfig (some config) ∧
      GatewayPluginRuntime.fromConfig env config = .ok runtime ∧ r = .ok runtime) := by
  cases op with
  | init answer =>
    have hload : registry.hasConfigStore = true ∧ load env answer = r := by
      simpa [publishes] using h
    exact Or.inl ⟨answer, Or.inl rfl, hload⟩
  | reload answer =>
    have hload : registry.hasConfigStore = true ∧ load env answer = r := by
      simpa [publishes] using h
    exact Or.inl ⟨answer, Or.inr rfl, hload⟩
  | tick answer =>
    cases hw : registry.watcher with
    | none => simp [publishes, hw] at h
    | some last =>
      have hload : registry.skips env answer = false ∧ load env answer = r := by
        simpa [publishes, hw] using h
      exact Or.inr (Or.inl ⟨answer, last, rfl, rfl, hload⟩)
  | applyConfig config =>
    cases config with
    | none =>
      cases h
      exact Or.inr (Or.inr (Or.inl ⟨rfl, rfl⟩))
    | some config =>
      cases hf : GatewayPluginRuntime.fromConfig env config with
      | error e => simp [publishes, hf] at h
      | ok runtime =>
        have hr : Except.ok runtime = r := by simpa [publishes, hf] using h
        exact Or.inr (Or.inr (Or.inr ⟨config, runtime, rfl, hf, hr.symm⟩))

/-- What the watcher remembers after an operation that publishes `r`. -/
def watcherAfter (env : CpexEnv Value Manager) (registry : CpexRuntimeRegistry Manager) :
    RegistryOp Value → Option (Option Bytes)
  | .init answer =>
    if registry.watcher.isNone then (remembered env answer).map some else registry.watcher
  | .tick answer => some (remembered env answer)
  | .reload _ | .applyConfig _ => registry.watcher

theorem step_of_publishes_none {env : CpexEnv Value Manager}
    {registry : CpexRuntimeRegistry Manager} {op : RegistryOp Value}
    (h : registry.publishes env op = none) : registry.step env op = registry := by
  cases op with
  | init answer =>
    have hs : registry.hasConfigStore = false := by simpa [publishes] using h
    simp [step, CpexRuntimeRegistry.initializeRegistry, reloadRuntime, startConfigWatcher, hs]
  | reload answer =>
    have hs : registry.hasConfigStore = false := by simpa [publishes] using h
    simp [step, CpexRuntimeRegistry.reload, reloadRuntime, hs]
  | applyConfig config =>
    cases config with
    | none => cases h
    | some config =>
      cases hf : GatewayPluginRuntime.fromConfig env config with
      | ok runtime => simp [publishes, hf] at h
      | error e => simp [step, CpexRuntimeRegistry.applyConfig, applyRuntimeConfig, hf]
  | tick answer =>
    cases hw : registry.watcher with
    | none => simp [step, CpexRuntimeRegistry.tick, hw]
    | some last =>
      have hs : registry.skips env answer = true := by simpa [publishes, hw] using h
      simp [step, CpexRuntimeRegistry.tick, hw, watcherTick_skip hw hs]

/-- One operation: it leaves the registry as it is, or publishes a built runtime or the failure
to build one. -/
theorem step_of_publishes_some {env : CpexEnv Value Manager}
    {registry : CpexRuntimeRegistry Manager} {op : RegistryOp Value}
    {r : Except GatewayPluginRuntimeError (GatewayPluginRuntime Manager)}
    (h : registry.publishes env op = some r) :
    registry.step env op =
      { registry with
        runtime := RuntimeState.ofResult r
        watcher := registry.watcherAfter env op } := by
  rcases publishes_cases h with ⟨answer, rfl | rfl, hs, rfl⟩ | ⟨answer, last, rfl, hw, hs, rfl⟩ |
    ⟨rfl, rfl⟩ | ⟨config, runtime, rfl, hf, rfl⟩
  · -- an `initialize` that finds the watcher started leaves it as it is
    cases hl : load env answer with
    | ok runtime =>
      obtain ⟨b, -, rfl, -⟩ := load_eq_ok.1 hl
      have hload := loadRuntimeConfig_bytes hl
      cases hw : registry.watcher with
      | none =>
        simp [step, CpexRuntimeRegistry.initializeRegistry, reloadRuntime, hs, hload,
          startConfigWatcher, hw, watcherAfter, remembered, hl, RuntimeState.ofResult]
      | some last =>
        simp [step, CpexRuntimeRegistry.initializeRegistry, reloadRuntime, hs, hload,
          startConfigWatcher, hw, watcherAfter, RuntimeState.ofResult]
    | error e =>
      have hload := loadRuntimeConfig_error hl
      cases hw : registry.watcher <;>
        simp [step, CpexRuntimeRegistry.initializeRegistry, reloadRuntime, hs, hload,
          setRuntimeFailed, hw, watcherAfter, remembered, hl, RuntimeState.ofResult]
  · simp [step, CpexRuntimeRegistry.reload, reloadRuntime_fst hs, watcherAfter]
  · simp [step, CpexRuntimeRegistry.tick, hw, watcherTick_eq hw hs, watcherAfter]
  · rfl
  · simp [step, CpexRuntimeRegistry.applyConfig, applyRuntimeConfig, hf, watcherAfter,
      RuntimeState.ofResult]

theorem step_hasConfigStore (env : CpexEnv Value Manager) (registry : CpexRuntimeRegistry Manager)
    (op : RegistryOp Value) : (registry.step env op).hasConfigStore = registry.hasConfigStore := by
  cases hp : registry.publishes env op with
  | none => rw [step_of_publishes_none hp]
  | some r => rw [step_of_publishes_some hp]

/-- What `initialize` returns. -/
theorem initializeRegistry_snd (env : CpexEnv Value Manager)
    (registry : CpexRuntimeRegistry Manager) (answer : StoreAnswer) :
    (registry.initializeRegistry env answer).2 =
      if registry.hasConfigStore then (load env answer).map fun _ => () else .ok () := by
  by_cases hs : registry.hasConfigStore = true
  · unfold load
    cases hl : loadRuntimeConfig env answer <;>
      simp [CpexRuntimeRegistry.initializeRegistry, reloadRuntime, hs, hl, Except.map]
  · simp [CpexRuntimeRegistry.initializeRegistry, reloadRuntime, hs]

/-! ### The last publication -/

section

open Runs

variable {ι : Type} (env : ι → CpexEnv Value Manager) (op : ι → RegistryOp Value)

/-- The operation with its environment publishes something. -/
def publishesAt (registry : CpexRuntimeRegistry Manager) (i : ι) : Bool :=
  (registry.publishes (env i) (op i)).isSome

/-- The published state is what the last publication of the run has left, and the initial state if
there is none. -/
theorem runtime_run (registry : CpexRuntimeRegistry Manager) (is : List ι) :
    (last? (fun r i => step (env i) r (op i)) (publishesAt env op) registry is = none ∧
      (run (fun r i => step (env i) r (op i)) registry is).runtime = registry.runtime) ∨
    ∃ r i result, last? (fun r i => step (env i) r (op i)) (publishesAt env op) registry is =
        some (r, i) ∧
      publishes (env i) r (op i) = some result ∧
      (run (fun r i => step (env i) r (op i)) registry is).runtime =
        RuntimeState.ofResult result := by
  induction is using List.reverseRecOn with
  | nil => exact Or.inl ⟨rfl, rfl⟩
  | append_singleton is i ih =>
    rw [last?_concat, run_concat]
    cases hp : publishes (env i) (run (fun r i => step (env i) r (op i)) registry is) (op i) with
    | none => simpa [publishesAt, hp, step_of_publishes_none hp] using ih
    | some result =>
      refine Or.inr ⟨_, i, result, ?_, hp, ?_⟩
      · simp [publishesAt, hp]
      · rw [step_of_publishes_some hp]

end

end CpexRuntimeRegistry

/-! ### A document without plugins -/

namespace Sample

/-- A JSON document: version 1, no plugins. -/
def document : Bytes :=
  [123, 34, 118, 101, 114, 115, 105, 111, 110, 34, 58, 49, 44, 34, 99, 112, 101, 120, 34, 58, 123,
    34, 112, 108, 117, 103, 105, 110, 115, 34, 58, 91, 93, 125, 125]

/-- The configuration of `document`. -/
def noPlugins : CpexConfig Unit := ⟨false, false, [], [], [], [], []⟩

/-- Decoding and building, as far as the runs below use them. -/
def cpexEnv : CpexEnv Unit Unit where
  decodeJson b := if b = document then some ⟨1, noPlugins⟩ else none
  decodeMessagePack _ := none
  managerFromConfig _ := some ()
  managerInitialize _ := true

end Sample

end ContextForge
