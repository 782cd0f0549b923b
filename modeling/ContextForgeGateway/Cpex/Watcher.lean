import ContextForgeGateway.Cpex.Registry

/-!
# Does the watcher converge?

The watcher skips a tick that reads the bytes it remembers, as if the runtime they describe were
still published. `initialize`, `reload` and `apply_config` publish another state without telling
it, so the skip is sound exactly when the last of them to publish anything since has built the
runtime of those bytes (`tick_converges_iff`). A `reload` that fails in between, and the watcher
leaves the runtime failed with a good document in the store (`failedReload_stays_failed`).

Here building a runtime is a function of the document: one environment serves the whole run.
-/

namespace ContextForge

namespace CpexRuntimeRegistry

open Runs

variable {Value Manager : Type} [Inhabited Manager] (env : CpexEnv Value Manager)

/-- The operations that the watcher does not see: `apply_config`, `reload`, and an `initialize`
that finds it already started. -/
def Foreign (registry : CpexRuntimeRegistry Manager) : RegistryOp Value → Prop
  | .init _ => registry.watcher.isSome
  | .reload _ | .applyConfig _ => True
  | .tick _ => False

/-- What the operation reads, or is given, describes the runtime `runtime`. -/
def Describes (runtime : GatewayPluginRuntime Manager) : RegistryOp Value → Prop
  | .init answer | .reload answer | .tick answer => load env answer = .ok runtime
  | .applyConfig none => runtime = default
  | .applyConfig (some config) => GatewayPluginRuntime.fromConfig env config = .ok runtime

/-- The last operation of the run to publish anything, with the registry before it. -/
def lastPublication (registry : CpexRuntimeRegistry Manager) (ops : List (RegistryOp Value)) :
    Option (CpexRuntimeRegistry Manager × RegistryOp Value) :=
  last? (step env) (publishesAt (fun _ => env) id) registry ops

/-- If the last publication was behind the watcher's back, it was of `runtime`. -/
def Undisturbed (registry : CpexRuntimeRegistry Manager) (ops : List (RegistryOp Value))
    (runtime : GatewayPluginRuntime Manager) : Prop :=
  ∀ r op, lastPublication env registry ops = some (r, op) → Foreign r op →
    Describes env runtime op

variable {env}

theorem publishes_eq_ok {registry : CpexRuntimeRegistry Manager} {op : RegistryOp Value}
    {result : Except GatewayPluginRuntimeError (GatewayPluginRuntime Manager)}
    (h : registry.publishes env op = some result) (runtime : GatewayPluginRuntime Manager) :
    Describes env runtime op ↔ result = .ok runtime := by
  rcases publishes_cases h with ⟨answer, rfl | rfl, -, rfl⟩ | ⟨answer, last, rfl, -, -, rfl⟩ |
    ⟨rfl, rfl⟩ | ⟨config, built, rfl, hf, rfl⟩
  · exact Iff.rfl
  · exact Iff.rfl
  · exact Iff.rfl
  · simp [Describes, eq_comm]
  · simp [Describes, hf]

/-- An operation after which the watcher remembers `b` has itself applied `b`, or is one that the
watcher does not see. -/
theorem watcherAfter_eq {registry : CpexRuntimeRegistry Manager} {op : RegistryOp Value}
    {result : Except GatewayPluginRuntimeError (GatewayPluginRuntime Manager)}
    (hp : registry.publishes env op = some result) {b : Bytes}
    (h : registry.watcherAfter env op = some (some b)) :
    Foreign registry op ∨
      ∃ runtime, result = .ok runtime ∧ load env (.bytes b) = .ok runtime := by
  have hrem : ∀ answer, remembered env answer = some b →
      ∃ runtime, load env answer = .ok runtime ∧ load env (.bytes b) = .ok runtime := by
    intro answer hb
    unfold remembered at hb
    split at hb
    · rename_i b' runtime hl
      cases hb
      exact ⟨runtime, hl, hl⟩
    · cases hb
  rcases publishes_cases hp with ⟨answer, rfl | rfl, -, rfl⟩ | ⟨answer, last, rfl, -, -, rfl⟩ |
    ⟨rfl, -⟩ | ⟨config, built, rfl, -, -⟩
  · cases hw : registry.watcher with
    | some last => exact Or.inl (by simp [Foreign, hw])
    | none =>
      obtain ⟨runtime, hl, hb⟩ := hrem answer (by simpa [watcherAfter, hw] using h)
      exact Or.inr ⟨runtime, hl, hb⟩
  · exact Or.inl trivial
  · obtain ⟨runtime, hl, hb⟩ := hrem answer (by simpa [watcherAfter] using h)
    exact Or.inr ⟨runtime, hl, hb⟩
  · exact Or.inl trivial
  · exact Or.inl trivial

/-- The invariant: while the watcher remembers `b`, the runtime of `b` is published, unless the
last publication was one that the watcher does not see. -/
theorem fingerprint_run (registry : CpexRuntimeRegistry Manager) (hw : registry.watcher = none)
    (ops : List (RegistryOp Value)) {b : Bytes}
    (h : (run (step env) registry ops).watcher = some (some b)) :
    ∃ r op, lastPublication env registry ops = some (r, op) ∧
      (Foreign r op ∨ ∃ runtime, load env (.bytes b) = .ok runtime ∧
        (run (step env) registry ops).runtime = .active runtime) := by
  unfold lastPublication
  induction ops using List.reverseRecOn with
  | nil =>
    rw [run_nil, hw] at h
    cases h
  | append_singleton ops op ih =>
    rw [last?_concat, run_concat]
    rw [run_concat] at h
    cases hp : publishes env (run (step env) registry ops) op with
    | none =>
      rw [step_of_publishes_none hp] at h ⊢
      simpa [publishesAt, hp] using ih h
    | some result =>
      rw [step_of_publishes_some hp] at h ⊢
      refine ⟨run (step env) registry ops, op, by simp [publishesAt, hp], ?_⟩
      rcases watcherAfter_eq hp h with hf | ⟨runtime, rfl, hb⟩
      · exact Or.inl hf
      · exact Or.inr ⟨runtime, hb, rfl⟩

/-- A tick that reads a document from which a runtime is built is skipped exactly if the watcher
remembers its bytes. -/
theorem skips_iff {registry : CpexRuntimeRegistry Manager} {b : Bytes}
    {runtime : GatewayPluginRuntime Manager} (hb : load env (.bytes b) = .ok runtime) :
    registry.skips env (.bytes b) = true ↔ registry.watcher = some (some b) := by
  obtain ⟨_, document, hb', hd, -⟩ := load_eq_ok.1 hb
  cases hb'
  simp [skips, StoreAnswer.getConfig, LoadedRuntimePluginConfig.decode, Except.map, hd]

/-- A tick that is skipped changes nothing. -/
theorem tick_of_skips {registry : CpexRuntimeRegistry Manager} (hw : registry.watcher ≠ none)
    {answer : StoreAnswer} (hs : registry.skips env answer = true) :
    registry.tick env answer = registry := by
  obtain ⟨last, hlast⟩ := Option.ne_none_iff_exists'.1 hw
  simp only [tick, hlast, watcherTick_skip hlast hs]

/-- A tick that is not skipped publishes what it reads. -/
theorem tick_of_not_skips {registry : CpexRuntimeRegistry Manager} (hw : registry.watcher ≠ none)
    {answer : StoreAnswer} (hs : registry.skips env answer = false) :
    (registry.tick env answer).runtime = RuntimeState.ofResult (load env answer) := by
  obtain ⟨last, hlast⟩ := Option.ne_none_iff_exists'.1 hw
  simp only [tick, hlast, watcherTick_eq hlast hs]

/-- **When the watcher converges.** In every run, a tick that reads a valid, buildable document
leaves its runtime published if and only if the tick is not skipped, or the last publication before
it was the watcher's own, or one of the same runtime. -/
theorem tick_converges_iff (env : CpexEnv Value Manager) (ops : List (RegistryOp Value)) {b : Bytes}
    {runtime : GatewayPluginRuntime Manager}
    (hw : (run (step env) (new true) ops).watcher ≠ none)
    (hb : load env (.bytes b) = .ok runtime) :
    ((run (step env) (new true) ops).tick env (.bytes b)).runtime = .active runtime ↔
      ((run (step env) (new true) ops).watcher = some (some b) →
        Undisturbed env (new true) ops runtime) := by
  by_cases hs : (run (step env) (new true) ops).skips env (.bytes b) = true
  · have hmem := (skips_iff hb).1 hs
    rw [tick_of_skips hw hs]
    obtain ⟨r, op, hpub, hcase⟩ := fingerprint_run (new true) rfl ops hmem
    -- what is published is the result of that last publication
    obtain ⟨result, hp, hrt⟩ : ∃ result, publishes env r op = some result ∧
        (run (step env) (new true) ops).runtime = RuntimeState.ofResult result := by
      rcases runtime_run (fun _ => env) id (new true) ops with
        ⟨hnone, -⟩ | ⟨r', op', result, hsome, hp, hrt⟩
      · cases hnone.symm.trans hpub
      · cases hsome.symm.trans hpub
        exact ⟨result, hp, hrt⟩
    constructor
    · intro hact _ r₁ op₁ h₁ _
      obtain ⟨rfl, rfl⟩ : r = r₁ ∧ op = op₁ := by simpa [hpub] using h₁
      rw [hrt, RuntimeState.ofResult_eq_active] at hact
      exact (publishes_eq_ok hp runtime).2 hact
    · intro hu
      rcases hcase with hf | ⟨runtime', hb', hact⟩
      · have hdesc := hu hmem r op hpub hf
        rw [hrt, RuntimeState.ofResult_eq_active]
        exact (publishes_eq_ok hp runtime).1 hdesc
      · obtain rfl : runtime = runtime' := Except.ok.inj (hb.symm.trans hb')
        exact hact
  · have htick : ((run (step env) (new true) ops).tick env (.bytes b)).runtime =
        .active runtime := by
      rw [tick_of_not_skips hw (Bool.eq_false_iff.2 hs), hb]
      rfl
    exact ⟨fun _ hmem => absurd ((skips_iff hb).2 hmem) hs, fun _ => htick⟩

/-- A tick that reads what `initialize` has read. -/
theorem tick_converges_afterInit :
    ((run (step Sample.cpexEnv) (new true) [.init (.bytes Sample.document)]).tick Sample.cpexEnv
      (.bytes Sample.document)).runtime = .active default := by
  refine (tick_converges_iff Sample.cpexEnv [.init (.bytes Sample.document)]
    (by rintro ⟨⟩) rfl).2 ?_
  rintro - r op ⟨⟩ hf
  cases hf

/-! ### A failed reload that the watcher does not repair -/

/-- The registry is initialized, and then a `reload` finds the store unavailable. -/
def failedReload : List (RegistryOp Unit) :=
  [.init (.bytes Sample.document), .reload .unavailable]

/-- The watcher has been started, and its tick reads a valid, buildable document, but it is the one
that the watcher remembers: the runtime stays failed. -/
theorem failedReload_stays_failed :
    (run (step Sample.cpexEnv) (new true) failedReload).watcher ≠ none ∧
      load Sample.cpexEnv (.bytes Sample.document) = .ok default ∧
      ((run (step Sample.cpexEnv) (new true) failedReload).tick Sample.cpexEnv
        (.bytes Sample.document)).runtime =
          .failed "runtime plugin config store disconnected" :=
  ⟨by rintro ⟨⟩, rfl, rfl⟩

end CpexRuntimeRegistry

end ContextForge
