import ContextForgeGateway.Gateway.PluginPolicy
import ContextForgeGateway.Launch.Watching

/-!
# The whole process

`execute` runs the gateway on the thread that calls it, or copies of it on several gateway threads. Each
copy has a config store of its own, with its cache and its calls, and the requests that wait for these. All
copies have one handle of the plugins, one counter of tool calls, one Redis, and one session manager of the
transport: a message that arrives on one thread may be for a service that was built on another.

A thread takes part while it serves. `forwarded_explained` and `sent_allowed` say of every run from `execute`
on, in either mode and on any thread, what Gateway/Application.lean and Gateway/PluginPolicy.lean say of one
gateway that has started.
-/

namespace ContextForge

open Application (Explained GivenFor Served)

/-- What a gateway thread has for itself. -/
structure Host (Body : Type) where
  cache : TimeCache String UserConfig
  calls : ℕ → Option (RedisUserConfigStore.Call UserConfig)
  waiting : ℕ → Option (Application.Arrival Body)

/-- The process: the threads, the registry of the plugins among them, and what they work on. -/
structure Process (Body Value Manager : Type) where
  launch : Launch Value Manager
  hosts : LaunchThread → Host Body
  redis : Bytes → Option Bytes
  now : ℕ
  served : List (Served Body)
  services : ℕ → Service.State
  toolCallId : UInt64

namespace Process

/-- What can happen next: on the way of `execute`, or in the application of a thread. -/
inductive Event (Body Value Manager Ctx : Type)
  | launch (e : Launch.Event Value Manager)
  | application (thread : LaunchThread) (e : Application.Event Body Value Manager Ctx)

section

variable {Body Value Manager Ctx RsKey HmacKey : Type}

/-- The call of `execute`. -/
def new (rt : Runtime) (registry : Option (CpexRuntimeRegistry Manager))
    (redis : Bytes → Option Bytes) (toolCallId : UInt64) : Process Body Value Manager where
  launch := Launch.start rt registry
  hosts _ := ⟨TimeCache.empty, fun _ => none, fun _ => none⟩
  redis := redis
  now := 0
  served := []
  services _ := Service.State.new toolCallId
  toolCallId := toolCallId

/-- The application, as a thread has it. -/
def application (σ : Process Body Value Manager) (thread : LaunchThread) : Application.State Body where
  system := ⟨⟨(σ.hosts thread).cache, σ.redis, σ.now⟩, (σ.hosts thread).calls⟩
  waiting := (σ.hosts thread).waiting
  served := σ.served
  services := σ.services
  toolCallId := σ.toolCallId

/-- The thread has left the application as `τ`. -/
def leave (σ : Process Body Value Manager) (thread : LaunchThread) (τ : Application.State Body) :
    Process Body Value Manager where
  launch := σ.launch
  hosts := Function.update σ.hosts thread ⟨τ.system.store.cache, τ.system.calls, τ.waiting⟩
  redis := τ.system.store.redis
  now := τ.system.store.now
  served := τ.served
  services := τ.services
  toolCallId := τ.toolCallId

/-- `run_gateway` is running on the thread. -/
def serves (s : Launch Value Manager) : LaunchThread → Bool
  | .main =>
    match s.main with
    | .serving => true
    | _ => false
  | .gateway i =>
    match s.threads i with
    | .running _ .serving => true
    | _ => false

/-- Time passes and others write to Redis whoever serves. -/
def outside : Application.Event Body Value Manager Ctx → Bool
  | .wait _ | .foreignWrite _ _ => true
  | _ => false

/-- What an event is for the application: nothing happens on a thread that does not serve, and a tool call
finds what the handle of the plugins reads. -/
def taken (σ : Process Body Value Manager) :
    Event Body Value Manager Ctx → Option (Application.Event Body Value Manager Ctx)
  | .launch _ => none
  | .application thread e =>
    if outside e || serves σ.launch thread then some (e.withRuntime σ.launch.current) else none

/-- The requests that are forwarded to backends in one step. -/
def forwarded [DecidableEq Value] (σ : Process Body Value Manager) :
    Event Body Value Manager Ctx → List Service.Forwarded
  | .launch _ => []
  | .application thread e =>
    match taken σ (.application thread e) with
    | some e' => Application.forwarded (σ.application thread) e'
    | none => []

/-- The requests that the tool calls of a step send to backends. -/
def toolCalls [DecidableEq Value] (σ : Process Body Value Manager) :
    Event Body Value Manager Ctx → List (Sent Service.Connection (CallToolRequestParams Value))
  | .launch _ => []
  | .application thread e =>
    match taken σ (.application thread e) with
    | some e' => Application.toolCalls (σ.application thread) e'
    | none => []

variable [Inhabited Manager] [DecidableEq Value] (rt : Runtime) (o : Outcomes Value Manager)
  (codec : Codec UserConfig) (jwt : ℕ → Jwt RsKey HmacKey) (keys : JwtTokenDecoders RsKey HmacKey)

/-- The next state. -/
def next (σ : Process Body Value Manager) : Event Body Value Manager Ctx → Process Body Value Manager
  | .launch e => { σ with launch := Launch.nextHosted rt o σ.launch e }
  | .application thread e =>
    match taken σ (.application thread e) with
    | some e' => σ.leave thread (Application.next codec jwt keys (σ.application thread) e')
    | none => σ

/-- The events of the applications in a run. -/
def applied (σ : Process Body Value Manager) (es : List (Event Body Value Manager Ctx)) :
    List (Application.Event Body Value Manager Ctx) :=
  (Runs.outputs (next rt o codec jwt keys) taken σ es).reduceOption

theorem applied_concat (σ : Process Body Value Manager) (es : List (Event Body Value Manager Ctx))
    (e : Event Body Value Manager Ctx) :
    applied rt o codec jwt keys σ (es ++ [e]) =
      applied rt o codec jwt keys σ es ++ (taken (Runs.run (next rt o codec jwt keys) σ es) e).toList := by
  rw [applied, Runs.outputs_concat, List.reduceOption_append, List.reduceOption_singleton]
  rfl

/-- The threads run as in Launch.lean. -/
theorem run_launch (registry : Option (CpexRuntimeRegistry Manager)) (redis : Bytes → Option Bytes)
    (toolCallId : UInt64) (es : List (Event Body Value Manager Ctx)) :
    ∃ js, (Runs.run (next rt o codec jwt keys) (new rt registry redis toolCallId) es).launch =
      Runs.run (Launch.next rt o) (Launch.start rt registry) js := by
  let event? : Process Body Value Manager → Event Body Value Manager Ctx →
      Option (Launch.Event Value Manager)
    | _, .launch e => some e
    | _, .application _ _ => none
  have hcomponent : ∀ (σ : Process Body Value Manager) (e : Event Body Value Manager Ctx),
      (next rt o codec jwt keys σ e).launch =
        ((event? σ e).map (Launch.nextHosted rt o σ.launch)).getD σ.launch := by
    intro σ e
    cases e with
    | launch e => rfl
    | application thread e =>
      simp only [next]
      split <;> rfl
  exact ⟨_, (Runs.run_component hcomponent _ es).trans (Launch.run_nextHosted rt o _ _)⟩

end

/-! ### What a thread leaves to the others -/

section

variable {Body Value Manager Ctx RsKey HmacKey : Type} {codec : Codec UserConfig}
  {jwt : ℕ → Jwt RsKey HmacKey} {keys : JwtTokenDecoders RsKey HmacKey} {redis : Bytes → Option Bytes}
  {es : List (Application.Event Body Value Manager Ctx)} {σ : Process Body Value Manager}
  {τ : Application.State Body} {thread other : LaunchThread}

@[simp] theorem application_leave_self : (σ.leave thread τ).application thread = τ := by
  simp [application, leave]

theorem application_leave_of_ne (h : other ≠ thread) :
    (σ.leave thread τ).application other =
      { τ with
        system := ⟨⟨(σ.hosts other).cache, τ.system.store.redis, τ.system.store.now⟩,
          (σ.hosts other).calls⟩
        waiting := (σ.hosts other).waiting } := by
  simp [application, leave, h]

/-- What one thread has kept, all others have kept with it. -/
theorem inv_leave (hτ : Application.Inv codec jwt keys redis es τ)
    (hother : Application.Inv codec jwt keys redis es (σ.application other)) :
    Application.Inv codec jwt keys redis es ((σ.leave thread τ).application other) := by
  by_cases h : other = thread
  · rw [h, application_leave_self]
    exact hτ
  · rw [application_leave_of_ne h]
    exact
      { provided := ⟨hτ.provided.redis, hother.provided.cache, hother.provided.calls⟩
        begun := hother.begun
        waiting := hother.waiting
        served := hτ.served
        history := hτ.history
        connected := hτ.connected
        finished := hτ.finished }

end

/-! ### What the process keeps -/

section

variable {Body Value Manager Ctx RsKey HmacKey : Type} [Inhabited Manager] [DecidableEq Value]
  {rt : Runtime} {o : Outcomes Value Manager} {codec : Codec UserConfig} {jwt : ℕ → Jwt RsKey HmacKey}
  {keys : JwtTokenDecoders RsKey HmacKey}

omit [Inhabited Manager] [DecidableEq Value] in
theorem serves_iff {s : Launch Value Manager} {thread : LaunchThread} :
    serves s thread = true ↔ s.Serving thread := by
  cases thread with
  | main => cases h : s.main <;> simp [serves, Launch.Serving, h]
  | gateway i =>
    cases h : s.threads i with
    | running initSender phase => cases phase <;> simp [serves, Launch.Serving, h]
    | notSpawned | terminated => simp [serves, Launch.Serving, h]

omit [Inhabited Manager] [DecidableEq Value] in
theorem taken_eq_some {σ : Process Body Value Manager} {thread : LaunchThread}
    {e e' : Application.Event Body Value Manager Ctx} :
    taken σ (.application thread e) = some e' ↔
      (outside e = true ∨ σ.launch.Serving thread) ∧ e.withRuntime σ.launch.current = e' := by
  simp [taken, Option.ite_none_right_eq_some, serves_iff]

omit [DecidableEq Value] in
/-- A thread that serves has been let to by the initialization. -/
theorem initialized_of_serving {registry : Option (CpexRuntimeRegistry Manager)}
    {s : Launch Value Manager} (h : Launch.Inv rt o registry s) {thread : LaunchThread}
    (hs : s.Serving thread) : s.initialized = some (.ok ()) ∧ Launch.Initializes rt o registry := by
  have hok : s.initialized = some (.ok ()) := h.began (List.ne_nil_of_mem (h.serving_began hs))
  exact ⟨hok, h.initializes_of_ok hok⟩

theorem launch_inv (registry : Option (CpexRuntimeRegistry Manager)) (redis : Bytes → Option Bytes)
    (toolCallId : UInt64) (es : List (Event Body Value Manager Ctx)) :
    Launch.Inv rt o registry
      (Runs.run (next rt o codec jwt keys) (new rt registry redis toolCallId) es).launch := by
  obtain ⟨js, hjs⟩ := run_launch rt o codec jwt keys registry redis toolCallId es
  rw [hjs]
  exact Launch.run_inv rt o registry js

/-- On every thread, the applications have kept their invariant. -/
theorem inv_run (registry : Option (CpexRuntimeRegistry Manager)) (redis : Bytes → Option Bytes)
    (toolCallId : UInt64) (es : List (Event Body Value Manager Ctx)) (thread : LaunchThread) :
    Application.Inv codec jwt keys redis
      (applied rt o codec jwt keys (new rt registry redis toolCallId) es)
      ((Runs.run (next rt o codec jwt keys) (new rt registry redis toolCallId) es).application thread) := by
  induction es using List.reverseRecOn generalizing thread with
  | nil => exact Application.inv_new toolCallId
  | append_singleton es e ih =>
    rw [Runs.run_concat, applied_concat]
    generalize Runs.run (next rt o codec jwt keys) (new rt registry redis toolCallId) es = σ at ih ⊢
    cases e with
    | launch e =>
      show Application.Inv codec jwt keys redis (_ ++ []) (σ.application thread)
      rw [List.append_nil]
      exact ih thread
    | application acting e =>
      cases htaken : taken σ (.application acting e) with
      | none =>
        simp only [next, htaken, Option.toList_none, List.append_nil]
        exact ih thread
      | some e' =>
        simp only [next, htaken, Option.toList_some]
        exact inv_leave ((ih acting).next e') ((ih thread).concat e')

/-! ### What is forwarded -/

omit [Inhabited Manager] in
/-- What is forwarded is forwarded by a thread that serves. -/
theorem mem_forwarded {σ : Process Body Value Manager} {e : Event Body Value Manager Ctx}
    {f : Service.Forwarded} (h : f ∈ forwarded σ e) :
    ∃ thread e', e = .application thread e' ∧ σ.launch.Serving thread ∧
      f ∈ Application.forwarded (σ.application thread) (e'.withRuntime σ.launch.current) := by
  cases e with
  | launch e => cases h
  | application thread e =>
    cases htaken : taken σ (.application thread e) with
    | none => simp [forwarded, htaken] at h
    | some e' =>
      simp only [forwarded, htaken] at h
      obtain ⟨hserving, rfl⟩ := taken_eq_some.1 htaken
      refine ⟨thread, e, rfl, hserving.resolve_left fun hout => ?_, h⟩
      cases e with
      | serve => cases hout
      | _ => cases h

/-- **Attribution in the whole process.** Whatever the threads do, a request is forwarded only once the
plugins are initialized, if there are any; and whichever threads have received it and the `initialize` that
opened its connection, both came with valid tokens and use configs that were given for the subjects of these,
on whichever thread. -/
theorem forwarded_explained (registry : Option (CpexRuntimeRegistry Manager))
    (redis : Bytes → Option Bytes) (toolCallId : UInt64) (es : List (Event Body Value Manager Ctx))
    (e : Event Body Value Manager Ctx) {f : Service.Forwarded} :
    let σ₀ : Process Body Value Manager := new rt registry redis toolCallId
    let σ := Runs.run (next rt o codec jwt keys) σ₀ es
    f ∈ forwarded σ e → σ.launch.initialized = some (.ok ()) ∧
      Explained jwt keys (GivenFor codec redis (applied rt o codec jwt keys σ₀ (es ++ [e])))
        (next rt o codec jwt keys σ e).served f := by
  intro σ₀ σ h
  obtain ⟨thread, e, rfl, hserving, hf⟩ := mem_forwarded h
  have htaken : taken σ (.application thread e) = some (e.withRuntime σ.launch.current) :=
    taken_eq_some.2 ⟨Or.inr hserving, rfl⟩
  have hinv : Application.Inv codec jwt keys redis _ (σ.application thread) :=
    inv_run registry redis toolCallId es thread
  refine ⟨(initialized_of_serving (launch_inv registry redis toolCallId es) hserving).1, ?_⟩
  rw [applied_concat, htaken]
  simp only [next, htaken, Option.toList_some]
  exact hinv.forwarded hf

/-! ### What the plugins let through -/

/-- What has been read in the store: by `initialize`, or by a tick. -/
def ReadBy (o : Outcomes Value Manager) (es : List (Event Body Value Manager Ctx))
    (env : CpexEnv Value Manager) (b : Bytes) : Prop :=
  (env = o.env ∧ o.answer = .bytes b) ∨ .launch (.tick env (.bytes b)) ∈ es

theorem found_run (registry : Option (CpexRuntimeRegistry Manager)) (redis : Bytes → Option Bytes)
    (toolCallId : UInt64) (es : List (Event Body Value Manager Ctx)) :
    ∀ x ∈ (Runs.run (next rt o codec jwt keys) (new rt registry redis toolCallId) es).launch.found,
      x = (o.env, o.answer) ∨ .launch (.tick x.1 x.2) ∈ es := by
  induction es using List.reverseRecOn with
  | nil => nofun
  | append_singleton es e ih =>
    rw [Runs.run_concat]
    intro x hx
    have hold : ∀ {s : List (CpexEnv Value Manager × StoreAnswer)},
        s = (Runs.run (next rt o codec jwt keys) (new rt registry redis toolCallId) es).launch.found →
        x ∈ s → x = (o.env, o.answer) ∨ .launch (.tick x.1 x.2) ∈ es ++ [e] :=
      fun hs hmem => (ih x (hs ▸ hmem)).imp_right (List.mem_append_left [e])
    cases e with
    | launch e =>
      rcases Launch.found_nextHosted hx with hx | hx | rfl
      · exact hold rfl hx
      · exact Or.inl hx
      · exact Or.inr (List.mem_append_right es (List.mem_singleton_self _))
    | application thread e =>
      refine hold ?_ hx
      simp only [next]
      split <;> rfl

/-- Where a thread serves, whatever is active was built from a document that was read. -/
theorem documented_of_serving (redis : Bytes → Option Bytes) (toolCallId : UInt64)
    (es : List (Event Body Value Manager Ctx)) {thread : LaunchThread} :
    let σ := Runs.run (next rt o codec jwt keys)
      (new rt (some (CpexRuntimeRegistry.new true)) redis toolCallId) es
    σ.launch.Serving thread →
      ∃ registry, σ.launch.registry = some registry ∧
        PluginPolicy.Documented (ReadBy o es) registry := by
  intro σ hserving
  have hinv : Launch.Inv rt o (some (CpexRuntimeRegistry.new true)) σ.launch :=
    launch_inv _ redis toolCallId es
  have hinitialized := (initialized_of_serving hinv hserving).1
  obtain ⟨js, hjs⟩ := run_launch rt o codec jwt keys (some (CpexRuntimeRegistry.new true)) redis
    toolCallId es
  have hstore := hinv.store
  cases hregistry : σ.launch.registry with
  | none =>
    rw [hregistry] at hstore
    cases hstore
  | some registry =>
    rw [hregistry] at hstore
    have hloaded : Launch.Loaded σ.launch := hjs ▸ Launch.run_loaded rt o _ js
    obtain ⟨⟨env, answer⟩, hfound, hload⟩ := hloaded registry hregistry (Option.some.inj hstore)
      (by rw [hinitialized]; exact Option.some_ne_none _)
    refine ⟨registry, rfl, fun runtime hruntime => ?_⟩
    obtain ⟨b, document, rfl, hdecode, hversion, hbuilt⟩ := CpexRuntimeRegistry.load_eq_ok.1
      (RuntimeState.ofResult_eq_active.1 (hload.symm.trans hruntime))
    refine ⟨env, b, document.cpex, ?_, ⟨document, hdecode, hversion, rfl⟩,
      CpexRuntimeRegistry.builtFrom_of_fromConfig hbuilt⟩
    rcases found_run _ redis toolCallId es _ hfound with hx | hx
    · obtain ⟨henv, hanswer⟩ := Prod.mk.inj hx
      exact Or.inl ⟨henv, hanswer.symm⟩
    · exact Or.inr hx

omit [Inhabited Manager] in
theorem mem_toolCalls {σ : Process Body Value Manager} {e : Event Body Value Manager Ctx}
    {sent : Sent Service.Connection (CallToolRequestParams Value)} (h : sent ∈ toolCalls σ e) :
    ∃ thread e', e = .application thread e' ∧ σ.launch.Serving thread ∧
      sent ∈ Application.toolCalls (σ.application thread) (e'.withRuntime σ.launch.current) := by
  cases e with
  | launch e => cases h
  | application thread e =>
    cases htaken : taken σ (.application thread e) with
    | none => simp [toolCalls, htaken] at h
    | some e' =>
      simp only [toolCalls, htaken] at h
      obtain ⟨hserving, rfl⟩ := taken_eq_some.1 htaken
      refine ⟨thread, e, rfl, hserving.resolve_left fun hout => ?_, h⟩
      cases e with
      | serve => cases hout
      | _ => cases h

/-- **No tool call of any thread goes past the plugins.** Where the plugins are enabled, a tool call that some
thread sends to a backend was let through by the plugins of a document that `initialize` or a tick has read,
whichever thread it was that read it. -/
theorem sent_allowed (redis : Bytes → Option Bytes) (toolCallId : UInt64)
    (es : List (Event Body Value Manager Ctx)) (e : Event Body Value Manager Ctx)
    {sent : Sent Service.Connection (CallToolRequestParams Value)} :
    let σ₀ : Process Body Value Manager :=
      new rt (some (CpexRuntimeRegistry.new true)) redis toolCallId
    let σ := Runs.run (next rt o codec jwt keys) σ₀ es
    sent ∈ toolCalls σ e →
      ∃ thread registry i env pluginRuntime request downstreamSessionId s,
        e = .application thread
          (.serve i s.service (.callTool env pluginRuntime request) downstreamSessionId) ∧
        σ.launch.registry = some registry ∧
        PluginPolicy.Allowed (ReadBy o es) (GivenFor codec redis (applied rt o codec jwt keys σ₀ es)) jwt
          keys ⟨registry, σ.application thread⟩ env request s sent := by
  intro σ₀ σ h
  obtain ⟨thread, e, rfl, hserving, hsent⟩ := mem_toolCalls h
  obtain ⟨registry, hregistry, hdocumented⟩ := documented_of_serving redis toolCallId es hserving
  have hcurrent : σ.launch.current = some registry.runtime := by
    rw [Launch.current, hregistry]
    rfl
  rw [hcurrent] at hsent
  have hinv : Application.Inv codec jwt keys redis (applied rt o codec jwt keys σ₀ es)
      (σ.application thread) := inv_run _ redis toolCallId es thread
  obtain ⟨i, env, pluginRuntime, request, downstreamSessionId, s, rfl, hallowed⟩ :=
    PluginPolicy.allowed_of_sent (σ := ⟨registry, σ.application thread⟩) hdocumented hinv hsent
  exact ⟨thread, registry, i, env, pluginRuntime, request, downstreamSessionId, s, rfl, hregistry,
    hallowed⟩

end

/-! ### A session over two threads -/

namespace TwoThreads

open Application.EndToEnd (codec jwt keys aliceConfig)

/-- Everything succeeds, and the plugin of the store looks at tool calls. -/
def outcomes : Outcomes Unit Unit :=
  ⟨fun _ => .ok (), fun _ => .ok (), PluginPolicy.Guarded.cpexEnv, .bytes Sample.document⟩

/-- Both gateway threads have come to serve. -/
def launched : List (Event Unit Unit Unit Unit) :=
  [.main, .gateway 0, .gateway 0, .gateway 0, .main, .main, .gateway 0, .gateway 1, .gateway 1].map
    fun thread => .launch (.step thread)

/-- Alice is configured on the first thread, initializes a session on the second one, which reads her config
in Redis, and goes on with it on the first one. -/
def listed : List (Event Unit Unit Unit Unit) :=
  launched ++
    [.configure 0 "alice" aliceConfig, .storeStep 0 true, .storeStep 0 true].map
      (.application (.gateway 0)) ++
    [.receive 1 (Application.EndToEnd.request []), .storeStep 1 true, .storeStep 1 true,
      .storeStep 1 true, .serve 1 0 (.connect (fun _ => .ok none) fun _ => true) (some ⟨"s"⟩),
      .insert 0 0].map (.application (.gateway 1)) ++
    [.receive 2 (Application.EndToEnd.request [("mcp-session-id", [115])]), .storeStep 2 true,
      .storeStep 2 true].map (.application (.gateway 0))

def start : Process Unit Unit Unit :=
  new ⟨false, 2⟩ (some (CpexRuntimeRegistry.new true)) (fun _ => none) 1

/-- Then. -/
def state : Process Unit Unit Unit :=
  Runs.run (next ⟨false, 2⟩ outcomes codec jwt keys) start listed

def call : Event Unit Unit Unit Unit := .application (.gateway 0) PluginPolicy.Guarded.call

end TwoThreads

open TwoThreads Application.EndToEnd in
theorem forwarded_explained_twoThreads :
    ∃ f ∈ forwarded state call, Explained jwt keys
      (GivenFor codec (fun _ => none)
        (applied ⟨false, 2⟩ outcomes codec jwt keys start (TwoThreads.listed ++ [call])))
      (next ⟨false, 2⟩ outcomes codec jwt keys state call).served f := by
  obtain ⟨f, hf⟩ := List.exists_mem_of_length_pos (l := forwarded state call) (by decide +kernel)
  exact ⟨f, hf, (forwarded_explained _ (fun _ => none) 1 TwoThreads.listed call hf).2⟩

open TwoThreads Application.EndToEnd in
theorem sent_allowed_twoThreads :
    ∃ sent ∈ toolCalls state call, ∃ registry s,
      PluginPolicy.Allowed (ReadBy outcomes TwoThreads.listed)
        (GivenFor codec (fun _ => none)
          (applied ⟨false, 2⟩ outcomes codec jwt keys start TwoThreads.listed)) jwt keys
        ⟨registry, state.application (.gateway 0)⟩ PluginPolicy.Guarded.env PluginPolicy.Guarded.request s
        sent := by
  obtain ⟨sent, hsent⟩ := List.exists_mem_of_length_pos (l := toolCalls state call) (by decide +kernel)
  obtain ⟨thread, registry, i, env, pluginRuntime, request, downstreamSessionId, s, hcall, -, hallowed⟩ :=
    sent_allowed (fun _ => none) 1 TwoThreads.listed call hsent
  obtain ⟨rfl, hserve⟩ := Event.application.inj hcall
  obtain ⟨-, -, hmessage, -⟩ := Application.Event.serve.inj hserve
  cases hmessage
  exact ⟨sent, hsent, registry, s, hallowed⟩

end Process

end ContextForge
