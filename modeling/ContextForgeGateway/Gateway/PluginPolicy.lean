import ContextForgeGateway.Cpex.FailClosed
import ContextForgeGateway.Gateway.Application
import ContextForgeGateway.Gateway.Enforcement

/-!
# The gateway with its plugins

`main` gives the gateway a handle on a registry that has a configuration store. The registry is initialized
once, before the gateway serves, and from then on its watcher reads the store at every tick; a tool call
loads whatever state is published when it comes. Ticks and requests are interleaved in any way, and every
tick meets its own store and its own environment, in which decoding and building may fail.

`run_application` says that the application of such a run is the one of Gateway/Application.lean on its own,
with the published state put into every tool call. `toolCall_allowed` is what stands behind a tool call that
goes to a backend, in every run.
-/

namespace ContextForge

namespace Application

variable {Body Value Manager Ctx : Type}

/-- The message, with what the handle of the plugins reads, if there is one. -/
def Message.withRuntime (current : Option (RuntimeState Manager)) :
    Message Value Manager Ctx → Message Value Manager Ctx
  | .callTool env _ request => .callTool env current request
  | message => message

def Event.withRuntime (current : Option (RuntimeState Manager)) :
    Event Body Value Manager Ctx → Event Body Value Manager Ctx
  | .serve i n message downstreamSessionId => .serve i n (message.withRuntime current) downstreamSessionId
  | e => e

/-- The requests that the tool calls of a step send to backends. -/
def toolCalls [DecidableEq Value] (σ : State Body) :
    Event Body Value Manager Ctx → List (Sent Service.Connection (CallToolRequestParams Value))
  | .serve i n (.callTool env pluginRuntime request) downstreamSessionId =>
    match σ.outcome i with
    | some (arrival, .invoked invoked) =>
      (callTool env pluginRuntime (σ.service n).transports σ.toolCallId request
        (Served.ctx { arrival with invoked, service := n, downstreamSessionId })).sent
    | _ => []
  | _ => []

theorem mem_toolCalls [DecidableEq Value] {σ : State Body} {current : Option (RuntimeState Manager)}
    {e : Event Body Value Manager Ctx}
    {sent : Sent Service.Connection (CallToolRequestParams Value)}
    (h : sent ∈ toolCalls σ (e.withRuntime current)) :
    ∃ i n env pluginRuntime request downstreamSessionId arrival invoked,
      e = .serve i n (.callTool env pluginRuntime request) downstreamSessionId ∧
      σ.outcome i = some (arrival, .invoked invoked) ∧
      sent ∈ (callTool env current (σ.service n).transports σ.toolCallId request
        (Served.ctx { arrival with invoked, service := n, downstreamSessionId })).sent := by
  cases e with
  | serve i n message downstreamSessionId =>
    cases message with
    | callTool env pluginRuntime request =>
      simp only [Event.withRuntime, Message.withRuntime, toolCalls] at h
      split at h
      next arrival invoked houtcome =>
        exact ⟨i, n, env, pluginRuntime, request, downstreamSessionId, arrival, invoked, rfl, houtcome, h⟩
      next => cases h
    | _ => cases h
  | _ => cases h

end Application

open Application (Served Attributed GivenFor)

namespace PluginPolicy

variable {Body Value Manager Ctx RsKey HmacKey : Type}

/-- The registry of the plugins, and the rest of the gateway. -/
structure State (Body Manager : Type) where
  registry : CpexRuntimeRegistry Manager
  application : Application.State Body

/-- What can happen next. -/
inductive Event (Body Value Manager Ctx : Type)
  | tick (env : CpexEnv Value Manager) (answer : StoreAnswer)
  | application (e : Application.Event Body Value Manager Ctx)

/-- The gateway has started after `initialize`, which read `answer` in the store. -/
def State.new [Inhabited Manager] (env : CpexEnv Value Manager) (answer : StoreAnswer)
    (redis : Bytes → Option Bytes) (toolCallId : UInt64) : State Body Manager :=
  ⟨((CpexRuntimeRegistry.new true).initializeRegistry env answer).1,
    Application.State.new redis toolCallId⟩

/-- What an event is for the application. -/
def taken (σ : State Body Manager) :
    Event Body Value Manager Ctx → Option (Application.Event Body Value Manager Ctx)
  | .tick _ _ => none
  | .application e => some (e.withRuntime σ.registry.runtime)

section

variable [Inhabited Manager] [DecidableEq Value] (codec : Codec UserConfig)
  (jwt : ℕ → Jwt RsKey HmacKey) (keys : JwtTokenDecoders RsKey HmacKey)

/-- The next state. -/
def next (σ : State Body Manager) : Event Body Value Manager Ctx → State Body Manager
  | .tick env answer => { σ with registry := σ.registry.tick env answer }
  | .application e =>
    { σ with
      application := Application.next codec jwt keys σ.application
        (e.withRuntime σ.registry.runtime) }

/-- The events of the application in a run. -/
def applied (σ : State Body Manager) (es : List (Event Body Value Manager Ctx)) :
    List (Application.Event Body Value Manager Ctx) :=
  (Runs.outputs (next codec jwt keys) taken σ es).reduceOption

theorem run_application (σ : State Body Manager) (es : List (Event Body Value Manager Ctx)) :
    (Runs.run (next codec jwt keys) σ es).application =
      Runs.run (Application.next codec jwt keys) σ.application (applied codec jwt keys σ es) := by
  have hstep : ∀ (τ : State Body Manager) (e : Event Body Value Manager Ctx),
      (next codec jwt keys τ e).application =
        ((taken τ e).map (Application.next codec jwt keys τ.application)).getD τ.application := by
    intro τ e
    cases e <;> rfl
  exact Runs.run_component hstep σ es

end

/-! ### What is published -/

/-- The runtime was built from a document that was read. -/
def FromDocument (reads : CpexEnv Value Manager → Bytes → Prop)
    (runtime : GatewayPluginRuntime Manager) : Prop :=
  ∃ env b config, reads env b ∧ CpexRuntimeRegistry.DecodesTo env b config ∧
    CpexRuntimeRegistry.BuiltFrom env config runtime

/-- What `initialize` and the ticks of a run read. -/
def ReadBy (env₀ : CpexEnv Value Manager) (answer₀ : StoreAnswer)
    (es : List (Event Body Value Manager Ctx)) (env : CpexEnv Value Manager) (b : Bytes) : Prop :=
  (env = env₀ ∧ answer₀ = .bytes b) ∨ .tick env (.bytes b) ∈ es

/-- Whatever is active was built from a document that was read. -/
def Documented (reads : CpexEnv Value Manager → Bytes → Prop) (registry : CpexRuntimeRegistry Manager) :
    Prop :=
  ∀ runtime, registry.runtime = .active runtime → FromDocument reads runtime

theorem Documented.mono {reads reads' : CpexEnv Value Manager → Bytes → Prop}
    {registry : CpexRuntimeRegistry Manager} (h : Documented reads registry)
    (hreads : ∀ env b, reads env b → reads' env b) : Documented reads' registry := by
  intro runtime hruntime
  obtain ⟨env, b, config, hb, hconfig⟩ := h runtime hruntime
  exact ⟨env, b, config, hreads env b hb, hconfig⟩

section

variable [Inhabited Manager]

/-- An operation that publishes something has built it from a document that it has read, unless it is an
`apply_config`. -/
theorem documented_step {reads : CpexEnv Value Manager → Bytes → Prop} {env : CpexEnv Value Manager}
    {registry : CpexRuntimeRegistry Manager} {op : RegistryOp Value}
    (hop : ∀ config, op ≠ .applyConfig config)
    (hreads : ∀ b, op = .init (.bytes b) ∨ op = .reload (.bytes b) ∨ op = .tick (.bytes b) → reads env b)
    (h : registry.publishes env op = none → Documented reads registry) :
    Documented reads (registry.step env op) := by
  cases hpublishes : registry.publishes env op with
  | none =>
    rw [CpexRuntimeRegistry.step_of_publishes_none hpublishes]
    exact h hpublishes
  | some result =>
    rw [CpexRuntimeRegistry.step_of_publishes_some hpublishes]
    intro runtime hruntime
    obtain rfl : result = .ok runtime := RuntimeState.ofResult_eq_active.1 hruntime
    rcases CpexRuntimeRegistry.origin_of_publishes hpublishes with
      ⟨rfl, -⟩ | ⟨config, hbuilt, hconfig | ⟨b, hdecodes, hb⟩⟩
    · exact absurd rfl (hop none)
    · exact absurd hconfig (hop (some config))
    · exact ⟨env, b, config, hreads b hb, hdecodes, hbuilt⟩

variable [DecidableEq Value] {codec : Codec UserConfig} {jwt : ℕ → Jwt RsKey HmacKey}
  {keys : JwtTokenDecoders RsKey HmacKey}

/-- The registry publishes no runtime that was not built from a document that it has read: not even the
one without plugins that it begins with. -/
theorem documented_run (env : CpexEnv Value Manager) (answer : StoreAnswer)
    (redis : Bytes → Option Bytes) (toolCallId : UInt64) (es : List (Event Body Value Manager Ctx)) :
    Documented (ReadBy env answer es)
      (Runs.run (next codec jwt keys) (State.new env answer redis toolCallId) es).registry := by
  induction es using List.reverseRecOn with
  | nil =>
    show Documented _ ((CpexRuntimeRegistry.new true).step env (.init answer))
    refine documented_step nofun ?_ fun hnone => ?_
    · rintro b (h | h | h) <;> cases h
      exact Or.inl ⟨rfl, rfl⟩
    · cases hnone
  | append_singleton es e ih =>
    have hbefore := ih.mono fun env' b h => (h.imp_right fun hmem => List.mem_append_left [e] hmem :
      ReadBy env answer (es ++ [e]) env' b)
    rw [Runs.run_concat]
    cases e with
    | tick env' answer' =>
      show Documented _ (CpexRuntimeRegistry.step env' _ (.tick answer'))
      refine documented_step nofun ?_ fun _ => hbefore
      rintro b (h | h | h) <;> cases h
      exact Or.inr (List.mem_append_right es (List.mem_singleton_self _))
    | application e => exact hbefore

/-! ### What is sent -/

omit [Inhabited Manager] in
/-- A request that `call_tool` sends was let through. -/
theorem letThrough_of_sent {Client : Type} {env : ToolCallEnv Client Value Manager Ctx}
    {pluginRuntime : Option (RuntimeState Manager)} {transports : Transports Client} {counter : UInt64}
    {request : CallToolRequestParams Value} {ctx : RequestContext}
    {sent : Sent Client (CallToolRequestParams Value)}
    (h : sent ∈ (callTool env pluginRuntime transports counter request ctx).sent) :
    ∃ route args, routeToolCall transports request.name ctx = .ok route ∧
      letThrough env pluginRuntime request route counter = .ok args ∧
      sent.backendName = route.backendName ∧ sent.client = route.service ∧
      RoutedRequest request route.name args sent.request := by
  rw [callTool_eq] at h
  cases hroute : routeToolCall transports request.name ctx with
  | error e =>
    rw [hroute] at h
    cases h
  | ok route =>
    simp only [hroute, callToolRouted] at h
    rcases callToolPre_cases env pluginRuntime request route counter with
      ⟨e, hverdict, herr⟩ | ⟨args, preResult, hverdict, hok, hsame, -⟩
    · rw [herr] at h
      cases h
    · rw [hok] at h
      have hsent : sent = ⟨route.backendName, route.service,
          preResult.arguments.applyToRequest request route.name⟩ := by
        cases hresponse : env.backends.callTool route.service
            (preResult.arguments.applyToRequest request route.name) with
        | none =>
          simp only [hresponse] at h
          exact List.mem_singleton.1 h
        | some response =>
          simp only [hresponse] at h
          exact List.mem_singleton.1 h
      subst hsent
      exact ⟨route, args, rfl, hverdict, rfl, rfl, applyToRequest_name _ _ _, hsame,
        applyToRequest_metaMap _ _ _, applyToRequest_task _ _ _⟩

/-- What stands behind a tool call that is sent: the request that was served is attributed, and the
plugins of a document that was read have let the call through, with the arguments that are sent. -/
structure Allowed (reads : CpexEnv Value Manager → Bytes → Prop) (P : User → UserConfig → Prop)
    (jwt : ℕ → Jwt RsKey HmacKey) (keys : JwtTokenDecoders RsKey HmacKey) (σ : State Body Manager)
    (env : ToolCallEnv Service.Connection Value Manager Ctx) (request : CallToolRequestParams Value)
    (s : Served Body) (sent : Sent Service.Connection (CallToolRequestParams Value)) : Prop where
  attributed : ∃ claims config id, Attributed jwt keys P s claims config id
  letThrough : ∃ runtime route args, σ.registry.runtime = .active runtime ∧ FromDocument reads runtime ∧
    routeToolCall (σ.application.service s.service).transports request.name s.ctx = .ok route ∧
    ContextForge.letThrough env (some (.active runtime)) request route
      σ.application.toolCallId = .ok args ∧
    sent.backendName = route.backendName ∧ sent.client = route.service ∧
    RoutedRequest request route.name args sent.request

omit [Inhabited Manager] in
theorem allowed_of_sent {reads : CpexEnv Value Manager → Bytes → Prop} {redis : Bytes → Option Bytes}
    {es : List (Application.Event Body Value Manager Ctx)} {σ : State Body Manager}
    (hdocumented : Documented reads σ.registry)
    (hinv : Application.Inv codec jwt keys redis es σ.application)
    {e : Application.Event Body Value Manager Ctx}
    {sent : Sent Service.Connection (CallToolRequestParams Value)}
    (h : sent ∈ Application.toolCalls σ.application (e.withRuntime σ.registry.runtime)) :
    ∃ i env pluginRuntime request downstreamSessionId s,
      e = .serve i s.service (.callTool env pluginRuntime request) downstreamSessionId ∧
      Allowed reads (GivenFor codec redis es) jwt keys σ env request s sent := by
  obtain ⟨i, n, env, pluginRuntime, request, downstreamSessionId, arrival, invoked, rfl, houtcome, hsent⟩ :=
    Application.mem_toolCalls h
  have hattributed := Application.attributed_of_outcome hinv.provided (hinv.waiting i) houtcome n
    downstreamSessionId
  obtain ⟨route, args, hroute, hlet, hbackend, hclient, hrouted⟩ := letThrough_of_sent hsent
  refine ⟨i, env, pluginRuntime, request, downstreamSessionId, _, rfl, hattributed, ?_⟩
  -- a failed runtime lets nothing through
  cases hruntime : σ.registry.runtime with
  | failed error =>
    rw [hruntime] at hlet
    cases hlet
  | active runtime =>
    rw [hruntime] at hlet
    exact ⟨runtime, route, args, rfl, hdocumented runtime hruntime, hroute, hlet, hbackend, hclient,
      hrouted⟩

/-- **No tool call goes past the plugins.** Whatever the interleaving of requests and ticks, a tool call that
is sent to a backend came with a valid token and uses a config that was given for its subject; and it was
let through by the plugins of a document that was read in the store, as it is sent. -/
theorem toolCall_allowed (env₀ : CpexEnv Value Manager) (answer : StoreAnswer)
    (redis : Bytes → Option Bytes) (toolCallId : UInt64) (es : List (Event Body Value Manager Ctx))
    (e : Application.Event Body Value Manager Ctx)
    {sent : Sent Service.Connection (CallToolRequestParams Value)} :
    let σ₀ := State.new env₀ answer redis toolCallId
    let σ := Runs.run (next codec jwt keys) σ₀ es
    sent ∈ Application.toolCalls σ.application (e.withRuntime σ.registry.runtime) →
      ∃ i env pluginRuntime request downstreamSessionId s,
        e = .serve i s.service (.callTool env pluginRuntime request) downstreamSessionId ∧
        Allowed (ReadBy env₀ answer es) (GivenFor codec redis (applied codec jwt keys σ₀ es)) jwt keys σ
          env request s sent := by
  intro σ₀ σ h
  have hdocumented : Documented (ReadBy env₀ answer es) σ.registry :=
    documented_run env₀ answer redis toolCallId es
  have hinv : Application.Inv codec jwt keys redis (applied codec jwt keys σ₀ es) σ.application := by
    rw [run_application codec jwt keys σ₀ es]
    exact Application.inv_run toolCallId _
  exact allowed_of_sent hdocumented hinv h

end

/-! ### A tool call behind one plugin -/

namespace Guarded

open Application.EndToEnd (codec jwt keys listed)

/-- One plugin, which looks at tool calls before they are sent. -/
def guarded : CpexConfig Unit := ⟨false, false, [], [], [], [], [⟨"guard", [toolPreInvoke], []⟩]⟩

def cpexEnv : CpexEnv Unit Unit where
  decodeJson b := if b = Sample.document then some ⟨1, guarded⟩ else none
  decodeMessagePack _ := none
  managerFromConfig _ := some ()
  managerInitialize _ := true

/-- The plugin lets everything through. -/
def env : ToolCallEnv Service.Connection Unit Unit Unit where
  backends := Service.SharedSession.backends
  api :=
    { null := ()
      asStr := fun _ => none
      display := fun _ => ""
      toValue := fun _ => none
      fromValue := fun _ => none
      contentText := fun _ => ()
      getTextContent := fun _ => "" }
  invoke _ := ⟨false, none, none, ()⟩

/-- Alice's session, and ticks of the watcher in between. -/
def run : List (Event Unit Unit Unit Unit) :=
  .tick cpexEnv .unavailable :: listed.map .application ++ [.tick cpexEnv (.bytes Sample.document)]

def request : CallToolRequestParams Unit := ⟨"counter-add", none, none, none⟩

def call : Application.Event Unit Unit Unit Unit := .serve 2 0 (.callTool env none request) none

def start : State Unit Unit := State.new cpexEnv (.bytes Sample.document) (fun _ => none) 1

def state : State Unit Unit := Runs.run (next codec jwt keys) start run

end Guarded

open Guarded Application.EndToEnd in
theorem toolCall_allowed_sample :
    ∃ sent ∈ Application.toolCalls state.application (call.withRuntime state.registry.runtime),
      ∃ s, Allowed (ReadBy cpexEnv (.bytes Sample.document) run)
        (GivenFor codec (fun _ => none) (applied codec jwt keys start run)) jwt keys state Guarded.env
        Guarded.request s sent := by
  obtain ⟨sent, hsent⟩ := List.exists_mem_of_length_pos
    (l := Application.toolCalls state.application (call.withRuntime state.registry.runtime))
    (by decide +kernel)
  obtain ⟨i, env, pluginRuntime, request, downstreamSessionId, s, hcall, hallowed⟩ :=
    toolCall_allowed cpexEnv (.bytes Sample.document) (fun _ => none) 1 run call hsent
  obtain ⟨-, -, hmessage, -⟩ := Application.Event.serve.inj hcall
  cases hmessage
  exact ⟨sent, hsent, s, hallowed⟩

end PluginPolicy

end ContextForge
