import ContextForgeGateway.Cpex.Copies
import ContextForgeGateway.Gateway.Enforcement

/-!
# Plugins that only watch

A pipeline that hands on a copy of the payload it was given may not change the call. Both directions
go through an encoding of their own: the request is taken apart into a tool call and put together
again from its arguments, and the answer is nested as JSON in a tool result and decoded again.

`callTool_transparent` says that neither loses anything: after a pre pipeline that copies, the same
request is sent as without a plugin runtime, and after a post pipeline that copies, the client
receives the answer of the backend. Of the error flag, which a payload always has, an absent one
comes back as `false`.
-/

namespace ContextForge

variable {Client Value Manager Ctx : Type}

/-! ### The request -/

/-- The pipelines for `hook` among `invoked` copy what they are given. -/
def CopiesAt (invoke : Invocation Value Manager Ctx → PipelineResult Value Ctx) (hook : String)
    (invoked : List (Invocation Value Manager Ctx)) : Prop :=
  ∀ invocation ∈ invoked, invocation.hook = hook → (invoke invocation).Copies invocation.payload

/-- After a pre pipeline that copies, the first half of a call leaves the arguments as they are. -/
theorem callToolPre_of_copies [DecidableEq Value] (env : ToolCallEnv Client Value Manager Ctx)
    (runtime : GatewayPluginRuntime Manager) (request : CallToolRequestParams Value)
    (toolName backendName : String) (counter : UInt64)
    (h : CopiesAt env.invoke toolPreInvoke
      (callToolPre env (some (.active runtime)) request toolName backendName counter).invoked) :
    ∃ preResult,
      (callToolPre env (some (.active runtime)) request toolName backendName counter).result =
        .ok preResult ∧ preResult.arguments = .unchanged := by
  rw [callToolPre_active] at h ⊢
  unfold GatewayPluginRuntime.beforeToolCall at h ⊢
  by_cases hpre : runtime.hasPreHook = true
  · simp only [hpre, if_true] at h ⊢
    have hcopies := h _ (List.mem_singleton_self _) rfl
    rw [afterToolPre_of_copies hcopies]
    exact ⟨_, rfl, wrapState_arguments runtime _⟩
  · simp only [hpre]
    exact ⟨_, rfl, wrapState_arguments runtime _⟩

/-- The pipelines of the first half are among those of the call. -/
theorem callToolPre_invoked_subset [DecidableEq Value] (env : ToolCallEnv Client Value Manager Ctx)
    (pluginRuntime : Option (RuntimeState Manager)) (transports : Transports Client)
    (request : CallToolRequestParams Value) (backendName toolName : String) (service : Client)
    (counter : UInt64) :
    (callToolPre env pluginRuntime request toolName backendName counter).invoked ⊆
      (callToolRouted env pluginRuntime transports request backendName toolName service
        counter).invoked := by
  unfold callToolRouted
  intro invocation h
  cases hpre : (callToolPre env pluginRuntime request toolName backendName counter).result with
  | error e =>
    simp only [hpre]
    exact h
  | ok preResult =>
    simp only [hpre]
    split
    · exact h
    · exact List.mem_append_left _ h

/-- What a routed call sends if the first half leaves its arguments as they are. -/
theorem callToolRouted_sent_of_unchanged [DecidableEq Value]
    {env : ToolCallEnv Client Value Manager Ctx} {pluginRuntime : Option (RuntimeState Manager)}
    {transports : Transports Client} {request : CallToolRequestParams Value}
    {backendName toolName : String} {service : Client} {counter : UInt64}
    {preResult : ToolPreCallResult Value Manager Ctx}
    (hpre : (callToolPre env pluginRuntime request toolName backendName counter).result =
      .ok preResult) (harguments : preResult.arguments = .unchanged) :
    (callToolRouted env pluginRuntime transports request backendName toolName service
      counter).sent = [⟨backendName, service, { request with name := toolName }⟩] := by
  have hrequest : preResult.arguments.applyToRequest request toolName =
      { request with name := toolName } := by
    rw [harguments]
    rfl
  unfold callToolRouted
  simp only [hpre, hrequest]
  split <;> rfl

/-! ### The answer -/

/-- A routed call whose post pipeline copies ends with the answer of the backend. -/
theorem answered_of_copies {env : ToolCallEnv Client Value Manager Ctx}
    (htext : env.api.TextOfParts) {pluginRuntime : Option (RuntimeState Manager)}
    {toolName : String} {response : CallToolResult Value} (hround : env.api.RoundTrips response)
    {reply : ToolCallReply Client Value Manager Ctx}
    (hcopies : CopiesAt env.invoke toolPostInvoke reply.invoked)
    (h : Answered env pluginRuntime toolName response reply) :
    ∃ answer, reply.result = .ok answer ∧ SameAnswer response answer := by
  unfold Answered at h
  cases hpost : postRuntime pluginRuntime with
  | none =>
    rw [hpost] at h
    exact ⟨response, h, SameAnswer.refl response⟩
  | some runtime =>
    rw [hpost] at h
    obtain ⟨toolCallId, contextTable, hinvoked, hresult⟩ := h
    have hcopied := hcopies _ hinvoked rfl
    rw [hcopied.allowed] at hresult
    exact ⟨_, hresult, effectivePostResult_of_copies htext hround hcopied⟩

/-- A call ends as its post pipeline decides about what the backend has answered. -/
theorem callToolRouted_answered [DecidableEq Value] {env : ToolCallEnv Client Value Manager Ctx}
    {pluginRuntime : Option (RuntimeState Manager)} {transports : Transports Client}
    {request : CallToolRequestParams Value} {route : Route Client} {counter : UInt64}
    {sent : Sent Client (CallToolRequestParams Value)} {response : CallToolResult Value}
    (hsent : sent ∈ (callToolRouted env pluginRuntime transports request route.backendName route.name
      route.service counter).sent)
    (hresponse : env.backends.callTool sent.client sent.request = some response) :
    Answered env pluginRuntime route.name response (callToolRouted env pluginRuntime transports
      request route.backendName route.name route.service counter) := by
  rcases callToolPre_cases env pluginRuntime request route counter with
    ⟨e, -, herr⟩ | ⟨args, preResult, -, hok, -, hstate⟩
  · simp only [callToolRouted, herr] at hsent
    cases hsent
  · have heq : sent = ⟨route.backendName, route.service,
        preResult.arguments.applyToRequest request route.name⟩ := by
      simp only [callToolRouted, hok] at hsent
      split at hsent <;> exact List.mem_singleton.1 hsent
    rw [heq] at hresponse
    simp only [callToolRouted, hok, hresponse]
    exact callToolPost_answered env route.name response _ hstate rfl
      fun invocation h => List.mem_append_right _ h

/-! ### A whole call -/

/-- Plugins that copy do not change a call: a pre pipeline that copies leaves the request as it is
sent without a plugin runtime, and a post pipeline that copies leaves the answer of the backend. -/
theorem callTool_transparent [DecidableEq Value] (env : ToolCallEnv Client Value Manager Ctx)
    (htext : env.api.TextOfParts) (runtime : GatewayPluginRuntime Manager)
    (transports : Transports Client) (counter : UInt64) (request : CallToolRequestParams Value)
    (ctx : RequestContext) :
    let reply := callTool env (some (.active runtime)) transports counter request ctx
    (CopiesAt env.invoke toolPreInvoke reply.invoked →
      reply.sent = (callTool env none transports counter request ctx).sent) ∧
    (CopiesAt env.invoke toolPostInvoke reply.invoked →
      ∀ sent ∈ reply.sent, ∀ response,
        env.backends.callTool sent.client sent.request = some response →
        env.api.RoundTrips response →
        ∃ answer, reply.result = .ok answer ∧ SameAnswer response answer) := by
  rw [callTool_eq, callTool_eq]
  cases routeToolCall transports request.name ctx with
  | error e => exact ⟨fun _ => rfl, fun _ sent hsent => nomatch hsent⟩
  | ok route =>
    constructor
    · intro hcopies
      obtain ⟨preResult, hpre, harguments⟩ := callToolPre_of_copies env runtime request route.name
        route.backendName counter fun invocation hinvocation =>
          hcopies invocation (callToolPre_invoked_subset env _ transports request route.backendName
            route.name route.service counter hinvocation)
      have hnone : (callToolPre env none request route.name route.backendName counter).result =
          .ok .unchanged := rfl
      exact (callToolRouted_sent_of_unchanged hpre harguments).trans
        (callToolRouted_sent_of_unchanged hnone rfl).symm
    · intro hcopies sent hsent response hresponse hround
      exact answered_of_copies htext hround hcopies (callToolRouted_answered hsent hresponse)

namespace Watching

open CmfSample

/-- A virtual host with one backend. -/
def virtualHost : VirtualHost where
  backends :=
    ⟨[("counter",
      { name := "counter"
        url := ⟨"http://127.0.0.1:5555/mcp", "http", some "127.0.0.1", some 5555⟩
        transport := .streamableHttp
        passthroughHeaders := []
        allowedToolNames := []
        allowedResourceNames := []
        allowedPromptNames := [] })], List.nodup_singleton _⟩

def context : RequestContext where
  parts := some
    { virtualHostId := some ⟨"host"⟩
      sessionId := some ⟨"session"⟩
      claims := none
      userConfig := some ⟨⟨[("host", virtualHost)], List.nodup_singleton _⟩⟩ }
  downstreamSessionId := none

/-- An answer without an error flag. -/
def response : CallToolResult Json := ⟨[.textItem "2"], none, none, none⟩

/-- A backend that answers every call, and plugins that hand on what they are given. -/
def env : ToolCallEnv Unit Json Unit Unit where
  backends :=
    { listTools := fun _ _ => none
      callTool := fun _ _ => some response
      listResources := fun _ _ => none
      readResource := fun _ _ => none }
  api := CmfSample.api
  invoke := fun invocation => ⟨false, none, some (.message invocation.payload), ()⟩

def runtime : GatewayPluginRuntime Unit := ⟨(), true, true⟩

def connected : Transports Unit := fun _ => some ⟨some ()⟩

/-- A request without arguments. -/
def request : CallToolRequestParams Json := ⟨"counter-increment", none, none, none⟩

theorem textOfParts : env.api.TextOfParts := by
  intro message h
  show String.join (List.filterMap _ message.content) = String.join []
  apply congrArg
  rw [List.filterMap_eq_nil_iff]
  intro part hpart
  cases part with
  | text text => exact absurd hpart (h text)
  | toolCall content => rfl
  | toolResult content => rfl
  | other content => rfl

theorem copies (hook : String) (invoked : List (Invocation Json Unit Unit)) :
    CopiesAt env.invoke hook invoked :=
  fun invocation _ _ => ⟨rfl, invocation.payload, MessagePayload.IsCopy.refl _, rfl⟩

end Watching

open Watching in
theorem watching_transparent :
    let reply := callTool env (some (.active runtime)) connected 1 request context
    reply.sent = (callTool env none connected 1 request context).sent ∧
      ∃ answer, reply.result = .ok answer ∧ SameAnswer response answer := by
  obtain ⟨hsent, hanswer⟩ :=
    callTool_transparent env textOfParts runtime connected 1 request context
  refine ⟨hsent (copies _ _), ?_⟩
  refine hanswer (copies _ _) ⟨"counter", (), { request with name := "increment" }⟩ ?_ response rfl
    rfl
  rw [hsent (copies _ _)]
  exact List.mem_singleton_self _

end ContextForge
