import ContextForgeGateway.Gateway.McpService

/-!
# What is listed is what is called

A client lists the tools of a virtual host and later calls one of them by the name it was listed
under. `ListedIsCalled` says that the call then reaches the backend that has the tool, under the
tool's own name there, and the same for resources. It holds of a virtual host exactly when its
backend names are `Unambiguous`: no name begins with another one and a hyphen.

The iteration order of the backends is not fixed, and a listing and a call may see different ones
(`TwoRequests`).
-/

namespace ContextForge

/-- No backend name begins with another backend name and a hyphen. -/
def Unambiguous (backendNames : List String) : Prop :=
  ∀ n ∈ backendNames, ∀ m ∈ backendNames, n ≠ m → Text.startsWith m (n ++ "-") = false

instance (backendNames : List String) : Decidable (Unambiguous backendNames) :=
  inferInstanceAs (Decidable (∀ n ∈ backendNames, ∀ m ∈ backendNames, _ → _))

/-- Two valid requests in one session of a virtual host. The backends of the host are iterated in an
order of its own in each of them. -/
structure TwoRequests (virtualHost : VirtualHost) where
  sessionId : SessionId
  firstHost : VirtualHost
  secondHost : VirtualHost
  first_same : firstHost.backends.Same virtualHost.backends
  second_same : secondHost.backends.Same virtualHost.backends
  first : RequestContext
  second : RequestContext
  first_valid : AuthorizedCallValidator.validate first = .ok (firstHost, sessionId)
  second_valid : AuthorizedCallValidator.validate second = .ok (secondHost, sessionId)

/-- Every tool is called by the name it is listed under: if `list_tools` has been told of the tool
`t` by backend `b`, it lists `t` under a name that `split_tool_name` splits into `b` and the name of
`t`, and a call under that name goes to the client of `b`, with the name of `t`. -/
def ToolsListedAreCalled (virtualHost : VirtualHost) : Prop :=
  ∀ (Client Value Manager Ctx : Type) [DecidableEq Value] (requests : TwoRequests virtualHost)
    (env : ToolCallEnv Client Value Manager Ctx) (pluginRuntime : Option (RuntimeState Manager))
    (listing calling : Transports Client) (counter : UInt64)
    (page : Option (PaginatedRequestParams Value)) (request : CallToolRequestParams Value)
    (b : String) (lister service : Client) (result : ListToolsResult Value) (t : Tool Value),
    b ∈ virtualHost.backends.keys →
    listing ⟨b, requests.sessionId.value⟩ = some ⟨some lister⟩ →
    env.backends.listTools lister page = some result →
    t ∈ result.tools →
    calling ⟨b, requests.sessionId.value⟩ = some ⟨some service⟩ →
    request.name = (prefixTool b t).name →
    let listed := listTools env.backends listing page requests.first
    let called := callTool env pluginRuntime calling counter request requests.second
    (∃ tools, listed.result = .ok tools ∧ prefixTool b t ∈ tools.tools) ∧
    splitToolName request.name requests.secondHost.backends.keys = some ⟨b, t.name⟩ ∧
    (∀ sent ∈ called.sent,
      sent.backendName = b ∧ sent.client = service ∧ sent.request.name = t.name) ∧
    (pluginRuntime = none → called.sent ≠ [])

/-- Every resource is read by the uri it is listed under. -/
def ResourcesListedAreRead (virtualHost : VirtualHost) : Prop :=
  ∀ (Client Value : Type) (requests : TwoRequests virtualHost) (backends : BackendApi Client Value)
    (listing reading : Transports Client) (page : Option (PaginatedRequestParams Value))
    (request : ReadResourceRequestParams Value) (b : String) (lister service : Client)
    (result : ListResourcesResult Value) (r : Resource Value),
    b ∈ virtualHost.backends.keys →
    listing ⟨b, requests.sessionId.value⟩ = some ⟨some lister⟩ →
    backends.listResources lister page = some result →
    r ∈ result.resources →
    reading ⟨b, requests.sessionId.value⟩ = some ⟨some service⟩ →
    request.uri = (prefixResource b r).uri →
    let listed := listResources backends listing page requests.first
    let read := readResource backends reading request requests.second
    (∃ resources, listed.result = .ok resources ∧ prefixResource b r ∈ resources.resources) ∧
    splitResourceName request.uri requests.secondHost.backends.keys = some ⟨b, r.uri⟩ ∧
    read.sent = [⟨b, service, { request with uri := r.uri }⟩]

/-- What is listed is what is called. -/
def ListedIsCalled (virtualHost : VirtualHost) : Prop :=
  ToolsListedAreCalled virtualHost ∧ ResourcesListedAreRead virtualHost

/-! ### Unambiguous names split as they were joined -/

theorem prefixFree_iff_unambiguous {backendNames : List String} :
    PrefixCode.PrefixFree backendWord backendNames ↔ Unambiguous backendNames := by
  constructor
  · intro h n hn m hm hne
    rw [← Bool.not_eq_true]
    intro hstarts
    have hword : backendWord n <+: backendWord m := by
      refine (startsWith_word.1 hstarts).trans ?_
      unfold backendWord
      rw [String.toList_append]
      exact List.prefix_append _ _
    exact hne (h n hn m hm hword)
  · intro h n hn m hm hword
    by_contra hne
    have hlast : backendWord m = m.toList ++ ['-'] := by
      unfold backendWord
      rw [String.toList_append]
      rfl
    rw [hlast] at hword
    rcases List.prefix_concat_iff.1 hword with heq | hstarts
    · -- both words end with the added hyphen, so the names are equal
      have hwords : n.toList ++ ['-'] = m.toList ++ ['-'] := by
        rw [← heq]
        unfold backendWord
        rw [String.toList_append]
        rfl
      exact hne (String.toList_inj.1 (List.append_cancel_right hwords))
    · have hfalse := h n hn m hm hne
      rw [startsWith_word.2 hstarts] at hfalse
      cases hfalse

/-- Over unambiguous names, in any order, a prefixed name splits into what it was made of. -/
theorem splitName_prefixName {backendNames order : List String} (h : Unambiguous backendNames)
    (horder : order.Perm backendNames) {b : String} (hb : b ∈ backendNames) (name : String) :
    splitName (prefixName b name) order = some (b, name) := by
  have hfree := (prefixFree_iff_unambiguous.2 h).perm horder
  rw [splitName_eq_decode, prefixName_toList,
    PrefixCode.decode_encode hfree (horder.mem_iff.2 hb)]
  simp

theorem TwoRequests.splitName_second {virtualHost : VirtualHost} (requests : TwoRequests virtualHost)
    (h : Unambiguous virtualHost.backends.keys) {b : String} (hb : b ∈ virtualHost.backends.keys)
    (name : String) :
    splitName (prefixName b name) requests.secondHost.backends.keys = some (b, name) :=
  splitName_prefixName h requests.second_same.keys_perm hb name

/-- A response that the first request gets is among those that it merges. -/
theorem TwoRequests.mem_responses {virtualHost : VirtualHost} (requests : TwoRequests virtualHost)
    {Client Listing : Type} {ask : Client → Option Listing} {transports : Transports Client}
    {b : String} {lister : Client} {result : Listing} (hb : b ∈ virtualHost.backends.keys)
    (hlister : transports ⟨b, requests.sessionId.value⟩ = some ⟨some lister⟩)
    (hask : ask lister = some result) :
    (b, result) ∈ responsesOf ask
      (SessionManager.borrowTransports ⟨requests.firstHost, requests.sessionId, transports⟩) := by
  have hmem : b ∈ requests.firstHost.backends.keys := requests.first_same.keys_perm.mem_iff.2 hb
  exact mem_responsesOf.2 ⟨hmem, lister, hlister, hask⟩

/-- The second request is routed to the backend that its name was made of. -/
theorem TwoRequests.routeTo_second {virtualHost : VirtualHost} (requests : TwoRequests virtualHost)
    (h : Unambiguous virtualHost.backends.keys) {Client : Type} {transports : Transports Client}
    {b : String} {service : Client} (hb : b ∈ virtualHost.backends.keys)
    (hservice : transports ⟨b, requests.sessionId.value⟩ = some ⟨some service⟩)
    (wrongName : ErrorData) (name : String) :
    routeTo wrongName transports (prefixName b name) requests.second = .ok ⟨b, name, service⟩ :=
  routeTo_eq_ok.2 ⟨requests.secondHost, requests.sessionId, requests.second_valid,
    requests.splitName_second h hb name, hservice⟩

theorem toolsListedAreCalled_of_unambiguous {virtualHost : VirtualHost}
    (h : Unambiguous virtualHost.backends.keys) : ToolsListedAreCalled virtualHost := by
  intro Client Value Manager Ctx _ requests env pluginRuntime listing calling counter page request
    b lister service result t hb hlister hlist ht hservice hname
  have hroute : routeToolCall calling request.name requests.second = .ok ⟨b, t.name, service⟩ := by
    rw [hname]
    exact requests.routeTo_second h hb hservice _ t.name
  refine ⟨⟨_, listWith_result requests.first_valid, ?_⟩, ?_, ?_, ?_⟩
  · exact mem_mergeItems.2 ⟨b, result, requests.mem_responses hb hlister hlist, t, ht, rfl⟩
  · rw [splitToolName_eq_some, hname]
    exact requests.splitName_second h hb t.name
  · intro sent hsent
    obtain ⟨route, hroute', hbackend, hclient, hrequest⟩ := mem_callTool_sent hsent
    obtain rfl : ⟨b, t.name, service⟩ = route := Except.ok.inj (hroute.symm.trans hroute')
    exact ⟨hbackend, hclient, hrequest⟩
  · rintro rfl
    show (callTool env none calling counter request requests.second).sent ≠ []
    rw [callTool_eq, hroute]
    exact callToolRouted_sent_of_none env calling request b t.name service counter

theorem resourcesListedAreRead_of_unambiguous {virtualHost : VirtualHost}
    (h : Unambiguous virtualHost.backends.keys) : ResourcesListedAreRead virtualHost := by
  intro Client Value requests backends listing reading page request b lister service result r hb
    hlister hlist hr hservice huri
  have hroute : routeResource reading request.uri requests.second = .ok ⟨b, r.uri, service⟩ := by
    rw [huri]
    exact requests.routeTo_second h hb hservice _ r.uri
  refine ⟨⟨_, listWith_result requests.first_valid, ?_⟩, ?_, ?_⟩
  · exact mem_mergeItems.2 ⟨b, result, requests.mem_responses hb hlister hlist, r, hr, rfl⟩
  · rw [splitResourceName_eq_some, huri]
    exact requests.splitName_second h hb r.uri
  · show (readResource backends reading request requests.second).sent = _
    rw [readResource_eq, hroute]

/-! ### Ambiguous names -/

namespace ListedIsCalled.Sample

/-- A context for one virtual host. -/
def context (virtualHost : VirtualHost) : RequestContext where
  parts := some
    { virtualHostId := some ⟨"host"⟩
      sessionId := some ⟨"session"⟩
      claims := none
      userConfig := some ⟨⟨[("host", virtualHost)], by simp⟩⟩ }
  downstreamSessionId := none

theorem context_valid (virtualHost : VirtualHost) :
    AuthorizedCallValidator.validate (context virtualHost) = .ok (virtualHost, ⟨"session"⟩) := by
  simp [AuthorizedCallValidator.validate, validateWith, context, KeyedList.get]

/-- Backends that all have one tool. -/
def env : ToolCallEnv Unit Unit Unit Unit where
  backends :=
    { listTools := fun _ _ => some ⟨none, none, [⟨"increment", ()⟩]⟩
      callTool := fun _ _ => none
      listResources := fun _ _ => none
      readResource := fun _ _ => none }
  api :=
    { null := ()
      asStr := fun _ => none
      display := fun _ => "null"
      toValue := fun _ => none
      fromValue := fun _ => none
      contentText := fun _ => ()
      getTextContent := fun _ => "" }
  invoke := fun _ => ⟨false, none, none, ()⟩

/-- All backends of all sessions are connected. -/
def connected : Transports Unit := fun _ => some ⟨some ()⟩

end ListedIsCalled.Sample

open ListedIsCalled.Sample in
/-- If `m` begins with `n` and a hyphen, and the call tries `n` first, the tools of `m` are taken to
be tools of `n`. -/
theorem unambiguous_of_toolsListedAreCalled {virtualHost : VirtualHost}
    (h : ToolsListedAreCalled virtualHost) : Unambiguous virtualHost.backends.keys := by
  intro n hn m hm hne
  rw [← Bool.not_eq_true]
  intro hstarts
  obtain ⟨backends, names, hsame, hkeys⟩ := KeyedList.exists_same_head virtualHost.backends hn
  let requests : TwoRequests virtualHost :=
    { sessionId := ⟨"session"⟩
      firstHost := virtualHost
      secondHost := ⟨backends⟩
      first_same := KeyedList.Same.refl _
      second_same := hsame
      first := context virtualHost
      second := context ⟨backends⟩
      first_valid := context_valid virtualHost
      second_valid := context_valid ⟨backends⟩ }
  obtain ⟨-, hsplit, -⟩ := h Unit Unit Unit Unit requests env none connected connected 1 none
    ⟨prefixName m "increment", none, none, none⟩ m () () _ ⟨"increment", ()⟩ hm rfl rfl
    (List.mem_singleton_self _) rfl rfl
  -- the listed name of a tool of `m` begins with `n` and a hyphen as well
  have hfirst : Text.startsWith (prefixName m "increment") (n ++ "-") = true := by
    rw [startsWith_word, prefixName_toList]
    refine (startsWith_word.1 hstarts).trans ?_
    unfold backendWord
    rw [String.toList_append, List.append_assoc]
    exact List.prefix_append _ _
  have hname : ∃ rest, splitName (prefixName m "increment") backends.keys = some (n, rest) := by
    rw [hkeys, splitName, dif_pos hfirst]
    exact ⟨_, rfl⟩
  obtain ⟨rest, hrest⟩ := hname
  rw [splitToolName_eq_some.1 hsplit] at hrest
  exact hne (Prod.mk.inj (Option.some.inj hrest)).1.symm

/-- What is listed is what is called exactly if the backend names are unambiguous. -/
theorem listedIsCalled_iff (virtualHost : VirtualHost) :
    ListedIsCalled virtualHost ↔ Unambiguous virtualHost.backends.keys := by
  constructor
  · rintro ⟨htools, -⟩
    exact unambiguous_of_toolsListedAreCalled htools
  · intro h
    exact ⟨toolsListedAreCalled_of_unambiguous h, resourcesListedAreRead_of_unambiguous h⟩

namespace ListedIsCalled.Sample

/-- A backend at some address. -/
def backend : BackendMCPGateway where
  name := "counter"
  url := ⟨"http://127.0.0.1:5555/mcp", "http", some "127.0.0.1", some 5555⟩
  transport := .streamableHttp
  passthroughHeaders := []
  allowedToolNames := []
  allowedResourceNames := []
  allowedPromptNames := []

/-- One backend name begins with the other one and a hyphen. -/
def hyphenated : VirtualHost := ⟨⟨[("counter", backend), ("counter-one", backend)], by decide⟩⟩

end ListedIsCalled.Sample

open ListedIsCalled.Sample in
/-- The tool `increment` of `counter-one` is listed as `counter-one-increment`, which is taken for a
tool of `counter`. -/
theorem hyphenated_not_listedIsCalled :
    splitToolName (prefixTool "counter-one" (⟨"increment", ()⟩ : Tool Unit)).name
        hyphenated.backends.keys = some ⟨"counter", "one-increment"⟩ ∧
      ¬ ListedIsCalled hyphenated :=
  ⟨by decide, fun h => absurd (unambiguous_of_toolsListedAreCalled h.1) (by decide)⟩

end ContextForge
