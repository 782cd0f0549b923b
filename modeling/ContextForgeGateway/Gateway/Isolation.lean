import ContextForgeGateway.Gateway.Service

/-!
# Whose connection serves a request

A request names its session, its user's configuration and its virtual host independently of each
other, and nothing ties a session to the user or the virtual host that it was initialized for: the
transport map has keys of a backend name and a session id.

`forwarded_opened` says over which connection a request is forwarded: the one that the last finished
`initialize` of its session, among those whose virtual host has a backend of that name, opened to
the url configured there. So the request is `Isolated` exactly when that call carried the same
user's configuration and the same virtual host id. `sharedSession_not_isolated` is a run in which it
did not.
-/

namespace ContextForge

namespace Service

/-- The two contexts carry the same user's configuration and the same virtual host id. -/
def SameTenant (a b : RequestContext) : Prop :=
  a.parts.bind Extensions.userConfig = b.parts.bind Extensions.userConfig ∧
    a.parts.bind Extensions.virtualHostId = b.parts.bind Extensions.virtualHostId

instance (a b : RequestContext) : Decidable (SameTenant a b) :=
  inferInstanceAs (Decidable (_ ∧ _))

/-- The connection was opened by an `initialize` in the session of the request, to the url which the
virtual host of that `initialize` configured for the backend. -/
def OpenedInSession (f : Forwarded) : Prop :=
  ∃ virtualHost sessionId openedHost downstreamSessionId backend,
    AuthorizedCallValidator.validate f.ctx = .ok (virtualHost, sessionId) ∧
    InitializeCallValidator.validate f.connection.ctx = .ok (openedHost, downstreamSessionId) ∧
    downstreamSessionId.sessionId = sessionId.value ∧
    f.backendName ∈ virtualHost.backends.keys ∧
    openedHost.backends.get f.backendName = some backend ∧
    f.connection.config = transportConfig backend.url

/-- The request is forwarded over a connection that was opened in its session, for its user's
configuration and its virtual host. -/
def Isolated (f : Forwarded) : Prop :=
  OpenedInSession f ∧ SameTenant f.connection.ctx f.ctx

/-- The connection is that of the last finished `initialize` of the request's session whose virtual
host has a backend of that name. -/
def OpenedByLast (finished : List InitializeCall) (f : Forwarded) : Prop :=
  ∃ virtualHost sessionId call,
    AuthorizedCallValidator.validate f.ctx = .ok (virtualHost, sessionId) ∧
    lastCovering finished ⟨f.backendName, sessionId.value⟩ = some call ∧
    (f.backendName, some f.connection) ∈ call.initialization.services ∧
    f.connection.openedBy = call.number ∧ f.connection.ctx = call.ctx

variable {Value Manager Ctx : Type} [DecidableEq Value]

/-- What the map holds under a key when it holds a connection. -/
theorem History.openedByLast {σ : State} (h : History σ) {f : Forwarded}
    (hf : Borrowable σ.transports f.ctx f.backendName f.connection) :
    OpenedByLast σ.finished f ∧ OpenedInSession f := by
  obtain ⟨virtualHost, sessionId, hvalid, hname, hget⟩ := hf
  have hkey := h ⟨f.backendName, sessionId.value⟩
  cases hlast : lastCovering σ.finished ⟨f.backendName, sessionId.value⟩ with
  | none =>
    rw [hlast, hget] at hkey
    cases hkey
  | some call =>
    rw [hlast, hget] at hkey
    obtain ⟨service, hservice, heq⟩ := hkey
    obtain rfl : some f.connection = service :=
      congrArg BackendTransportService.service (Option.some.inj heq)
    obtain ⟨backend, hbackend, hopened⟩ := InitializeCall.of_mem_services hservice
    have hconnection := hopened f.connection rfl
    have hcovers := List.find?_some hlast
    obtain ⟨hsession, -⟩ := InitializeCall.covers_iff.1 hcovers
    have hctx : f.connection.ctx = call.ctx := by rw [hconnection]
    refine ⟨⟨virtualHost, sessionId, call, hvalid, hlast, hservice, by rw [hconnection], hctx⟩, ?_⟩
    refine ⟨virtualHost, sessionId, call.virtualHost, call.initialization.downstreamSessionId,
      backend, hvalid, ?_, hsession, hname, KeyedList.get_eq_some.2 hbackend, by rw [hconnection]⟩
    rw [hctx]
    exact call.validated

/-- In every run, every request is forwarded over the connection that the last finished
`initialize` of its session opened for a backend of that name, to the url configured there; it is
isolated exactly if that call carried its user's configuration and its virtual host id. -/
theorem forwarded_opened (toolCallId : UInt64) (es : List (Event Value Manager Ctx))
    (e : Event Value Manager Ctx) {f : Forwarded}
    (h : f ∈ forwarded (Runs.run next (State.new toolCallId) es) e) :
    OpenedByLast (Runs.run next (State.new toolCallId) es).finished f ∧ OpenedInSession f ∧
      (Isolated f ↔ SameTenant f.connection.ctx f.ctx) := by
  obtain ⟨hlast, hopened⟩ := (history_run toolCallId es).openedByLast (borrowable_of_forwarded h)
  exact ⟨hlast, hopened, ⟨fun hf => hf.2, fun hf => ⟨hopened, hf⟩⟩⟩

/-! ### Two tenants in one session -/

namespace SharedSession

/-- A backend at the address `url`. -/
def backend (url : String) : BackendMCPGateway where
  name := "counter"
  url := ⟨url, "http", some url, none⟩
  transport := .streamableHttp
  passthroughHeaders := []
  allowedToolNames := []
  allowedResourceNames := []
  allowedPromptNames := []

/-- A configuration with one virtual host, which has one backend. -/
def config (virtualHostId url : String) : UserConfig :=
  ⟨⟨[(virtualHostId, ⟨⟨[("counter", backend url)], List.nodup_singleton _⟩⟩)],
    List.nodup_singleton _⟩⟩

/-- A request for that virtual host in the session `s`. -/
def context (virtualHostId url : String) : RequestContext where
  parts := some
    { virtualHostId := some ⟨virtualHostId⟩
      sessionId := some ⟨"s"⟩
      claims := none
      userConfig := some (config virtualHostId url) }
  downstreamSessionId := some ⟨"s"⟩

def backends : BackendApi Connection Unit where
  listTools := fun _ _ => none
  callTool := fun _ _ => none
  listResources := fun _ _ => none
  readResource := fun _ _ => none

/-- Alice initializes the session `s` for her virtual host. -/
def initialized : List (Event Unit Unit Unit) :=
  [.connect (fun _ => .ok none) (fun _ => true) (context "alice" "http://a"), .insert 0]

/-- A request in the session `s`. -/
def request (virtualHostId url : String) : Event Unit Unit Unit :=
  .listTools backends none (context virtualHostId url)

/-- Where a request in the session `s` goes after that. -/
def overAlices (virtualHostId url : String) : Forwarded where
  ctx := context virtualHostId url
  backendName := "counter"
  connection :=
    { openedBy := 0
      ctx := context "alice" "http://a"
      backendName := "counter"
      config := ⟨"http://a", []⟩ }

theorem context_valid (virtualHostId url : String) :
    AuthorizedCallValidator.validate (context virtualHostId url) =
      .ok (⟨⟨[("counter", backend url)], List.nodup_singleton _⟩⟩, ⟨"s"⟩) := by
  simp [AuthorizedCallValidator.validate, validateWith, context, config, KeyedList.get]

/-- Whoever sends a request in the session `s` is served over Alice's connection. -/
theorem forwarded_request (virtualHostId url : String) :
    overAlices virtualHostId url ∈
      forwarded (Runs.run next (State.new 1) initialized) (request virtualHostId url) := by
  have hsent : (listTools backends (Runs.run next (State.new 1) initialized).transports none
      (context virtualHostId url)).sent =
        [⟨"counter", (overAlices virtualHostId url).connection, none⟩] := by
    unfold listTools listWith
    rw [context_valid]
    rfl
  show _ ∈ forwardedOf _ _
  rw [hsent]
  exact List.mem_singleton_self _

end SharedSession

open SharedSession

theorem initialized_forwarded_opened :
    OpenedByLast (Runs.run next (State.new 1) initialized).finished
        (overAlices "alice" "http://a") ∧
      OpenedInSession (overAlices "alice" "http://a") ∧
      (Isolated (overAlices "alice" "http://a") ↔
        SameTenant (context "alice" "http://a") (context "alice" "http://a")) :=
  forwarded_opened 1 initialized (request "alice" "http://a") (forwarded_request _ _)

/-- Bob sends a request in Alice's session, for a virtual host of his own whose backend has the same
name, and is served over Alice's connection. -/
theorem sharedSession_not_isolated :
    overAlices "bob" "http://b" ∈
        forwarded (Runs.run next (State.new 1) initialized) (request "bob" "http://b") ∧
      ¬ Isolated (overAlices "bob" "http://b") := by
  refine ⟨forwarded_request _ _, ?_⟩
  rintro ⟨-, hsame⟩
  exact absurd hsame (by decide)

end Service

end ContextForge
