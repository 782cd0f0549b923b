import ContextForgeGateway.Gateway.Service

/-!
# The transport map under interleaving

A request takes the lock of the transport map when it borrows its connections and, if it then finds
two of one backend, once more to clean up. Between the two sections others may take the lock, so here
a request is two steps. `callTool_leaves`, `readResource_leaves` and `listWith_leaves` say that the two
steps in a row leave the map as the handlers do.

`transportMap_history`: whatever is interleaved, the map is the history of the finished `initialize`
calls, it never loses a key, and a request that finds a session whose `initialize` calls had the
backends of its own virtual host borrows one connection of each, all of them from one call. No
request ever cleans up, as a virtual host has each of its backends once.
-/

namespace ContextForge

namespace TransportMap

open Runs

variable {Client Value Manager Ctx : Type}

/-! ### A request in two sections -/

/-- A request, as far as it decides what happens to the transport map. -/
inductive Request
  | list (ctx : RequestContext)
  | callTool (name : String) (ctx : RequestContext)
  | readResource (uri : String) (ctx : RequestContext)

/-- The context of a request. -/
def Request.ctx : Request → RequestContext
  | list ctx => ctx
  | callTool _ ctx => ctx
  | readResource _ ctx => ctx

/-- More than one borrowed connection matches the request; `none` if its name has no backend, and
then nothing is borrowed. -/
def Request.multiple (manager : SessionManager Client) : Request → Option Bool
  | list _ => some false
  | callTool name _ =>
    (splitToolName name manager.getBackendNames).map fun pair =>
      (findTarget pair.backendName manager.borrowTransports none).isNone
  | readResource uri _ =>
    (splitResourceName uri manager.getBackendNames).map fun pair =>
      decide ((manager.borrowTransports.filter fun holder =>
        holder.name = pair.backendName).length > 1)

/-- A request that has borrowed its connections. -/
structure Borrowed (Client : Type) where
  virtualHost : VirtualHost
  sessionId : SessionId
  snapshot : List (ServiceHolder Client)
  multiple : Bool

/-- The first section of a request: `borrow_transports`, unless it has failed before. -/
def borrow (transports : Transports Client) (request : Request) : Option (Borrowed Client) :=
  match AuthorizedCallValidator.validate request.ctx with
  | .error _ => none
  | .ok (virtualHost, sessionId) =>
    let manager : SessionManager Client := ⟨virtualHost, sessionId, transports⟩
    (request.multiple manager).map fun multiple =>
      ⟨virtualHost, sessionId, manager.borrowTransports, multiple⟩

/-- The second section of a request: `cleanup_backends` on what the map is by then, if more than one
connection has matched. -/
def Borrowed.leave (borrowed : Borrowed Client) (transports : Transports Client) :
    Transports Client :=
  if borrowed.multiple then
    SessionManager.cleanupBackends ⟨borrowed.virtualHost, borrowed.sessionId, transports⟩
  else transports

/-- Both sections in a row. -/
def leaves (transports : Transports Client) (request : Request) : Transports Client :=
  match borrow transports request with
  | none => transports
  | some borrowed => borrowed.leave transports

theorem callTool_leaves [DecidableEq Value] (env : ToolCallEnv Client Value Manager Ctx)
    (pluginRuntime : Option (RuntimeState Manager)) (transports : Transports Client)
    (counter : UInt64) (request : CallToolRequestParams Value) (ctx : RequestContext) :
    (callTool env pluginRuntime transports counter request ctx).transports =
      leaves transports (.callTool request.name ctx) := by
  unfold ContextForge.callTool leaves borrow
  simp only [Request.ctx]
  cases AuthorizedCallValidator.validate ctx with
  | error e => rfl
  | ok validated =>
    obtain ⟨virtualHost, sessionId⟩ := validated
    simp only [Request.multiple]
    cases splitToolName request.name
        (SessionManager.getBackendNames ⟨virtualHost, sessionId, transports⟩) with
    | none => rfl
    | some pair =>
      simp only [Option.map_some]
      cases findTarget pair.backendName
          (SessionManager.borrowTransports ⟨virtualHost, sessionId, transports⟩) none with
      | none => rfl
      | some targetService =>
        cases targetService with
        | none => rfl
        | some targetService =>
          obtain ⟨name, runningService⟩ := targetService
          cases runningService with
          | none => rfl
          | some service => exact callToolRouted_transports _ _ _ _ _ _ _ _

theorem readResource_leaves (backends : BackendApi Client Value) (transports : Transports Client)
    (request : ReadResourceRequestParams Value) (ctx : RequestContext) :
    (readResource backends transports request ctx).transports =
      leaves transports (.readResource request.uri ctx) := by
  unfold ContextForge.readResource leaves borrow
  simp only [Request.ctx]
  cases AuthorizedCallValidator.validate ctx with
  | error e => rfl
  | ok validated =>
    obtain ⟨virtualHost, sessionId⟩ := validated
    simp only [Request.multiple]
    cases splitResourceName request.uri
        (SessionManager.getBackendNames ⟨virtualHost, sessionId, transports⟩) with
    | none => rfl
    | some pair =>
      simp only [Option.map_some, Borrowed.leave, decide_eq_true_eq]
      split <;> rfl

theorem listWith_leaves {Params Listing Result : Type} (ask : Client → Option Listing)
    (params : Params) (merge : List (String × Listing) → Result) (transports : Transports Client)
    (ctx : RequestContext) :
    (listWith ask params merge transports ctx).transports = leaves transports (.list ctx) := by
  unfold listWith leaves borrow
  simp only [Request.ctx]
  cases AuthorizedCallValidator.validate ctx <;> rfl

/-- The holders of one backend in a snapshot are one at most. -/
theorem length_filter_borrowTransports_le (manager : SessionManager Client) {name : String}
    (hname : name ∈ manager.getBackendNames) :
    (manager.borrowTransports.filter fun holder => holder.name = name).length ≤ 1 := by
  rw [SessionManager.filter_borrowTransports manager hname]
  cases manager.transports (manager.key name) with
  | none => exact Nat.zero_le 1
  | some service => exact le_refl 1

/-- No request finds two connections of one backend. -/
theorem multiple_ne_true (request : Request) (manager : SessionManager Client) :
    request.multiple manager ≠ some true := by
  intro h
  cases request with
  | list ctx => cases h
  | callTool name ctx =>
    obtain ⟨pair, hpair, hnone⟩ := Option.map_eq_some_iff.1 h
    have hname : pair.backendName ∈ manager.getBackendNames :=
      (splitName_eq_some (splitToolName_eq_some.1 hpair)).1
    have hfind := findTarget_eq (SessionManager.filter_borrowTransports manager hname)
    rw [hfind] at hnone
    cases hnone
  | readResource uri ctx =>
    obtain ⟨pair, hpair, hmany⟩ := Option.map_eq_some_iff.1 h
    have hname : pair.backendName ∈ manager.getBackendNames :=
      (splitName_eq_some (splitResourceName_eq_some.1 hpair)).1
    have hone := length_filter_borrowTransports_le manager hname
    have hlt := of_decide_eq_true hmany
    omega

/-- Everything that is known of a request that has borrowed. -/
theorem borrow_eq_some {transports : Transports Client} {request : Request}
    {borrowed : Borrowed Client} (h : borrow transports request = some borrowed) :
    AuthorizedCallValidator.validate request.ctx =
        .ok (borrowed.virtualHost, borrowed.sessionId) ∧
      borrowed.snapshot = SessionManager.borrowTransports
        ⟨borrowed.virtualHost, borrowed.sessionId, transports⟩ ∧
      borrowed.multiple = false := by
  unfold borrow at h
  cases hvalid : AuthorizedCallValidator.validate request.ctx with
  | error e =>
    rw [hvalid] at h
    cases h
  | ok validated =>
    obtain ⟨virtualHost, sessionId⟩ := validated
    rw [hvalid] at h
    obtain ⟨multiple, hmultiple, rfl⟩ := Option.map_eq_some_iff.1 h
    refine ⟨rfl, rfl, ?_⟩
    cases multiple with
    | false => rfl
    | true => exact absurd hmultiple (multiple_ne_true request _)

/-! ### The system -/

/-- The service, and the requests that are between their two sections. -/
structure System where
  service : Service.State
  inFlight : ℕ → Option (Borrowed Service.Connection)

/-- A service before any request. -/
def System.new (toolCallId : UInt64) : System := ⟨Service.State.new toolCallId, fun _ => none⟩

/-- What can happen: the two halves of an `initialize`, and the two sections of a request. -/
inductive Event
  | connect (getSession : UserSession → Except SessionStoreError (Option SessionMapping))
      (accepts : String → Bool) (ctx : RequestContext)
  | insert (number : ℕ)
  | borrow (i : ℕ) (request : Request)
  | finish (i : ℕ)

/-- One step. -/
def next (σ : System) : Event → System
  | .connect getSession accepts ctx =>
    { σ with service := Service.connect σ.service getSession accepts ctx }
  | .insert number => { σ with service := Service.insert σ.service number }
  | .borrow i request =>
    match σ.inFlight i with
    | some _ => σ
    | none =>
      { σ with inFlight := Function.update σ.inFlight i (borrow σ.service.transports request) }
  | .finish i =>
    match σ.inFlight i with
    | none => σ
    | some borrowed =>
      { service := { σ.service with transports := borrowed.leave σ.service.transports }
        inFlight := Function.update σ.inFlight i none }

/-- A request whose sections nothing interrupts leaves the map as its handler does. -/
theorem finish_borrow {σ : System} {i : ℕ} (hi : σ.inFlight i = none) (request : Request) :
    (next (next σ (.borrow i request)) (.finish i)).service.transports =
      leaves σ.service.transports request := by
  unfold leaves
  cases hborrow : borrow σ.service.transports request with
  | none => simp [next, hi, hborrow]
  | some borrowed => simp [next, hi, hborrow]

/-- No request in flight has found two connections of one backend. -/
def NoneMultiple (σ : System) : Prop :=
  ∀ i borrowed, σ.inFlight i = some borrowed → borrowed.multiple = false

theorem noneMultiple_new (toolCallId : UInt64) : NoneMultiple (System.new toolCallId) := by
  intro i borrowed h
  cases h

/-- A request that is in flight was in flight before, or has just borrowed. -/
theorem inFlight_next {σ : System} {e : Event} {i : ℕ} {borrowed : Borrowed Service.Connection}
    (h : (next σ e).inFlight i = some borrowed) :
    σ.inFlight i = some borrowed ∨
      ∃ request, borrow σ.service.transports request = some borrowed := by
  cases e with
  | connect getSession accepts ctx => exact Or.inl h
  | insert number => exact Or.inl h
  | borrow j request =>
    cases hj : σ.inFlight j with
    | some other =>
      simp only [next, hj] at h
      exact Or.inl h
    | none =>
      simp only [next, hj] at h
      by_cases hij : i = j
      · rw [hij, Function.update_self] at h
        exact Or.inr ⟨request, h⟩
      · rw [Function.update_of_ne hij] at h
        exact Or.inl h
  | finish j =>
    cases hj : σ.inFlight j with
    | none =>
      simp only [next, hj] at h
      exact Or.inl h
    | some other =>
      simp only [next, hj] at h
      by_cases hij : i = j
      · rw [hij, Function.update_self] at h
        cases h
      · rw [Function.update_of_ne hij] at h
        exact Or.inl h

theorem NoneMultiple.next {σ : System} (h : NoneMultiple σ) (e : Event) :
    NoneMultiple (next σ e) := by
  intro i borrowed hi
  rcases inFlight_next hi with hbefore | ⟨request, hborrow⟩
  · exact h i borrowed hbefore
  · exact (borrow_eq_some hborrow).2.2

/-- So the map is only ever changed by the locked section of an `initialize`. -/
theorem NoneMultiple.service_next {σ : System} (h : NoneMultiple σ) (e : Event) :
    (TransportMap.next σ e).service = σ.service ∨
    (∃ getSession accepts ctx,
      (TransportMap.next σ e).service = Service.connect σ.service getSession accepts ctx) ∨
    ∃ number, (TransportMap.next σ e).service = Service.insert σ.service number := by
  cases e with
  | connect getSession accepts ctx => exact Or.inr (Or.inl ⟨getSession, accepts, ctx, rfl⟩)
  | insert number => exact Or.inr (Or.inr ⟨number, rfl⟩)
  | borrow i request =>
    apply Or.inl
    cases hi : σ.inFlight i <;> simp [TransportMap.next, hi]
  | finish i =>
    apply Or.inl
    cases hi : σ.inFlight i with
    | none => simp [TransportMap.next, hi]
    | some borrowed =>
      have hmultiple : borrowed.multiple = false := h i borrowed hi
      simp [TransportMap.next, hi, Borrowed.leave, hmultiple]

/-! ### The history -/

theorem history_next {σ : System} (hmultiple : NoneMultiple σ) (h : Service.History σ.service)
    (e : Event) : Service.History (next σ e).service := by
  rcases hmultiple.service_next e with
    hsame | ⟨getSession, accepts, ctx, hconnect⟩ | ⟨number, hinsert⟩
  · rw [hsame]
    exact h
  · rw [hconnect]
    exact h.connect getSession accepts ctx
  · rw [hinsert]
    exact h.insert number

theorem invariant_run (toolCallId : UInt64) (es : List Event) :
    NoneMultiple (run next (System.new toolCallId) es) ∧
      Service.History (run next (System.new toolCallId) es).service := by
  have hstep : ∀ (σ : System) (e : Event), NoneMultiple σ ∧ Service.History σ.service →
      NoneMultiple (next σ e) ∧ Service.History (next σ e).service := by
    intro σ e h
    exact ⟨h.1.next e, history_next h.1 h.2 e⟩
  exact run_invariant hstep ⟨noneMultiple_new toolCallId, Service.history_new toolCallId⟩ es

/-- A key is in the map exactly if a finished `initialize` call covers it. -/
theorem transports_ne_none {σ : Service.State} (h : Service.History σ) (key : BackendTransportKey) :
    σ.transports key ≠ none ↔ ∃ call ∈ σ.finished, call.covers key = true := by
  have hkey := h key
  cases hlast : Service.lastCovering σ.finished key with
  | none =>
    rw [hlast] at hkey
    have hnone : ∀ call ∈ σ.finished, ¬ call.covers key = true := List.find?_eq_none.1 hlast
    constructor
    · intro hne
      exact absurd hkey hne
    · rintro ⟨call, hcall, hcovers⟩
      exact absurd hcovers (hnone call hcall)
  | some call =>
    rw [hlast] at hkey
    obtain ⟨service, -, hget⟩ := hkey
    have hfind : σ.finished.find? (fun call => call.covers key) = some call := hlast
    have hcovers := List.find?_some hfind
    constructor
    · intro _
      exact ⟨call, List.mem_of_find?_eq_some hfind, hcovers⟩
    · intro _
      rw [hget]
      exact Option.some_ne_none _

/-- No step removes a key. -/
theorem keeps_next {σ : System} (h : NoneMultiple σ) (key : BackendTransportKey)
    (hkey : σ.service.transports key ≠ none) (e : Event) :
    (next σ e).service.transports key ≠ none := by
  rcases h.service_next e with
    hsame | ⟨getSession, accepts, ctx, hconnect⟩ | ⟨number, hinsert⟩
  · rw [hsame]
    exact hkey
  · rw [hconnect]
    unfold Service.connect
    split <;> exact hkey
  · rw [hinsert]
    unfold Service.insert
    cases σ.service.connected number with
    | none => exact hkey
    | some call =>
      show call.initialization.insertTransports σ.service.transports key ≠ none
      rcases insertTransports_cases call.initialization σ.service.transports key with
        ⟨-, heq⟩ | ⟨entry, -, -, heq⟩
      · rw [heq]
        exact hkey
      · rw [heq]
        exact Option.some_ne_none _

theorem keeps_run {σ : System} (h : NoneMultiple σ) (key : BackendTransportKey)
    (hkey : σ.service.transports key ≠ none) (es : List Event) :
    (run next σ es).service.transports key ≠ none := by
  have hstep : ∀ (τ : System) (e : Event),
      NoneMultiple τ ∧ τ.service.transports key ≠ none →
      NoneMultiple (next τ e) ∧ (next τ e).service.transports key ≠ none := by
    intro τ e hτ
    exact ⟨hτ.1.next e, keeps_next hτ.1 key hτ.2 e⟩
  exact (run_invariant hstep ⟨h, hkey⟩ es).2

/-! ### Snapshots -/

/-- The session has been initialized, and only for virtual hosts with the same backend names. -/
structure InitializedAlike (finished : List Service.InitializeCall) (virtualHost : VirtualHost)
    (sessionId : SessionId) : Prop where
  once : ∃ call ∈ finished, call.sessionId = sessionId.value
  alike : ∀ call ∈ finished, call.sessionId = sessionId.value →
    ∀ name, name ∈ call.virtualHost.backends.keys ↔ name ∈ virtualHost.backends.keys

/-- The last finished call of such a session is the last one for each of its backends. -/
theorem lastCovering_eq {finished : List Service.InitializeCall} {virtualHost : VirtualHost}
    {sessionId : SessionId} (h : InitializedAlike finished virtualHost sessionId) {name : String}
    (hname : name ∈ virtualHost.backends.keys) :
    Service.lastCovering finished ⟨name, sessionId.value⟩ =
      finished.find? fun call => call.sessionId = sessionId.value := by
  have hsame : ∀ call ∈ finished, call.covers ⟨name, sessionId.value⟩ =
      decide (call.sessionId = sessionId.value) := by
    intro call hcall
    by_cases hsession : call.sessionId = sessionId.value
    · rw [decide_eq_true hsession]
      exact Service.InitializeCall.covers_iff.2 ⟨hsession, (h.alike call hcall hsession name).2 hname⟩
    · rw [decide_eq_false hsession, Bool.eq_false_iff]
      intro hcovers
      exact hsession (Service.InitializeCall.covers_iff.1 hcovers).1
  unfold Service.lastCovering
  clear h
  induction finished with
  | nil => rfl
  | cons call finished ih =>
    obtain ⟨hcall, hrest⟩ := List.forall_mem_cons.1 hsame
    rw [List.find?_cons, List.find?_cons, hcall, ih hrest]

/-- What the map has under the backends of such a session are the outcomes of one call. -/
theorem entries_of_alike {σ : Service.State} (h : Service.History σ) {virtualHost : VirtualHost}
    {sessionId : SessionId} (halike : InitializedAlike σ.finished virtualHost sessionId) :
    ∃ call ∈ σ.finished, call.sessionId = sessionId.value ∧
      ∀ name ∈ virtualHost.backends.keys, ∃ service,
        (name, service) ∈ call.initialization.services ∧
        σ.transports ⟨name, sessionId.value⟩ = some ⟨service⟩ := by
  obtain ⟨witness, hwitness, hsession⟩ := halike.once
  -- the last finished call of the session
  obtain ⟨call, hfind⟩ : ∃ call,
      σ.finished.find? (fun call => call.sessionId = sessionId.value) = some call :=
    Option.isSome_iff_exists.1 (List.find?_isSome.2 ⟨witness, hwitness, decide_eq_true hsession⟩)
  have hfound := List.find?_some hfind
  refine ⟨call, List.mem_of_find?_eq_some hfind, of_decide_eq_true hfound, ?_⟩
  intro name hname
  have hkey := h ⟨name, sessionId.value⟩
  rw [lastCovering_eq halike hname, hfind] at hkey
  exact hkey

/-- A snapshot of such a session has one holder for each backend, in their order, and the holders are
the outcomes of one call. -/
theorem snapshot_of_alike {σ : Service.State} (h : Service.History σ) {virtualHost : VirtualHost}
    {sessionId : SessionId} (halike : InitializedAlike σ.finished virtualHost sessionId) :
    let snapshot := SessionManager.borrowTransports ⟨virtualHost, sessionId, σ.transports⟩
    snapshot.map ServiceHolder.name = virtualHost.backends.keys ∧
    ∃ call ∈ σ.finished, call.sessionId = sessionId.value ∧
      ∀ holder ∈ snapshot, (holder.name, holder.runningService) ∈ call.initialization.services := by
  obtain ⟨call, hcall, hsession, hentry⟩ := entries_of_alike h halike
  refine ⟨?_, call, hcall, hsession, ?_⟩
  · unfold SessionManager.borrowTransports
    rw [List.map_filterMap]
    refine (List.filterMap_congr fun name hname => ?_).trans List.filterMap_some
    obtain ⟨service, -, hget⟩ := hentry name hname
    simp [SessionManager.key, hget]
  · intro holder hholder
    obtain ⟨hname, hget⟩ := SessionManager.mem_borrowTransports.1 hholder
    obtain ⟨service, hservice, hget'⟩ := hentry holder.name hname
    have heq : (⟨holder.runningService⟩ : BackendTransportService Service.Connection) =
        ⟨service⟩ := Option.some.inj (hget.symm.trans hget')
    cases heq
    exact hservice

/-! ### The run theorem -/

/-- What the map is to the finished `initialize` calls, and to the requests. -/
structure Reflects (σ : System) : Prop where
  /-- The keys are those of the finished calls. -/
  keys : ∀ key, σ.service.transports key ≠ none ↔
    ∃ call ∈ σ.service.finished, call.covers key = true
  /-- An entry is the outcome of the last finished call that covers its key. -/
  entries : ∀ key call, Service.lastCovering σ.service.finished key = some call →
    ∃ service, (key.backendName, service) ∈ call.initialization.services ∧
      σ.service.transports key = some ⟨service⟩
  /-- What a request borrows in a session whose calls had its backends. -/
  snapshots : ∀ request borrowed, borrow σ.service.transports request = some borrowed →
    InitializedAlike σ.service.finished borrowed.virtualHost borrowed.sessionId →
    borrowed.snapshot.map ServiceHolder.name = borrowed.virtualHost.backends.keys ∧
    ∃ call ∈ σ.service.finished, call.sessionId = borrowed.sessionId.value ∧
      ∀ holder ∈ borrowed.snapshot,
        (holder.name, holder.runningService) ∈ call.initialization.services
  /-- A request in flight does not clean up. -/
  noCleanup : ∀ i borrowed, σ.inFlight i = some borrowed → borrowed.multiple = false

theorem reflects_of_history {σ : System} (hmultiple : NoneMultiple σ)
    (h : Service.History σ.service) : Reflects σ := by
  constructor
  case keys =>
    intro key
    exact transports_ne_none h key
  case entries =>
    intro key call hlast
    have hkey := h key
    rw [hlast] at hkey
    exact hkey
  case snapshots =>
    intro request borrowed hborrow halike
    obtain ⟨-, hsnapshot, -⟩ := borrow_eq_some hborrow
    rw [hsnapshot]
    exact snapshot_of_alike h halike
  case noCleanup => exact hmultiple

/-- The transport map is the history of the `initialize` calls: after every interleaving of them with
requests, it reflects those that have finished, and it still has every key that it ever had. -/
theorem transportMap_history (toolCallId : UInt64) (es : List Event) :
    Reflects (run next (System.new toolCallId) es) ∧
    ∀ es₁ es₂, es = es₁ ++ es₂ → ∀ key,
      (run next (System.new toolCallId) es₁).service.transports key ≠ none →
      (run next (System.new toolCallId) es).service.transports key ≠ none := by
  constructor
  · obtain ⟨hmultiple, hhistory⟩ := invariant_run toolCallId es
    exact reflects_of_history hmultiple hhistory
  · rintro es₁ es₂ rfl key hkey
    rw [run_append]
    exact keeps_run (invariant_run toolCallId es₁).1 key hkey es₂

end TransportMap

end ContextForge
