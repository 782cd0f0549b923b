import ContextForgeGateway.ConfigStore.Provenance
import ContextForgeGateway.Gateway.Isolation
import ContextForgeGateway.Layers.Authentication

/-!
# The gateway from end to end

`run_gateway` puts the layers, the config store and the MCP services into one application. A request
passes the layers up to `user_config_store_layer`, waits there for its `get_config`, whose steps are
interleaved with those of all others, and then a service handles the message in its body. The transport
has `run_gateway` build as many services as it wants, one for every session, and decides which of them
gets a message. Outside the layers `configure_user` writes configs for anybody; others write to the same
Redis; and a token expires as time passes.

`mcpRoute_eq` says that the two halves of a request in a row are `mcpRoute`. `forwarded_attributed` is
about every run: a request that the gateway forwards to a backend came with a valid token, uses a
config that was given for the subject of that token, and goes over a connection of the same service, of
which the same is true.
-/

namespace ContextForge

/-- What happens next to a request that a layer hands on. -/
def Outcome.bind {Body : Type} (outcome : Outcome Body) (next : HttpRequest Body → Outcome Body) :
    Outcome Body :=
  match outcome with
  | .panicked => .panicked
  | .response r => .response r
  | .invoked request => next request

namespace Application

section

variable {Body RsKey HmacKey : Type}

/-- The layers that a request passes before `user_config_store_layer`. -/
def frontLayers (jwt : Jwt RsKey HmacKey) (keys : JwtTokenDecoders RsKey HmacKey) :
    HttpRequest Body → Outcome Body :=
  virtualHostIdLayer (sessionIdLayer (claimsLayer jwt keys .invoked))

theorem virtualHostIdLayer_eq (next : HttpRequest Body → Outcome Body) (request : HttpRequest Body) :
    virtualHostIdLayer next request = (virtualHostIdLayer .invoked request).bind next := by
  unfold virtualHostIdLayer
  split <;> rfl

theorem sessionIdLayer_eq_bind (next : HttpRequest Body → Outcome Body)
    (request : HttpRequest Body) :
    sessionIdLayer next request = (sessionIdLayer .invoked request).bind next := by
  unfold sessionIdLayer
  split <;> rfl

theorem claimsLayer_eq (jwt : Jwt RsKey HmacKey) (keys : JwtTokenDecoders RsKey HmacKey)
    (next : HttpRequest Body → Outcome Body) (request : HttpRequest Body) :
    claimsLayer jwt keys next request = (claimsLayer jwt keys .invoked request).bind next := by
  unfold claimsLayer
  repeat' split
  all_goals rfl

theorem Outcome.bind_assoc (outcome : Outcome Body) (f g : HttpRequest Body → Outcome Body) :
    (outcome.bind f).bind g = outcome.bind fun request => (f request).bind g := by
  cases outcome <;> rfl

/-- The two halves of a request in a row are the stack of the layers. -/
theorem mcpRoute_eq (jwt : Jwt RsKey HmacKey) (keys : JwtTokenDecoders RsKey HmacKey)
    (getConfig : User → Except ConfigStoreError UserConfig) (request : HttpRequest Body) :
    mcpRoute jwt keys getConfig request =
      (frontLayers jwt keys request).bind (userConfigStoreLayer getConfig .invoked) := by
  have hsession : ∀ next : HttpRequest Body → Outcome Body,
      sessionIdLayer next = fun r => (sessionIdLayer .invoked r).bind next :=
    fun next => funext fun r => sessionIdLayer_eq_bind next r
  have hclaims : ∀ next : HttpRequest Body → Outcome Body,
      claimsLayer jwt keys next = fun r => (claimsLayer jwt keys .invoked r).bind next :=
    fun next => funext fun r => claimsLayer_eq jwt keys next r
  unfold mcpRoute frontLayers
  rw [virtualHostIdLayer_eq, hsession, hclaims (userConfigStoreLayer getConfig .invoked),
    virtualHostIdLayer_eq (sessionIdLayer _), hsession (claimsLayer jwt keys .invoked),
    Outcome.bind_assoc]
  congr 1
  funext r
  exact (Outcome.bind_assoc _ _ _).symm

/-- What the layers before `user_config_store_layer` hand on. -/
theorem frontLayers_invoked {jwt : Jwt RsKey HmacKey} {keys : JwtTokenDecoders RsKey HmacKey}
    {request handedOn : HttpRequest Body} (h : frontLayers jwt keys request = .invoked handedOn) :
    ∃ claims id sessionId, Verified jwt keys request claims ∧
      request.path = "/servers/" ++ VirtualHostId.value id ++ "/mcp" ∧
      handedOn = { request with extensions :=
        ⟨some id, sessionId, some claims, request.extensions.userConfig⟩ } := by
  unfold frontLayers at h
  have hrefused : ∀ {outcome : Outcome Body}, Refused outcome → outcome ≠ .invoked handedOn := by
    rintro _ ⟨response, rfl, -⟩
    exact nofun
  rcases virtualHostIdLayer_cases (sessionIdLayer (claimsLayer jwt keys .invoked)) request with
    ⟨-, hp⟩ | hr | ⟨id, hpath, hv⟩
  · rw [hp] at h
    cases h
  · exact absurd h (hrefused hr)
  obtain ⟨sessionId, hs⟩ := sessionIdLayer_eq (claimsLayer jwt keys .invoked) { request with
      extensions := { request.extensions with virtualHostId := some id } }
  rcases claimsLayer_cases jwt keys .invoked { request with
      extensions := { request.extensions with virtualHostId := some id, sessionId } } with
    hr | ⟨claims, hverified, hc⟩
  · rw [hv, hs] at h
    exact absurd h (hrefused hr)
  rw [hv, hs, hc] at h
  cases h
  exact ⟨claims, id, sessionId, hverified, hpath, rfl⟩

end

open RedisUserConfigStore (System Call Provided)
open Runs

/-- A message in the body of a request, with what others decide about it. -/
inductive Message (Value Manager Ctx : Type)
  | connect (getSession : UserSession → Except SessionStoreError (Option SessionMapping))
      (accepts : String → Bool)
  | listTools (backends : BackendApi Service.Connection Value)
      (request : Option (PaginatedRequestParams Value))
  | listResources (backends : BackendApi Service.Connection Value)
      (request : Option (PaginatedRequestParams Value))
  | callTool (env : ToolCallEnv Service.Connection Value Manager Ctx)
      (pluginRuntime : Option (RuntimeState Manager)) (request : CallToolRequestParams Value)
  | readResource (backends : BackendApi Service.Connection Value)
      (request : ReadResourceRequestParams Value)

/-- The message in its context. -/
def Message.event {Value Manager Ctx : Type} (ctx : RequestContext) :
    Message Value Manager Ctx → Service.Event Value Manager Ctx
  | .connect getSession accepts => .connect getSession accepts ctx
  | .listTools backends request => .listTools backends request ctx
  | .listResources backends request => .listResources backends request ctx
  | .callTool env pluginRuntime request => .callTool env pluginRuntime request ctx
  | .readResource backends request => .readResource backends request ctx

/-- A request in `user_config_store_layer`: as it arrived, when, and as it was handed on. -/
structure Arrival (Body : Type) where
  arrived : HttpRequest Body
  time : ℕ
  handedOn : HttpRequest Body

/-- A request with which a service was invoked: the number of the service, and the session id that the
transport made. -/
structure Served (Body : Type) extends Arrival Body where
  invoked : HttpRequest Body
  service : ℕ
  downstreamSessionId : Option DownstreamSessionId

/-- The context in which the handlers see the request. -/
def Served.ctx {Body : Type} (s : Served Body) : RequestContext :=
  ⟨some s.invoked.extensions, s.downstreamSessionId⟩

/-- The config store with its calls, the requests that wait for one of these, the requests that were
served, the services, and the counter of tool calls, which is one for all. -/
structure State (Body : Type) where
  system : System UserConfig
  waiting : ℕ → Option (Arrival Body)
  served : List (Served Body)
  services : ℕ → Service.State
  toolCallId : UInt64

/-- What can happen next. -/
inductive Event (Body Value Manager Ctx : Type)
  | receive (i : ℕ) (request : HttpRequest Body)
  | serve (i n : ℕ) (message : Message Value Manager Ctx)
      (downstreamSessionId : Option DownstreamSessionId)
  | insert (n number : ℕ)
  | configure (i : ℕ) (userId : String) (config : UserConfig)
  | storeStep (i : ℕ) (ok : Bool)
  | wait (d : ℕ)
  | evict (key : String)
  | foreignWrite (key : Bytes) (value : Option Bytes)

section

variable {Body Value Manager Ctx RsKey HmacKey : Type}

/-- The gateway has started, on a Redis that holds `redis`. -/
def State.new (redis : Bytes → Option Bytes) (toolCallId : UInt64) : State Body :=
  ⟨System.new redis, fun _ => none, [], fun _ => Service.State.new toolCallId, toolCallId⟩

/-- Service `n`, as a message finds it. -/
def State.service (σ : State Body) (n : ℕ) : Service.State :=
  { σ.services n with toolCallId := σ.toolCallId }

/-- Service `n` has become `τ`. -/
def State.setService (σ : State Body) (n : ℕ) (τ : Service.State) : State Body :=
  { σ with services := Function.update σ.services n τ, toolCallId := τ.toolCallId }

/-- What becomes of request `i`, once its `get_config` has returned. -/
def State.outcome (σ : State Body) (i : ℕ) : Option (Arrival Body × Outcome Body) :=
  match σ.waiting i, σ.system.calls i with
  | some arrival, some (.getDone _ r) =>
    some (arrival, userConfigStoreLayer (fun _ => r) .invoked arrival.handedOn)
  | _, _ => none

variable (codec : Codec UserConfig) (jwt : ℕ → Jwt RsKey HmacKey)
  (keys : JwtTokenDecoders RsKey HmacKey)

/-- The layers hand on a request that has arrived, and its `get_config` begins. -/
def receive (σ : State Body) (i : ℕ) (request : HttpRequest Body) : State Body :=
  match σ.system.calls i, frontLayers (jwt σ.system.store.now) keys request with
  | none, .invoked handedOn =>
    match handedOn.extensions.claims with
    | some claims =>
      { σ with
        system := RedisUserConfigStore.next codec σ.system (.getConfig i (User.new claims.sub))
        waiting := Function.update σ.waiting i (some ⟨request, σ.system.store.now, handedOn⟩) }
    | none => σ
  | _, _ => σ

/-- Service `n` handles the message of a request, if `user_config_store_layer` hands it on. -/
def serve [DecidableEq Value] (σ : State Body) (i n : ℕ) (message : Message Value Manager Ctx)
    (downstreamSessionId : Option DownstreamSessionId) : State Body :=
  match σ.outcome i with
  | some (arrival, .invoked invoked) =>
    let s : Served Body := { arrival with invoked, service := n, downstreamSessionId }
    { σ.setService n (Service.next (σ.service n) (message.event s.ctx)) with
      waiting := Function.update σ.waiting i none
      served := s :: σ.served }
  | some _ => { σ with waiting := Function.update σ.waiting i none }
  | none => σ

/-- A step of the config store. -/
def storeNext (σ : State Body) (e : RedisUserConfigStore.Event UserConfig) : State Body :=
  { σ with system := RedisUserConfigStore.next codec σ.system e }

/-- The next state. -/
def next [DecidableEq Value] (σ : State Body) : Event Body Value Manager Ctx → State Body
  | .receive i request => receive codec jwt keys σ i request
  | .serve i n message downstreamSessionId => serve σ i n message downstreamSessionId
  | .insert n number => σ.setService n (Service.insert (σ.service n) number)
  -- `configure_user`
  | .configure i userId config => storeNext codec σ (.setConfig i (User.new userId) config)
  | .storeStep i ok => storeNext codec σ (.step i ok)
  | .wait d => storeNext codec σ (.wait d)
  | .evict key => storeNext codec σ (.evict key)
  | .foreignWrite key value => { σ with system := σ.system.write key value }

/-- The requests that are forwarded to backends in one step. -/
def forwarded [DecidableEq Value] (σ : State Body) :
    Event Body Value Manager Ctx → List Service.Forwarded
  | .serve i n message downstreamSessionId =>
    match σ.outcome i with
    | some (arrival, .invoked invoked) =>
      Service.forwarded (σ.service n)
        (message.event (Served.ctx { arrival with invoked, service := n, downstreamSessionId }))
    | _ => []
  | _ => []

/-- What a step is for the services: for which of them, and what. -/
def State.serviceEvent (σ : State Body) :
    Event Body Value Manager Ctx → Option (ℕ × Service.Event Value Manager Ctx)
  | .serve i n message downstreamSessionId =>
    match σ.outcome i with
    | some (arrival, .invoked invoked) =>
      some (n, message.event (Served.ctx { arrival with invoked, service := n, downstreamSessionId }))
    | _ => none
  | .insert n number => some (n, .insert number)
  | _ => none

/-- That service takes that step. -/
theorem next_services [DecidableEq Value] (σ : State Body) (e : Event Body Value Manager Ctx) :
    (next codec jwt keys σ e).services =
      match σ.serviceEvent e with
      | none => σ.services
      | some (n, event) => Function.update σ.services n (Service.next (σ.service n) event) := by
  cases e with
  | receive i request =>
    show (receive codec jwt keys σ i request).services = σ.services
    unfold receive
    split
    · split <;> rfl
    · rfl
  | serve i n message downstreamSessionId =>
    simp only [next, serve, State.serviceEvent]
    rcases σ.outcome i with - | ⟨arrival, - | response | invoked⟩ <;> rfl
  | insert | configure | storeStep | wait | evict | foreignWrite => rfl

/-! ### What stands behind a request that is served -/

variable {codec jwt keys}

/-- The token of the request was valid when it arrived, its config satisfies `P` for the subject of the
token, and the handlers see both together with the id in the path. -/
structure Attributed (jwt : ℕ → Jwt RsKey HmacKey) (keys : JwtTokenDecoders RsKey HmacKey)
    (P : User → UserConfig → Prop) (s : Served Body) (claims : ContextForgeClaims)
    (config : UserConfig) (id : VirtualHostId) : Prop where
  verified : Verified (jwt s.time) keys s.arrived claims
  given : P (User.new claims.sub) config
  id_of_path : s.arrived.path = "/servers/" ++ id.value ++ "/mcp"
  seen : ∃ sessionId, s.invoked =
    { s.arrived with extensions := ⟨some id, sessionId, some claims, some config⟩ }

/-- A request that waits has passed the layers, and its `get_config` reads for the subject of its
token. -/
def Waits (jwt : ℕ → Jwt RsKey HmacKey) (keys : JwtTokenDecoders RsKey HmacKey)
    (system : System UserConfig) (i : ℕ) (arrival : Arrival Body) : Prop :=
  frontLayers (jwt arrival.time) keys arrival.arrived = .invoked arrival.handedOn ∧
    ∃ claims call, arrival.handedOn.extensions.claims = some claims ∧
      system.calls i = some call ∧ call.gets = some (User.new claims.sub)

/-- A request that is served is attributed, if what the store returns satisfies `P`. -/
theorem attributed_of_outcome {P : User → UserConfig → Prop} {σ : State Body} {i : ℕ}
    {arrival : Arrival Body} {invoked : HttpRequest Body}
    (hprovided : Provided codec P σ.system)
    (hwaits : ∀ a, σ.waiting i = some a → Waits jwt keys σ.system i a)
    (h : σ.outcome i = some (arrival, .invoked invoked)) (n : ℕ)
    (downstreamSessionId : Option DownstreamSessionId) :
    ∃ claims config id, Attributed jwt keys P
      { arrival with invoked, service := n, downstreamSessionId } claims config id := by
  unfold State.outcome at h
  split at h
  next a u r ha hcall =>
    obtain ⟨rfl, houtcome⟩ := Prod.mk.inj (Option.some.inj h)
    obtain ⟨hfront, claims, call, hclaims, hcall', hgets⟩ := hwaits a ha
    obtain rfl : call = .getDone u r := Option.some.inj (hcall'.symm.trans hcall)
    obtain rfl : u = User.new claims.sub := Option.some.inj hgets
    obtain ⟨claims', id, sessionId, hverified, hpath, hhandedOn⟩ := frontLayers_invoked hfront
    obtain rfl : claims' = claims := by
      rw [hhandedOn] at hclaims
      exact Option.some.inj hclaims
    unfold userConfigStoreLayer at houtcome
    rw [hclaims] at houtcome
    cases r with
    | error e => cases e <;> cases houtcome
    | ok config =>
      have hinvoked := Outcome.invoked.inj houtcome
      refine ⟨claims', config, id, hverified, hprovided.calls i _ _ _ hcall rfl, hpath, sessionId, ?_⟩
      rw [← hinvoked, hhandedOn]
  next => cases h

/-- The config was in Redis for the user in the beginning, or somebody has configured the user with it,
or somebody else has written it under the user's key. -/
def GivenFor (codec : Codec UserConfig) (redis : Bytes → Option Bytes)
    (es : List (Event Body Value Manager Ctx)) (u : User) (c : UserConfig) : Prop :=
  (RedisUserConfigStore.new redis).Holds codec u c ∨
    (∃ i userId, .configure i userId c ∈ es ∧ User.new userId = u) ∨
    ∃ key b, .foreignWrite key (some b) ∈ es ∧ codec.encodeUser u = some key ∧
      codec.decodeConfig b = some c

variable {redis : Bytes → Option Bytes} {es : List (Event Body Value Manager Ctx)}
  {σ : State Body}

theorem GivenFor.concat {u : User} {c : UserConfig} (h : GivenFor codec redis es u c)
    (e : Event Body Value Manager Ctx) : GivenFor codec redis (es ++ [e]) u c := by
  have hmem : ∀ {e'}, e' ∈ es → e' ∈ es ++ [e] := fun he => List.mem_append_left _ he
  rcases h with h | ⟨i, userId, h, hu⟩ | ⟨key, b, h, hk, hb⟩
  · exact Or.inl h
  · exact Or.inr (Or.inl ⟨i, userId, hmem h, hu⟩)
  · exact Or.inr (Or.inr ⟨key, b, hmem h, hk, hb⟩)

theorem Attributed.mono {P Q : User → UserConfig → Prop} {s : Served Body}
    {claims : ContextForgeClaims} {config : UserConfig} {id : VirtualHostId}
    (h : Attributed jwt keys P s claims config id) (hPQ : ∀ u c, P u c → Q u c) :
    Attributed jwt keys Q s claims config id :=
  ⟨h.verified, hPQ _ _ h.given, h.id_of_path, h.seen⟩

/-- What the application keeps: whatever the store has was given for that user, every request that waits
or was served is attributed, and every connection of a service was opened by a request that it was invoked
with. -/
structure Inv (codec : Codec UserConfig) (jwt : ℕ → Jwt RsKey HmacKey)
    (keys : JwtTokenDecoders RsKey HmacKey) (redis : Bytes → Option Bytes)
    (es : List (Event Body Value Manager Ctx)) (σ : State Body) : Prop where
  provided : Provided codec (GivenFor codec redis es) σ.system
  begun : ∀ i u c, σ.system.calls i = some (.setStart u c) →
    ∃ j userId, .configure j userId c ∈ es ∧ User.new userId = u
  waiting : ∀ i arrival, σ.waiting i = some arrival → Waits jwt keys σ.system i arrival
  served : ∀ s ∈ σ.served, ∃ claims config id,
    Attributed jwt keys (GivenFor codec redis es) s claims config id
  history : ∀ n, Service.History (σ.services n)
  connected : ∀ n number call, (σ.services n).connected number = some call →
    ∃ s ∈ σ.served, s.service = n ∧ s.ctx = call.ctx
  finished : ∀ n, ∀ call ∈ (σ.services n).finished, ∃ s ∈ σ.served, s.service = n ∧ s.ctx = call.ctx

theorem inv_new (toolCallId : UInt64) :
    Inv codec jwt keys redis ([] : List (Event Body Value Manager Ctx))
      (State.new redis toolCallId) where
  provided := RedisUserConfigStore.provided_new fun _ _ h => Or.inl h
  begun _ _ _ h := nomatch h
  waiting _ _ h := nomatch h
  served _ h := nomatch h
  history _ := Service.history_new toolCallId
  connected _ _ _ h := nomatch h
  finished _ _ h := nomatch h

theorem Inv.concat (h : Inv codec jwt keys redis es σ) (e : Event Body Value Manager Ctx) :
    Inv codec jwt keys redis (es ++ [e]) σ where
  provided := h.provided.mono fun _ _ hc => hc.concat e
  begun i u c hi := by
    obtain ⟨j, userId, hj, hu⟩ := h.begun i u c hi
    exact ⟨j, userId, List.mem_append_left _ hj, hu⟩
  waiting := h.waiting
  served s hs := by
    obtain ⟨claims, config, id, hs⟩ := h.served s hs
    exact ⟨claims, config, id, hs.mono fun _ _ hc => hc.concat e⟩
  history := h.history
  connected := h.connected
  finished := h.finished

/-- A step of the store, whose `set_config` is begun by `configure_user` only. -/
theorem Inv.storeNext (h : Inv codec jwt keys redis es σ)
    (e : RedisUserConfigStore.Event UserConfig)
    (he : ∀ i u c, e = .setConfig i u c → ∃ j userId, .configure j userId c ∈ es ∧ User.new userId = u) :
    Inv codec jwt keys redis es (storeNext codec σ e) where
  provided := by
    refine h.provided.next e fun u c hc => ?_
    rcases RedisUserConfigStore.holds_next hc with hc | ⟨i, hi⟩
    · exact h.provided.redis u c hc
    · exact Or.inr (Or.inl (h.begun i u c hi))
  begun i u c hi := by
    rcases RedisUserConfigStore.setStart_next hi with hi | rfl
    · exact h.begun i u c hi
    · exact he i u c rfl
  waiting i arrival ha := by
    obtain ⟨hfront, claims, call, hclaims, hcall, hgets⟩ := h.waiting i arrival ha
    obtain ⟨call', hcall', hgets'⟩ := RedisUserConfigStore.gets_next hcall e
    exact ⟨hfront, claims, call', hclaims, hcall', hgets'.trans hgets⟩
  served := h.served
  history := h.history
  connected := h.connected
  finished := h.finished

theorem Inv.receive (h : Inv codec jwt keys redis es σ) (i : ℕ) (request : HttpRequest Body) :
    Inv codec jwt keys redis es (receive codec jwt keys σ i request) := by
  unfold Application.receive
  split
  next handedOn hi hfront =>
    split
    next claims hclaims =>
      have hstore := h.storeNext (.getConfig i (User.new claims.sub)) nofun
      refine { hstore with waiting := fun j arrival ha => ?_ }
      by_cases hji : j = i
      · subst hji
        obtain rfl : (⟨request, σ.system.store.now, handedOn⟩ : Arrival Body) = arrival := by
          simpa using ha
        exact ⟨hfront, claims, _, hclaims, RedisUserConfigStore.begin_calls_self hi _, rfl⟩
      · have hother : σ.waiting j = some arrival := by simpa [hji] using ha
        exact hstore.waiting j arrival hother
    next => exact h
  next => exact h

theorem Inv.foreignWrite (h : Inv codec jwt keys redis es σ) (key : Bytes) (value : Option Bytes)
    (hmem : .foreignWrite key value ∈ es) :
    Inv codec jwt keys redis es { σ with system := σ.system.write key value } := by
  have hprovided : Provided codec (GivenFor codec redis es) (σ.system.write key value) := by
    refine h.provided.write ?_
    rintro u c ⟨k, b, hk, hb, hc⟩
    by_cases hkey : k = key
    · subst hkey
      obtain rfl : value = some b := by simpa [System.write] using hb
      exact Or.inr (Or.inr ⟨k, b, hmem, hk, hc⟩)
    · exact h.provided.redis u c ⟨k, b, hk, by simpa [System.write, hkey] using hb, hc⟩
  exact { h with provided := hprovided }

/-- A step of one service, whose calls are then those of requests that it was invoked with. -/
theorem Inv.setService (h : Inv codec jwt keys redis es σ) {n : ℕ} {τ : Service.State}
    (hhistory : Service.History τ)
    (hconnected : ∀ number call, τ.connected number = some call →
      ∃ s ∈ σ.served, s.service = n ∧ s.ctx = call.ctx)
    (hfinished : ∀ call ∈ τ.finished, ∃ s ∈ σ.served, s.service = n ∧ s.ctx = call.ctx) :
    Inv codec jwt keys redis es (σ.setService n τ) := by
  have hother : ∀ m, m = n ∧ (σ.setService n τ).services m = τ ∨
      (σ.setService n τ).services m = σ.services m := by
    intro m
    by_cases hmn : m = n
    · exact Or.inl ⟨hmn, by rw [hmn]; exact Function.update_self _ _ _⟩
    · exact Or.inr (Function.update_of_ne hmn _ _)
  refine { h with history := fun m => ?_, connected := fun m number call hc => ?_, finished := fun m => ?_ }
  · rcases hother m with ⟨-, hm⟩ | hm <;> rw [hm]
    exacts [hhistory, h.history m]
  · rcases hother m with ⟨rfl, hm⟩ | hm <;> rw [hm] at hc
    exacts [hconnected number call hc, h.connected m number call hc]
  · rcases hother m with ⟨rfl, hm⟩ | hm <;> rw [hm]
    exacts [hfinished, h.finished m]

theorem Inv.insert (h : Inv codec jwt keys redis es σ) (n number : ℕ) :
    Inv codec jwt keys redis es (σ.setService n (Service.insert (σ.service n) number)) := by
  have hhistory : Service.History (σ.service n) := (h.history n).of_eq rfl rfl
  have hinserted := hhistory.insert number
  unfold Service.insert at hinserted ⊢
  cases hcall : (σ.service n).connected number with
  | none => exact h.setService hhistory (h.connected n) (h.finished n)
  | some call =>
    rw [hcall] at hinserted
    refine h.setService hinserted (fun k call' hk => ?_) ?_
    · by_cases hne : k = number
      · subst hne
        simp at hk
      · exact h.connected n k call' (by simpa [hne, State.service] using hk)
    · exact List.forall_mem_cons.2 ⟨h.connected n number call hcall, h.finished n⟩

/-- The contexts of the calls after a message are those before it, and that of the message. -/
theorem calls_next [DecidableEq Value] (τ : Service.State) (message : Message Value Manager Ctx)
    (ctx : RequestContext) :
    (∀ n call, (Service.next τ (message.event ctx)).connected n = some call →
      τ.connected n = some call ∨ call.ctx = ctx) ∧
    (Service.next τ (message.event ctx)).finished = τ.finished := by
  cases message with
  | connect getSession accepts =>
    show (∀ n call, (Service.connect τ getSession accepts ctx).connected n = some call →
      τ.connected n = some call ∨ call.ctx = ctx) ∧
      (Service.connect τ getSession accepts ctx).finished = τ.finished
    unfold Service.connect
    split
    · exact ⟨fun n call hn => Or.inl hn, rfl⟩
    · refine ⟨fun n call hn => ?_, rfl⟩
      by_cases hne : n = τ.started
      · subst hne
        right
        simp only [Function.update_self, Option.some.injEq] at hn
        rw [← hn]
      · exact Or.inl (by simpa [hne] using hn)
  | listTools | listResources | callTool | readResource =>
    exact ⟨fun n call hn => Or.inl hn, rfl⟩

theorem Inv.serve [DecidableEq Value] (h : Inv codec jwt keys redis es σ) (i n : ℕ)
    (message : Message Value Manager Ctx) (downstreamSessionId : Option DownstreamSessionId) :
    Inv codec jwt keys redis es (serve σ i n message downstreamSessionId) := by
  have hwaiting : ∀ j arrival, Function.update σ.waiting i none j = some arrival →
      Waits jwt keys σ.system j arrival := by
    intro j arrival ha
    by_cases hji : j = i
    · subst hji
      simp at ha
    · exact h.waiting j arrival (by simpa [hji] using ha)
  unfold Application.serve
  split
  next arrival invoked houtcome =>
    have hattributed :=
      attributed_of_outcome h.provided (h.waiting i) houtcome n downstreamSessionId
    have hhistory : Service.History (σ.service n) := (h.history n).of_eq rfl rfl
    obtain ⟨hconnected, hfinished⟩ := calls_next (σ.service n) message
      (Served.ctx { arrival with invoked, service := n, downstreamSessionId })
    have hold : ∀ {m : ℕ} {ctx : RequestContext}, (∃ s ∈ σ.served, s.service = m ∧ s.ctx = ctx) →
        ∃ s ∈ { arrival with invoked, service := n, downstreamSessionId } :: σ.served,
          s.service = m ∧ s.ctx = ctx := by
      rintro m ctx ⟨s, hs, hctx⟩
      exact ⟨s, List.mem_cons_of_mem _ hs, hctx⟩
    -- the request is one that was served before its service takes the step
    have hserved : Inv codec jwt keys redis es
        { σ with
          waiting := Function.update σ.waiting i none
          served := { arrival with invoked, service := n, downstreamSessionId } :: σ.served } :=
      { h with
        waiting := hwaiting
        served := List.forall_mem_cons.2 ⟨hattributed, h.served⟩
        connected := fun m number call hc => hold (h.connected m number call hc)
        finished := fun m call hc => hold (h.finished m call hc) }
    refine hserved.setService (hhistory.next _) (fun number call hc => ?_) fun call hc => ?_
    · rcases hconnected number call hc with hc | hctx
      · exact hold (h.connected n number call hc)
      · exact ⟨_, List.mem_cons_self, rfl, hctx.symm⟩
    · rw [hfinished] at hc
      exact hold (h.finished n call hc)
  next => exact { h with waiting := hwaiting }
  next => exact h

/-- One step of anyone. -/
theorem Inv.next [DecidableEq Value] (h : Inv codec jwt keys redis es σ)
    (e : Event Body Value Manager Ctx) :
    Inv codec jwt keys redis (es ++ [e]) (next codec jwt keys σ e) := by
  have hmem : e ∈ es ++ [e] := List.mem_append_right _ (List.mem_singleton_self e)
  cases e with
  | receive i request => exact (h.concat _).receive i request
  | serve i n message downstreamSessionId => exact (h.concat _).serve i n message downstreamSessionId
  | insert n number => exact (h.concat _).insert n number
  | configure i userId config =>
    refine (h.concat _).storeNext _ ?_
    rintro j u c ⟨⟩
    exact ⟨i, userId, hmem, rfl⟩
  | storeStep i ok => exact (h.concat _).storeNext _ nofun
  | wait d => exact (h.concat _).storeNext _ nofun
  | evict key => exact (h.concat _).storeNext _ nofun
  | foreignWrite key value => exact (h.concat _).foreignWrite key value hmem

theorem inv_run [DecidableEq Value] (toolCallId : UInt64) (es : List (Event Body Value Manager Ctx)) :
    Inv codec jwt keys redis es
      (run (Application.next codec jwt keys) (State.new redis toolCallId) es) := by
  induction es using List.reverseRecOn with
  | nil => exact inv_new toolCallId
  | append_singleton es e ih =>
    rw [run_concat]
    exact ih.next e

/-! ### What is forwarded -/

/-- A forwarded request has the context of its message. -/
theorem forwarded_ctx [DecidableEq Value] {τ : Service.State} {message : Message Value Manager Ctx}
    {ctx : RequestContext} {f : Service.Forwarded}
    (h : f ∈ Service.forwarded τ (message.event ctx)) : f.ctx = ctx := by
  cases message with
  | connect => cases h
  | listTools | listResources | callTool | readResource =>
    obtain ⟨sent, -, rfl⟩ := List.mem_map.1 h
    rfl

/-- What is forwarded is what a service forwards for a request that it is invoked with. -/
theorem mem_forwarded [DecidableEq Value] {σ : State Body} {e : Event Body Value Manager Ctx}
    {f : Service.Forwarded} (h : f ∈ forwarded σ e) :
    ∃ i message, ∃ s : Served Body,
      f ∈ Service.forwarded (σ.service s.service) (message.event s.ctx) ∧
      e = .serve i s.service message s.downstreamSessionId ∧
      (serve σ i s.service message s.downstreamSessionId).served = s :: σ.served := by
  cases e with
  | serve i n message downstreamSessionId =>
    simp only [forwarded] at h
    split at h
    next arrival invoked houtcome =>
      refine ⟨i, message, { arrival with invoked, service := n, downstreamSessionId }, h, rfl, ?_⟩
      simp only [serve, houtcome]
    next => cases h
  | _ => cases h

/-- What stands behind a forwarded request, if configs satisfy `P`: it is one of the requests that were
served, the connection it goes over was opened in its session by another one of them, an `initialize` of the
same service, to the url which the config of that one has, and both are attributed. -/
def Explained (jwt : ℕ → Jwt RsKey HmacKey) (keys : JwtTokenDecoders RsKey HmacKey)
    (P : User → UserConfig → Prop) (served : List (Served Body)) (f : Service.Forwarded) : Prop :=
  ∃ s ∈ served, ∃ opener ∈ served, s.ctx = f.ctx ∧ opener.ctx = f.connection.ctx ∧
    opener.service = s.service ∧
    (∃ claims config id, Attributed jwt keys P s claims config id) ∧
    (∃ claims config id, Attributed jwt keys P opener claims config id) ∧
    Service.OpenedInSession f

theorem Inv.forwarded [DecidableEq Value] (h : Inv codec jwt keys redis es σ)
    {e : Event Body Value Manager Ctx} {f : Service.Forwarded} (hf : f ∈ forwarded σ e) :
    Explained jwt keys (GivenFor codec redis (es ++ [e])) (Application.next codec jwt keys σ e).served
      f := by
  have hafter := h.next e
  obtain ⟨i, message, s, hmem, rfl, hserved⟩ := mem_forwarded hf
  have hσ : (Application.next codec jwt keys σ (.serve i s.service message s.downstreamSessionId)).served =
      s :: σ.served := hserved
  -- the connection is that of an `initialize` that has finished before
  have hhistory : Service.History (σ.service s.service) := (h.history s.service).of_eq rfl rfl
  obtain ⟨hlast, hopened⟩ := hhistory.openedByLast (Service.borrowable_of_forwarded hmem)
  obtain ⟨_, _, call, -, hcovering, -, -, hctx⟩ := hlast
  obtain ⟨opener, hopener, hservice, hopenerCtx⟩ :=
    h.finished s.service call (List.mem_of_find?_eq_some hcovering)
  have hs := hσ.symm ▸ List.mem_cons_self
  have ho := hσ.symm ▸ List.mem_cons_of_mem s hopener
  exact ⟨s, hs, opener, ho, (forwarded_ctx hmem).symm, hopenerCtx.trans hctx.symm, hservice,
    hafter.served s hs, hafter.served opener ho, hopened⟩

/-- **Attribution.** Whatever the interleaving, a request that is forwarded to a backend is one that was
served: it came with a valid token and uses a config that was given for its subject; and the connection
it goes over was opened in its session by an `initialize` of the same service, of which the same is true,
to the url which the config of that one has. -/
theorem forwarded_attributed [DecidableEq Value] (redis : Bytes → Option Bytes) (toolCallId : UInt64)
    (es : List (Event Body Value Manager Ctx)) (e : Event Body Value Manager Ctx)
    {f : Service.Forwarded}
    (h : f ∈ forwarded (run (next codec jwt keys) (State.new redis toolCallId) es) e) :
    Explained jwt keys (GivenFor codec redis (es ++ [e]))
      (run (next codec jwt keys) (State.new redis toolCallId) (es ++ [e])).served f := by
  have hinv : Inv codec jwt keys redis es
      (run (next codec jwt keys) (State.new redis toolCallId) es) := inv_run toolCallId es
  rw [run_concat]
  exact hinv.forwarded h

end

/-! ### A request from end to end -/

namespace EndToEnd

open Service.SharedSession (config backends)

/-- Some bytes for a configuration. -/
def storedBytes : Bytes := [0x91]

/-- An encoding, as far as a run with this one configuration uses it. -/
def codecOf (stored : UserConfig) : Codec UserConfig where
  encodeUser := Sample.codec.encodeUser
  encodeConfig c := if c = stored then some storedBytes else none
  decodeConfig b := if b = storedBytes then some stored else none
  encodeUser_inj := Sample.codec.encodeUser_inj
  decode_encode := by
    intro c b h
    by_cases hc : c = stored
    · obtain rfl : storedBytes = b := by simpa [hc] using h
      simp [hc]
    · simp [hc] at h

/-- Alice's virtual host, with one backend. -/
def aliceConfig : UserConfig := config "alice" "http://a"

def codec : Codec UserConfig := codecOf aliceConfig

/-- Alice's token, which is valid for an hour. -/
def jwt (now : ℕ) : Jwt Unit Unit where
  decodeHeader token := if token = "t" then some .hs256 else none
  decode token _ _ := if token = "t" ∧ now < lruCacheExpiryDuration then some ⟨"alice"⟩ else none

def keys : JwtTokenDecoders Unit Unit := ⟨none, some ()⟩

/-- A request to Alice's virtual host. -/
def request (headers : List (String × Bytes)) : HttpRequest Unit where
  path := "/servers/" ++ "alice" ++ "/mcp"
  headers := ("authorization", bearer ++ [116]) :: headers
  body := ()
  extensions := ⟨none, none, none, none⟩

/-- Alice is configured and initializes a session, and the request that lists her tools arrives. -/
def listedWith (stored : UserConfig) (accepts : String → Bool) : List (Event Unit Unit Unit Unit) :=
  [.configure 0 "alice" stored, .storeStep 0 true, .storeStep 0 true,
    .receive 1 (request []), .storeStep 1 true, .storeStep 1 true,
    .serve 1 0 (.connect (fun _ => .ok none) accepts) (some ⟨"s"⟩), .insert 0 0,
    .receive 2 (request [("mcp-session-id", [115])]), .storeStep 2 true, .storeStep 2 true]

def listed : List (Event Unit Unit Unit Unit) := listedWith aliceConfig fun _ => true

def lists : Event Unit Unit Unit Unit := .serve 2 0 (.listTools backends none) none

/-- Before Alice lists her tools. -/
def state : State Unit := run (next codec jwt keys) (State.new (fun _ => none) 1) listed

end EndToEnd

open EndToEnd in
theorem forwarded_attributed_sample :
    ∃ f ∈ forwarded state lists, f.backendName = "counter" ∧
      ∃ s ∈ (next codec jwt keys state lists).served, s.ctx = f.ctx ∧
        ∃ claims config id, Attributed jwt keys
          (GivenFor codec (fun _ => none) (listed ++ [lists])) s claims config id := by
  have hnames : (forwarded state lists).map Service.Forwarded.backendName = ["counter"] := by decide
  have hname : "counter" ∈ (forwarded state lists).map Service.Forwarded.backendName :=
    hnames ▸ List.mem_singleton_self _
  obtain ⟨f, hf, hcounter⟩ := List.mem_map.1 hname
  obtain ⟨s, hs, -, -, hctx, -, -, hattributed, -⟩ :=
    forwarded_attributed (fun _ => none) 1 listed lists hf
  rw [run_concat] at hs
  exact ⟨f, hf, hcounter, s, hs, hctx, hattributed⟩

end Application

end ContextForge
