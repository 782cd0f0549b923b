import ContextForgeGateway.Gateway.Application

/-!
# No request waits for ever

A call on the config store has no step that waits for another call, and at most three steps in all
(`Call.rank`).

`request_answered`: a request that the layers have handed on is answered, or served with what
`forwarded_attributed` asks of it, once its `get_config` has taken three steps. `request_served`: it is
served if Redis goes on holding a config for the subject of its token and does answer, and if no entry
of the cache vanishes while it is read.
-/

namespace ContextForge

open Runs

namespace RedisUserConfigStore

variable {Config : Type} {codec : Codec Config}

/-- The steps that a call has left, at most. -/
def Call.rank : Call Config → ℕ
  | .getStart _ => 3
  | .getMiss _ | .setStart _ _ => 2
  | .getHit _ | .getFill _ _ | .setFill _ _ => 1
  | .getDone _ _ | .setDone _ _ _ => 0

theorem advance_rank (s : RedisUserConfigStore Config) (ok : Bool) (call : Call Config) :
    (advance codec s ok call).2.rank ≤ call.rank - 1 := by
  cases call with
  | getStart u =>
    simp only [advance]
    split <;> simp [Call.rank]
  | getHit u =>
    cases hg : (s.cache.getMut lruCacheExpiryDuration s.now u.key).1 <;> simp [advance, hg, Call.rank]
  | getMiss u =>
    cases hk : codec.encodeUser u with
    | none => simp [advance, hk, Call.rank]
    | some k => cases hr : decodeReply codec (s.redisGet ok k) <;> simp [advance, hk, hr, Call.rank]
  | setStart u c =>
    cases hk : codec.encodeUser u with
    | none => simp [advance, hk, Call.rank]
    | some k =>
      cases hb : codec.encodeConfig c with
      | none => simp [advance, hk, hb, Call.rank]
      | some b => cases ok <;> simp [advance, hk, hb, Call.rank]
  | getFill u c | setFill u c | getDone u r | setDone u c r => exact Nat.le_refl 0

/-- A call without steps left has returned. -/
theorem Call.rank_eq_zero {call : Call Config} :
    call.rank = 0 ↔ (∃ u r, call = .getDone u r) ∨ ∃ u c r, call = .setDone u c r := by
  cases call <;> simp [Call.rank]

/-- While Redis holds a config for the user, a `get_config` that is answered stays on its way to one. -/
theorem Reads.advance_of_holds {s : RedisUserConfigStore Config} {u : User} {c d : Config}
    (hd : s.Holds codec u d) {ok : Bool} {call : Call Config} (h : Reads u c call)
    (ha : Answers s ok call) : ∃ c', Reads u c' (RedisUserConfigStore.advance codec s ok call).2 := by
  cases h with
  | start =>
    by_cases hk : s.cache.containsKey lruCacheExpiryDuration s.now u.key = true
    · exact ⟨c, by simpa [RedisUserConfigStore.advance, hk] using Reads.hit⟩
    · exact ⟨c, by simpa [RedisUserConfigStore.advance, hk] using Reads.miss⟩
  | hit =>
    obtain ⟨e, he⟩ := Option.isSome_iff_exists.1 ha
    have hg : (s.cache.getMut lruCacheExpiryDuration s.now u.key).1 = some e.value :=
      TimeCache.getMut_eq_some.2 ⟨e, he, rfl⟩
    exact ⟨e.value, by simpa [RedisUserConfigStore.advance, hg] using Reads.done⟩
  | miss =>
    obtain ⟨k, -, hk, -, -⟩ := id hd
    obtain rfl : ok = true := ha
    have hr := decodeReply_eq_ok codec hk hd
    exact ⟨d, by simpa [RedisUserConfigStore.advance, hk, hr] using Reads.fill⟩
  | fill => exact ⟨c, Reads.done⟩
  | done => exact ⟨c, Reads.done⟩

end RedisUserConfigStore

namespace Application

open RedisUserConfigStore (Call System Reads Answers)

section

variable {Body Value Manager Ctx RsKey HmacKey : Type} [DecidableEq Value] {codec : Codec UserConfig}
  {jwt : ℕ → Jwt RsKey HmacKey} {keys : JwtTokenDecoders RsKey HmacKey} {σ : State Body}

/-- The event is a step of the `get_config` of request `i`. -/
def Event.stepOf (i : ℕ) : Event Body Value Manager Ctx → Bool
  | .storeStep j _ => j = i
  | _ => false

/-- The calls after an event of the store are those of the store. -/
theorem storeNext_call {i : ℕ} {call : Call UserConfig} (h : σ.system.calls i = some call)
    {e : RedisUserConfigStore.Event UserConfig} (he : ∀ ok, e ≠ .step i ok) :
    (storeNext codec σ e).system.calls i = some call :=
  RedisUserConfigStore.next_calls_of_ne codec h he

variable (codec jwt keys) in
/-- `receive` begins a call, if anything. -/
theorem receive_system (σ : State Body) (i : ℕ) (request : HttpRequest Body) :
    (receive codec jwt keys σ i request).system = σ.system ∨
      ∃ u, (receive codec jwt keys σ i request).system = (storeNext codec σ (.getConfig i u)).system := by
  unfold receive
  split
  next hfree hfront =>
    split
    next claims hclaims => exact Or.inr ⟨User.new claims.sub, rfl⟩
    next => exact Or.inl rfl
  next => exact Or.inl rfl

/-- `serve` takes no step of the store. -/
theorem serve_system (σ : State Body) (i n : ℕ) (message : Message Value Manager Ctx)
    (downstreamSessionId : Option DownstreamSessionId) :
    (serve σ i n message downstreamSessionId).system = σ.system := by
  unfold serve
  rcases σ.outcome i with - | ⟨arrival, - | response | invoked⟩ <;> rfl

/-- A call only moves when it takes a step. -/
theorem call_next_of_ne {i : ℕ} {call : Call UserConfig} (h : σ.system.calls i = some call)
    {e : Event Body Value Manager Ctx} (he : ∀ ok, e ≠ .storeStep i ok) :
    (next codec jwt keys σ e).system.calls i = some call := by
  cases e with
  | receive j request =>
    show (receive codec jwt keys σ j request).system.calls i = some call
    rcases receive_system codec jwt keys σ j request with heq | ⟨u, heq⟩
    · rw [heq]
      exact h
    · rw [heq]
      exact storeNext_call h nofun
  | serve j n message downstreamSessionId =>
    show (serve σ j n message downstreamSessionId).system.calls i = some call
    rw [serve_system]
    exact h
  | insert n number | foreignWrite key value => exact h
  | configure j userId config => exact storeNext_call h nofun
  | storeStep j ok =>
    have hne : ∀ ok', (RedisUserConfigStore.Event.step j ok : RedisUserConfigStore.Event UserConfig) ≠
        .step i ok' := by
      rintro ok' ⟨⟩
      exact he ok rfl
    exact storeNext_call h hne
  | wait d => exact storeNext_call h nofun
  | evict key => exact storeNext_call h nofun

/-- A request waits until it is served. -/
theorem waiting_next {i : ℕ} {arrival : Arrival Body} {call : Call UserConfig}
    (h : σ.waiting i = some arrival) (hcall : σ.system.calls i = some call)
    {e : Event Body Value Manager Ctx}
    (he : ∀ n message downstreamSessionId, e ≠ .serve i n message downstreamSessionId) :
    (next codec jwt keys σ e).waiting i = some arrival := by
  cases e with
  | receive j request =>
    simp only [next, receive]
    split
    next hj hfront =>
      have hne : i ≠ j := by
        rintro rfl
        rw [hcall] at hj
        cases hj
      split
      · simpa [hne] using h
      · exact h
    next => exact h
  | serve j n message downstreamSessionId =>
    have hne : i ≠ j := by
      rintro rfl
      exact he n message downstreamSessionId rfl
    simp only [next, serve]
    repeat' split
    all_goals first | exact h | simpa [hne] using h
  | _ => exact h

omit [DecidableEq Value] in
theorem stepOf_eq_false {i : ℕ} {e : Event Body Value Manager Ctx} (he : ∀ ok, e ≠ .storeStep i ok) :
    Event.stepOf i e = false := by
  cases e with
  | storeStep j ok =>
    have hne : j ≠ i := by
      rintro rfl
      exact he ok rfl
    simpa [Event.stepOf] using hne
  | _ => rfl

/-- One event takes a call of which `Q` holds on to one of which it holds as well, if a step of it does,
and a step of its own leaves it a step less. -/
theorem call_countdown {i : ℕ} {call : Call UserConfig} {Q : Call UserConfig → Prop}
    (h : σ.system.calls i = some call) (hq : Q call) {n : ℕ} (hn : call.rank ≤ n)
    (e : Event Body Value Manager Ctx)
    (hstep : ∀ ok, e = .storeStep i ok →
      Q (RedisUserConfigStore.advance codec σ.system.store ok call).2) :
    ∃ call', (next codec jwt keys σ e).system.calls i = some call' ∧ Q call' ∧
      call'.rank ≤ n - if Event.stepOf i e then 1 else 0 := by
  by_cases he : ∃ ok, e = .storeStep i ok
  · obtain ⟨ok, rfl⟩ := he
    refine ⟨_, RedisUserConfigStore.next_calls_step codec h ok, hstep ok rfl, ?_⟩
    rw [if_pos (by simp [Event.stepOf])]
    exact (RedisUserConfigStore.advance_rank _ ok call).trans (Nat.sub_le_sub_right hn 1)
  · have hne : ∀ ok, e ≠ .storeStep i ok := fun ok hok => he ⟨ok, hok⟩
    rw [stepOf_eq_false hne]
    exact ⟨call, call_next_of_ne h hne, hq, hn⟩

/-- The request waits, and its call, of which `Q` holds, has at most `n` steps left. -/
def Waiting (i : ℕ) (arrival : Arrival Body) (Q : Call UserConfig → Prop) (n : ℕ) (σ : State Body) :
    Prop :=
  σ.waiting i = some arrival ∧ ∃ call, σ.system.calls i = some call ∧ Q call ∧ call.rank ≤ n

/-- After its steps, the request has an outcome. -/
theorem Waiting.outcome {i : ℕ} {arrival : Arrival Body} {Q : Call UserConfig → Prop}
    (h : Waiting i arrival Q 0 σ) (hgets : ∀ call, Q call → ∃ u, call.gets = some u) :
    ∃ u r, Q (.getDone u r) ∧
      σ.outcome i = some (arrival, userConfigStoreLayer (fun _ => r) .invoked arrival.handedOn) := by
  obtain ⟨hwaiting, call, hcall, hq, hrank⟩ := h
  rcases RedisUserConfigStore.Call.rank_eq_zero.1 (Nat.le_zero.1 hrank) with
    ⟨u, r, rfl⟩ | ⟨u, c, r, rfl⟩
  · exact ⟨u, r, hq, by simp only [State.outcome, hwaiting, hcall]⟩
  · obtain ⟨v, hv⟩ := hgets _ hq
    cases hv

/-- One event leaves a request waiting if it does not serve it, with a step less if it is one of its
own. -/
theorem Waiting.next {i : ℕ} {arrival : Arrival Body} {Q : Call UserConfig → Prop} {n : ℕ}
    (h : Waiting i arrival Q n σ) {e : Event Body Value Manager Ctx}
    (hserve : ∀ m message downstreamSessionId, e ≠ .serve i m message downstreamSessionId)
    (hstep : ∀ ok call, e = .storeStep i ok → σ.system.calls i = some call → Q call →
      Q (RedisUserConfigStore.advance codec σ.system.store ok call).2) :
    Waiting i arrival Q (n - if Event.stepOf i e then 1 else 0) (next codec jwt keys σ e) := by
  obtain ⟨hwaiting, call, hcall, hq, hrank⟩ := h
  exact ⟨waiting_next hwaiting hcall hserve,
    call_countdown hcall hq hrank e fun ok he => hstep ok call he hcall hq⟩

/-- A request that the layers have handed on is answered with 400 or 500, or served, attributed, once its
`get_config` has taken three steps, whatever else has happened in between. -/
theorem request_answered (redis : Bytes → Option Bytes) (toolCallId : UInt64)
    (es es' : List (Event Body Value Manager Ctx)) {i : ℕ} {arrival : Arrival Body}
    (hwaits : (run (next codec jwt keys) (State.new redis toolCallId) es).waiting i = some arrival)
    (hserve : ∀ e ∈ es', ∀ n message downstreamSessionId, e ≠ .serve i n message downstreamSessionId)
    (hsteps : 3 ≤ es'.countP (Event.stepOf i)) :
    ∃ outcome,
      (run (next codec jwt keys) (State.new redis toolCallId) (es ++ es')).outcome i =
        some (arrival, outcome) ∧
      (Unconfigured outcome ∨ ∃ invoked, outcome = .invoked invoked ∧
        ∀ n downstreamSessionId, ∃ claims config id,
          Attributed jwt keys (GivenFor codec redis (es ++ es'))
            { arrival with invoked, service := n, downstreamSessionId } claims config id) := by
  have hbefore : Inv codec jwt keys redis es
    (run (next codec jwt keys) (State.new redis toolCallId) es) := inv_run toolCallId es
  have hafter : Inv codec jwt keys redis (es ++ es')
    (run (next codec jwt keys) (State.new redis toolCallId) (es ++ es')) := inv_run toolCallId (es ++ es')
  obtain ⟨-, claims, call, -, hcall, hgets⟩ := hbefore.waiting i arrival hwaits
  -- the call goes on reading for the same user
  have hthree : call.rank ≤ 3 := by cases call <;> simp [RedisUserConfigStore.Call.rank]
  have hwaiting : Waiting i arrival (fun call => call.gets = some (User.new claims.sub))
      (3 - es'.countP (Event.stepOf i))
      (run (next codec jwt keys) (State.new redis toolCallId) (es ++ es')) := by
    rw [run_append]
    refine along_countdown (R := Waiting i arrival fun call => call.gets = some (User.new claims.sub))
      (Event.stepOf i) (fun n τ e hτ he => hτ.next he fun ok call' _ _ hgets' => ?_)
      ⟨hwaits, call, hcall, hgets, hthree⟩ (along_of_forall (fun e he _ => hserve e he) _)
    exact (RedisUserConfigStore.advance_gets τ.system.store ok call').trans hgets'
  rw [Nat.sub_eq_zero_of_le hsteps] at hwaiting
  obtain ⟨u, r, -, houtcome⟩ := hwaiting.outcome fun call hq => ⟨_, hq⟩
  refine ⟨_, houtcome, ?_⟩
  rcases userConfigStoreLayer_cases (fun _ => r) .invoked arrival.handedOn with
    hunconfigured | ⟨claims', config, -, -, hinvoked⟩
  · exact Or.inl hunconfigured
  · rw [hinvoked] at houtcome ⊢
    exact Or.inr ⟨_, rfl, attributed_of_outcome hafter.provided (hafter.waiting i) houtcome⟩

/-- While a request waits, Redis holds a config for its user and answers, and the entry that its
`get_config` has seen is still there when it takes it. -/
structure Available (codec : Codec UserConfig) (i : ℕ) (u : User) (σ : State Body)
    (e : Event Body Value Manager Ctx) : Prop where
  notServed : ∀ n message downstreamSessionId, e ≠ .serve i n message downstreamSessionId
  holds : ∃ c, σ.system.store.Holds codec u c
  answers : ∀ ok call, e = .storeStep i ok → σ.system.calls i = some call →
    Answers σ.system.store ok call

/-- A request with a valid token, for a path of the right form, passes the layers. -/
theorem frontLayers_of_verified {jwt : Jwt RsKey HmacKey} {request : HttpRequest Body}
    {claims : ContextForgeClaims} {id : String} (hverified : Verified jwt keys request claims)
    (hpath : request.path = "/servers/" ++ id ++ "/mcp") :
    ∃ handedOn, frontLayers jwt keys request = .invoked handedOn ∧
      handedOn.extensions.claims = some claims := by
  have hid : extractVirtualHostId request.path = some (some ⟨id⟩) := extractVirtualHostId_eq_some.2 hpath
  unfold frontLayers virtualHostIdLayer
  simp only [hid]
  obtain ⟨sessionId, hs⟩ := sessionIdLayer_eq (claimsLayer jwt keys .invoked) { request with
      extensions := { request.extensions with virtualHostId := some ⟨id⟩ } }
  have hserved : Verified jwt keys { request with
      extensions := { request.extensions with virtualHostId := some ⟨id⟩, sessionId } } claims :=
    hverified
  rw [hs, claimsLayer_of_verified _ hserved]
  exact ⟨_, rfl, rfl⟩

/-- What becomes of a request that passes the layers. -/
theorem receive_of_invoked (codec : Codec UserConfig) (jwt : ℕ → Jwt RsKey HmacKey)
    (keys : JwtTokenDecoders RsKey HmacKey) (σ : State Body) {i : ℕ} {request handedOn : HttpRequest Body}
    {claims : ContextForgeClaims} (hfree : σ.system.calls i = none)
    (hfront : frontLayers (jwt σ.system.store.now) keys request = .invoked handedOn)
    (hclaims : handedOn.extensions.claims = some claims) :
    receive codec jwt keys σ i request =
      { σ with
        system := RedisUserConfigStore.next codec σ.system (.getConfig i (User.new claims.sub))
        waiting := Function.update σ.waiting i (some ⟨request, σ.system.store.now, handedOn⟩) } := by
  simp only [receive, hfree, hfront, hclaims]

/-- A request with a valid token, for a user whose config Redis goes on holding, is served: the layers
hand it on, and once its `get_config` has taken three steps, the service is invoked. -/
theorem request_served (codec : Codec UserConfig) (jwt : ℕ → Jwt RsKey HmacKey)
    (keys : JwtTokenDecoders RsKey HmacKey) (σ : State Body) {i : ℕ} {request : HttpRequest Body}
    {claims : ContextForgeClaims} {id : String} (hfree : σ.system.calls i = none)
    (hverified : Verified (jwt σ.system.store.now) keys request claims)
    (hpath : request.path = "/servers/" ++ id ++ "/mcp") (es : List (Event Body Value Manager Ctx))
    (havailable : Along (next codec jwt keys) (Available codec i (User.new claims.sub))
      (receive codec jwt keys σ i request) es)
    (hsteps : 3 ≤ es.countP (Event.stepOf i)) :
    ∃ arrival invoked, arrival.arrived = request ∧
      (run (next codec jwt keys) (receive codec jwt keys σ i request) es).outcome i =
        some (arrival, .invoked invoked) := by
  obtain ⟨handedOn, hfront, hclaims⟩ := frontLayers_of_verified hverified hpath
  have hstart : Waiting i ⟨request, σ.system.store.now, handedOn⟩
      (fun call => ∃ c, Reads (User.new claims.sub) c call) 3 (receive codec jwt keys σ i request) := by
    rw [receive_of_invoked codec jwt keys σ hfree hfront hclaims]
    exact ⟨Function.update_self _ _ _, _, RedisUserConfigStore.begin_calls_self hfree _,
      ⟨⟨KeyedList.ofList []⟩, Reads.start⟩, Nat.le_refl 3⟩
  have hwaiting : Waiting i ⟨request, σ.system.store.now, handedOn⟩
      (fun call => ∃ c, Reads (User.new claims.sub) c call) (3 - es.countP (Event.stepOf i))
      (run (next codec jwt keys) (receive codec jwt keys σ i request) es) := by
    refine along_countdown (R := Waiting i ⟨request, σ.system.store.now, handedOn⟩
        fun call => ∃ c, Reads (User.new claims.sub) c call)
      (Event.stepOf i) (fun n τ e hτ ha => hτ.next ha.notServed ?_) hstart havailable
    rintro ok call he hcall ⟨c, hreads⟩
    obtain ⟨d, hd⟩ := ha.holds
    exact hreads.advance_of_holds hd (ha.answers ok call he hcall)
  rw [Nat.sub_eq_zero_of_le hsteps] at hwaiting
  have hgets : ∀ call : Call UserConfig, (∃ c, Reads (User.new claims.sub) c call) →
      ∃ u, call.gets = some u := by
    rintro call ⟨c, hreads⟩
    cases hreads <;> exact ⟨_, rfl⟩
  obtain ⟨u, r, ⟨c, hreads⟩, houtcome⟩ := hwaiting.outcome hgets
  cases hreads
  simp only [userConfigStoreLayer, hclaims] at houtcome
  exact ⟨_, _, rfl, houtcome⟩

end

/-! ### A request from end to end -/

namespace EndToEnd

/-- Alice is configured, and her request arrives. -/
def arrived : List (Event Unit Unit Unit Unit) :=
  [.configure 0 "alice" aliceConfig, .storeStep 0 true, .storeStep 0 true, .receive 1 (request [])]

/-- The steps of its `get_config`, while others write to Redis. -/
def reading : List (Event Unit Unit Unit Unit) :=
  [.storeStep 1 true, .foreignWrite [] none, .storeStep 1 true, .wait 7, .storeStep 1 true]

end EndToEnd

open EndToEnd in
theorem request_answered_sample :
    ∃ arrival outcome,
      (run (next codec jwt keys) (State.new (fun _ => none) 1) (arrived ++ reading)).outcome 1 =
        some (arrival, outcome) ∧
      (Unconfigured outcome ∨ ∃ invoked, outcome = .invoked invoked ∧
        ∀ n downstreamSessionId, ∃ claims config id,
          Attributed jwt keys (GivenFor codec (fun _ => none) (arrived ++ reading))
            { arrival with invoked, service := n, downstreamSessionId } claims config id) := by
  obtain ⟨arrival, harrival⟩ : ∃ arrival,
      (run (next codec jwt keys) (State.new (fun _ => none) 1) arrived).waiting 1 = some arrival :=
    Option.isSome_iff_exists.1 (by decide)
  refine ⟨arrival, request_answered (fun _ => none) 1 arrived reading harrival ?_ (by decide)⟩
  simp [reading]

open EndToEnd in
theorem request_served_sample :
    ∃ arrival invoked, arrival.arrived = request [] ∧
      (run (next codec jwt keys) (receive codec jwt keys
        (run (next codec jwt keys) (State.new (fun _ => none) 1) (arrived.take 3)) 1 (request []))
          reading).outcome 1 = some (arrival, .invoked invoked) := by
  have hverified : Verified (jwt 0) keys (request []) ⟨"alice"⟩ :=
    ⟨[116], "t", .hs256, rfl, by decide, by decide, Or.inr ⟨rfl, (), rfl, by decide⟩⟩
  -- Redis holds Alice's config, and so does the cache
  have hanswers : ∀ {τ : State Unit} {ok : Bool} {call : Call UserConfig},
      (τ.system.store.liveEntry Sample.alice).isSome = true →
      (τ.system.calls 1).bind Call.gets = some Sample.alice → τ.system.calls 1 = some call → ok = true →
      Answers τ.system.store ok call := by
    intro τ ok call hlive hgets hcall hok
    rw [hcall] at hgets
    cases call with
    | getHit u =>
      obtain rfl : u = Sample.alice := Option.some.inj hgets
      exact hlive
    | getMiss u => exact hok
    | _ => trivial
  have hholds : ∀ {τ : State Unit}, τ.system.store.redis Sample.aliceKey = some storedBytes →
      ∃ c, τ.system.store.Holds codec Sample.alice c := fun h =>
    ⟨aliceConfig, Sample.aliceKey, storedBytes, by decide, h, by decide⟩
  have hown : ∀ {τ : State Unit}, τ.system.store.redis Sample.aliceKey = some storedBytes →
      (τ.system.store.liveEntry Sample.alice).isSome = true →
      (τ.system.calls 1).bind Call.gets = some Sample.alice →
      Available codec 1 Sample.alice τ (.storeStep 1 true : Event Unit Unit Unit Unit) := by
    intro τ hredis hlive hgets
    refine ⟨nofun, hholds hredis, ?_⟩
    rintro ok call ⟨⟩ hcall
    exact hanswers hlive hgets hcall rfl
  have hpath : (request []).path = "/servers/" ++ "alice" ++ "/mcp" := rfl
  refine request_served (i := 1) codec jwt keys _ (by decide) hverified hpath reading ?_ (by decide)
  exact ⟨hown (by decide) (by decide) (by decide), ⟨nofun, hholds (by decide), nofun⟩,
    hown (by decide) (by decide) (by decide), ⟨nofun, hholds (by decide), nofun⟩,
    hown (by decide) (by decide) (by decide), trivial⟩

end Application

end ContextForge
