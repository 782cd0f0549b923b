import ContextForgeGateway.ConfigStore.Coherence
import ContextForgeGateway.ConfigStore.StoredRecords
import ContextForgeGateway.Lib.SharedMemory

/-!
# Several stores on one Redis

Every gateway thread that `Runtime::execute` spawns has a `RedisUserConfigStore` of its own, with a cache
of its own; so has every other gateway process. All of them read and write the same Redis, and so does
whoever publishes the plugin configuration, and a `RedisUserSessionStore` where one is used (`run_gateway`
itself takes a `LocalUserSessionStore`).

How the records and their keys are encoded is a parameter (`Codecs`): what is encoded is decoded again, and no
key is one of two kinds. `rmpSerde` is what `rmp_serde` makes of them.

`stores_independent`: the three kinds of records do not interfere. Whatever the interleaving of the atomic
steps of all threads, the user configurations, the session mappings and the plugin configuration are each
treated as if Redis held nothing else.

`get_returns_lastSet`: across threads, a `GET` sees the last `SET`. A `get_config` that does not find its
user in the cache of its thread returns what was written last for that user, in whichever thread.
`configured_read`: so the config that one thread has written is served by every thread; with `rmpSerde`, it may
be any that `configure_user` decodes from a document.
-/

namespace ContextForge

namespace SharedRedis

open Runs SharedMemory
open RedisUserConfigStore (Call)

/-- The three kinds of records. -/
inductive StoreKind
  | configs
  | sessions
  | plugins
  deriving DecidableEq

/-- The encodings of the records and of their keys. -/
structure Codecs where
  configs : Codec UserConfig
  sessions : SessionCodec
  user_ne_session : ∀ {u session k}, configs.encodeUser u = some k → sessions.encodeSession session ≠ some k
  user_ne_plugins : ∀ u, configs.encodeUser u ≠ some (utf8 runtimePluginConfigKey)
  session_ne_plugins : ∀ session, sessions.encodeSession session ≠ some (utf8 runtimePluginConfigKey)

/-- The user-config store of a thread: its cache and its calls. -/
structure ConfigThread where
  cache : TimeCache String UserConfig
  calls : ℕ → Option (Call UserConfig)

/-- The session store of a thread. -/
structure SessionThread where
  cache : TimeCache UserSession SessionMapping
  calls : ℕ → Option (UserSession × SessionOp)

/-- What all threads have, and the clock. -/
structure Threads (T : Type) where
  now : ℕ
  thread : ℕ → T

/-- The states of the stores of one kind. Of the plugin configuration, it is what was last read. -/
abbrev Local : StoreKind → Type
  | .configs => Threads ConfigThread
  | .sessions => Threads SessionThread
  | .plugins => Option Bytes

/-- What can happen to a session store. -/
inductive SessionEvent
  | getSession (i : ℕ) (session : UserSession)
  | setSession (i : ℕ) (session : UserSession) (mapping : SessionMapping)
  | step (i : ℕ) (ok : Bool)
  | evict (session : UserSession)

/-- What can happen to the plugin configuration: the watcher reads it, or somebody publishes it. -/
inductive PluginEvent
  | get
  | publish (value : Option Bytes)

/-- A step in the stores of one kind; the first two have a thread. -/
abbrev Own : StoreKind → Type
  | .configs => ℕ × RedisUserConfigStore.Event UserConfig
  | .sessions => ℕ × SessionEvent
  | .plugins => PluginEvent

/-- Time passes for everybody. -/
def Threads.wait {T : Type} (l : Threads T) (d : ℕ) : Threads T := { l with now := l.now + d }

/-- The user-config store of thread `p`, on Redis. -/
def configSystem (l : Threads ConfigThread) (redis : Bytes → Option Bytes) (p : ℕ) :
    RedisUserConfigStore.System UserConfig :=
  ⟨⟨(l.thread p).cache, redis, l.now⟩, (l.thread p).calls⟩

/-- The session store of thread `p`, on Redis. -/
def sessionStore (l : Threads SessionThread) (redis : Bytes → Option Bytes) (p : ℕ) :
    RedisUserSessionStore :=
  ⟨(l.thread p).cache, redis, l.now⟩

/-- A call begins, unless there is one of its number. -/
def beginSession (t : SessionThread) (i : ℕ) (session : UserSession) (op : SessionOp) :
    SessionThread :=
  match t.calls i with
  | none => { t with calls := Function.update t.calls i (some (session, op)) }
  | some _ => t

variable (codecs : Codecs)

/-- The user-config stores of all threads. -/
def configClient : Client Bytes (Option Bytes) (Threads ConfigThread)
    (ℕ × RedisUserConfigStore.Event UserConfig) ℕ where
  step l redis e :=
    let σ := RedisUserConfigStore.next codecs.configs (configSystem l redis e.1) e.2
    ({ l with thread := Function.update l.thread e.1 ⟨σ.store.cache, σ.calls⟩ }, σ.store.redis)
  hear := Threads.wait

/-- One step of the session store of a thread. -/
def sessionNext (t : SessionThread) (store : RedisUserSessionStore) :
    SessionEvent → SessionThread × (Bytes → Option Bytes)
  | .getSession i session => (beginSession t i session .getStart, store.redis)
  | .setSession i session mapping => (beginSession t i session (.setStart mapping), store.redis)
  | .step i ok =>
    match t.calls i with
    | none => (t, store.redis)
    | some (session, op) =>
      let (store', op') := RedisUserSessionStore.advance codecs.sessions store ok session op
      (⟨store'.cache, Function.update t.calls i (some (session, op'))⟩, store'.redis)
  | .evict session => ({ t with cache := t.cache.evict session }, store.redis)

/-- The session stores of all threads. -/
def sessionClient : Client Bytes (Option Bytes) (Threads SessionThread) (ℕ × SessionEvent) ℕ where
  step l redis e :=
    let r := sessionNext codecs (l.thread e.1) (sessionStore l redis e.1) e.2
    ({ l with thread := Function.update l.thread e.1 r.1 }, r.2)
  hear := Threads.wait

/-- Those who read and publish the plugin configuration. -/
def pluginClient : Client Bytes (Option Bytes) (Option Bytes) PluginEvent ℕ where
  step read redis
    | .get => (redis (utf8 runtimePluginConfigKey), redis)
    | .publish value => (read, Function.update redis (utf8 runtimePluginConfigKey) value)
  hear read _ := read

/-- The stores of each kind. -/
def clients : ∀ kind, Client Bytes (Option Bytes) (Local kind) (Own kind) ℕ
  | .configs => configClient codecs
  | .sessions => sessionClient codecs
  | .plugins => pluginClient

/-- The keys of each kind. -/
def keys : StoreKind → Bytes → Prop
  | .configs, k => ∃ u, codecs.configs.encodeUser u = some k
  | .sessions, k => ∃ u, codecs.sessions.encodeSession u = some k
  | .plugins, k => k = utf8 runtimePluginConfigKey

/-! ### No store has a use for the keys of the others -/

section

variable {Config : Type} {codec : Codec Config} {s s' : RedisUserConfigStore Config}

/-- Two user-config stores that differ at most in keys of Redis that are not keys of users. -/
structure SameConfigs (codec : Codec Config) (s s' : RedisUserConfigStore Config) : Prop where
  cache : s'.cache = s.cache
  now : s'.now = s.now
  redis : ∀ u k, codec.encodeUser u = some k → s'.redis k = s.redis k

theorem SameConfigs.redisSet (h : SameConfigs codec s s') (key value : Bytes) :
    SameConfigs codec (s.redisSet key value) (s'.redisSet key value) where
  cache := h.cache
  now := h.now
  redis u k hk := by
    by_cases hkey : k = key
    · simp [RedisUserConfigStore.redisSet, hkey]
    · simpa [RedisUserConfigStore.redisSet, hkey] using h.redis u k hk

/-- A step of a call does the same in both. -/
theorem SameConfigs.advance (h : SameConfigs codec s s') (ok : Bool) (call : Call Config) :
    (RedisUserConfigStore.advance codec s' ok call).2 =
        (RedisUserConfigStore.advance codec s ok call).2 ∧
      SameConfigs codec (RedisUserConfigStore.advance codec s ok call).1
        (RedisUserConfigStore.advance codec s' ok call).1 := by
  obtain ⟨cache, redis, now⟩ := s
  obtain ⟨cache', redis', now'⟩ := s'
  obtain ⟨rfl, rfl, hredis⟩ := h
  cases call with
  | getStart u => exact ⟨rfl, rfl, rfl, hredis⟩
  | getHit u =>
    cases hg : (cache'.getMut lruCacheExpiryDuration now' u.key).1 with
    | none => simpa [RedisUserConfigStore.advance, hg] using ⟨rfl, rfl, hredis⟩
    | some c => simpa [RedisUserConfigStore.advance, hg] using ⟨rfl, rfl, hredis⟩
  | getMiss u =>
    cases hk : codec.encodeUser u with
    | none => simpa [RedisUserConfigStore.advance, hk] using ⟨rfl, rfl, hredis⟩
    | some k =>
      -- the reply to the `GET` is the same
      have hvalue : redis' k = redis k := hredis u k hk
      have hget : (⟨cache', redis', now'⟩ : RedisUserConfigStore Config).redisGet ok k =
          (⟨cache', redis, now'⟩ : RedisUserConfigStore Config).redisGet ok k := by
        simp only [RedisUserConfigStore.redisGet, hvalue]
      simp only [RedisUserConfigStore.advance, hk, hget]
      split <;> exact ⟨rfl, rfl, rfl, hredis⟩
  | setStart u c =>
    cases hk : codec.encodeUser u with
    | none => simpa [RedisUserConfigStore.advance, hk] using ⟨rfl, rfl, hredis⟩
    | some k =>
      cases hb : codec.encodeConfig c with
      | none => simpa [RedisUserConfigStore.advance, hk, hb] using ⟨rfl, rfl, hredis⟩
      | some b =>
        have hsame : SameConfigs codec (⟨cache', redis, now'⟩ : RedisUserConfigStore Config)
            ⟨cache', redis', now'⟩ := ⟨rfl, rfl, hredis⟩
        cases ok with
        | false => simpa [RedisUserConfigStore.advance, hk, hb] using hsame
        | true => simpa [RedisUserConfigStore.advance, hk, hb] using hsame.redisSet k b
  | getFill u c | setFill u c => exact ⟨rfl, rfl, rfl, hredis⟩
  | getDone u r | setDone u c r => exact ⟨rfl, rfl, rfl, hredis⟩

/-- What happens to two such stores with the same calls leaves them so. -/
theorem SameConfigs.next {σ σ' : RedisUserConfigStore.System Config}
    (h : SameConfigs codec σ.store σ'.store) (hcalls : σ'.calls = σ.calls)
    (e : RedisUserConfigStore.Event Config) :
    SameConfigs codec (RedisUserConfigStore.next codec σ e).store
        (RedisUserConfigStore.next codec σ' e).store ∧
      (RedisUserConfigStore.next codec σ' e).calls = (RedisUserConfigStore.next codec σ e).calls := by
  cases e with
  | getConfig i u | setConfig i u c =>
    simp only [RedisUserConfigStore.next, RedisUserConfigStore.System.begin, hcalls]
    split
    next => exact ⟨h, rfl⟩
    next => exact ⟨h, hcalls⟩
  | step i ok =>
    simp only [RedisUserConfigStore.next, hcalls]
    split
    next => exact ⟨h, hcalls⟩
    next call hcall =>
      obtain ⟨hcall', hstore⟩ := h.advance ok call
      exact ⟨hstore, by rw [hcall']⟩
  | wait d => exact ⟨⟨h.cache, congrArg (· + d) h.now, h.redis⟩, hcalls⟩
  | evict key => exact ⟨⟨congrArg (TimeCache.evict · key) h.cache, h.now, h.redis⟩, hcalls⟩

/-- A step of a call writes nothing but the key of a user. -/
theorem advance_redis_of_not_user {k : Bytes} (hk : ∀ u, codec.encodeUser u ≠ some k) (ok : Bool)
    (call : Call Config) : (RedisUserConfigStore.advance codec s ok call).1.redis k = s.redis k := by
  rcases RedisUserConfigStore.advance_cases codec s ok call with
    ⟨hq, -, -⟩ | ⟨u, c, key, b, -, hkey, -, hadv⟩ | ⟨u, c, -, hadv, -⟩
  · rw [hq.redis]
  · have hne : k ≠ key := fun h => hk u (h ▸ hkey)
    simp [hadv, RedisUserConfigStore.redisSet, hne]
  · rw [hadv]
    rfl

end

section

variable {codec : SessionCodec} {s s' : RedisUserSessionStore}

/-- Two session stores that differ at most in keys of Redis that are not keys of sessions. -/
structure SameSessions (codec : SessionCodec) (s s' : RedisUserSessionStore) : Prop where
  cache : s'.cache = s.cache
  now : s'.now = s.now
  redis : ∀ u k, codec.encodeSession u = some k → s'.redis k = s.redis k

theorem SameSessions.redisSet (h : SameSessions codec s s') (key value : Bytes) :
    SameSessions codec (s.redisSet key value) (s'.redisSet key value) where
  cache := h.cache
  now := h.now
  redis u k hk := by
    by_cases hkey : k = key
    · simp [RedisUserSessionStore.redisSet, hkey]
    · simpa [RedisUserSessionStore.redisSet, hkey] using h.redis u k hk

/-- A step of an operation does the same in both. -/
theorem SameSessions.advance (h : SameSessions codec s s') (ok : Bool) (u : UserSession)
    (op : SessionOp) :
    (RedisUserSessionStore.advance codec s' ok u op).2 =
        (RedisUserSessionStore.advance codec s ok u op).2 ∧
      SameSessions codec (RedisUserSessionStore.advance codec s ok u op).1
        (RedisUserSessionStore.advance codec s' ok u op).1 := by
  obtain ⟨cache, redis, now⟩ := s
  obtain ⟨cache', redis', now'⟩ := s'
  obtain ⟨rfl, rfl, hredis⟩ := h
  cases op with
  | getStart | getHit => exact ⟨rfl, rfl, rfl, hredis⟩
  | getMiss =>
    cases hk : codec.encodeSession u with
    | none => simpa [RedisUserSessionStore.advance, hk] using ⟨rfl, rfl, hredis⟩
    | some k =>
      have hvalue : redis' k = redis k := hredis u k hk
      have hget : (⟨cache', redis', now'⟩ : RedisUserSessionStore).redisGet ok k =
          (⟨cache', redis, now'⟩ : RedisUserSessionStore).redisGet ok k := by
        simp only [RedisUserSessionStore.redisGet, hvalue]
      simp only [RedisUserSessionStore.advance, hk, hget]
      split <;> exact ⟨rfl, rfl, rfl, hredis⟩
  | setStart m =>
    cases hk : codec.encodeSession u with
    | none => simpa [RedisUserSessionStore.advance, hk] using ⟨rfl, rfl, hredis⟩
    | some k =>
      cases hb : codec.encodeMapping m with
      | none => simpa [RedisUserSessionStore.advance, hk, hb] using ⟨rfl, rfl, hredis⟩
      | some b =>
        have hsame : SameSessions codec (⟨cache', redis, now'⟩ : RedisUserSessionStore)
            ⟨cache', redis', now'⟩ := ⟨rfl, rfl, hredis⟩
        cases ok with
        | false => simpa [RedisUserSessionStore.advance, hk, hb] using hsame
        | true => simpa [RedisUserSessionStore.advance, hk, hb] using hsame.redisSet k b
  | getFill m | setFill m => exact ⟨rfl, rfl, rfl, hredis⟩
  | getDone r | setDone r => exact ⟨rfl, rfl, rfl, hredis⟩

/-- A step of an operation writes nothing but the key of its session. -/
theorem advance_redis_of_not_session {u : UserSession} {k : Bytes}
    (hk : codec.encodeSession u ≠ some k) (ok : Bool) (op : SessionOp) :
    (RedisUserSessionStore.advance codec s ok u op).1.redis k = s.redis k := by
  cases op with
  | getMiss =>
    simp only [RedisUserSessionStore.advance]
    split
    next => rfl
    next => split <;> rfl
  | setStart m =>
    simp only [RedisUserSessionStore.advance]
    split
    next key encoded hkey hencoded =>
      split
      next =>
        have hne : k ≠ key := fun h => hk (h ▸ hkey)
        simp [RedisUserSessionStore.redisSet, hne]
      next => rfl
    next => rfl
  | getStart | getHit | getFill m | setFill m | getDone r | setDone r => rfl

end

section

variable {codecs : Codecs}

theorem configClient_confined : (configClient codecs).Confined (keys codecs .configs) where
  writes l m e k hk := by
    have hnot : ∀ u, codecs.configs.encodeUser u ≠ some k := fun u hu => hk ⟨u, hu⟩
    obtain ⟨p, e⟩ := e
    cases e with
    | getConfig i u | setConfig i u c =>
      simp only [configClient, RedisUserConfigStore.next, RedisUserConfigStore.System.begin]
      split <;> rfl
    | step i ok =>
      simp only [configClient, RedisUserConfigStore.next]
      split
      next => rfl
      next call hcall => exact advance_redis_of_not_user hnot ok call
    | wait d | evict key => rfl
  reads l m m' e hm := by
    obtain ⟨p, e⟩ := e
    have hsame : SameConfigs codecs.configs (configSystem l m p).store
        (configSystem l m' p).store := ⟨rfl, rfl, fun u k hk => hm k ⟨u, hk⟩⟩
    obtain ⟨hstore, hcalls⟩ := hsame.next rfl e
    refine ⟨?_, fun k hk => ?_⟩
    · simp only [configClient, hstore.cache, hcalls]
    · obtain ⟨u, hu⟩ := hk
      exact hstore.redis u k hu

theorem sessionClient_confined : (sessionClient codecs).Confined (keys codecs .sessions) where
  writes l m e k hk := by
    obtain ⟨p, e⟩ := e
    cases e with
    | getSession i session | setSession i session mapping | evict session => rfl
    | step i ok =>
      simp only [sessionClient, sessionNext]
      split
      next => rfl
      next session op hop =>
        have hnot : codecs.sessions.encodeSession session ≠ some k := fun hu => hk ⟨session, hu⟩
        exact advance_redis_of_not_session hnot ok op
  reads l m m' e hm := by
    obtain ⟨p, e⟩ := e
    have hsame : SameSessions codecs.sessions (sessionStore l m p) (sessionStore l m' p) :=
      ⟨rfl, rfl, fun u k hk => hm k ⟨u, hk⟩⟩
    cases e with
    | getSession i session | setSession i session mapping | evict session => exact ⟨rfl, hm⟩
    | step i ok =>
      simp only [sessionClient, sessionNext]
      split
      next => exact ⟨rfl, hm⟩
      next session op hop =>
        obtain ⟨hop', hstore⟩ := hsame.advance ok session op
        refine ⟨by rw [hop', hstore.cache], fun k hk => ?_⟩
        obtain ⟨u, hu⟩ := hk
        exact hstore.redis u k hu

theorem pluginClient_confined : pluginClient.Confined (keys codecs .plugins) where
  writes read m e k hk := by
    cases e with
    | get => rfl
    | publish value => exact Function.update_of_ne hk value m
  reads read m m' e hm := by
    cases e with
    | get => exact ⟨hm _ rfl, hm⟩
    | publish value =>
      refine ⟨rfl, fun k hk => ?_⟩
      obtain rfl : k = utf8 runtimePluginConfigKey := hk
      simp only [pluginClient, Function.update_self]

theorem clients_confined (kind : StoreKind) :
    (clients codecs kind).Confined (keys codecs kind) :=
  match kind with
  | .configs => configClient_confined
  | .sessions => sessionClient_confined
  | .plugins => pluginClient_confined

/-- No key of Redis is a key of two kinds. -/
theorem keys_disjoint (kind kind' : StoreKind) (k : Bytes) (h : keys codecs kind k)
    (h' : keys codecs kind' k) : kind = kind' := by
  cases kind with
  | configs =>
    obtain ⟨u, hu⟩ := h
    cases kind' with
    | configs => rfl
    | sessions =>
      obtain ⟨session, hsession⟩ := h'
      exact absurd hsession (codecs.user_ne_session hu)
    | plugins =>
      obtain rfl : k = utf8 runtimePluginConfigKey := h'
      exact absurd hu (codecs.user_ne_plugins u)
  | sessions =>
    obtain ⟨session, hsession⟩ := h
    cases kind' with
    | configs =>
      obtain ⟨u, hu⟩ := h'
      exact absurd hsession (codecs.user_ne_session hu)
    | sessions => rfl
    | plugins =>
      obtain rfl : k = utf8 runtimePluginConfigKey := h'
      exact absurd hsession (codecs.session_ne_plugins session)
  | plugins =>
    obtain rfl : k = utf8 runtimePluginConfigKey := h
    cases kind' with
    | configs =>
      obtain ⟨u, hu⟩ := h'
      exact absurd hu (codecs.user_ne_plugins u)
    | sessions =>
      obtain ⟨session, hsession⟩ := h'
      exact absurd hsession (codecs.session_ne_plugins session)
    | plugins => rfl

/-- The kinds of stores on one Redis do not interfere. -/
theorem stores_independent (codecs : Codecs)
    (σ : System Bytes (Option Bytes) Local) (es : List (Event Own ℕ)) (kind : StoreKind) :
    Alike (keys codecs) kind (run (next (clients codecs)) σ es)
      (run (next (clients codecs)) σ (es.filter (Event.concerns kind))) :=
  noninterference clients_confined keys_disjoint σ es kind

end

/-! ### Across threads, a `GET` sees the last `SET` -/

section

/-- The call number `i` of thread `p`. -/
def callOf (σ : System Bytes (Option Bytes) Local) (p i : ℕ) : Option (Call UserConfig) :=
  ((σ.locals .configs).thread p).calls i

variable (codecs : Codecs) (u : User)

/-- The config that a step of the call writes to Redis for the user, if it does. -/
def setBy (ok : Bool) : Call UserConfig → Option UserConfig
  | .setStart v c =>
    if v = u ∧ ok ∧ (codecs.configs.encodeUser v).isSome ∧
      (codecs.configs.encodeConfig c).isSome then some c else none
  | _ => none

/-- The config that the step writes to Redis for the user, if it does. -/
def written (σ : System Bytes (Option Bytes) Local) : Event Own ℕ → Option UserConfig
  | .own .configs (p, .step i ok) => (callOf σ p i).bind (setBy codecs u ok)
  | _ => none

/-- The config that the run writes last for the user, if any. -/
def lastSet (σ : System Bytes (Option Bytes) Local) (es : List (Event Own ℕ)) : Option UserConfig :=
  (last? (next (clients codecs)) (fun τ e => (written codecs u τ e).isSome) σ es).bind fun last =>
    written codecs u last.1 last.2

/-- What `get_config` returns if it finds nothing in the cache, and its `GET` succeeds. -/
def fetch (redis : Bytes → Option Bytes) : Except ConfigStoreError UserConfig :=
  match codecs.configs.encodeUser u with
  | none => .error .dataEncoding
  | some k => RedisUserConfigStore.decodeReply codecs.configs (.ok (redis k))

variable {codecs u} {σ : System Bytes (Option Bytes) Local}

/-- A key that no other client writes is changed by steps of the client only. -/
theorem memory_next_of_ne (kind : StoreKind) {k : Bytes} (hk : keys codecs kind k)
    {e : Event Own ℕ} (he : ∀ i, e ≠ .own kind i) :
    (next (clients codecs) σ e).memory k = σ.memory k := by
  cases e with
  | own kind' i =>
    refine (clients_confined kind').writes _ _ _ k fun hk' => ?_
    obtain rfl := keys_disjoint kind kind' k hk hk'
    exact he i rfl
  | all d => rfl

theorem fetch_congr {redis redis' : Bytes → Option Bytes}
    (h : ∀ k, codecs.configs.encodeUser u = some k → redis' k = redis k) :
    fetch codecs u redis' = fetch codecs u redis := by
  unfold fetch
  split
  next => rfl
  next k hk => rw [h k hk]

/-- What is read after a step of a call is what the step has written, if it has written anything. -/
theorem fetch_advance (s : RedisUserConfigStore UserConfig) (ok : Bool) (call : Call UserConfig) :
    fetch codecs u (RedisUserConfigStore.advance codecs.configs s ok call).1.redis =
      ((setBy codecs u ok call).map .ok).getD (fetch codecs u s.redis) := by
  cases call with
  | setStart v c =>
    cases hk : codecs.configs.encodeUser v with
    | none => simp [RedisUserConfigStore.advance, setBy, hk]
    | some k =>
      cases hb : codecs.configs.encodeConfig c with
      | none => simp [RedisUserConfigStore.advance, setBy, hk, hb]
      | some b =>
        cases ok with
        | false => simp [RedisUserConfigStore.advance, setBy, hk, hb]
        | true =>
          simp only [RedisUserConfigStore.advance, setBy, hk, hb, if_true, Option.isSome_some,
            and_self, and_true]
          by_cases hvu : v = u
          · subst hvu
            have hdecode := codecs.configs.decode_encode hb
            simp [fetch, hk, RedisUserConfigStore.redisSet, RedisUserConfigStore.decodeReply, hdecode]
          · -- the key of another user is another key
            rw [if_neg hvu]
            refine fetch_congr fun k' hk' => ?_
            have hne : k' ≠ k := fun h =>
              hvu (codecs.configs.encodeUser_inj hk (h ▸ hk'))
            simp [RedisUserConfigStore.redisSet, hne]
  | getMiss v =>
    simp only [RedisUserConfigStore.advance]
    split
    next => rfl
    next => split <;> rfl
  | getHit v =>
    simp only [RedisUserConfigStore.advance]
    split <;> rfl
  | getStart v | getFill v c | setFill v c | getDone v r | setDone v c r => rfl

/-- What is read after one step is what the step has written, if it has written anything. -/
theorem fetch_next (e : Event Own ℕ) :
    fetch codecs u (next (clients codecs) σ e).memory =
      ((written codecs u σ e).map .ok).getD (fetch codecs u σ.memory) := by
  cases e with
  | all d => rfl
  | own kind i =>
    cases kind with
    | sessions | plugins =>
      exact fetch_congr fun k hk => memory_next_of_ne .configs ⟨u, hk⟩ nofun
    | configs =>
      obtain ⟨p, e⟩ := i
      cases e with
      | getConfig i v | setConfig i v c =>
        simp only [next, clients, configClient, RedisUserConfigStore.next,
          RedisUserConfigStore.System.begin, written, Option.map_none, Option.getD_none]
        split <;> rfl
      | step i ok =>
        have hcall : (configSystem (σ.locals .configs) σ.memory p).calls i = callOf σ p i := rfl
        simp only [next, clients, configClient, RedisUserConfigStore.next, hcall, written]
        cases callOf σ p i with
        | none => rfl
        | some call =>
          exact fetch_advance (configSystem (σ.locals .configs) σ.memory p).store ok call
      | wait d | evict key => rfl

/-- What is read after a run is what was written last. -/
theorem fetch_run (es : List (Event Own ℕ)) :
    fetch codecs u (run (next (clients codecs)) σ es).memory =
      ((lastSet codecs u σ es).map .ok).getD (fetch codecs u σ.memory) := by
  induction es using List.reverseRecOn with
  | nil => rfl
  | append_singleton es e ih =>
    rw [run_concat, fetch_next, ih, lastSet, lastSet, last?_concat]
    cases hw : written codecs u (run (next (clients codecs)) σ es) e with
    | none => simp
    | some c => simp [hw]

/-- A call that has its result, unless it has yet to insert it. -/
def Fetched (u : User) (r : Except ConfigStoreError UserConfig) (call : Call UserConfig) : Prop :=
  call = .getDone u r ∨ ∃ c, r = .ok c ∧ call = .getFill u c

/-- A `GET` that succeeds gives the call its result. -/
theorem advance_getMiss (s : RedisUserConfigStore UserConfig) :
    Fetched u (fetch codecs u s.redis)
      (RedisUserConfigStore.advance codecs.configs s true (.getMiss u)).2 := by
  simp only [RedisUserConfigStore.advance, fetch, RedisUserConfigStore.redisGet, if_true]
  cases hk : codecs.configs.encodeUser u with
  | none => exact Or.inl rfl
  | some k =>
    simp only
    cases RedisUserConfigStore.decodeReply codecs.configs (.ok (s.redis k)) with
    | error e => exact Or.inl rfl
    | ok c => exact Or.inr ⟨c, rfl, rfl⟩

theorem Fetched.advance {r : Except ConfigStoreError UserConfig} {call : Call UserConfig}
    (h : Fetched u r call) (s : RedisUserConfigStore UserConfig) (ok : Bool) :
    Fetched u r (RedisUserConfigStore.advance codecs.configs s ok call).2 := by
  obtain rfl | ⟨c, rfl, rfl⟩ := h
  · exact Or.inl rfl
  · exact Or.inl rfl

theorem locals_next_configs (p : ℕ) (e : RedisUserConfigStore.Event UserConfig) :
    (next (clients codecs) σ (.own .configs (p, e))).locals .configs =
      ((configClient codecs).step (σ.locals .configs) σ.memory (p, e)).1 := by
  rw [locals_next_own]
  rfl

/-- The calls of the thread in which the step is taken go on as in a store of their own. -/
theorem callOf_next_configs (p : ℕ) (e : RedisUserConfigStore.Event UserConfig) (i : ℕ) :
    callOf (next (clients codecs) σ (.own .configs (p, e))) p i =
      (RedisUserConfigStore.next codecs.configs
        (configSystem (σ.locals .configs) σ.memory p) e).calls i := by
  simp only [callOf, locals_next_configs, configClient, Function.update_self]

theorem callOf_next_step {p i : ℕ} {call : Call UserConfig} (h : callOf σ p i = some call)
    (ok : Bool) : callOf (next (clients codecs) σ (.own .configs (p, .step i ok))) p i =
      some (RedisUserConfigStore.advance codecs.configs
        (configSystem (σ.locals .configs) σ.memory p).store ok call).2 := by
  rw [callOf_next_configs]
  exact RedisUserConfigStore.next_calls_step _ h ok

/-- A call only moves when it takes a step. -/
theorem callOf_next_of_ne {p i : ℕ} {call : Call UserConfig} (h : callOf σ p i = some call)
    {e : Event Own ℕ} (he : ∀ ok, e ≠ .own .configs (p, .step i ok)) :
    callOf (next (clients codecs) σ e) p i = some call := by
  cases e with
  | all d => exact h
  | own kind j =>
    cases kind with
    | sessions | plugins => simpa [callOf, next] using h
    | configs =>
      obtain ⟨q, e⟩ := j
      by_cases hpq : p = q
      · subst hpq
        rw [callOf_next_configs]
        exact RedisUserConfigStore.next_calls_of_ne _ h fun ok hok => he ok (hok ▸ rfl)
      · simpa only [callOf, locals_next_configs, configClient, Function.update_of_ne hpq] using h

theorem fetched_run {p i : ℕ} {r : Except ConfigStoreError UserConfig}
    (h : ∃ call, callOf σ p i = some call ∧ Fetched u r call) (es : List (Event Own ℕ)) :
    ∃ call, callOf (run (next (clients codecs)) σ es) p i = some call ∧ Fetched u r call := by
  refine run_invariant (I := fun τ => ∃ call, callOf τ p i = some call ∧ Fetched u r call)
    (fun τ e hτ => ?_) h es
  obtain ⟨call, hcall, hr⟩ := hτ
  by_cases he : ∃ ok, e = .own .configs (p, .step i ok)
  · obtain ⟨ok, rfl⟩ := he
    exact ⟨_, callOf_next_step hcall ok, hr.advance _ ok⟩
  · exact ⟨call, callOf_next_of_ne hcall fun ok hok => he ⟨ok, hok⟩, hr⟩

/-- A `get_config` that goes to Redis returns what Redis held at its `GET`. -/
theorem fetched_run_get {p i : ℕ} {u : User} (hmiss : callOf σ p i = some (.getMiss u))
    (es : List (Event Own ℕ)) :
    ∃ call, callOf (run (next (clients codecs)) σ (.own .configs (p, .step i true) :: es)) p i =
        some call ∧ Fetched u (fetch codecs u σ.memory) call := by
  rw [run_cons]
  exact fetched_run ⟨_, callOf_next_step hmiss true, advance_getMiss _⟩ es

/-- A `get_config` that goes to Redis returns what was written last before its `GET`, in whichever
thread, and if nothing was, what Redis held in the beginning. -/
theorem get_returns_lastSet (σ : System Bytes (Option Bytes) Local) (es es' : List (Event Own ℕ))
    {p i : ℕ} {u : User} (hmiss : callOf (run (next (clients codecs)) σ es) p i = some (.getMiss u)) :
    ∃ call, callOf (run (next (clients codecs)) σ
        (es ++ .own .configs (p, .step i true) :: es')) p i = some call ∧
      Fetched u (((lastSet codecs u σ es).map .ok).getD (fetch codecs u σ.memory)) call := by
  rw [run_append, ← fetch_run]
  exact fetched_run_get hmiss es'

/-- A `set_config` whose user and config can be encoded writes the config, if its `SET` succeeds. -/
theorem written_of_setStart {p i : ℕ} {u : User} {c : UserConfig}
    (hu : (codecs.configs.encodeUser u).isSome) (hc : (codecs.configs.encodeConfig c).isSome)
    (h : callOf σ p i = some (.setStart u c)) :
    written codecs u σ (.own .configs (p, .step i true)) = some c := by
  simp only [written, h, Option.bind_some, setBy, hu, hc, and_self, if_true]

/-- Once a config was written, and until another one is, Redis holds it. -/
theorem fetch_of_written {u : User} {c : UserConfig} {es es' : List (Event Own ℕ)} {e : Event Own ℕ}
    (hwritten : written codecs u (run (next (clients codecs)) σ es) e = some c)
    (hlater : Along (next (clients codecs)) (fun τ e => (written codecs u τ e).isSome = false)
      (run (next (clients codecs)) σ (es ++ [e])) es') :
    fetch codecs u (run (next (clients codecs)) σ (es ++ [e] ++ es')).memory = .ok c := by
  have hlast : lastSet codecs u σ (es ++ [e] ++ es') = some c := by
    rw [lastSet, last?_append _ hlater, last?_concat, hwritten]
    exact hwritten
  rw [fetch_run, hlast]
  rfl

/-- Once a `set_config` of any thread has written the config for the user, and until somebody writes another
one for this user, a `get_config` of any thread that goes to Redis returns this config. -/
def ReadByAll (codecs : Codecs) (u : User) (c : UserConfig) : Prop :=
  ∀ (σ : System Bytes (Option Bytes) Local) (es es' es'' : List (Event Own ℕ)) (p i q j : ℕ),
    callOf (run (next (clients codecs)) σ es) p i = some (.setStart u c) →
    Along (next (clients codecs)) (fun τ e => (written codecs u τ e).isSome = false)
      (run (next (clients codecs)) σ (es ++ [.own .configs (p, .step i true)])) es' →
    callOf (run (next (clients codecs)) σ (es ++ [.own .configs (p, .step i true)] ++ es')) q j =
      some (.getMiss u) →
    ∃ call, callOf (run (next (clients codecs)) σ (es ++ [.own .configs (p, .step i true)] ++ es' ++
      .own .configs (q, .step j true) :: es'')) q j = some call ∧ Fetched u (.ok c) call

theorem readByAll {u : User} {c : UserConfig} (hu : (codecs.configs.encodeUser u).isSome)
    (hc : (codecs.configs.encodeConfig c).isSome) : ReadByAll codecs u c := by
  intro σ es es' es'' p i q j hset hlater hmiss
  rw [run_append, ← fetch_of_written (written_of_setStart hu hc hset) hlater]
  exact fetched_run_get hmiss es''

end

/-! ### `rmp_serde` -/

/-- The first byte of a key tells what it is a key of: an array of two, an array of three, or a text. -/
def rmpSerde (parseUrl : String → Option Url) : Codecs where
  configs := userConfigCodec parseUrl
  sessions := sessionCodec
  user_ne_session := by
    intro u session k hu hsession
    obtain ⟨-, hu⟩ := Option.ite_none_right_eq_some.1 hu
    obtain ⟨-, hsession⟩ := Option.ite_none_right_eq_some.1 hsession
    cases hu.trans hsession.symm
  user_ne_plugins := by
    intro u hu
    obtain ⟨-, hu⟩ := Option.ite_none_right_eq_some.1 hu
    cases hu
  session_ne_plugins := by
    intro session hsession
    obtain ⟨-, hsession⟩ := Option.ite_none_right_eq_some.1 hsession
    cases hsession

/-- A config that is decoded from a document whose lengths MessagePack can express is encoded. -/
theorem encodeConfig_of_deserialize {parseUrl : String → Option Url} (hurl : ParsesBack parseUrl)
    {v : Serde.Value} {c : UserConfig} (hv : MessagePack.Writable v)
    (hdocument : UserConfig.deserialize parseUrl v = some c) :
    ((rmpSerde parseUrl).configs.encodeConfig c).isSome := by
  have hconfig : (rmpSerde parseUrl).configs.encodeConfig c = some c.toVec :=
    if_pos (UserConfig.storable_of_deserialize hurl hv hdocument)
  exact Option.isSome_of_eq_some hconfig

/-- **What one thread is configured with, every thread serves**, whatever the encodings, if they have one for
the user and the config; and `rmp_serde` has one for every config that `configure_user` has decoded from a
document. -/
theorem configured_read :
    (∀ (codecs : Codecs) (u : User) (c : UserConfig), (codecs.configs.encodeUser u).isSome →
      (codecs.configs.encodeConfig c).isSome → ReadByAll codecs u c) ∧
    ∀ parseUrl : String → Option Url, ParsesBack parseUrl → ∀ (v : Serde.Value) (c : UserConfig),
      MessagePack.Writable v → UserConfig.deserialize parseUrl v = some c →
      ∀ u : User, Short u.key → ReadByAll (rmpSerde parseUrl) u c := by
  refine ⟨fun codecs u c hu hc => readByAll hu hc, fun parseUrl hurl v c hv hdocument u hu => ?_⟩
  have huser : ((rmpSerde parseUrl).configs.encodeUser u).isSome :=
    Option.isSome_of_eq_some (if_pos hu : _ = some u.toVec)
  exact readByAll huser (encodeConfig_of_deserialize hurl hv hdocument)

/-! ### Two threads -/

/-- The encodings, where no url is ever parsed. -/
def noUrls : Codecs := rmpSerde fun _ => none

/-- Threads that have done nothing yet, on a Redis that holds `noHosts` for `alice`. -/
def idle : System Bytes (Option Bytes) Local where
  locals
    | .configs => ⟨0, fun _ => ⟨TimeCache.empty, fun _ => none⟩⟩
    | .sessions => ⟨0, fun _ => ⟨TimeCache.empty, fun _ => none⟩⟩
    | .plugins => none
  memory := Sample.redis

/-- One thread sets the config of `alice`; another one, in between, reads it. -/
def readAfterSet : List (Event Own ℕ) :=
  [.own .configs (1, .getConfig 0 Sample.alice), .own .configs (1, .step 0 true),
    .own .configs (0, .setConfig 0 Sample.alice Sample.oneHost), .own .configs (0, .step 0 true)]

theorem get_returns_lastSet_oneHost :
    lastSet noUrls Sample.alice idle readAfterSet = some Sample.oneHost ∧
      ∃ call, callOf (run (next (clients noUrls)) idle
          (readAfterSet ++ [.own .configs (1, .step 0 true), .all 5])) 1 0 = some call ∧
        Fetched Sample.alice (((lastSet noUrls Sample.alice idle readAfterSet).map .ok).getD
          (fetch noUrls Sample.alice idle.memory)) call :=
  ⟨by rfl, get_returns_lastSet idle readAfterSet [.all 5] (by rfl)⟩

/-- A document with one virtual host. -/
def oneHostDocument : Serde.Value :=
  Serde.object [("virtual_hosts", Serde.object [("h", Serde.object [("backends", Serde.object [])])])]

theorem configured_read_oneHost :
    ∃ call, callOf (run (next (clients noUrls)) idle
        [.own .configs (0, .setConfig 0 Sample.alice Sample.oneHost), .own .configs (0, .step 0 true),
          .own .configs (1, .getConfig 0 Sample.alice), .own .configs (1, .step 0 true),
          .own .configs (1, .step 0 true), .own .configs (1, .step 0 true)]) 1 0 = some call ∧
      Fetched Sample.alice (.ok Sample.oneHost) call := by
  have hsingle : ∀ {name : String} {v : Serde.Value}, Short name → MessagePack.Writable v →
      MessagePack.Writable (Serde.object [(name, v)]) := fun hname hv =>
    writable_object (length_lt_of_le (show 1 ≤ 7 by decide)) (List.forall_mem_singleton.2 hname)
      (List.forall_mem_singleton.2 hv)
  have hempty : MessagePack.Writable (Serde.object []) :=
    writable_object (length_lt_of_le (show 0 ≤ 7 by decide)) nofun nofun
  have hdocument : MessagePack.Writable oneHostDocument :=
    hsingle (by decide) (hsingle (by decide) (hsingle (by decide) hempty))
  have hread := configured_read.2 (fun _ => none) nofun oneHostDocument Sample.oneHost hdocument (by rfl)
    Sample.alice (by decide)
  exact hread idle [.own .configs (0, .setConfig 0 Sample.alice Sample.oneHost)]
    [.own .configs (1, .getConfig 0 Sample.alice), .own .configs (1, .step 0 true)]
    [.own .configs (1, .step 0 true)] 0 0 1 0 (by rfl) (by decide) (by rfl)

end SharedRedis

end ContextForge
